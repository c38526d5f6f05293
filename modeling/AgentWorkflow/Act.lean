import AgentWorkflow.Error

/-!
Computations that work on a world of collaborators and may fail.

Everything that touches a collaborator is an `Act` on a type `σ` of worlds: what the collaborators
remember. Nothing is assumed about `σ`, so what is said about an act holds for every behaviour of
the collaborators.
-/

namespace AgentWorkflow

/-- A computation on a world that may fail. The world is kept when it fails. -/
abbrev Act (σ : Type) := ExceptT Failure (StateM σ)

namespace Act

variable {σ α : Type}

/-- Describes the failure of a computation in another way. -/
def describe (description : Failure → Failure) (act : Act σ α) : Act σ α :=
  ExceptT.mk do
    match ← act.run with
    | .ok a => return .ok a
    | .error failure => return .error (description failure)

/-- The outcome of a plain computation. -/
def ofExcept : Except Failure α → Act σ α
  | .ok a => pure a
  | .error failure => throw failure

/-- A fault as a failure. -/
def ofFault : Except Fault α → Act σ α
  | .ok a => pure a
  | .error fault => throw (.fault fault)

/-- A computation on one of two worlds. -/
def onFirst {τ : Type} (act : Act σ α) : Act (σ × τ) α :=
  ExceptT.mk fun (s, t) =>
    let (outcome, s) := act.run s
    (outcome, (s, t))

/-- A computation on the other one of two worlds. -/
def onSecond {τ : Type} (act : Act τ α) : Act (σ × τ) α :=
  ExceptT.mk fun (s, t) =>
    let (outcome, t) := act.run t
    (outcome, (s, t))

/-- Ends a computation with an error of the library. -/
def fail (error : GraphError) : Act σ α := throw (.error error)

/-- A computation fails with errors and faults only: it is not cancelled, and it always answers. -/
def Settles (act : Act σ α) : Prop :=
  ∀ before failure, ((act.run.run before).run).1 = .error failure → failure.isHandled = true

namespace Settles

variable {β : Type} {act : Act σ α} {failure : Failure}

theorem pure (a : α) : (pure a : Act σ α).Settles := fun _ _ fails => nomatch fails

theorem throw (handled : failure.isHandled = true) : (throw failure : Act σ α).Settles := by
  rintro _ _ ⟨⟩
  exact handled

theorem bind {next : α → Act σ β} (first : act.Settles) (rest : ∀ a, (next a).Settles) :
    (act >>= next).Settles := by
  intro before failure fails
  simp only [ExceptT.run_bind, StateT.run_bind, Id.run_bind] at fails
  rcases came : (act.run.run before).run with ⟨earlier | a, middle⟩
  · rw [came] at fails
    cases fails
    exact first before _ (congrArg Prod.fst came)
  · rw [came] at fails
    exact rest a middle failure fails

end Settles

end Act

end AgentWorkflow
