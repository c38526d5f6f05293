import AgentWorkflow.Proofs.Outcome

/-!
# Computations that agree

Two checks, or two acts, are compared by what comes of them. They agree if both fail, with failures
that are related, or both succeed, with results that are. Whether the failures have to be the same
ones, and what the results have in common, is left open: a failure that depends on the order of
things is compared with any other one.

Two acts are compared in all worlds, and not only in the same one. An act that agrees with itself
does not look at the world, as far as its outcome goes, and two of these may change places.

## Main definitions

* `Alike`: two outcomes are alike
* `Act.Agrees`: two acts end alike, whatever the worlds
* `Act.IsFixed`, `Act.IsSteady`: the outcome of an act does not depend on the world

## Main results

* `Alike.bind`, `Act.Agrees.bind`: sequences agree when their parts do
* `Act.IsSteady.swap`: acts that do not look at the world may change places
* `Act.gather_agrees_of_perm`: results are gathered in the order of the acts, and nothing else
  depends on that order
-/

namespace AgentWorkflow

/-- Two outcomes are alike: both are failures, and these are related, or both are results, and these
are. -/
inductive Alike {ε ε' α β : Type} (failing : ε → ε' → Prop) (related : α → β → Prop) :
    Except ε α → Except ε' β → Prop
  | error {failure : ε} {failure' : ε'} (failures : failing failure failure') :
      Alike failing related (.error failure) (.error failure')
  | ok {a : α} {b : β} (results : related a b) : Alike failing related (.ok a) (.ok b)

/-- Any failure counts as much as any other. -/
def AnyFailure {ε ε' : Type} (_ : ε) (_ : ε') : Prop := True

namespace Alike

variable {ε ε' δ δ' α β γ α' β' : Type} {failing : ε → ε' → Prop} {failing' : δ → δ' → Prop}
  {related : α → β → Prop} {related' : α → β → Prop} {others : α' → β' → Prop}
  {x : Except ε α} {y : Except ε' β}

theorem refl {failing : ε → ε → Prop} (same : ∀ failure, failing failure failure)
    (x : Except ε α) : Alike failing Eq x x := by
  cases x with
  | error failure => exact .error (same failure)
  | ok a => exact .ok rfl

/-- Checks that follow end alike, too, if they do so on related results. -/
theorem bind {f : α → Except ε α'} {g : β → Except ε' β'} (alike : Alike failing related x y)
    (next : ∀ a b, related a b → Alike failing others (f a) (g b)) :
    Alike failing others (x >>= f) (y >>= g) := by
  cases alike with
  | error failures => exact .error failures
  | ok results => exact next _ _ results

theorem mapError {f : ε → δ} {g : ε' → δ'} (alike : Alike failing related x y)
    (describe : ∀ failure failure', failing failure failure' → failing' (f failure) (g failure')) :
    Alike failing' related (x.mapError f) (y.mapError g) := by
  cases alike with
  | error failures => exact .error (describe _ _ failures)
  | ok results => exact .ok results

theorem mono (alike : Alike failing related x y)
    (weaker : ∀ a b, x = .ok a → related a b → related' a b) : Alike failing related' x y := by
  cases alike with
  | error failures => exact .error failures
  | ok results => exact .ok (weaker _ _ rfl results)

/-- Two checks of which each succeeds if the other does end alike. -/
theorem of_ok (forth : ∀ a, x = .ok a → ∃ b, y = .ok b ∧ related a b)
    (back : ∀ b, y = .ok b → ∃ a, x = .ok a) : Alike AnyFailure related x y := by
  cases x with
  | error failure =>
    cases y with
    | error failure' => exact .error trivial
    | ok b =>
      obtain ⟨a, impossible⟩ := back b rfl
      cases impossible
  | ok a =>
    obtain ⟨b, rfl, results⟩ := forth a rfl
    exact .ok results

theorem error_iff {y : Except ε β} (alike : Alike Eq related x y) (failure : ε) :
    y = .error failure ↔ x = .error failure := by
  cases alike with
  | error failures =>
    cases failures
    constructor <;> intro same <;> cases same <;> rfl
  | ok results => constructor <;> intro same <;> cases same

end Alike

namespace Act

variable {σ α β γ α' β' ι : Type} {failing : Failure → Failure → Prop} {related : α → β → Prop}
  {others : α' → β' → Prop} {act : Act σ α} {act' : Act σ β}

/-- Two acts agree: they end alike, whatever the worlds in which they are done. -/
def Agrees (failing : Failure → Failure → Prop) (related : α → β → Prop) (act : Act σ α)
    (act' : Act σ β) : Prop :=
  ∀ before before', Alike failing related (act.outcome before).1 (act'.outcome before').1

/-- The outcome of an act does not depend on the world. -/
def IsFixed (act : Act σ α) : Prop :=
  ∀ before before', (act.outcome before').1 = (act.outcome before).1

/-- Up to how it fails, the outcome of an act does not depend on the world. -/
abbrev IsSteady (act : Act σ α) : Prop := act.Agrees AnyFailure Eq act

theorem IsFixed.agrees (fixed : act.IsFixed) (same : ∀ failure, failing failure failure) :
    act.Agrees failing Eq act := by
  intro before before'
  rw [fixed before before']
  exact .refl same _

theorem IsFixed.isSteady (fixed : act.IsFixed) : act.IsSteady := fixed.agrees fun _ => trivial

theorem isFixed_pure (a : α) : (pure a : Act σ α).IsFixed := fun _ _ => rfl

theorem isFixed_throw (failure : Failure) : (throw failure : Act σ α).IsFixed := fun _ _ => rfl

theorem isFixed_ofExcept (outcome : Except Failure α) : (ofExcept outcome : Act σ α).IsFixed := by
  cases outcome with
  | error failure => exact isFixed_throw failure
  | ok a => exact isFixed_pure a

namespace Agrees

theorem pure {a : α} {b : β} (results : related a b) :
    (pure a : Act σ α).Agrees failing related (pure b) := fun _ _ => .ok results

theorem throw {failure failure' : Failure} (failures : failing failure failure') :
    (throw failure : Act σ α).Agrees failing related (throw failure' : Act σ β) :=
  fun _ _ => .error failures

theorem ofExcept {x : Except Failure α} {y : Except Failure β} (alike : Alike failing related x y) :
    (ofExcept x : Act σ α).Agrees failing related (ofExcept y) := by
  cases alike with
  | error failures => exact .throw failures
  | ok results => exact .pure results

/-- Sequences of acts agree when their parts do. -/
theorem bind {next : α → Act σ α'} {next' : β → Act σ β'} (first : act.Agrees failing related act')
    (rest : ∀ a b, related a b → (next a).Agrees failing others (next' b)) :
    (act >>= next).Agrees failing others (act' >>= next') := by
  intro before before'
  have alike := first before before'
  rw [outcome_bind, outcome_bind]
  generalize act.outcome before = came at alike ⊢
  generalize act'.outcome before' = came' at alike ⊢
  obtain ⟨x, middle⟩ := came
  obtain ⟨y, middle'⟩ := came'
  cases alike with
  | error failures => exact .error failures
  | ok results => exact rest _ _ results middle middle'

theorem describe {failing' : Failure → Failure → Prop} {description : Failure → Failure}
    (agrees : act.Agrees failing related act')
    (described : ∀ failure failure', failing failure failure' →
      failing' (description failure) (description failure')) :
    (act.describe description).Agrees failing' related (act'.describe description) := by
  intro before before'
  have alike := agrees before before'
  rw [outcome_describe, outcome_describe]
  generalize act.outcome before = came at alike ⊢
  generalize act'.outcome before' = came' at alike ⊢
  obtain ⟨x, middle⟩ := came
  obtain ⟨y, middle'⟩ := came'
  cases alike with
  | error failures => exact .error (described _ _ failures)
  | ok results => exact .ok results

/-- What is known of the results of the one act may be added. -/
theorem mono {related' : α → β → Prop} (agrees : act.Agrees failing related act')
    (weaker : ∀ a b, (∃ before after, act.Gives before a after) → related a b → related' a b) :
    act.Agrees failing related' act' := by
  intro before before'
  refine (agrees before before').mono fun a b came results => weaker a b ?_ results
  exact ⟨before, (act.outcome before).2, Prod.ext came rfl⟩

/-- If one of two acts that agree gives something, then the other one does, in every world. -/
theorem exists_gives (agrees : act.Agrees failing related act') {before after : σ} {a : α}
    (gives : act.Gives before a after) (before' : σ) :
    ∃ b after', act'.Gives before' b after' ∧ related a b := by
  have alike := agrees before before'
  rw [gives] at alike
  rcases came : act'.outcome before' with ⟨y, after'⟩
  rw [came] at alike
  cases alike with
  | ok results => exact ⟨_, after', came, results⟩

/-- If one of two acts that agree fails, then the other one does, in every world. -/
theorem exists_error (agrees : act.Agrees failing related act') {before after : σ}
    {failure : Failure} (fails : act.outcome before = (.error failure, after)) (before' : σ) :
    ∃ failure' after', act'.outcome before' = (.error failure', after') := by
  have alike := agrees before before'
  rw [fails] at alike
  rcases came : act'.outcome before' with ⟨y, after'⟩
  rw [came] at alike
  cases alike with
  | error _ => exact ⟨_, after', rfl⟩

/-- What two acts that agree give is related. -/
theorem of_gives (agrees : act.Agrees failing related act') {before before' after after' : σ}
    {a : α} {b : β} (gives : act.Gives before a after) (gives' : act'.Gives before' b after') :
    related a b := by
  obtain ⟨b', _, again, results⟩ := agrees.exists_gives gives before'
  cases again.symm.trans gives'
  exact results

theorem symm (agrees : act.Agrees AnyFailure related act') :
    act'.Agrees AnyFailure (fun b a => related a b) act := by
  intro before before'
  have alike := agrees before' before
  generalize (act.outcome before').1 = x at alike
  generalize (act'.outcome before).1 = y at alike
  cases alike with
  | error _ => exact .error trivial
  | ok results => exact .ok results

theorem trans {act'' : Act σ γ} {further : β → γ → Prop} {whole : α → γ → Prop}
    (agrees : act.Agrees AnyFailure related act') (agrees' : act'.Agrees AnyFailure further act'')
    (composed : ∀ a b c, related a b → further b c → whole a c) :
    act.Agrees AnyFailure whole act'' := by
  intro before before'
  have first := agrees before before
  have second := agrees' before before'
  generalize (act'.outcome before).1 = y at first second
  generalize (act.outcome before).1 = x at first
  generalize (act''.outcome before').1 = z at second
  cases first with
  | error _ =>
    cases second
    exact .error trivial
  | ok results =>
    cases second with
    | ok results' => exact .ok (composed _ _ _ results results')

end Agrees

/-! ### Acts that do not look at the world -/

namespace IsSteady

theorem pure (a : α) : (pure a : Act σ α).IsSteady := Agrees.pure rfl

theorem throw (failure : Failure) : (throw failure : Act σ α).IsSteady := Agrees.throw trivial

theorem fail (error : GraphError) : (fail error : Act σ α).IsSteady := .throw _

theorem ofExcept (outcome : Except Failure α) : (ofExcept outcome : Act σ α).IsSteady :=
  (isFixed_ofExcept outcome).isSteady

theorem describe (description : Failure → Failure) (steady : act.IsSteady) :
    (act.describe description).IsSteady :=
  Agrees.describe steady fun _ _ _ => trivial

/-- What comes after a steady act need be steady only on what that may give. -/
theorem bind {next : α → Act σ α'} (first : act.IsSteady)
    (rest : ∀ a, (∃ before after, act.Gives before a after) → (next a).IsSteady) :
    (act >>= next).IsSteady := by
  -- the results are the same, and besides it is known that the act may give them
  have known : act.Agrees AnyFailure
      (fun a b => a = b ∧ ∃ before after, act.Gives before a after) act :=
    first.mono fun a b gives same => ⟨same, gives⟩
  refine known.bind fun a _ both => ?_
  obtain ⟨rfl, gives⟩ := both
  exact rest a gives

theorem ite {c : Prop} [Decidable c] {other : Act σ α} (yes : act.IsSteady) (no : other.IsSteady) :
    (if c then act else other).IsSteady := by
  split
  · exact yes
  · exact no

/-- Two acts that do not look at the world may change places. -/
theorem swap {first : Act σ α} {second : Act σ β} {next : α → β → Act σ α'}
    {next' : α → β → Act σ β'} (first_steady : first.IsSteady) (second_steady : second.IsSteady)
    (rest : ∀ a b, (next a b).Agrees AnyFailure others (next' a b)) :
    (first >>= fun a => second >>= fun b => next a b).Agrees AnyFailure others
      (second >>= fun b => first >>= fun a => next' a b) := by
  intro before before'
  -- the one sequence begins with the first act and the other one with the second, so both are told
  -- apart where they come first; what they do where they come second follows from that
  rcases one : first.outcome before with ⟨failure | a, middle⟩ <;>
    rcases two : second.outcome before' with ⟨failure' | b, middle'⟩
  · simp only [outcome_bind, one, two]
    exact .error trivial
  · obtain ⟨_, _, again⟩ := Agrees.exists_error first_steady one middle'
    simp only [outcome_bind, one, two, again]
    exact .error trivial
  · obtain ⟨_, _, again⟩ := Agrees.exists_error second_steady two middle
    simp only [outcome_bind, one, two, again]
    exact .error trivial
  · obtain ⟨_, after, again, rfl⟩ := Agrees.exists_gives second_steady two middle
    obtain ⟨_, after', again', rfl⟩ := Agrees.exists_gives first_steady one middle'
    simp only [outcome_bind, one, two, show second.outcome middle = _ from again,
      show first.outcome middle' = _ from again']
    exact rest a b after after'

end IsSteady

/-! ### Acts one after another -/

theorem gather_isSteady {act : ι → Act σ (Option α)} {items : List ι}
    (steady : ∀ item ∈ items, (act item).IsSteady) : (gather act items).IsSteady := by
  induction items with
  | nil => exact .pure []
  | cons item items ih =>
    obtain ⟨first, rest⟩ := List.forall_mem_cons.mp steady
    exact first.bind fun result _ => (ih rest).bind fun results _ => .pure _

/-- If the acts do not look at the world, then their order tells in nothing but the order of the
results. -/
theorem gather_agrees_of_perm {act : ι → Act σ (Option α)} {items items' : List ι}
    (perm : items.Perm items') (steady : ∀ item ∈ items, (act item).IsSteady) :
    (gather act items).Agrees AnyFailure List.Perm (gather act items') := by
  induction perm with
  | nil => exact .pure .nil
  | cons item _ ih =>
    obtain ⟨first, rest⟩ := List.forall_mem_cons.mp steady
    refine Agrees.bind first fun result _ same => ?_
    subst same
    refine (ih rest).bind fun results results' listed => .pure ?_
    exact listed.append_left _
  | swap first second items =>
    -- the only case in which acts change places
    obtain ⟨second_steady, others⟩ := List.forall_mem_cons.mp steady
    obtain ⟨first_steady, rest⟩ := List.forall_mem_cons.mp others
    simp only [gather, bind_assoc, pure_bind]
    refine second_steady.swap first_steady fun result result' => ?_
    refine Agrees.bind (gather_isSteady rest) fun results _ same => .pure ?_
    subst same
    rw [← List.append_assoc, ← List.append_assoc]
    exact List.perm_append_comm.append_right _
  | trans perm _ ih ih' =>
    have later : ∀ item ∈ _, (act item).IsSteady :=
      fun item member => steady item (perm.mem_iff.mpr member)
    exact (ih steady).trans (ih' later) fun _ _ _ => .trans

end Act

end AgentWorkflow
