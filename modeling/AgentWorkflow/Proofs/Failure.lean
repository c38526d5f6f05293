import AgentWorkflow.Proofs.Outcome
import Mathlib.Data.List.Forall2

/-!
# How a computation fails

A computation fails when one of its parts does, after those before it have succeeded. So how it
fails is known part by part, like what it gives; and a bound on the failures of all parts is one on
the failures of the whole.

A step that handles failures turns a fault into an error of the library, or leaves it as it is. No
handler makes a fault of anything else.

## Main definitions

* `Act.Fails`: an act fails in a world
* `Act.FailsOnly`: a bound on how an act can fail

## Main results

* `Act.fails_bind_iff`: where a sequence of acts fails
* `Act.fails_describe_iff`, `Failure.causing_eq_fault_iff` and the like: what handlers make of a
  failure
* `mapM_eq_error_iff`, `exists_mapM_iff`, `mapM_eq_ok_iff`: where a list of checks fails, when it
  passes, and with which results
-/

namespace AgentWorkflow

namespace Failure

variable {error : Failure → GraphError} {failure : Failure} {fault : Fault}

/-- A step that handles both errors and faults lets no fault pass. -/
@[simp] theorem causing_eq_fault_iff : failure.causing error = .fault fault ↔ False := by
  cases failure <;> simp [causing, isHandled]

/-- What a step that handles both makes of a failure can be handled only if the failure can be. -/
theorem causing_of_isHandled (handled : (failure.causing error).isHandled = true) :
    failure.causing error = .error (error failure) := by
  cases failure with
  | error => rfl
  | fault => rfl
  | cancelled => cases handled
  | unanswered => cases handled

/-- A step that handles faults lets no fault pass. -/
@[simp] theorem faultCausing_eq_fault_iff : failure.faultCausing error = .fault fault ↔ False := by
  cases failure <;> simp [faultCausing]

/-- A step that handles errors only lets faults pass as they are. -/
@[simp] theorem errorCausing_eq_fault_iff :
    failure.errorCausing error = .fault fault ↔ failure = .fault fault := by
  cases failure <;> simp [errorCausing]

/-- What is made of an issue of the configuration lets faults pass as they are. -/
@[simp] theorem configCausing_eq_fault_iff {issue : ConfigIssue → ConfigIssue} :
    failure.configCausing issue = .fault fault ↔ failure = .fault fault := by
  cases failure with
  | error e => cases e <;> simp [configCausing]
  | _ => simp [configCausing]

end Failure

namespace Act

variable {σ τ α β : Type} {before after : σ} {failure : Failure}

/-- The act fails in one world, and leaves another world. -/
def Fails (act : Act σ α) (before : σ) (failure : Failure) (after : σ) : Prop :=
  act.outcome before = (.error failure, after)

/-- However an act fails, the failure is one of these. -/
structure FailsOnly (act : Act σ α) (allowed : Failure → Prop) : Prop where
  of_fails : ∀ {before failure after}, act.Fails before failure after → allowed failure

@[simp] theorem not_fails_pure {a : α} : ¬ (pure a : Act σ α).Fails before failure after := by
  intro fails
  cases fails

@[simp] theorem fails_throw_iff {thrown : Failure} :
    (throw thrown : Act σ α).Fails before failure after ↔ thrown = failure ∧ before = after := by
  constructor
  · intro fails
    cases fails
    exact ⟨rfl, rfl⟩
  · rintro ⟨rfl, rfl⟩
    rfl

@[simp] theorem fails_fail_iff {error : GraphError} :
    (fail error : Act σ α).Fails before failure after ↔ .error error = failure ∧ before = after :=
  fails_throw_iff

/-- A sequence fails where its first act does, or where the second one does after the first. -/
@[simp] theorem fails_bind_iff {act : Act σ α} {next : α → Act σ β} :
    (act >>= next).Fails before failure after ↔
      act.Fails before failure after ∨
        ∃ a middle, act.Gives before a middle ∧ (next a).Fails middle failure after := by
  simp only [Fails, Gives, outcome_bind]
  rcases act.outcome before with ⟨earlier | a, middle⟩
  · simp
  · constructor
    · exact fun fails => Or.inr ⟨a, middle, rfl, fails⟩
    · rintro (fails | ⟨a', middle', same, fails⟩)
      · cases fails
      · cases same
        exact fails

/-- What is made of a result has no effect on failures. -/
@[simp] theorem fails_map_iff {act : Act σ α} {f : α → β} :
    (f <$> act).Fails before failure after ↔ act.Fails before failure after := by
  rw [← bind_pure_comp, fails_bind_iff]
  simp

/-- What is described is the failure of the act itself. -/
@[simp] theorem fails_describe_iff {act : Act σ α} {description : Failure → Failure} :
    (act.describe description).Fails before failure after ↔
      ∃ cause, act.Fails before cause after ∧ description cause = failure := by
  simp only [Fails, outcome_describe]
  rcases act.outcome before with ⟨cause | a, middle⟩
  · simp only [Prod.mk.injEq, Except.error.injEq]
    constructor
    · rintro ⟨described, same⟩
      exact ⟨cause, ⟨rfl, same⟩, described⟩
    · rintro ⟨_, ⟨rfl, same⟩, described⟩
      exact ⟨described, same⟩
  · simp

@[simp] theorem fails_ofExcept_iff {result : Except Failure α} :
    (ofExcept result : Act σ α).Fails before failure after ↔
      result = .error failure ∧ before = after := by
  cases result <;> simp [ofExcept]

@[simp] theorem fails_ofFault_iff {result : Except Fault α} :
    (ofFault result : Act σ α).Fails before failure after ↔
      ∃ fault, result = .error fault ∧ .fault fault = failure ∧ before = after := by
  cases result <;> simp [ofFault]

/-! ### Bounds on failures -/

namespace FailsOnly

variable {allowed : Failure → Prop} {act : Act σ α}

theorem pure (a : α) : (pure a : Act σ α).FailsOnly allowed where
  of_fails fails := absurd fails not_fails_pure

theorem bind {next : α → Act σ β} (first : act.FailsOnly allowed)
    (rest : ∀ a, (next a).FailsOnly allowed) : (act >>= next).FailsOnly allowed where
  of_fails fails := by
    rcases fails_bind_iff.mp fails with early | ⟨a, _, -, late⟩
    · exact first.of_fails early
    · exact (rest a).of_fails late

theorem fail {error : GraphError} (fine : allowed (.error error)) :
    (fail error : Act σ α).FailsOnly allowed where
  of_fails fails := by
    obtain ⟨rfl, -⟩ := fails_fail_iff.mp fails
    exact fine

/-- Whatever the act fails with, it is described as one of these. -/
theorem describe {description : Failure → Failure} {cause : Failure → Prop}
    (only : act.FailsOnly cause) (fine : ∀ failure, cause failure → allowed (description failure)) :
    (act.describe description).FailsOnly allowed where
  of_fails fails := by
    obtain ⟨failure, failed, rfl⟩ := fails_describe_iff.mp fails
    exact fine failure (only.of_fails failed)

theorem any (act : Act σ α) : act.FailsOnly fun _ => True where
  of_fails _ := trivial

theorem ofExcept {result : Except Failure α}
    (fine : ∀ failure, result = .error failure → allowed failure) :
    (ofExcept result : Act σ α).FailsOnly allowed where
  of_fails fails := fine _ (fails_ofExcept_iff.mp fails).1

end FailsOnly

end Act

/-! ### Lists of checks -/

section Checks

variable {ε ε' α β : Type} {check : α → Except ε β} {failure : ε}

theorem map_eq_error_iff {x : Except ε α} {f : α → β} :
    x.map f = .error failure ↔ x = .error failure := by
  cases x <;> simp [Except.map]

theorem mapError_eq_error_iff {x : Except ε α} {f : ε → ε'} {described : ε'} :
    x.mapError f = .error described ↔ ∃ failure, x = .error failure ∧ f failure = described := by
  cases x with
  | error failure =>
    constructor
    · intro h
      cases h
      exact ⟨failure, rfl, rfl⟩
    · rintro ⟨_, same, rfl⟩
      cases same
      rfl
  | ok a =>
    constructor
    · intro h
      cases h
    · rintro ⟨_, same, -⟩
      cases same

/-- A list of checks depends on nothing but what each item is found to be. -/
theorem mapM_congr_of_mem {other : α → Except ε β} {items : List α}
    (same : ∀ item ∈ items, check item = other item) : items.mapM check = items.mapM other := by
  induction items with
  | nil => rfl
  | cons first items ih =>
    obtain ⟨here, later⟩ := List.forall_mem_cons.mp same
    rw [List.mapM_cons, List.mapM_cons, here, ih later]

/-- A list of checks fails at the first one that does. -/
theorem mapM_eq_error_iff {items : List α} :
    items.mapM check = .error failure ↔
      ∃ earlier item later, items = earlier ++ item :: later ∧
        (∀ other ∈ earlier, ∃ b, check other = .ok b) ∧ check item = .error failure := by
  induction items with
  | nil =>
    rw [List.mapM_nil]
    constructor
    · intro fails
      cases fails
    · rintro ⟨earlier, item, later, split, -⟩
      simp at split
  | cons first items ih =>
    rw [List.mapM_cons, bind_eq_error_iff]
    constructor
    · rintro (fails | ⟨b, passes, rest⟩)
      · exact ⟨[], first, items, rfl, by simp, fails⟩
      · rcases bind_eq_error_iff.mp rest with among | ⟨bs, -, impossible⟩
        · obtain ⟨earlier, item, later, rfl, passed, fails⟩ := ih.mp among
          exact ⟨first :: earlier, item, later, rfl,
            List.forall_mem_cons.mpr ⟨⟨b, passes⟩, passed⟩, fails⟩
        · cases impossible
    · rintro ⟨earlier, item, later, split, passed, fails⟩
      rcases earlier with _ | ⟨_, earlier⟩
      · cases split
        exact Or.inl fails
      · cases split
        rw [List.forall_mem_cons] at passed
        obtain ⟨⟨b, passes⟩, passed⟩ := passed
        refine Or.inr ⟨b, passes, bind_eq_error_iff.mpr (Or.inl ?_)⟩
        exact ih.mpr ⟨earlier, item, later, rfl, passed, fails⟩

/-- A list of checks passes exactly when each of them does. -/
theorem exists_mapM_iff {items : List α} :
    (∃ results, items.mapM check = .ok results) ↔ ∀ item ∈ items, ∃ b, check item = .ok b := by
  induction items with
  | nil => simp [pure, Except.pure]
  | cons first items ih =>
    rw [List.forall_mem_cons, ← ih, List.mapM_cons]
    simp only [bind_eq_ok_iff]
    constructor
    · rintro ⟨_, b, passes, rest, among, -⟩
      exact ⟨⟨b, passes⟩, rest, among⟩
    · rintro ⟨⟨b, passes⟩, rest, among⟩
      exact ⟨b :: rest, b, passes, rest, among, rfl⟩

/-- A list of checks passes with these results exactly when each item does with its own. -/
theorem mapM_eq_ok_iff {items : List α} {results : List β} :
    items.mapM check = .ok results ↔
      List.Forall₂ (fun item b => check item = .ok b) items results := by
  induction items generalizing results with
  | nil =>
    rw [List.mapM_nil, List.forall₂_nil_left_iff]
    constructor
    · intro same
      cases same
      rfl
    · rintro rfl
      rfl
  | cons item items ih =>
    rw [List.mapM_cons, List.forall₂_cons_left_iff]
    simp only [bind_eq_ok_iff, ih]
    constructor
    · rintro ⟨b, passes, rest, among, same⟩
      cases same
      exact ⟨b, rest, passes, among, rfl⟩
    · rintro ⟨b, rest, passes, among, rfl⟩
      exact ⟨b, passes, rest, among, rfl⟩

end Checks

end AgentWorkflow
