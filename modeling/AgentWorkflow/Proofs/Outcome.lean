import AgentWorkflow.Act

/-!
# What a computation that succeeds has done

A sequence of checks succeeds exactly when each of them does, and what the later ones see is what
the earlier ones gave. These are the facts by which checks and acts are taken apart.
-/

namespace AgentWorkflow

section Checks

variable {ε ε' α β : Type}

/-- A check followed by another succeeds exactly when both do. -/
theorem bind_eq_ok_iff {first : Except ε α} {next : α → Except ε β} {b : β} :
    first >>= next = .ok b ↔ ∃ a, first = .ok a ∧ next a = .ok b := by
  cases first with
  | error failure =>
    constructor
    · intro h
      cases h
    · rintro ⟨a, h, -⟩
      cases h
  | ok a =>
    constructor
    · exact fun h => ⟨a, rfl, h⟩
    · rintro ⟨a', h, rest⟩
      cases h
      exact rest

/-- A check followed by another fails exactly when the first does, or the second after it. -/
theorem bind_eq_error_iff {first : Except ε α} {next : α → Except ε β} {failure : ε} :
    first >>= next = .error failure ↔
      first = .error failure ∨ ∃ a, first = .ok a ∧ next a = .error failure := by
  cases first with
  | error earlier =>
    change Except.error earlier = Except.error failure ↔ _
    constructor
    · intro h
      cases h
      exact Or.inl rfl
    · rintro (h | ⟨a, h, -⟩)
      · cases h
        rfl
      · cases h
  | ok a =>
    constructor
    · exact fun h => Or.inr ⟨a, rfl, h⟩
    · rintro (h | ⟨a', h, rest⟩)
      · cases h
      · cases h
        exact rest

theorem map_eq_ok_iff {x : Except ε α} {f : α → β} {b : β} :
    x.map f = .ok b ↔ ∃ a, x = .ok a ∧ f a = b := by
  cases x <;> simp [Except.map]

theorem mapError_eq_ok_iff {x : Except ε α} {f : ε → ε'} {a : α} :
    x.mapError f = .ok a ↔ x = .ok a := by
  cases x with
  | error failure => constructor <;> intro h <;> cases h
  | ok b =>
    constructor
    · intro h
      cases h
      rfl
    · intro h
      cases h
      rfl

end Checks

namespace Act

variable {σ α β : Type} {before after : σ}

/-- What comes of an act in a world, and the world it leaves. -/
def outcome (act : Act σ α) (before : σ) : Except Failure α × σ := (act.run.run before).run

/-- The act succeeds in one world with a result, and leaves another world. -/
def Gives (act : Act σ α) (before : σ) (a : α) (after : σ) : Prop :=
  act.outcome before = (.ok a, after)

theorem outcome_bind (act : Act σ α) (next : α → Act σ β) (before : σ) :
    (act >>= next).outcome before =
      match act.outcome before with
      | (.ok a, middle) => (next a).outcome middle
      | (.error failure, middle) => (.error failure, middle) := by
  simp only [outcome, ExceptT.run_bind, StateT.run_bind, Id.run_bind]
  rcases (act.run.run before).run with ⟨_ | _, _⟩ <;> rfl

theorem outcome_describe (act : Act σ α) (description : Failure → Failure) (before : σ) :
    (act.describe description).outcome before =
      match act.outcome before with
      | (.ok a, middle) => (.ok a, middle)
      | (.error failure, middle) => (.error (description failure), middle) := by
  simp only [outcome, describe, ExceptT.run_mk, StateT.run_bind, Id.run_bind]
  rcases (act.run.run before).run with ⟨_ | _, _⟩ <;> rfl

/-- To describe a failure in another way changes nothing in the world. -/
theorem world_describe (act : Act σ α) (description : Failure → Failure) (before : σ) :
    ((act.describe description).outcome before).2 = (act.outcome before).2 := by
  rw [outcome_describe]
  rcases act.outcome before with ⟨failure | a, after⟩ <;> rfl

/-- Nothing is done after an act that throws. -/
theorem throw_bind (failure : Failure) (next : α → Act σ β) :
    (throw failure : Act σ α) >>= next = throw failure := rfl

theorem fail_bind (error : GraphError) (next : α → Act σ β) :
    (fail error : Act σ α) >>= next = fail error := throw_bind _ next

/-- What is done after an act may depend on how it failed. -/
theorem run_run_bind (act : Act σ α) (next : Except Failure α → StateM σ β) (before : σ) :
    (act.run >>= next).run before =
      (next (act.outcome before).1).run (act.outcome before).2 := rfl

/-- What is done after an act that is observed may depend on how it failed. -/
theorem outcome_run_bind (act : Act σ α) (next : Except Failure α → Act σ β) (before : σ) :
    (do let result : Except Failure α ← act.run; next result : Act σ β).outcome before =
      (next (act.outcome before).1).outcome (act.outcome before).2 := rfl

theorem outcome_onFirst {τ : Type} (act : Act σ α) (before : σ) (other : τ) :
    (act.onFirst).outcome (before, other) =
      ((act.outcome before).1, (act.outcome before).2, other) := rfl

theorem outcome_onSecond {τ : Type} (act : Act τ α) (other : σ) (before : τ) :
    (act.onSecond).outcome (other, before) =
      ((act.outcome before).1, other, (act.outcome before).2) := rfl

theorem outcome_lift (act : StateM σ α) (before : σ) :
    outcome (ExceptT.lift act) before =
      (.ok (act.run before).run.1, (act.run before).run.2) := rfl

theorem outcome_ofExcept (result : Except Failure α) (before : σ) :
    (ofExcept result).outcome before = (result, before) := by
  cases result <;> rfl

@[simp] theorem gives_pure_iff {a b : α} :
    (pure a : Act σ α).Gives before b after ↔ a = b ∧ before = after := by
  constructor
  · intro h
    cases h
    exact ⟨rfl, rfl⟩
  · rintro ⟨rfl, rfl⟩
    rfl

@[simp] theorem gives_bind_iff {act : Act σ α} {next : α → Act σ β} {b : β} :
    (act >>= next).Gives before b after ↔
      ∃ a middle, act.Gives before a middle ∧ (next a).Gives middle b after := by
  simp only [Gives, outcome_bind]
  rcases act.outcome before with ⟨failure | a, middle⟩
  · simp
  · constructor
    · exact fun h => ⟨a, middle, rfl, h⟩
    · rintro ⟨a', middle', same, rest⟩
      cases same
      exact rest

/-- What is done after an act starts where the act has left the world. -/
theorem outcome_bind_of_gives {act : Act σ α} {next : α → Act σ β} {a : α}
    (gives : act.Gives before a after) :
    (act >>= next).outcome before = (next a).outcome after := by
  rw [outcome_bind, gives]

/-- An act on one of two worlds leaves the other one alone. -/
theorem Gives.onFirst {τ : Type} {act : Act σ α} {a : α} (gives : act.Gives before a after)
    (other : τ) : act.onFirst.Gives (before, other) a (after, other) := by
  rw [Gives, outcome_onFirst, gives]

@[simp] theorem not_gives_throw {failure : Failure} {a : α} :
    ¬ (throw failure : Act σ α).Gives before a after := by
  intro h
  cases h

@[simp] theorem not_gives_fail {error : GraphError} {a : α} :
    ¬ (fail error : Act σ α).Gives before a after := not_gives_throw

@[simp] theorem gives_describe_iff {act : Act σ α} {description : Failure → Failure} {a : α} :
    (act.describe description).Gives before a after ↔ act.Gives before a after := by
  simp only [Gives, outcome_describe]
  rcases act.outcome before with ⟨_ | _, _⟩ <;> simp

@[simp] theorem gives_ofExcept_iff {outcome : Except Failure α} {a : α} :
    (ofExcept outcome : Act σ α).Gives before a after ↔ outcome = .ok a ∧ before = after := by
  cases outcome <;> simp [ofExcept]

@[simp] theorem gives_ofFault_iff {outcome : Except Fault α} {a : α} :
    (ofFault outcome : Act σ α).Gives before a after ↔ outcome = .ok a ∧ before = after := by
  cases outcome <;> simp [ofFault]

/-! ### Acts one after another -/

section Gathering

variable {ι : Type} {act : ι → Act σ (Option α)} {items : List ι} {results : List α}

/-- Does an act for every item, and gathers the results that there are. -/
def gather (act : ι → Act σ (Option α)) : List ι → Act σ (List α)
  | [] => pure []
  | item :: items => do
    let result ← act item
    let results ← gather act items
    return result.toList ++ results

theorem gives_gather_cons_iff {item : ι} :
    (gather act (item :: items)).Gives before results after ↔
      ∃ first middle, (act item).Gives before first middle ∧
        ∃ rest, (gather act items).Gives middle rest after ∧ results = first.toList ++ rest := by
  simp only [gather, gives_bind_iff, gives_pure_iff]
  constructor
  · rintro ⟨first, middle, one, rest, _, others, rfl, rfl⟩
    exact ⟨first, middle, one, rest, others, rfl⟩
  · rintro ⟨first, middle, one, rest, others, rfl⟩
    exact ⟨first, middle, one, rest, _, others, rfl, rfl⟩

/-- Every result came of one of the acts. -/
theorem exists_of_mem_gather (gathered : (gather act items).Gives before results after) {a : α}
    (member : a ∈ results) :
    ∃ item ∈ items, ∃ before after, (act item).Gives before (some a) after := by
  induction items generalizing before results with
  | nil =>
    obtain ⟨rfl, -⟩ := gives_pure_iff.mp gathered
    cases member
  | cons item items ih =>
    obtain ⟨first, middle, one, rest, others, rfl⟩ := gives_gather_cons_iff.mp gathered
    rcases List.mem_append.mp member with here | later
    · rw [Option.mem_toList] at here
      subst here
      exact ⟨item, List.mem_cons_self, _, _, one⟩
    · obtain ⟨item', among, again⟩ := ih others later
      exact ⟨item', List.mem_cons_of_mem _ among, again⟩

/-- Results that carry the keys of their items come in the order of these. -/
theorem map_sublist_of_gather {κ : Type} {key : α → κ} {keyOf : ι → κ}
    (named : ∀ {item a before after}, (act item).Gives before (some a) after → key a = keyOf item)
    (gathered : (gather act items).Gives before results after) :
    (results.map key).Sublist (items.map keyOf) := by
  induction items generalizing before results with
  | nil =>
    obtain ⟨rfl, -⟩ := gives_pure_iff.mp gathered
    exact .slnil
  | cons item items ih =>
    obtain ⟨first, middle, one, rest, others, rfl⟩ := gives_gather_cons_iff.mp gathered
    cases first with
    | none => exact (ih others).cons _
    | some a =>
      rw [Option.toList_some, List.singleton_append, List.map_cons, named one]
      exact (ih others).cons_cons _

end Gathering

end Act

end AgentWorkflow
