import AgentWorkflow.Proofs.Config.Members
import AgentWorkflow.Proofs.Decimal.Positive

/-!
# Limits of supervisors

A limit that is left out, null or a number not above zero takes its value from the settings. That is
decided before the limit is read as a number of its type, and then it is too late: the text of a
number is not yet a number, and what is no number is not at most zero. So exactly these two get past
the default, and every other limit that is accepted is above zero.

## Main definitions

* `Field.Defaulted`: a default takes the place of a value
* `Field.EscapesAsWhole`, `Field.EscapesAsNumber`: a value is read as a limit that is not above zero

## Main results

* `Field.one_le_iff`, `Field.zero_lt_iff`: which values are read as limits above zero
* `SupervisorConfig.maxIterations_spec`, `SupervisorConfig.timeoutSeconds_spec`: the limits of a
  configuration that is accepted
-/

namespace AgentWorkflow

namespace Field

variable {value substitute : Value}

/-- A default takes the place of a value: it is null, or a number that is not above zero. -/
def Defaulted (value : Value) : Prop := value = .null ∨ isNonPositive value = true

/-- The text of a whole number that is not above zero. No default takes its place. -/
def EscapesAsWhole (value : Value) : Prop :=
  ∃ s n, value = .str s ∧ Decimal.readWhole s = some n ∧ n ≤ 0

/-- The text of a floating-point number that is not above zero, or no number. No default takes its
place. -/
def EscapesAsNumber (value : Value) : Prop :=
  (∃ s x, value = .str s ∧ Decimal.readPlainFloat s = some x ∧ ¬ 0.0 < x) ∨
    ∃ x, value = .float x ∧ x.isNaN = true

theorem positiveOr_of_defaulted {α : Type} {read : Value → Checked α}
    (defaulted : Defaulted value) : positiveOr substitute read value = read substitute := by
  rcases defaulted with rfl | low
  · rfl
  · cases value with
    | null => rfl
    | _ => exact if_pos low

theorem positiveOr_of_not_defaulted {α : Type} {read : Value → Checked α}
    (kept : ¬ Defaulted value) : positiveOr substitute read value = read value := by
  have high : isNonPositive value = false := Bool.eq_false_iff.mpr fun low => kept (.inr low)
  cases value with
  | null => exact absurd (.inl rfl) kept
  | _ => simp only [positiveOr, high, Bool.false_eq_true, ↓reduceIte]

/-- A limit that is read as a whole number is above zero, unless it is a text that says
otherwise. -/
theorem one_le_iff {n : Int} (kept : ¬ Defaulted value) (read : whole value = .ok n) :
    1 ≤ n ↔ ¬ EscapesAsWhole value := by
  cases value with
  | str s =>
    simp only [whole] at read
    split_ifs at read
    · cases read
    · split at read
      · rename_i found
        cases read
        constructor
        -- no default takes the place of a text, so it is all about the number that it spells
        · rintro pos ⟨_, n', ⟨⟩, again, low⟩
          rw [found] at again
          cases again
          omega
        · intro fine
          by_contra low
          exact fine ⟨s, n, rfl, found, by omega⟩
      · cases read
  | int m =>
    have pos : ¬ m ≤ 0 := fun low => kept (.inr (decide_eq_true low))
    cases read
    exact iff_of_true (by omega) (by rintro ⟨_, _, ⟨⟩, -⟩)
  | bool b =>
    have yes : b = true := by
      cases b with
      | false => exact absurd (.inr rfl) kept
      | true => rfl
    subst yes
    cases read
    exact iff_of_true (by decide) (by rintro ⟨_, _, ⟨⟩, -⟩)
  | float x =>
    refine iff_of_true ?_ (by rintro ⟨_, _, ⟨⟩, -⟩)
    have not_low : ¬ x ≤ 0.0 := fun low => kept (.inr (decide_eq_true low))
    have exact_whole : (Decimal.Binary.ofFloat x).toInt? = some n := by
      simp only [whole] at read
      split at read
      · cases read
      · cases read
      · rename_i found
        split_ifs at read
        · cases read
          exact found
        · cases read
    -- what is not at most zero may also be no number, but that is no whole one either
    rcases Decimal.not_le_zero_iff.mp not_low with above | unreal
    · exact Decimal.Binary.one_le_of_toInt? above exact_whole
    · rw [Decimal.Binary.toInt?_of_isNaN unreal] at exact_whole
      cases exact_whole
  | _ => cases read

/-- A limit that is read as a floating-point number is above zero, unless it is a text that says
otherwise or no number. -/
theorem zero_lt_iff {x : Float} (kept : ¬ Defaulted value) (read : number value = .ok x) :
    0.0 < x ↔ ¬ EscapesAsNumber value := by
  cases value with
  | str s =>
    simp only [number] at read
    split at read
    · rename_i found
      cases read
      constructor
      · rintro above (⟨_, x', ⟨⟩, again, low⟩ | ⟨_, ⟨⟩, -⟩)
        rw [found] at again
        cases again
        exact low above
      · intro fine
        by_contra low
        exact fine (.inl ⟨s, x, rfl, found, low⟩)
    · cases read
  | int m =>
    have pos : ¬ m ≤ 0 := fun low => kept (.inr (decide_eq_true low))
    simp only [number] at read
    split_ifs at read
    · cases read
    · cases read
      exact iff_of_true (Decimal.zero_lt_ofWhole (by omega))
        (by rintro (⟨_, _, ⟨⟩, -⟩ | ⟨_, ⟨⟩, -⟩))
  | bool b =>
    have yes : b = true := by
      cases b with
      | false => exact absurd (.inr rfl) kept
      | true => rfl
    subst yes
    cases read
    exact iff_of_true (by decide) (by rintro (⟨_, _, ⟨⟩, -⟩ | ⟨_, ⟨⟩, -⟩))
  | float y =>
    have not_low : ¬ y ≤ 0.0 := fun low => kept (.inr (decide_eq_true low))
    cases read
    constructor
    · rintro above (⟨_, _, ⟨⟩, -⟩ | ⟨_, ⟨⟩, unreal⟩)
      rw [Decimal.isNaN_of_zero_lt above] at unreal
      cases unreal
    · intro fine
      -- this time the value that is no number is let through, and counts as escaping
      rcases Decimal.not_le_zero_iff.mp not_low with above | unreal
      · exact above
      · exact absurd (.inr ⟨x, rfl, unreal⟩) fine
  | _ => cases read

/-- What a default takes the place of does not get past it. -/
theorem Defaulted.not_escapes (defaulted : Defaulted value) :
    ¬ EscapesAsWhole value ∧ ¬ EscapesAsNumber value := by
  rcases defaulted with rfl | low
  · exact ⟨by rintro ⟨_, _, ⟨⟩, -⟩, by rintro (⟨_, _, ⟨⟩, -⟩ | ⟨_, ⟨⟩, -⟩)⟩
  · refine ⟨?_, ?_⟩
    · rintro ⟨_, _, rfl, -⟩
      cases low
    · rintro (⟨_, _, rfl, -⟩ | ⟨x, rfl, unreal⟩)
      · cases low
      · exact Decimal.not_le_zero_iff.mpr (.inr unreal) (of_decide_eq_true low)

end Field

namespace SupervisorConfig

variable {settings : Settings} {key : String} {document : Stored} {config : SupervisorConfig}
  {fields : Record Value}

/-- What is under the key of a limit, or null. -/
def limitValue (fields : Record Value) (key : String) : Value := (fields.find? key).getD .null

theorem limit_eq_ok_iff {α : Type} {substitute : Value} {read : Value → Checked α} {a : α} :
    limit fields key substitute read = .ok a ↔
      (Field.Defaulted (limitValue fields key) ∧ read substitute = .ok a) ∨
        (¬ Field.Defaulted (limitValue fields key) ∧ read (limitValue fields key) = .ok a) := by
  rw [limit, Checked.under_eq_ok_iff]
  change Field.positiveOr substitute read (limitValue fields key) = .ok a ↔ _
  by_cases defaulted : Field.Defaulted (limitValue fields key)
  · simp [Field.positiveOr_of_defaulted defaulted, defaulted]
  · simp [Field.positiveOr_of_not_defaulted defaulted, defaulted]

/-- The limits are read from the fields of the document. -/
theorem exists_limits_of_parse (parsed : parse settings key document = .ok config) :
    ∃ fields, document.fields (label key) = .ok fields ∧
      limit fields "max_iterations" (.int settings.supervisorMaxIterations) Field.whole =
        .ok config.maxIterations ∧
      limit fields "timeout_seconds" (.float settings.supervisorTimeoutSeconds) Field.number =
        .ok config.timeoutSeconds := by
  obtain ⟨fields, decoded, read⟩ := Stored.parse_eq_ok_iff.mp parsed
  obtain ⟨⟨input, members, maxIterations, seconds⟩, all, rfl⟩ := map_eq_ok_iff.mp read
  obtain ⟨-, others⟩ := Checked.both_eq_ok_iff.mp all
  obtain ⟨-, limits⟩ := Checked.both_eq_ok_iff.mp others
  obtain ⟨iterations, seconds⟩ := Checked.both_eq_ok_iff.mp limits
  exact ⟨fields, decoded, iterations, seconds⟩

/-- How often a supervisor may decide: a number above zero, unless its text says otherwise. What is
not above zero is replaced by the default. -/
theorem maxIterations_spec {n : Int} (default_pos : 1 ≤ settings.supervisorMaxIterations)
    (limited : limit fields key (.int settings.supervisorMaxIterations) Field.whole = .ok n) :
    (1 ≤ n ↔ ¬ Field.EscapesAsWhole (limitValue fields key)) ∧
      (Field.Defaulted (limitValue fields key) → n = settings.supervisorMaxIterations) := by
  rcases limit_eq_ok_iff.mp limited with ⟨defaulted, read⟩ | ⟨kept, read⟩
  · cases read
    exact ⟨iff_of_true default_pos defaulted.not_escapes.1, fun _ => rfl⟩
  · exact ⟨Field.one_le_iff kept read, fun defaulted => absurd defaulted kept⟩

/-- How long a supervisor may take: a number above zero, unless its text says otherwise or it is no
number. What is not above zero is replaced by the default. -/
theorem timeoutSeconds_spec {x : Float} (default_pos : 0.0 < settings.supervisorTimeoutSeconds)
    (limited : limit fields key (.float settings.supervisorTimeoutSeconds) Field.number = .ok x) :
    (0.0 < x ↔ ¬ Field.EscapesAsNumber (limitValue fields key)) ∧
      (Field.Defaulted (limitValue fields key) → x = settings.supervisorTimeoutSeconds) := by
  rcases limit_eq_ok_iff.mp limited with ⟨defaulted, read⟩ | ⟨kept, read⟩
  · cases read
    exact ⟨iff_of_true default_pos defaulted.not_escapes.2, fun _ => rfl⟩
  · exact ⟨Field.zero_lt_iff kept read, fun defaulted => absurd defaulted kept⟩

end SupervisorConfig

/-- A worker may always call its model. -/
theorem WorkerConfig.one_le_effectiveMaxIterations {settings : Settings} (config : WorkerConfig)
    (default_pos : 1 ≤ settings.workerMaxIterations) :
    1 ≤ config.effectiveMaxIterations settings := by
  rw [effectiveMaxIterations]
  split_ifs with own
  · exact own
  · exact default_pos

end AgentWorkflow
