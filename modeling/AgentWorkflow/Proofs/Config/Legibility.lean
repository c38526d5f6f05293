import AgentWorkflow.Config.Node
import AgentWorkflow.Proofs.Failure
import AgentWorkflow.Tool.Schema
import Mathlib.Data.List.TakeWhile

/-!
# Documents with whole numbers that are too long

A text is read up to a whole number that has more digits than are read. Such a document is
illegible, and that is no issue of the configuration that it holds: reading it ends in a fault,
whatever it is read for. All other documents that are refused are refused with an issue.

## Main definitions

* `Stored.IsIllegible`: a text in which a whole number that is too long is met
* `Stored.Refuses`: how a document is refused
* `Stored.readText`: how the text of a document is read
* `Stored.Reads`: a reading of a document, which ends in a fault exactly when it is illegible

## Main results

* `Json.parse_of_digits`: digits that are too many are not read
* `Stored.reads_fields`, `Stored.reads_parse`, `Tool.reads_schema`: documents are read so
* `peekMembers_eq_error_iff`: which documents have no members to be looked at
-/

namespace AgentWorkflow

open Decimal Text

/-! ### Digits -/

namespace Json

variable {c : Char} {cs : List Char}

theorem ne_of_digit (digit : (asciiDigit? c).isSome = true) :
    c ≠ 'n' ∧ c ≠ 't' ∧ c ≠ 'f' ∧ c ≠ 'N' ∧ c ≠ 'I' ∧ c ≠ '-' ∧ c ≠ '"' ∧ c ≠ '[' ∧ c ≠ '\x7b' := by
  refine ⟨?_, ?_, ?_, ?_, ?_, ?_, ?_, ?_, ?_⟩ <;> (rintro rfl; revert digit; decide)

theorem isGap_of_digit (digit : (asciiDigit? c).isSome = true) : isGap c = false := by
  rw [isGap]
  simp only [Bool.or_eq_false_iff, beq_eq_false_iff_ne]
  refine ⟨⟨⟨?_, ?_⟩, ?_⟩, ?_⟩ <;> (rintro rfl; revert digit; decide)

theorem plainDigits_of_digits (digits : ∀ c ∈ cs, (asciiDigit? c).isSome = true) :
    plainDigits cs = (cs.filterMap asciiDigit?, []) := by
  rw [plainDigits, List.takeWhile_eq_self_iff.mpr digits, List.dropWhile_eq_nil_iff.mpr digits]

/-- No word begins with a digit. -/
theorem readWord_of_digit (digit : (asciiDigit? c).isSome = true) : readWord (c :: cs) = none := by
  obtain ⟨n, t, f, N, I, minus, -⟩ := ne_of_digit digit
  simp [readWord, dropFront?, n.symm, t.symm, f.symm, N.symm, I.symm, minus.symm]

/-- Digits that are too many are not read as a number. -/
theorem readNumber_of_digits (negative : Bool) (digits : ∀ c ∈ cs, (asciiDigit? c).isSome = true)
    (nonzero : cs.head? ≠ some '0') (long : longestWhole < cs.length) :
    readNumber negative cs = .error .wholeTooLong := by
  have count : (cs.filterMap asciiDigit?).length = cs.length := by
    rw [List.length_filterMap_eq_countP, List.countP_eq_length]
    exact digits
  have some_found : cs.filterMap asciiDigit? ≠ [] :=
    List.ne_nil_of_length_pos (by omega)
  rw [readNumber]
  · rw [plainDigits_of_digits digits]
    split
    · rename_i none_found
      exact absurd (Prod.mk.inj none_found).1 some_found
    · rename_i found rest _ same
      obtain ⟨rfl, rfl⟩ := Prod.mk.inj same
      simp [fractionPart, exponentPart, count, long]
  · rintro rest rfl
    exact nonzero rfl

/-- A text of digits that are too many is not read. -/
theorem parse_of_digits (digits : ∀ c ∈ cs, (asciiDigit? c).isSome = true)
    (nonzero : cs.head? ≠ some '0') (long : longestWhole < cs.length) :
    parse (String.ofList cs) = .error .wholeTooLong := by
  obtain ⟨c, rest, rfl⟩ := List.exists_cons_of_length_pos (Nat.zero_lt_of_lt long)
  have digit : (asciiDigit? c).isSome = true := digits c List.mem_cons_self
  have gapless : skipGaps (c :: rest) = c :: rest :=
    List.dropWhile_cons_of_neg (by simp [isGap_of_digit digit])
  obtain ⟨-, -, -, -, -, minus, quote, bracket, brace⟩ := ne_of_digit digit
  have unread : readValue ((c :: rest).length + 1) (c :: rest) = .error .wholeTooLong := by
    rw [readValue]
    · rw [readWord_of_digit digit]
      exact readNumber_of_digits false digits nonzero long
    · rintro rest ⟨⟩
      exact quote rfl
    · rintro rest ⟨⟩
      exact bracket rfl
    · rintro rest ⟨⟩
      exact brace rfl
    · rintro rest ⟨⟩
      exact minus rfl
  rw [parse, String.toList_ofList, gapless, unread]
  rfl

theorem parse_empty : parse "" = .error .malformed := rfl

/-- Digits that are too many. -/
def figures : List Char := List.replicate 5000 '1'

theorem strip_figures : strip (String.ofList figures) = String.ofList figures := by
  have plain : ∀ c ∈ figures, isBlank c = false := by
    intro c member
    rw [List.eq_of_mem_replicate member]
    decide
  rw [strip, String.toList_ofList, stripChars_eq_self plain]

theorem not_blank_figures : isBlankText (String.ofList figures) = false := by
  rw [isBlankText, String.toList_ofList]
  rfl

theorem parse_figures : parse (String.ofList figures) = .error .wholeTooLong := by
  refine parse_of_digits ?_ nofun ?_
  · intro c member
    rw [List.eq_of_mem_replicate member]
    rfl
  · rw [figures, List.length_replicate]
    decide

end Json

/-! ### Documents -/

namespace Stored

/-- A document is a text in which a whole number that is too long is met. -/
def IsIllegible (document : Stored) : Prop :=
  ∃ s, document = .text s ∧ Json.parse (strip s) = .error .wholeTooLong

/-- How a document is refused: with an issue if it is legible, and else with a fault. -/
inductive Refuses (document : Stored) : Failure → Prop
  | issue {issue : ConfigIssue} (legible : ¬ document.IsIllegible) :
      document.Refuses (.error (.config issue))
  | fault (illegible : document.IsIllegible) : document.Refuses (.fault .badValue)

/-- A reading of a document. It may refuse the document, and it always does if that is illegible. -/
structure Reads {α : Type} (document : Stored) (outcome : Except Failure α) : Prop where
  refuses : ∀ {failure}, outcome = .error failure → document.Refuses failure
  faults : document.IsIllegible → outcome = .error (.fault .badValue)

variable {α β : Type} {document : Stored} {outcome : Except Failure α} {failure : Failure}
  {fault : Fault}

theorem refuses_fault_iff :
    document.Refuses (.fault fault) ↔ fault = .badValue ∧ document.IsIllegible := by
  constructor
  · rintro (_ | illegible)
    exact ⟨rfl, illegible⟩
  · rintro ⟨rfl, illegible⟩
    exact .fault illegible

/-- A document that is refused is illegible, or there is an issue with it. -/
theorem Refuses.cases_on (refuses : document.Refuses failure) :
    failure = .fault .badValue ∧ document.IsIllegible ∨
      ∃ issue, failure = .error (.config issue) ∧ ¬ document.IsIllegible := by
  cases refuses with
  | issue legible => exact Or.inr ⟨_, rfl, legible⟩
  | fault illegible => exact Or.inl ⟨rfl, illegible⟩

namespace Reads

/-- A reading ends in a fault exactly when the document is illegible. -/
theorem eq_fault_iff (reads : document.Reads outcome) :
    outcome = .error (.fault fault) ↔ fault = .badValue ∧ document.IsIllegible := by
  constructor
  · exact fun fails => refuses_fault_iff.mp (reads.refuses fails)
  · rintro ⟨rfl, illegible⟩
    exact reads.faults illegible

theorem legible (reads : document.Reads outcome) {a : α} (read : outcome = .ok a) :
    ¬ document.IsIllegible := fun illegible => by
  cases (reads.faults illegible).symm.trans read

/-- What has been read may be refused with an issue. -/
theorem bind {next : α → Except Failure β} (reads : document.Reads outcome)
    (refuses : ∀ {a failure}, next a = .error failure → ∃ issue, failure = .error (.config issue)) :
    document.Reads (outcome >>= next) where
  refuses fails := by
    rcases bind_eq_error_iff.mp fails with unread | ⟨a, read, refused⟩
    · exact reads.refuses unread
    · obtain ⟨issue, rfl⟩ := refuses refused
      exact .issue (reads.legible read)
  faults illegible := by
    rw [reads.faults illegible]
    rfl

/-- An issue may be told in another way. -/
theorem mapError (reads : document.Reads outcome) (description : ConfigIssue → ConfigIssue) :
    document.Reads (outcome.mapError (Failure.configCausing description)) where
  refuses {failure} fails := by
    cases outcome with
    | ok a => cases fails
    | error cause =>
      cases fails
      rcases (reads.refuses rfl).cases_on with ⟨rfl, illegible⟩ | ⟨issue, rfl, legible⟩
      · exact .fault illegible
      · exact .issue legible
  faults illegible := by
    rw [reads.faults illegible]
    rfl

end Reads

/-- A text that is read as JSON, where it is not blank. -/
def readText (s : String) (blank : α) (malformed : ConfigIssue) (read : Value → Except Failure α) :
    Except Failure α :=
  if strip s == "" then .ok blank
  else
    match Json.parse (strip s) with
    | .error issue => .error (issue.failure malformed)
    | .ok value => read value

theorem reads_text {s : String} {blank : α} {malformed : ConfigIssue}
    {read : Value → Except Failure α}
    (refuses : ∀ value failure, read value = .error failure →
      ∃ issue, failure = .error (.config issue)) :
    (text s).Reads (readText s blank malformed read) := by
  have only : (text s).IsIllegible → Json.parse (strip s) = .error .wholeTooLong := by
    rintro ⟨_, ⟨⟩, long⟩
    exact long
  rw [readText]
  split_ifs with empty
  -- a blank text holds no number, so it cannot be illegible
  · refine ⟨(fun fails => nomatch fails), fun illegible => ?_⟩
    have long := only illegible
    rw [beq_iff_eq.mp empty, Json.parse_empty] at long
    cases long
  cases parsed : Json.parse (strip s) with
  | ok value =>
    have legible : ¬ (text s).IsIllegible := fun illegible => by
      cases parsed.symm.trans (only illegible)
    refine ⟨fun fails => ?_, fun illegible => absurd illegible legible⟩
    obtain ⟨issue, rfl⟩ := refuses _ _ fails
    exact .issue legible
  | error issue =>
    cases issue with
    | wholeTooLong =>
      refine ⟨?_, fun _ => rfl⟩
      rintro _ ⟨⟩
      exact .fault ⟨s, rfl, parsed⟩
    | malformed =>
      have legible : ¬ (text s).IsIllegible := fun illegible => by
        cases parsed.symm.trans (only illegible)
      refine ⟨?_, fun illegible => absurd illegible legible⟩
      rintro _ ⟨⟩
      exact .issue legible

/-- A document that is no text is read as it is. -/
theorem reads_ok {a : α} (no_text : ∀ s, document ≠ .text s) :
    document.Reads (.ok a : Except Failure α) where
  refuses fails := nomatch fails
  faults illegible := by
    obtain ⟨s, rfl, -⟩ := illegible
    exact absurd rfl (no_text s)

/-- The fields that a value holds. -/
def fieldsOf (what : String) : Value → Except Failure (Record Value)
  | .null => .ok []
  | .object fields => .ok fields
  | _ => .error (.error (.config (.notObject what)))

theorem fields_text (s what : String) :
    (text s).fields what = readText s [] (.malformedJson what) (fieldsOf what) := by
  rw [fields, readText]
  cases Json.parse (strip s) with
  | error issue => rfl
  | ok value => cases value <;> rfl

theorem reads_fields (document : Stored) (what : String) :
    document.Reads (document.fields what) := by
  cases document with
  | absent => exact reads_ok nofun
  | object fields => exact reads_ok nofun
  | text s =>
    rw [fields_text]
    refine reads_text fun value failure refused => ?_
    cases value <;> cases refused <;> exact ⟨_, rfl⟩

theorem reads_parse (document : Stored) (what : String) (read : Record Value → Checked α) :
    document.Reads (document.parse what read) := by
  refine (reads_fields document what).bind fun {fields failure} refused => ?_
  cases checked : read fields with
  | ok config =>
    rw [checked] at refused
    cases refused
  | error issues =>
    rw [checked] at refused
    cases refused
    exact ⟨_, rfl⟩

end Stored

/-! ### Schemas of tools -/

namespace Tool

/-- The schema that a value is. -/
def schemaOf (tool : String) : Value → Except Failure (Record Value)
  | .object fields => .ok fields
  | _ => .error (.error (.config (.toolSchemaNotObject tool)))

theorem schema_text (s tool : String) :
    schema (.text s) tool =
      Stored.readText s emptySchema (.toolSchemaMalformed tool) (schemaOf tool) := by
  rw [schema, Stored.readText]
  cases Json.parse (strip s) with
  | error issue => rfl
  | ok value => cases value <;> rfl

theorem reads_schema (document : Stored) (tool : String) :
    document.Reads (schema document tool) := by
  cases document with
  | absent => exact Stored.reads_ok nofun
  | object fields => exact Stored.reads_ok nofun
  | text s =>
    rw [schema_text]
    refine Stored.reads_text fun value failure refused => ?_
    cases value <;> cases refused <;> exact ⟨_, rfl⟩

theorem reads_fieldNames (document : Stored) (tool : String) :
    document.Reads (fieldNames document tool) := by
  refine (reads_schema document tool).bind fun {fields failure} refused => ?_
  rw [propertyNames] at refused
  split at refused
  · cases refused
  · split_ifs at refused
    cases refused
    exact ⟨_, rfl⟩

theorem reads_argumentSchema (document : Stored) (tool : String) :
    document.Reads (argumentSchema document tool) :=
  (reads_schema document tool).bind fun refused => nomatch refused

end Tool

/-! ### Members -/

/-- No members can be looked at in an illegible document, and only there. -/
theorem peekMembers_eq_error_iff {document : Stored} {failure : Failure} :
    peekMembers document = .error failure ↔
      failure = .fault .badValue ∧ document.IsIllegible := by
  have reads := Stored.reads_fields document "supervisor"
  constructor
  · intro fails
    rw [peekMembers] at fails
    cases read : document.fields "supervisor" with
    | ok fields =>
      rw [read] at fails
      cases fails
    | error cause =>
      rw [read] at fails
      rcases (reads.refuses read).cases_on with ⟨rfl, illegible⟩ | ⟨issue, rfl, -⟩
      · cases fails
        exact ⟨rfl, illegible⟩
      · cases fails
  · rintro ⟨rfl, illegible⟩
    rw [peekMembers, reads.faults illegible]

end AgentWorkflow
