import AgentWorkflow.Conversation
import AgentWorkflow.Proofs.Failure
import Mathlib.Tactic.SplitIfs

/-!
# The texts of a conversation

The latest text of the model is looked for among the text parts of its messages, the latest message
first. A part of a message may be called a text and be none. Then it cannot be searched for phrases,
and it cannot be told whether it is the marker of a decision.

## Main definitions

* `modelTexts`: the text parts of the messages that come from the model
* `Unsearchable`, `Unmarkable`: conversations whose texts cannot be looked through

## Main results

* `lastModelText_eq`: the latest text is looked for among all of them
* `lastModelText_eq_error_iff`, `isCutOff_lastText_eq_error_iff`: when that ends in a fault
-/

namespace AgentWorkflow

namespace Conversation

variable {skip : Bool} {conversation messages parts : List Value} {fault : Fault}

/-- The text parts of the messages that come from the model, the latest message first. -/
def modelTexts (conversation : List Value) : List Value :=
  (conversation.reverse.filter isFromModel).flatMap textParts

/-- The latest text of the model is no text, and not nothing either. It cannot be searched. -/
def Unsearchable (conversation : List Value) : Prop :=
  ∃ part, (modelTexts conversation).head? = some part ∧ (∀ s, part ≠ .str s) ∧
    part.isTruthy = true

/-- The latest text of the model that is no marker is no text, so it cannot be told whether it is
one. -/
def Unmarkable (conversation : List Value) : Prop :=
  ∃ earlier part later, modelTexts conversation = earlier ++ part :: later ∧
    (∀ other ∈ earlier, ∃ s, other = .str s ∧ startsWithMarker s = true) ∧ ∀ s, part ≠ .str s

/-- Parts are looked through one after another, in whatever messages they stand. -/
theorem firstPart_append (first rest : List Value) :
    firstPart skip (first ++ rest) =
      match firstPart skip first with
      | .ok none => firstPart skip rest
      | found => found := by
  induction first with
  | nil => rfl
  | cons part first ih =>
    cases skip with
    | false => rfl
    | true =>
      cases part with
      | str s =>
        -- a marker hands over to the rest, and any other text is what was looked for
        rw [List.cons_append, firstPart, firstPart]
        simp only [if_true]
        split_ifs
        · exact ih
        · rfl
      | _ => rfl

theorem firstFromModel_eq (messages : List Value) :
    firstFromModel skip messages =
      (firstPart skip ((messages.filter isFromModel).flatMap textParts)).map fun part =>
        part.getD (.str "") := by
  induction messages with
  | nil => rfl
  | cons message messages ih =>
    rw [firstFromModel]
    split_ifs with own
    · rw [List.filter_cons_of_pos own, List.flatMap_cons, firstPart_append]
      cases firstPart skip (textParts message) with
      | error fault => rfl
      | ok part =>
        cases part with
        | none => exact ih
        | some part => rfl
    · rw [List.filter_cons_of_neg own]
      exact ih

/-- The latest text of the model is looked for among all its texts. -/
theorem lastModelText_eq (conversation : List Value) (skip : Bool) :
    lastModelText conversation skip =
      (firstPart skip (modelTexts conversation)).map fun part => part.getD (.str "") :=
  firstFromModel_eq conversation.reverse

/-- Without looking for markers the first text is taken, whatever it is. -/
theorem lastModelText_false (conversation : List Value) :
    lastModelText conversation false = .ok ((modelTexts conversation).head?.getD (.str "")) := by
  rw [lastModelText_eq]
  cases modelTexts conversation <;> rfl

/-- Looking for markers fails at the first part that is no text, if all before it are markers. -/
theorem firstPart_eq_error_iff :
    firstPart true parts = .error fault ↔
      fault = .missingAttribute ∧ ∃ earlier part later, parts = earlier ++ part :: later ∧
        (∀ other ∈ earlier, ∃ s, other = .str s ∧ startsWithMarker s = true) ∧
          ∀ s, part ≠ .str s := by
  induction parts with
  | nil => simp [firstPart]
  | cons part parts ih =>
    cases part with
    | str s =>
      -- a text is not at fault itself, so it is one of the earlier parts, and a marker
      rw [firstPart]
      simp only [if_true]
      split_ifs with marked
      · rw [ih]
        refine and_congr_right fun _ => ?_
        constructor
        · rintro ⟨earlier, part, later, rfl, markers, plain⟩
          exact ⟨.str s :: earlier, part, later, rfl,
            List.forall_mem_cons.mpr ⟨⟨s, rfl, marked⟩, markers⟩, plain⟩
        · rintro ⟨earlier, part, later, split, markers, plain⟩
          rcases earlier with _ | ⟨_, earlier⟩
          · cases split
            exact absurd rfl (plain s)
          · cases split
            exact ⟨earlier, part, later, rfl, (List.forall_mem_cons.mp markers).2, plain⟩
      · constructor
        · intro impossible
          cases impossible
        · rintro ⟨-, earlier, part, later, split, markers, plain⟩
          rcases earlier with _ | ⟨_, earlier⟩
          · cases split
            exact absurd rfl (plain s)
          · cases split
            obtain ⟨s', same, marked'⟩ := (List.forall_mem_cons.mp markers).1
            cases same
            exact absurd marked' marked
    | _ =>
      simp only [firstPart, if_true, Except.error.injEq]
      constructor
      · rintro rfl
        exact ⟨rfl, [], _, parts, rfl, by simp, nofun⟩
      · rintro ⟨rfl, -⟩
        rfl

theorem lastModelText_eq_error_iff :
    lastModelText conversation true = .error fault ↔
      fault = .missingAttribute ∧ Unmarkable conversation := by
  rw [lastModelText_eq, map_eq_error_iff, firstPart_eq_error_iff, Unmarkable]

theorem isCutOff_eq_error_iff {output : Value} :
    isCutOff output = .error fault ↔
      fault = .wrongType ∧ (∀ s, output ≠ .str s) ∧ output.isTruthy = true := by
  rw [isCutOff.eq_def]
  cases output with
  | str s => simp
  | _ =>
    dsimp only
    split_ifs with truthy <;> simp [truthy, @eq_comm _ fault]

/-- The latest text cannot be searched exactly when it is a value of this kind. -/
theorem isCutOff_lastText_eq_error_iff :
    isCutOff ((modelTexts conversation).head?.getD (.str "")) = .error fault ↔
      fault = .wrongType ∧ Unsearchable conversation := by
  rw [isCutOff_eq_error_iff, Unsearchable]
  refine and_congr_right fun _ => ?_
  cases (modelTexts conversation).head? with
  | none => simp
  | some part => simp

theorem not_unsearchable_nil : ¬ Unsearchable [] := by
  rintro ⟨part, impossible, -⟩
  cases impossible

end Conversation

end AgentWorkflow
