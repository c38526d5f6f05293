import AgentWorkflow.Config.Node
import AgentWorkflow.Proofs.Outcome
import AgentWorkflow.Proofs.Record

/-!
# Member lists read strictly and leniently

Fields that are read side by side are all accepted or the whole is not, and a list of texts is
accepted exactly when it is one. So a supervisor configuration that is accepted names the members
that the lenient look at the stored document finds.

## Main results

* `Field.texts_eq_ok_iff`: what is read as a list of texts
* `SupervisorConfig.members_of_parse`: members that are accepted are distinct, and there are some
* `SupervisorConfig.peekMembers_of_parse`: both ways of reading members agree on what is accepted
-/

namespace AgentWorkflow

namespace Checked

variable {α β : Type}

theorem both_eq_ok_iff {x : Checked α} {y : Checked β} {a : α} {b : β} :
    both x y = .ok (a, b) ↔ x = .ok a ∧ y = .ok b := by
  cases x <;> cases y <;> simp [both]

theorem under_eq_ok_iff {part : PathPart} {x : Checked α} {a : α} :
    under part x = .ok a ↔ x = .ok a := by
  cases x <;> simp [under]

/-- Every item is read, or none. -/
theorem all_eq_ok_iff {checks : List (Checked α)} {items : List α} :
    all checks = .ok items ↔ checks = items.map .ok := by
  induction checks generalizing items with
  | nil =>
    rw [all]
    constructor
    · intro h
      cases h
      rfl
    · intro h
      rw [List.map_eq_nil_iff.mp h.symm]
  | cons first rest ih =>
    rw [all]
    constructor
    · intro h
      split at h
      · rename_i a as read
        cases h
        obtain ⟨rfl, rest_ok⟩ := both_eq_ok_iff.mp read
        rw [ih.mp rest_ok, List.map_cons]
      · cases h
    · intro h
      obtain ⟨a, as, rfl, rfl, rest_ok⟩ := List.map_eq_cons_iff.mp h.symm
      rw [both_eq_ok_iff.mpr ⟨rfl, ih.mpr rest_ok.symm⟩]

end Checked

namespace Field

theorem text_eq_ok_iff {v : Value} {s : String} : text v = .ok s ↔ v = .str s := by
  cases v <;> simp [text, Checked.problem]

/-- Items are read one by one, each at its place. -/
private theorem texts_at_eq_ok_iff {items : List Value} {members : List String} {place : Nat} :
    ((items.zipIdx place).map fun (item, index) => (text item).under (.index index)) =
        members.map .ok ↔ items = members.map .str := by
  induction items generalizing members place with
  | nil =>
    rw [List.zipIdx_nil, List.map_nil, eq_comm, List.map_eq_nil_iff, eq_comm (a := []),
      List.map_eq_nil_iff]
  | cons item items ih =>
    cases members with
    | nil => simp
    | cons member members =>
      simp only [List.zipIdx_cons, List.map_cons, List.cons.injEq, ih, Checked.under_eq_ok_iff,
        text_eq_ok_iff]

/-- A list of texts is a list that holds nothing else. -/
theorem texts_eq_ok_iff {v : Value} {members : List String} :
    texts v = .ok members ↔ v = .list (members.map .str) := by
  cases v with
  | list items =>
    rw [texts, Checked.all_eq_ok_iff, texts_at_eq_ok_iff, Value.list.injEq]
  | _ => simp [texts, Checked.problem]

theorem required_eq_ok_iff {α : Type} {fields : Record Value} {key : String}
    {read : Value → Checked α} {a : α} :
    required fields key read = .ok a ↔
      ∃ value, fields.find? key = some value ∧ read value = .ok a := by
  rw [required]
  cases fields.find? key with
  | none => simp
  | some value => simp [Checked.under_eq_ok_iff]

end Field

theorem allTexts?_map_str (texts : List String) : allTexts? (texts.map .str) = some texts := by
  rw [allTexts?, List.mapM_map]
  induction texts with
  | nil => rfl
  | cons s texts ih =>
    rw [List.mapM_cons, ih]
    rfl

/-- Whether a document can be read does not depend on what it is called in errors. -/
theorem Stored.fields_of_eq_ok {document : Stored} {what : String} {fields : Record Value}
    (h : document.fields what = .ok fields) (other : String) :
    document.fields other = .ok fields := by
  cases document with
  | absent => exact h
  | object _ => exact h
  | text s =>
    simp only [Stored.fields] at h ⊢
    split_ifs at h ⊢
    · exact h
    · split at h
      · cases h
      · exact h
      · exact h
      · cases h

theorem Stored.parse_eq_ok_iff {α : Type} {document : Stored} {what : String}
    {read : Record Value → Checked α} {config : α} :
    document.parse what read = .ok config ↔
      ∃ fields, document.fields what = .ok fields ∧ read fields = .ok config := by
  rw [Stored.parse, bind_eq_ok_iff]
  refine exists_congr fun fields => and_congr_right fun _ => ?_
  cases read fields <;> simp

namespace SupervisorConfig

/-- The members that are read are a list of texts in the document, and none breaks a rule. -/
theorem readMembers_eq_ok_iff {value : Value} {members : List String} :
    readMembers value = .ok members ↔
      members ≠ [] ∧ value = .list (members.map .str) ∧ memberIssue? [] members = none := by
  constructor
  · intro h
    rw [readMembers] at h
    split_ifs at h with empty
    · cases h
    · split at h
      · cases h
      · rename_i listed read
        rw [Field.texts_eq_ok_iff] at read
        subst read
        split at h
        · cases h
        · rename_i fine
          cases h
          refine ⟨?_, rfl, fine⟩
          rintro rfl
          exact empty rfl
  · rintro ⟨nonempty, rfl, fine⟩
    have truthy : (Value.list (members.map .str)).isTruthy = true := by
      simpa [Value.isTruthy] using nonempty
    rw [readMembers, truthy, Field.texts_eq_ok_iff.mpr rfl]
    simp only [fine, Bool.not_true, Bool.false_eq_true, ↓reduceIte]

theorem members_of_read {settings : Settings} {fields : Record Value} {config : SupervisorConfig}
    (h : read settings fields = .ok config) :
    Field.required fields "members" readMembers = .ok config.members := by
  obtain ⟨⟨input, members, maxIterations, seconds⟩, all, rfl⟩ := map_eq_ok_iff.mp h
  exact (Checked.both_eq_ok_iff.mp (Checked.both_eq_ok_iff.mp all).2).1

/-- Nothing is wrong with members that are distinct, not blank and not seen before. -/
theorem memberIssue?_eq_none_iff {seen members : List String} :
    memberIssue? seen members = none ↔
      members.Nodup ∧ ∀ member ∈ members, Text.isBlankText member = false ∧ member ∉ seen := by
  induction members generalizing seen with
  | nil => simp [memberIssue?]
  | cons member members ih =>
    rw [memberIssue?, List.nodup_cons, List.forall_mem_cons]
    split_ifs with blank again
    · simp [blank]
    · simp [List.contains_iff_mem.mp again]
    · rw [ih]
      have fresh : member ∉ seen := fun listed => again (List.contains_iff_mem.mpr listed)
      simp only [List.mem_cons, not_or]
      constructor
      · rintro ⟨nodup, fine⟩
        exact ⟨⟨fun later => (fine member later).2.1 rfl, nodup⟩, ⟨by simpa using blank, fresh⟩,
          fun other later => ⟨(fine other later).1, (fine other later).2.2⟩⟩
      · rintro ⟨⟨once, nodup⟩, -, fine⟩
        refine ⟨nodup, fun other later => ⟨(fine other later).1, ?_, (fine other later).2⟩⟩
        rintro rfl
        exact once later

/-- A configuration that is accepted has members, and none of them twice. -/
theorem members_of_parse {settings : Settings} {key : String} {document : Stored}
    {config : SupervisorConfig} (h : parse settings key document = .ok config) :
    config.members ≠ [] ∧ config.members.Nodup := by
  obtain ⟨fields, -, read⟩ := Stored.parse_eq_ok_iff.mp h
  obtain ⟨value, -, members⟩ := Field.required_eq_ok_iff.mp (members_of_read read)
  obtain ⟨nonempty, -, fine⟩ := readMembers_eq_ok_iff.mp members
  exact ⟨nonempty, (memberIssue?_eq_none_iff.mp fine).1⟩

/-- The members of a configuration that is accepted are those found by looking leniently. -/
theorem peekMembers_of_parse {settings : Settings} {key : String} {document : Stored}
    {config : SupervisorConfig} (h : parse settings key document = .ok config) :
    peekMembers document = .ok (some config.members) := by
  obtain ⟨fields, decoded, read⟩ := Stored.parse_eq_ok_iff.mp h
  obtain ⟨value, found, members⟩ := Field.required_eq_ok_iff.mp (members_of_read read)
  obtain ⟨-, rfl, -⟩ := readMembers_eq_ok_iff.mp members
  rw [peekMembers, Stored.fields_of_eq_ok decoded]
  simp only [listedMembers?, found]
  rw [allTexts?_map_str]

end SupervisorConfig

end AgentWorkflow
