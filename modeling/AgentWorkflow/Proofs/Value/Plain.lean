import AgentWorkflow.Proofs.Record
import AgentWorkflow.Value.Plain

/-!
# What is kept of a datum

A datum of any kind becomes plain data, and plain data stays as it is. So making a datum plain a
second time changes nothing.

Nothing moves. A place is a way into a datum: to an item of a sequence, to what stands under a text
in a dictionary, and so on. What stands at a place of a datum, made plain, is what stands at that
place of the plain datum, and there is nothing at other places. A sequence keeps its items in their
order, whatever kind of sequence it is, and a dictionary under texts keeps its keys in theirs.

Only keys that are no texts can get into each other's way, when they are written as the same text.
Of such entries the last one is seen.

## Main definitions

* `Branch`, `Place`: one step into a value, and a way into it
* `Datum.follow?`, `Value.follow?`: what stands at a place

## Main results

* `Datum.isPlain_plain`: a datum becomes plain data
* `Value.plain_eq_self`: plain data stays as it is
* `Datum.follow?_plain`: what stands where
* `Datum.plain_keeps_shape`: all of this
-/

namespace AgentWorkflow

/-- One step into a value. -/
inductive Branch
  | item (index : Nat)
  | field (label : String)
  deriving DecidableEq, Repr, Inhabited

/-- A way into a value. -/
abbrev Place := List Branch

/-! ### Plain data -/

namespace Value

theorem fieldsPlain_iff (fields : Record Value) :
    FieldsPlain fields ↔ ∀ field ∈ fields, field.2.IsPlain := by
  induction fields with
  | nil => simp [FieldsPlain]
  | cons field fields ih => rw [FieldsPlain, ih, List.forall_mem_cons]

/-- What stands in a record of pairs is the value of one of them. -/
theorem fieldsPlain_ofPairs {pairs : List (String × Value)} (fields_plain : FieldsPlain pairs) :
    FieldsPlain (Record.ofPairs pairs) := by
  rw [fieldsPlain_iff] at fields_plain ⊢
  intro ⟨key, value⟩ member
  -- the keys of the record are distinct, so that all of its fields can be found
  have found := Record.find?_of_mem (Record.keys_ofPairs_nodup pairs) member
  exact fields_plain _ (Record.mem_of_find?_ofPairs found)

mutual

/-- Plain data stays as it is. -/
theorem plain_eq_self : ∀ v : Value, v.IsPlain → v.plain = v
  | .null, _ | .bool _, _ | .int _, _ | .float _, _ | .str _, _ => rfl
  | .list items, items_plain => by rw [plain_list, map_plain_eq_self items items_plain]
  | .object fields, ⟨distinct, fields_plain⟩ => by
    -- no value is written over, as the keys are distinct
    rw [plain_object, map_fields_eq_self fields fields_plain, Record.ofPairs_of_nodup distinct]

theorem map_plain_eq_self : ∀ items : List Value, AllPlain items → items.map plain = items
  | [], _ => rfl
  | item :: items, ⟨item_plain, items_plain⟩ => by
    rw [List.map_cons, plain_eq_self item item_plain, map_plain_eq_self items items_plain]

theorem map_fields_eq_self : ∀ fields : List (String × Value), FieldsPlain fields →
    fields.map (fun field => (field.1, field.2.plain)) = fields
  | [], _ => rfl
  | (key, value) :: fields, ⟨value_plain, fields_plain⟩ => by
    rw [List.map_cons, plain_eq_self value value_plain, map_fields_eq_self fields fields_plain]

end

/-- What a step into a value leads to. -/
def branch? : Value → Branch → Option Value
  | .list items, .item index => items[index]?
  | .object fields, .field label => Record.find? fields label
  | _, _ => none

/-- What stands at a place of a value. -/
def follow? (v : Value) (place : Place) : Option Value := place.foldlM branch? v

end Value

namespace Datum

mutual

/-- A datum becomes plain data, whatever it is. -/
theorem isPlain_plain : ∀ d : Datum, d.plain.IsPlain
  | .null | .bool _ | .int _ | .float _ | .str _ | .time _ | .uuid _ | .foreign _ => trivial
  | .list items | .tuple items | .set items => allPlain_plainItems items
  | .dict entries =>
    ⟨Record.keys_ofPairs_nodup _, Value.fieldsPlain_ofPairs (fieldsPlain_plainEntries entries)⟩
  | .dumped dump => isPlain_plain dump

theorem allPlain_plainItems : ∀ items : List Datum, Value.AllPlain (plainItems items)
  | [] => trivial
  | item :: items => ⟨isPlain_plain item, allPlain_plainItems items⟩

theorem fieldsPlain_plainEntries : ∀ entries : List (Key × Datum),
    Value.FieldsPlain (plainEntries entries)
  | [] => trivial
  | (_, item) :: entries => ⟨isPlain_plain item, fieldsPlain_plainEntries entries⟩

end

theorem plain_plain (d : Datum) : d.plain.plain = d.plain :=
  Value.plain_eq_self d.plain d.isPlain_plain

/-! ### Places -/

/-- What a datum holds: of an object that dumps itself, what it dumps in the end. -/
def content : Datum → Datum
  | .dumped dump => dump.content
  | d => d

/-- What a step into a datum leads to. Under a text stands what was written there last. -/
def branch? : Datum → Branch → Option Datum
  | .list items, .item index => items[index]?
  | .tuple items, .item index => items[index]?
  | .set items, .item index => items[index]?
  | .dict entries, .field label =>
    Record.find? (entries.reverse.map fun entry => (entry.1.label, entry.2)) label
  | .dumped dump, branch => dump.branch? branch
  | _, _ => none

/-- What stands at a place of a datum. -/
def follow? (d : Datum) (place : Place) : Option Datum := (place.foldlM branch? d).map content

theorem plain_content (d : Datum) : d.content.plain = d.plain := by
  fun_induction content d with
  | case1 dump ih => exact ih
  | case2 d => rfl

/-- What is written last under a text stays the last when it is made plain. -/
theorem find?_plain_entries (entries : List (Key × Datum)) (label : String) :
    Record.find? (Record.ofPairs (entries.map fun entry => (entry.1.label, entry.2.plain))) label =
      (Record.find? (entries.reverse.map fun entry => (entry.1.label, entry.2)) label).map
        plain := by
  rw [Record.find?_ofPairs, ← List.map_reverse, ← Record.find?_map, List.map_map]
  rfl

/-- A step into plain data leads to what the step into the datum leads to. -/
theorem branch?_plain : ∀ (d : Datum) (branch : Branch),
    d.plain.branch? branch = (d.branch? branch).map plain
  | .list items, .item index | .tuple items, .item index | .set items, .item index => by
    rw [plain, plainItems_eq_map, Value.branch?, branch?, List.getElem?_map]
  | .dict entries, .field label => by
    rw [plain_dict, Value.branch?, branch?, find?_plain_entries]
  | .dumped dump, branch => branch?_plain dump branch
  | .list _, .field _ | .tuple _, .field _ | .set _, .field _ | .dict _, .item _ => rfl
  | .null, _ | .bool _, _ | .int _, _ | .float _, _ | .str _, _ | .time _, _ | .uuid _, _
  | .foreign _, _ => rfl

/-- What stands at a place of plain data is what stands there in the datum, made plain. -/
theorem follow?_plain (d : Datum) (place : Place) :
    d.plain.follow? place = (d.follow? place).map plain := by
  induction place generalizing d with
  | nil =>
    -- an object and its dump become the same plain data
    exact congrArg some d.plain_content.symm
  | cons branch place ih =>
    rw [Value.follow?, follow?, List.foldlM_cons, List.foldlM_cons, branch?_plain]
    cases d.branch? branch with
    | none => rfl
    | some e => exact ih e

/-! ### Shape -/

/-- The items of a sequence, whatever kind of sequence it is. -/
def items? : Datum → Option (List Datum)
  | .list items | .tuple items | .set items => some items
  | _ => none

theorem plain_of_items? {d : Datum} {items : List Datum} (sequence : d.items? = some items) :
    d.plain = .list (items.map plain) := by
  rw [← plainItems_eq_map]
  cases d with
  | list _ | tuple _ | set _ =>
    cases sequence
    rfl
  | _ => cases sequence

/-- A dictionary under texts keeps its keys in their order. -/
theorem plain_record_of_nodup {fields : Record Datum} (distinct : fields.keys.Nodup) :
    (record fields).plain = .object (fields.map fun field => (field.1, field.2.plain)) := by
  have distinct_plain :
      (Record.keys (fields.map fun field => (field.1, field.2.plain))).Nodup := by
    rw [Record.keys, List.map_map]
    exact distinct
  rw [plain_record, Record.ofPairs_of_nodup distinct_plain]

/-- Anything that a state holds becomes plain data, and so do the values of the runtime, which are
made plain as data. Plain data stays as it is, so what has become plain does not change any more.

What stands at a place of a datum is found there afterwards, made plain, and nothing else is found
anywhere. So a sequence, at any depth and of any kind, becomes the list of its items, each made
plain, as many as before and in their order; and a dictionary under texts becomes an object with the
same keys in their order. -/
theorem plain_keeps_shape :
    (∀ d : Datum, d.plain.IsPlain) ∧
    (∀ v : Value, v.IsPlain → v.plain = v) ∧
    (∀ d : Datum, d.plain.plain = d.plain) ∧
    (∀ (d : Datum) (place : Place), d.plain.follow? place = (d.follow? place).map plain) ∧
    (∀ (d e : Datum) (place : Place) (items : List Datum),
      d.follow? place = some e → e.items? = some items →
        d.plain.follow? place = some (.list (items.map plain))) ∧
    ∀ (d : Datum) (place : Place) (fields : Record Datum),
      d.follow? place = some (.record fields) → fields.keys.Nodup →
        d.plain.follow? place =
          some (.object (fields.map fun field => (field.1, field.2.plain))) := by
  refine ⟨isPlain_plain, Value.plain_eq_self, plain_plain, follow?_plain, ?_, ?_⟩
  · intro d e place items found sequence
    rw [follow?_plain, found, Option.map_some, plain_of_items? sequence]
  · intro d place fields found distinct
    rw [follow?_plain, found, Option.map_some, plain_record_of_nodup distinct]

namespace Visit

/-- A message that holds a picture, which dumps itself in turn. -/
def message : Datum :=
  .dumped (.record [("type", .str "human"),
    ("content", .list [.str "hi", .dumped (.record [("sizes", .tuple [.int 3, .null])])])])

/-- A state with a history, a time, and entries under a number and under the text of it. -/
def state : Datum :=
  .record [("history", .tuple [message]),
    ("begun", .time { year := 2024, month := 1, day := 2 }),
    ("marks", .dict
      [(.other "7", .set [.int 1]), (.text "8", .null), (.text "7", .foreign "seen")])]

/-- The message as plain data. -/
def plainMessage : Value :=
  .object [("type", .str "human"),
    ("content", .list [.str "hi", .object [("sizes", .list [.int 3, .null])]])]

/-- The state as plain data. -/
def plainState : Value :=
  .object [("history", .list [plainMessage]), ("begun", .str "2024-01-02T00:00:00"),
    ("marks", .object [("7", .str "seen"), ("8", .null)])]

theorem plain_state : state.plain = plainState := rfl

/-- Where the picture stands. -/
def picture : Place := [.field "history", .item 0, .field "content", .item 1]

end Visit

/-- The history of the visit is a list with one message, and the picture in the message an object
with one key. -/
theorem visit_keeps_shape :
    Visit.plainState.IsPlain ∧ Visit.plainState.plain = Visit.plainState ∧
    Visit.state.follow? [.field "history"] = some (.tuple [Visit.message]) ∧
    Visit.state.plain.follow? [.field "history"] = some (.list [Visit.plainMessage]) ∧
    Visit.state.follow? Visit.picture = some (.record [("sizes", .tuple [.int 3, .null])]) ∧
    Visit.state.plain.follow? Visit.picture =
      some (.object [("sizes", .list [.int 3, .null])]) := by
  obtain ⟨becomes_plain, stays, -, -, sequences, dictionaries⟩ := plain_keeps_shape
  have state_plain : Visit.plainState.IsPlain := Visit.plain_state ▸ becomes_plain Visit.state
  have history : Visit.state.follow? [.field "history"] = some (.tuple [Visit.message]) := rfl
  have picture : Visit.state.follow? Visit.picture =
      some (.record [("sizes", .tuple [.int 3, .null])]) := rfl
  exact ⟨state_plain, stays _ state_plain, history, sequences _ _ _ _ history rfl, picture,
    dictionaries _ _ _ picture (by decide)⟩

end Datum

end AgentWorkflow
