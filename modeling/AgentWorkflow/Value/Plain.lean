import AgentWorkflow.Value.Datum

/-!
Plain data: the values that a record of a run can hold.

Every value is written down as what it is as a datum: a message and a record as objects that dump
their fields, and all else as it stands.
-/

namespace AgentWorkflow

namespace Value

mutual

/-- Plain data: null, booleans, numbers, texts, lists of plain data, and objects of plain data whose
keys are distinct. -/
def IsPlain : Value → Prop
  | .null | .bool _ | .int _ | .float _ | .str _ => True
  | .list items => AllPlain items
  | .object fields => (Record.keys fields).Nodup ∧ FieldsPlain fields
  | _ => False

/-- A list of plain data. -/
def AllPlain : List Value → Prop
  | [] => True
  | item :: items => IsPlain item ∧ AllPlain items

/-- Fields whose values are plain data. -/
def FieldsPlain : List (String × Value) → Prop
  | [] => True
  | (_, value) :: fields => IsPlain value ∧ FieldsPlain fields

end

mutual

/-- Whether a value is plain data. -/
def decideIsPlain : (v : Value) → Decidable v.IsPlain
  | .null | .bool _ | .int _ | .float _ | .str _ => .isTrue trivial
  | .list items => decideAllPlain items
  | .object fields =>
    let _ := decideFieldsPlain fields
    inferInstanceAs (Decidable ((Record.keys fields).Nodup ∧ FieldsPlain fields))
  | .tuple _ | .set _ | .message _ | .time _ | .uuid _ | .edge _ _ | .foreign _ => .isFalse id

/-- Whether all items of a list are plain data. -/
def decideAllPlain : (items : List Value) → Decidable (AllPlain items)
  | [] => .isTrue trivial
  | item :: items =>
    let _ := decideIsPlain item
    let _ := decideAllPlain items
    inferInstanceAs (Decidable (IsPlain item ∧ AllPlain items))

/-- Whether the values of all fields are plain data. -/
def decideFieldsPlain : (fields : List (String × Value)) → Decidable (FieldsPlain fields)
  | [] => .isTrue trivial
  | (_, value) :: fields =>
    let _ := decideIsPlain value
    let _ := decideFieldsPlain fields
    inferInstanceAs (Decidable (IsPlain value ∧ FieldsPlain fields))

end

instance : DecidablePred IsPlain := decideIsPlain

/-- A text, or null when there is none. -/
def ofText? : Option String → Value
  | some s => .str s
  | none => .null

mutual

/-- What a value is as a datum. -/
def datum : Value → Datum
  | .null => .null
  | .bool b => .bool b
  | .int n => .int n
  | .float x => .float x
  | .str s => .str s
  | .list items => .list (datumItems items)
  | .tuple items => .tuple (datumItems items)
  | .set items => .set (datumItems items)
  | .object fields => .record (datumFields fields)
  | .message ⟨role, content, calls, callId, name, failed⟩ =>
    .dumped <| .record <|
      [("content", datum content), ("additional_kwargs", .dict []),
        ("response_metadata", .dict []), ("type", .str role.word), ("name", .ofText? name),
        ("id", .null)] ++
      (match role with
        | .human => [("example", .bool false)]
        | .ai => [("example", .bool false), ("tool_calls", .list (datumCalls calls)),
            ("invalid_tool_calls", .list []), ("usage_metadata", .null)]
        | .system => []
        | .tool => [("tool_call_id", .ofText? callId), ("artifact", .null),
            ("status", .str (if failed then "error" else "success"))])
  | .time t => .time t
  | .uuid u => .uuid u
  | .edge source target =>
    .dumped (.record [("from_node", .str source), ("to_node", .str target)])
  | .foreign text => .foreign text

/-- The items of a sequence as data. -/
def datumItems : List Value → List Datum
  | [] => []
  | item :: items => datum item :: datumItems items

/-- The fields of an object as data. -/
def datumFields : List (String × Value) → List (String × Datum)
  | [] => []
  | (key, value) :: fields => (key, datum value) :: datumFields fields

/-- The tool calls of a message as data. -/
def datumCalls : List (ToolCallOf Value) → List Datum
  | [] => []
  | ⟨name, args, id⟩ :: calls =>
    .record [("name", .str name), ("args", datum args), ("id", .ofText? id),
      ("type", .str "tool_call")] :: datumCalls calls

end

/-- The value as plain data. Messages and records are written out field by field, times and
identifiers as texts, and a value of an unknown kind as its own text. -/
def plain (v : Value) : Value := v.datum.plain

theorem datumItems_eq_map (items : List Value) : datumItems items = items.map datum := by
  induction items with
  | nil => rfl
  | cons item items ih => rw [datumItems, ih, List.map_cons]

theorem datumFields_eq_map (fields : Record Value) :
    datumFields fields = fields.map fun field => (field.1, field.2.datum) := by
  induction fields with
  | nil => rfl
  | cons field fields ih => rw [datumFields, ih, List.map_cons]

theorem plain_list (items : List Value) : (list items).plain = .list (items.map plain) := by
  rw [plain, datum, Datum.plain, Datum.plainItems_eq_map, datumItems_eq_map, List.map_map]
  rfl

theorem plain_object (fields : Record Value) :
    (object fields).plain =
      .object (Record.ofPairs (fields.map fun field => (field.1, field.2.plain))) := by
  rw [plain, datum, Datum.plain_record, datumFields_eq_map, List.map_map]
  rfl

end Value

end AgentWorkflow
