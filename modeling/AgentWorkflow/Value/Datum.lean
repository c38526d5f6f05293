import AgentWorkflow.Value.Basic

/-!
What a state may hold besides the values that the runtime reads and makes: dictionaries under keys
of any kind, and objects of classes of their own that dump what they consist of.

`Datum.plain` turns all of it into plain data.
-/

namespace AgentWorkflow

/-- A key of a dictionary. Of a key that is no text, only the text it is written as is seen. -/
inductive Key
  | text (s : String)
  | other (label : String)
  deriving DecidableEq, Repr, Inhabited

/-- The text that a key is written as. Keys that differ may be written alike. -/
def Key.label : Key → String
  | .text s => s
  | .other label => label

/-- Anything that a state holds. What is of several of these kinds is of the first of them. -/
inductive Datum
  | null
  | bool (b : Bool)
  | int (n : Int)
  | float (x : Float)
  | str (s : String)
  | dict (entries : List (Key × Datum))
  | list (items : List Datum)
  | tuple (items : List Datum)
  | set (items : List Datum)
  | time (t : Timestamp)
  | uuid (u : Uuid)
  /-- An object that dumps what it consists of. The dump may be anything, and hold such objects. -/
  | dumped (dump : Datum)
  /-- An object of any other class, of which only a text is seen. -/
  | foreign (text : String)
  deriving Inhabited

namespace Datum

/-- A dictionary under texts. -/
def record (fields : Record Datum) : Datum :=
  .dict (fields.map fun field => (.text field.1, field.2))

/-- A text, or null when there is none. -/
def ofText? : Option String → Datum
  | some s => .str s
  | none => .null

mutual

/-- A datum as plain data. Every sequence becomes a list and every key a text, objects are written
as their dumps, and times, identifiers and objects without a dump as texts. Of entries with the same
text for a key, the first gives the place and the last the value. -/
def plain : Datum → Value
  | .null => .null
  | .bool b => .bool b
  | .int n => .int n
  | .float x => .float x
  | .str s => .str s
  | .dict entries => .object (Record.ofPairs (plainEntries entries))
  | .list items => .list (plainItems items)
  | .tuple items => .list (plainItems items)
  | .set items => .list (plainItems items)
  | .time t => .str t.text
  | .uuid u => .str u.text
  | .dumped dump => plain dump
  | .foreign text => .str text

/-- The items of a sequence as plain data. -/
def plainItems : List Datum → List Value
  | [] => []
  | item :: items => plain item :: plainItems items

/-- The entries of a dictionary as plain data. -/
def plainEntries : List (Key × Datum) → List (String × Value)
  | [] => []
  | (key, item) :: entries => (key.label, plain item) :: plainEntries entries

end

theorem plainItems_eq_map (items : List Datum) : plainItems items = items.map plain := by
  induction items with
  | nil => rfl
  | cons item items ih => rw [plainItems, ih, List.map_cons]

theorem plainEntries_eq_map (entries : List (Key × Datum)) :
    plainEntries entries = entries.map fun entry => (entry.1.label, entry.2.plain) := by
  induction entries with
  | nil => rfl
  | cons entry entries ih => rw [plainEntries, ih, List.map_cons]

theorem plain_dict (entries : List (Key × Datum)) :
    (dict entries).plain =
      .object (Record.ofPairs (entries.map fun entry => (entry.1.label, entry.2.plain))) := by
  rw [plain, plainEntries_eq_map]

theorem plain_record (fields : Record Datum) :
    (record fields).plain =
      .object (Record.ofPairs (fields.map fun field => (field.1, field.2.plain))) := by
  rw [record, plain_dict, List.map_map]
  rfl

end Datum

end AgentWorkflow
