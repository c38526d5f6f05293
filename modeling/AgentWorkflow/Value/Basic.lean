import AgentWorkflow.Timestamp
import AgentWorkflow.Uuid

/-!
The values that a workflow state holds: plain data, chat messages and a few records.

Objects are ordered. Writing a key that is present keeps its place and replaces its value, so a
list of pairs read with repeated keys gives each key its first place and its last value.
-/

namespace AgentWorkflow

/-- Who speaks in a chat message. -/
inductive Role
  | human
  | ai
  | system
  | tool
  deriving DecidableEq, Repr, Inhabited

/-- The word for a role in written messages. -/
def Role.word : Role → String
  | .human => "human"
  | .ai => "ai"
  | .system => "system"
  | .tool => "tool"

/-- A tool that a message asks to be called; `α` is the type of its arguments. -/
structure ToolCallOf (α : Type) where
  name : String
  args : α
  id : Option String := none
  deriving Inhabited

/-- A chat message; `α` is the type of its content and of the arguments of its tool calls. -/
structure MessageOf (α : Type) where
  role : Role
  content : α
  calls : List (ToolCallOf α) := []
  /-- The call that a tool message answers. -/
  callId : Option String := none
  name : Option String := none
  /-- Whether a tool message reports a failure. -/
  failed : Bool := false
  deriving Inhabited

/-- A dynamic value. -/
inductive Value
  | null
  | bool (b : Bool)
  | int (n : Int)
  | float (x : Float)
  | str (s : String)
  | list (items : List Value)
  | tuple (items : List Value)
  | set (items : List Value)
  | object (fields : List (String × Value))
  | message (m : MessageOf Value)
  | time (t : Timestamp)
  | uuid (u : Uuid)
  /-- The record of an edge of a graph. -/
  | edge (source target : String)
  /-- A value of a kind that is not known here, of which only a text is seen. -/
  | foreign (text : String)
  deriving Inhabited

/-- A chat message. -/
abbrev Message := MessageOf Value

/-- A tool call of a chat message. -/
abbrev ToolCall := ToolCallOf Value

/-- An ordered record: keys with their values. -/
abbrev Record (α : Type) := List (String × α)

namespace Record

variable {α : Type}

/-- The value under a key. -/
def find? (r : Record α) (key : String) : Option α := r.lookup key

/-- Whether a key is present. -/
def has (r : Record α) (key : String) : Bool := (r.find? key).isSome

/-- The keys in order. -/
def keys (r : Record α) : List String := r.map Prod.fst

/-- Writes a key: in its place when it is present, and at the end otherwise. -/
def put : Record α → String → α → Record α
  | [], key, value => [(key, value)]
  | (k, v) :: rest, key, value =>
    if k == key then (k, value) :: rest else (k, v) :: put rest key value

/-- The record without a key. -/
def remove (r : Record α) (key : String) : Record α := r.filter fun pair => pair.1 != key

/-- The record of a list of pairs in which keys may repeat. -/
def ofPairs (pairs : List (String × α)) : Record α :=
  pairs.foldl (fun r pair => r.put pair.1 pair.2) []

@[simp] theorem find?_nil (key : String) : find? ([] : Record α) key = none := rfl

theorem find?_cons (k : String) (v : α) (r : Record α) (key : String) :
    find? ((k, v) :: r) key = if key == k then some v else r.find? key := by
  simp only [find?, List.lookup_cons]
  cases key == k <;> rfl

@[simp] theorem find?_put_self (r : Record α) (key : String) (value : α) :
    (r.put key value).find? key = some value := by
  induction r with
  | nil => simp [put, find?_cons]
  | cons pair r ih =>
    obtain ⟨k, v⟩ := pair
    by_cases same : k = key
    · subst same
      simp [put, find?_cons]
    · have other : (key == k) = false := by simpa using fun h => same h.symm
      simp [put, find?_cons, same, other, ih]

theorem find?_put_of_ne (r : Record α) {key other : String} (value : α) (ne : other ≠ key) :
    (r.put key value).find? other = r.find? other := by
  induction r with
  | nil => simp [put, find?_cons, ne]
  | cons pair r ih =>
    obtain ⟨k, v⟩ := pair
    by_cases same : k = key
    · subst same
      simp [put, find?_cons, ne]
    · by_cases here : other = k
      · subst here
        simp [put, find?_cons, same]
      · simp [put, find?_cons, same, here, ih]

theorem mem_keys_put {r : Record α} {key other : String} {value : α} :
    other ∈ (r.put key value).keys ↔ other = key ∨ other ∈ r.keys := by
  induction r with
  | nil => simp [put, keys]
  | cons pair r ih =>
    obtain ⟨k, v⟩ := pair
    by_cases same : k = key
    · subst same
      simp [put, keys]
    · have ih' := ih
      simp only [keys] at ih' ⊢
      simp only [put, beq_iff_eq, same, ↓reduceIte, List.map_cons, List.mem_cons, ih']
      constructor
      · rintro (h | h | h) <;> simp [h]
      · rintro (h | h | h) <;> simp [h]

@[simp] theorem find?_remove_self (r : Record α) (key : String) :
    (r.remove key).find? key = none := by
  induction r with
  | nil => rfl
  | cons pair r ih =>
    obtain ⟨k, v⟩ := pair
    by_cases same : k = key
    · subst same
      simpa [remove] using ih
    · have other : (key == k) = false := by simpa using fun h => same h.symm
      simpa [remove, same, find?_cons, other] using ih

theorem find?_remove_of_ne (r : Record α) {key other : String} (ne : other ≠ key) :
    (r.remove key).find? other = r.find? other := by
  induction r with
  | nil => rfl
  | cons pair r ih =>
    obtain ⟨k, v⟩ := pair
    by_cases same : k = key
    · subst same
      simpa [remove, find?_cons, ne] using ih
    · by_cases here : other = k
      · subst here
        simp [remove, find?_cons, same]
      · simpa [remove, find?_cons, same, here] using ih

end Record

namespace Value

/-- A text as a value. -/
abbrev text (s : String) : Value := .str s

/-- The value under a key of an object. -/
def get? (v : Value) (key : String) : Option Value :=
  match v with
  | .object fields => Record.find? fields key
  | _ => none

/-- The text of a value that is a text. -/
def asText? : Value → Option String
  | .str s => some s
  | _ => none

/-- The fields of a value that is an object. -/
def asObject? : Value → Option (Record Value)
  | .object fields => some fields
  | _ => none

/-- The items of a value that is a list. -/
def asList? : Value → Option (List Value)
  | .list items => some items
  | _ => none

/-- Whether a value counts as something: not null, false, zero, or empty. -/
def isTruthy : Value → Bool
  | .null => false
  | .bool b => b
  | .int n => n != 0
  | .float x => x != 0.0
  | .str s => s != ""
  | .list items | .tuple items | .set items => !items.isEmpty
  | .object fields => !fields.isEmpty
  | _ => true

end Value

end AgentWorkflow
