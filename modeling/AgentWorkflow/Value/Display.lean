import AgentWorkflow.Decimal.Digits
import AgentWorkflow.Decimal.Reading
import AgentWorkflow.Fault
import AgentWorkflow.Text.Quoted
import AgentWorkflow.Value.Basic

/-!
Values as they appear in messages. A text inside a value is quoted; a text on its own is not. A
value that holds a whole number with too many digits has no text at all.
-/

namespace AgentWorkflow.Value

open Text

mutual

/-- The value as it appears in a message, with texts quoted. -/
def shown : Value → String
  | .null => "None"
  | .bool true => "True"
  | .bool false => "False"
  | .int n => toString n
  | .float x => Decimal.shortestText x
  | .str s => quote s
  | .list items => "[" ++ joined ", " (shownItems items) ++ "]"
  | .tuple [item] => "(" ++ shown item ++ ",)"
  | .tuple items => "(" ++ joined ", " (shownItems items) ++ ")"
  | .set [] => "set()"
  | .set items => "\x7b" ++ joined ", " (shownItems items) ++ "\x7d"
  | .object fields => "\x7b" ++ joined ", " (shownFields fields) ++ "\x7d"
  | .message m => m.role.word
  | .time t => t.text
  | .uuid u => "UUID(" ++ quote u.text ++ ")"
  | .edge source target => "from_node=" ++ quote source ++ " to_node=" ++ quote target
  | .foreign text => text

/-- The items of a sequence as they appear in a message. -/
def shownItems : List Value → List String
  | [] => []
  | item :: items => shown item :: shownItems items

/-- The fields of an object as they appear in a message. -/
def shownFields : List (String × Value) → List String
  | [] => []
  | (key, value) :: fields => (quote key ++ ": " ++ shown value) :: shownFields fields

end

/-- The value as text: a text is itself. -/
def displayed : Value → String
  | .str s => s
  | .uuid u => u.text
  | v => v.shown

mutual

/-- Whether every whole number inside a value has few enough digits to be written out. -/
def isWritable : Value → Bool
  | .int n => n.natAbs < Nat.pow 10 Decimal.longestWhole
  | .list items | .tuple items | .set items => areWritable items
  | .object fields => fieldsAreWritable fields
  | .message ⟨_, content, calls, _, _, _⟩ => isWritable content && callsAreWritable calls
  | _ => true

/-- Whether all items of a sequence can be written out. -/
def areWritable : List Value → Bool
  | [] => true
  | item :: items => isWritable item && areWritable items

/-- Whether all fields of an object can be written out. -/
def fieldsAreWritable : List (String × Value) → Bool
  | [] => true
  | (_, value) :: fields => isWritable value && fieldsAreWritable fields

/-- Whether the arguments of all calls can be written out. -/
def callsAreWritable : List (ToolCallOf Value) → Bool
  | [] => true
  | ⟨_, args, _⟩ :: calls => isWritable args && callsAreWritable calls

end

/-- The value written out, by a way of writing that says how a whole number looks. -/
def written (v : Value) (text : Value → String) : Except Fault String :=
  if v.isWritable then .ok (text v) else .error .badValue

end AgentWorkflow.Value
