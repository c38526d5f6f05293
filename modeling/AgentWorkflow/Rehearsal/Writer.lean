import AgentWorkflow.Decimal.Digits
import AgentWorkflow.Value.Basic

/-!
Values written as plain data, where what JSON cannot hold is an object with a tag. Messages are
written by what was said only, and so are messages that have been turned into plain data already.
-/

namespace AgentWorkflow.Rehearsal

/-- A value behind a tag. -/
def behind (tag : String) (v : Value) : Value := .object [(tag, v)]

/-- A number; one that is not finite is written by its word. -/
def writtenFloat (x : Float) : Value :=
  if x.isFinite then .float x else behind "$float" (.str (Decimal.shortestText x))

/-- A field that is written only if there is a text for it. -/
def fieldIf (key : String) : Option Value → Record Value
  | some (.str s) => [(key, .str s)]
  | _ => []

/-- A message by what was said. -/
def writtenMessage (type content : Value) (calls : List Value) (name callId : Option Value)
    (failed : Bool) : Value :=
  behind "$msg" <| .object <|
    [("type", type), ("content", content)] ++
    (if calls.isEmpty then [] else [("tool_calls", .list calls)]) ++
    fieldIf "name" name ++ fieldIf "tool_call_id" callId ++
    (if failed then [("status", .str "error")] else [])

/-- Whether an object is a message that has been turned into plain data. -/
def isPlainMessage (fields : Record Value) : Bool :=
  ["additional_kwargs", "response_metadata", "content", "type"].all fields.has

/-- The parts of a tool call that are written. -/
def writtenCall (v : Value) : Value :=
  .object (["name", "args", "id"].map fun key => (key, (v.get? key).getD .null))

/-- An object. -/
def writtenObject (fields : Record Value) : Value :=
  let get (key : String) : Value := (fields.find? key).getD .null
  if isPlainMessage fields then
    writtenMessage (get "type") (get "content")
      ((((get "tool_calls").asList?).getD []).map writtenCall) (fields.find? "name")
      (fields.find? "tool_call_id") ((get "status").asText? == some "error")
  else .object fields

/-- A text that may be missing. -/
def textOrNull : Option String → Value
  | some s => .str s
  | none => .null

mutual

/-- A value as plain data with tags. -/
def written : Value → Value
  | .float x => writtenFloat x
  | .list items => .list (writtenItems items)
  | .tuple items => behind "$tuple" (.list (writtenItems items))
  | .set items => behind "$set" (.list (writtenItems items))
  | .object fields => writtenObject (writtenFields fields)
  | .message ⟨role, content, calls, callId, name, failed⟩ =>
    writtenMessage (.str role.word) (written content) (writtenCalls calls) (name.map .str)
      (callId.map .str) failed
  | .time t => behind "$datetime" (.str t.text)
  | .uuid u => behind "$uuid" (.str u.text)
  | .edge source target => behind "$edge" (.list [.str source, .str target])
  | .foreign text => behind "$obj" (.str text)
  | v => v

/-- The items of a sequence. -/
def writtenItems : List Value → List Value
  | [] => []
  | v :: rest => written v :: writtenItems rest

/-- The fields of an object. -/
def writtenFields : List (String × Value) → List (String × Value)
  | [] => []
  | (key, v) :: rest => (key, written v) :: writtenFields rest

/-- The tool calls of a message. -/
def writtenCalls : List (ToolCallOf Value) → List Value
  | [] => []
  | ⟨name, args, id⟩ :: rest =>
    .object [("name", .str name), ("args", written args), ("id", textOrNull id)] ::
      writtenCalls rest

end

mutual

/-- Whether plain data holds a message. -/
def holdsMessage : Value → Bool
  | .list items => anyHolds items
  | .object fields => isPlainMessage fields || anyFieldHolds fields
  | _ => false

/-- Whether an item holds a message. -/
def anyHolds : List Value → Bool
  | [] => false
  | v :: rest => holdsMessage v || anyHolds rest

/-- Whether a field holds a message. -/
def anyFieldHolds : List (String × Value) → Bool
  | [] => false
  | (_, v) :: rest => holdsMessage v || anyFieldHolds rest

end

end AgentWorkflow.Rehearsal
