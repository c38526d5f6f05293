import AgentWorkflow.Fault
import AgentWorkflow.Value.Display

/-!
Conversations as a model is given them. A state may hold messages in several spellings: message
values, plain texts, pairs of a role and a content, and objects with a role and a content. A prompt
is a list of message values only.
-/

namespace AgentWorkflow.Chat

/-- The role that a word names, and whether it names a tool's answer. -/
def roleOf? (word : String) : Option Role :=
  if word == "human" || word == "user" then some .human
  else if word == "ai" || word == "assistant" then some .ai
  else if word == "system" || word == "developer" then some .system
  else if word == "tool" then some .tool
  else none

/-- Whether a value may stand in a list of contents. -/
def isPart : Value → Bool
  | .str _ | .object _ => true
  | _ => false

/-- A value that a model is given as text. -/
def writtenOut (value : Value) : Except Fault String :=
  (value.written Value.displayed).mapError fun _ => .invalidFields []

/-- The content of a message. A tool's answer may be any value, which is written out. -/
def content (role : Role) : Value → Except Fault Value
  | .str s => .ok (.str s)
  | .list parts => if parts.all isPart then .ok (.list parts) else .error (.invalidFields [])
  | .tuple parts => if parts.all isPart then .ok (.list parts) else .error (.invalidFields [])
  | value =>
    if role == .tool then (writtenOut value).map .str else .error (.invalidFields [])

/-- A text that may be left out. -/
def textOr? : Option Value → Except Fault (Option String)
  | none => .ok none
  | some .null => .ok none
  | some (.str s) => .ok (some s)
  | some _ => .error (.invalidFields [])

/-- The name of the call that a tool's answer belongs to; a number is written out. -/
def callId (value : Option Value) : Except Fault (Option String) :=
  match value with
  | none | some .null => .error .missingKey
  | some (.str s) => .ok (some s)
  | some (.int n) => (writtenOut (.int n)).map some
  | some _ => .error (.invalidFields [])

/-- One call of a tool. -/
def toolCall : Value → Except Fault ToolCall
  | .object fields =>
    match Record.find? fields "name", Record.find? fields "args" with
    | some (.str name), some (.object args) => do
      let id ← textOr? (Record.find? fields "id")
      return { name, args := .object args, id }
    | _, _ => .error (.invalidFields [])
  | _ => .error (.invalidFields [])

/-- The calls of tools that come with a message of the model. -/
def toolCalls : Option Value → Except Fault (List ToolCall)
  | none | some .null => .ok []
  | some (.list calls) => calls.mapM toolCall
  | some _ => .error .wrongType

/-- A message with a role, a content and further fields. -/
def messageOf (role : Value) (body : Value) (fields : Record Value) : Except Fault Message :=
  match role with
  | .str word =>
    match roleOf? word with
    | none => .error .badValue
    | some role => do
      let calls ← if role == .ai then toolCalls (fields.find? "tool_calls") else pure []
      let callId ← if role == .tool then callId (fields.find? "tool_call_id") else pure none
      let content ← content role body
      let name ← textOr? (fields.find? "name")
      let failed :=
        match role, fields.find? "status" with
        | .tool, some (.str status) => status == "error"
        | _, _ => false
      return { role, content, calls, callId, name, failed }
  | .list _ | .object _ | .set _ => .error .wrongType
  | _ => .error .badValue

/-- The message that an object stands for. An empty content counts as the empty text. -/
def messageOfFields (fields : Record Value) : Except Fault Message :=
  match (fields.find? "role").orElse fun _ => fields.find? "type", fields.find? "content" with
  | some role, some body => messageOf role (if body.isTruthy then body else .str "") fields
  | _, _ => .error .badValue

/-- The message that a value stands for. -/
def message : Value → Except Fault Message
  | .message m => .ok m
  | .str s => .ok { role := .human, content := .str s }
  | .list [role, body] => messageOf role body []
  | .tuple [role, body] => messageOf role body []
  | .object fields => messageOfFields fields
  | _ => .error .unsupported

/-- A conversation as a prompt. -/
def prompt (conversation : List Value) : Except Fault (List Message) := conversation.mapM message

/-- A conversation of messages is a prompt as it stands. -/
theorem prompt_messages (messages : List Message) :
    prompt (messages.map Value.message) = .ok messages := by
  induction messages with
  | nil => rfl
  | cons m messages ih =>
    simp only [prompt, List.map_cons, List.mapM_cons, message] at ih ⊢
    rw [ih]
    rfl

end AgentWorkflow.Chat
