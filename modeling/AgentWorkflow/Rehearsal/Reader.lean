import AgentWorkflow.Decimal.Reading
import AgentWorkflow.Rehearsal.World

/-!
Rehearsed worlds read from plain data.

What JSON cannot hold is written as an object with one field whose name begins with a dollar sign:
numbers that are not finite, messages, tuples, sets, times, identifiers and records.
-/

namespace AgentWorkflow.Rehearsal

/-- The field of an object, and null when there is none. -/
def fieldOf (v : Value) (key : String) : Value := (v.get? key).getD .null

/-- The text under a key, if there is one. -/
def textUnder? (v : Value) (key : String) : Option String := (fieldOf v key).asText?

/-- The text under a key, and the empty text when there is none. -/
def textUnder (v : Value) (key : String) : String := (textUnder? v key).getD ""

/-- The items of a list under a key. -/
def itemsUnder (v : Value) (key : String) : List Value := ((fieldOf v key).asList?).getD []

/-- The fields of an object under a key. -/
def fieldsUnder (v : Value) (key : String) : Record Value := ((fieldOf v key).asObject?).getD []

/-- The role that a message type names. -/
def roleOf (type : String) : Role :=
  if type == "human" then .human
  else if type == "system" then .system
  else if type == "tool" then .tool
  else .ai

/-- A tool call of a message. Its values are read already. -/
def callOf (v : Value) : ToolCall :=
  { name := textUnder v "name", args := fieldOf v "args", id := textUnder? v "id" }

/-- A message by its fields. Their values are read already. -/
def messageOf (v : Value) : Message :=
  { role := roleOf (textUnder v "type")
    content := fieldOf v "content"
    calls := (itemsUnder v "tool_calls").map callOf
    callId := textUnder? v "tool_call_id"
    name := textUnder? v "name"
    failed := textUnder v "status" == "error" }

/-- A number by its text. -/
def floatOf : Value → Float
  | .str s => (Decimal.readFloat s).getD 0
  | .float x => x
  | _ => 0

/-- The value that a tag and what it holds stand for, if the tag is known. -/
def tagged? (tag : String) (v : Value) : Option Value :=
  let items := (v.asList?).getD []
  let text := (v.asText?).getD ""
  match tag with
  | "$float" => some (.float (floatOf v))
  | "$tuple" => some (.tuple items)
  | "$set" => some (.set items)
  | "$datetime" => some (((Timestamp.ofText? text).map Value.time).getD (.foreign text))
  | "$uuid" => some (((Uuid.ofText? text).map Value.uuid).getD (.foreign text))
  | "$obj" => some (.foreign text)
  | "$msg" => some (.message (messageOf v))
  | "$edge" =>
    match items with
    | [.str source, .str target] => some (.edge source target)
    | _ => none
  | _ => none

/-- An object, or the value that it stands for when its only field is a tag. -/
def objectOrTagged (fields : Record Value) : Value :=
  match fields with
  | [(tag, v)] => (tagged? tag v).getD (.object fields)
  | _ => .object fields

mutual

/-- The value that plain data with tags stands for. -/
def valueOf : Value → Value
  | .list items => .list (valuesOf items)
  | .object fields => objectOrTagged (fieldsOf fields)
  | v => v

/-- The values that a list of plain data with tags stands for. -/
def valuesOf : List Value → List Value
  | [] => []
  | v :: rest => valueOf v :: valuesOf rest

/-- Fields of plain data with tags. -/
def fieldsOf : List (String × Value) → List (String × Value)
  | [] => []
  | (key, v) :: rest => (key, valueOf v) :: fieldsOf rest

end

/-- A failure of a collaborator: an error of the library when a kind is named. -/
def failureOf (v : Value) : Failure :=
  let text := textUnder v "error"
  match ErrorKind.ofName? (textUnder v "kind") with
  | some kind => .error (.reported kind text)
  | none => failing text

/-- The failure under a key, if there is one. It may be given by its text alone. -/
def failureUnder? (v : Value) (key : String) : Option Failure :=
  match fieldOf v key with
  | .str text => some (failing text)
  | .object fields => some (failureOf (.object fields))
  | _ => none

/-- Whether an object has a field. -/
def hasField (v : Value) (key : String) : Bool := (v.get? key).isSome

/-- A message of a model that calls one tool. -/
def routeCall (args : Value) : Message :=
  { role := .ai, content := .str "", calls := [{ name := "route", args, id := some "call-1" }] }

/-- The reply of a model. A model that never answers is cut short by a deadline, or as `hang`
says. -/
def replyOf (hang : Failure) (v : Value) : Reply Message :=
  match v with
  | .str text => .ok { role := .ai, content := .str text }
  | _ =>
    if hasField v "error" then .error (failureOf v)
    else if hasField v "hang" then .error hang
    else if hasField v "route" then .ok (routeCall (.object [("next", fieldOf v "route")]))
    else if hasField v "raw_args" then .ok (routeCall (fieldOf v "raw_args"))
    else
      .ok (messageOf (.object [("type", .str "ai"),
        ("content", (v.get? "content").getD (.str "")), ("tool_calls", fieldOf v "tool_calls")]))

/-- The script of a model: a list of replies, or an object that holds one. -/
def modelOf (hang : Failure) (v : Value) : ScriptedModel :=
  match v with
  | .list replies => { replies := replies.map (replyOf hang) }
  | _ =>
    { replies := (itemsUnder v "script").map (replyOf hang)
      refusal := failureUnder? v "bind_error" }

/-- What the request for a client gives. -/
def clientOf (hang : Failure) (v : Value) : ScriptedClient :=
  if hasField v "client_error" then
    let text := textUnder v "client_error"
    match ErrorKind.ofName? (textUnder v "kind") with
    | some kind => .failure (.error (.reported kind text))
    | none => .failure (failing text)
  else if (fieldOf v "not_chat").isTruthy then .other
  else .chat (modelOf hang v)

/-- A part of the content of a tool result: a text, or null for a part that is no text. -/
def partOf : Value → Tool.Part
  | .str s => .text s
  | _ => .media

/-- The result of a tool call. -/
def resultOf (v : Value) : Tool.Result :=
  { structured :=
      match fieldOf v "structured" with
      | .null => none
      | structured => some structured
    parts := (itemsUnder v "texts").map partOf
    failed := (fieldOf v "is_error").isTruthy }

/-- The answer of a tool. -/
def toolReplyOf (v : Value) : Reply (Option Tool.Result) :=
  match v with
  | .null => .ok none
  | _ => if hasField v "error" then .error (failureOf v) else .ok (some (resultOf v))

/-- The scripts of the tools. -/
def resultsOf (v : Value) : Record (List (Reply (Option Tool.Result))) :=
  (fieldsUnder v "results").map fun (tool, replies) =>
    (tool, ((replies.asList?).getD []).map toolReplyOf)

/-- An image by its address. -/
def imageOf (v : Value) : Reply Picture :=
  if hasField v "error" then .error (failureOf v)
  else .ok ⟨(textUnder v "data").toUTF8, (textUnder? v "mime").getD "image/png"⟩

/-- What a scripted agent makes of a conversation. -/
def continuationOf (v : Value) : Continuation :=
  match v with
  | .str text => .append [.message { role := .ai, content := .str text }]
  | _ =>
    if hasField v "append" then .append (itemsUnder v "append")
    else if hasField v "full" then .whole (itemsUnder v "full")
    else .failure (failureOf v)

/-- The world that plain data describes. -/
def World.ofValue (hang : Failure) (plain : Value) : World :=
  let v := valueOf plain
  let server := fieldOf v "transport"
  { clients := (fieldsUnder v "models").map fun (key, script) => (key, clientOf hang script)
    results := resultsOf server
    serverFailure := failureUnder? server "open_error"
    images := (fieldsUnder v "images").map fun (url, image) => (url, imageOf image)
    continuations := (itemsUnder v "replies").map continuationOf
    builderFailure := failureUnder? v "build_error" }

/-- Whether plain data describes a tool server. -/
def hasServer (v : Value) : Bool :=
  match fieldOf v "transport" with
  | .null => false
  | _ => true

end AgentWorkflow.Rehearsal
