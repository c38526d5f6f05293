import AgentWorkflow.Error
import AgentWorkflow.Text.Lower
import AgentWorkflow.Value.Basic

/-!
Conversations: the texts of chat messages, the markers that supervisors leave behind, and the
phrases by which a reply says that an agent was cut off.

A message is a message value, or an object with a role or a type and a content.
-/

namespace AgentWorkflow

open Text

namespace Conversation

/-- How the marker of a supervisor's decision begins. -/
def markerStart : String := "[supervisor]"

/-- The marker that a supervisor leaves for a decision. -/
def markerText (decision : String) : String := markerStart ++ " routing to: " ++ decision

/-- The marker as a message. -/
def marker (decision : String) : Message := { role := .ai, content := .str (markerText decision) }

/-- Whether a value is a given text. -/
def isText (s : String) : Value → Bool
  | .str t => t == s
  | _ => false

/-- Whether a message comes from the model. -/
def isFromModel : Value → Bool
  | .message m => m.role == .ai
  | .object fields =>
    let role := (Record.find? fields "role").getD .null
    let type := (Record.find? fields "type").getD .null
    isText "ai" role || isText "assistant" role || isText "ai" type
  | _ => false

/-- The content of a message. -/
def content : Value → Value
  | .message m => m.content
  | .object fields => (Record.find? fields "content").getD .null
  | _ => .null

/-- The text of one part of a content, if it is a text part. -/
def partText? : Value → Option Value
  | .str s => some (.str s)
  | .object fields =>
    if isText "text" ((Record.find? fields "type").getD .null) then
      let text := (Record.find? fields "text").getD .null
      some (if text.isTruthy then text else .str "")
    else none
  | _ => none

/-- The text parts of a message in order. A plain text is a single part, unless it is empty. -/
def textParts (message : Value) : List Value :=
  match content message with
  | .str s => if s == "" then [] else [.str s]
  | .list parts => parts.filterMap partText?
  | _ => []

/-- Whether a text begins with the marker of a decision. -/
def startsWithMarker (s : String) : Bool := (dropFront? markerStart.toList s.toList).isSome

/-- The first of some text parts; with `skipMarkers` the parts that begin with the marker of a
decision are passed over. Whether a part begins with a marker can be asked of texts only. -/
def firstPart (skipMarkers : Bool) : List Value → Except Fault (Option Value)
  | [] => .ok none
  | part :: parts =>
    if skipMarkers then
      match part with
      | .str s => if startsWithMarker s then firstPart skipMarkers parts else .ok (some part)
      | _ => .error .missingAttribute
    else .ok (some part)

/-- The first text part of the first message that comes from the model and has one. -/
def firstFromModel (skipMarkers : Bool) : List Value → Except Fault Value
  | [] => .ok (.str "")
  | message :: messages =>
    if isFromModel message then
      match firstPart skipMarkers (textParts message) with
      | .error fault => .error fault
      | .ok (some part) => .ok part
      | .ok none => firstFromModel skipMarkers messages
    else firstFromModel skipMarkers messages

/-- The latest text from the model: the first text part of the last of its messages that has one,
and the empty text when none has. -/
def lastModelText (messages : List Value) (skipMarkers : Bool) : Except Fault Value :=
  firstFromModel skipMarkers messages.reverse

/-- The phrases by which a reply says that an agent was cut off. -/
def limitPhrases : List String :=
  ["maximum iterations reached", "need more steps to process this request"]

/-- The plain letter that a character stands for when case is ignored. A capital dotted I, a small
dotless i and a long s count as the letters they are written for. -/
def foldCase (c : Char) : Char :=
  if c.toNat == 0x130 || c.toNat == 0x131 then 'i'
  else if c.toNat == 0x17f then 's'
  else lowerChar c

/-- Whether a text says that an agent was cut off. -/
def saysCutOff (s : String) : Bool :=
  let folded := s.toList.map foldCase
  limitPhrases.any fun phrase => occurs phrase.toList folded

/-- Whether the latest text from the model says that the agent was cut off. Only a text can be
searched; an empty value says nothing. -/
def isCutOff : Value → Except Fault Bool
  | .str s => .ok (saysCutOff s)
  | value => if value.isTruthy then .error .wrongType else .ok false

end Conversation

end AgentWorkflow
