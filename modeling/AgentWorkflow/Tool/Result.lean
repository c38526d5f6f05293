import AgentWorkflow.Error
import AgentWorkflow.Json.Reader
import AgentWorkflow.Text.Blank

/-!
Results of tool calls and how they are decoded into fields.

A result that reports a failure is never decoded. When no fields are asked for the result does not
matter; otherwise structured content comes first, and then the first text that is JSON text of an
object. A text in which a whole number has too many digits is not passed over like one that is no
JSON text.
-/

namespace AgentWorkflow.Tool

open Text

/-- One part of the content of a result: a text, or a part that is no text. -/
inductive Part
  | text (s : String)
  | media
  deriving DecidableEq, Repr

/-- The result of a tool call. -/
structure Result where
  structured : Option Value := none
  parts : List Part := []
  failed : Bool := false

/-- The text of a part without blanks at its ends, if there is any. -/
def Part.trimmed? : Part → Option String
  | .text s => if strip s == "" then none else some (strip s)
  | .media => none

/-- The texts of a result that are not blank, without blanks at their ends. -/
def Result.texts (result : Result) : List String := result.parts.filterMap Part.trimmed?

/-- The first text of a result as it stands, and the empty text when it has none. -/
def Result.firstText (result : Result) : String :=
  (result.parts.findSome? fun | .text s => some s | .media => none).getD ""

/-- The object that a JSON text describes, if it describes one. -/
def objectOf (s : String) : Except Fault (Option (Record Value)) :=
  match Json.parse s with
  | .ok value => .ok value.asObject?
  | .error .malformed => .ok none
  | .error .wholeTooLong => .error .badValue

/-- The object of the first text that describes one. A fault in a text ends the search. -/
def firstObject : List String → Except Fault (Option (Record Value))
  | [] => .ok none
  | s :: texts => do
    match ← objectOf s with
    | some fields => return some fields
    | none => firstObject texts

/-- An answer that cannot be used. -/
def unusable {α : Type} (issue : ToolIssue) : Except Failure α :=
  .error (.error (.execution (.tool issue)))

/-- Decodes the content of a result that reports no failure. -/
def Result.content (result : Result) : Except Failure (Record Value) :=
  match result.structured with
  | some (.object fields) => .ok fields
  | some _ => unusable .structureNotObject
  | none =>
    match firstObject result.texts with
    | .error fault => .error (.fault fault)
    | .ok (some fields) => .ok fields
    | .ok none =>
      match result.texts with
      | first :: _ => unusable (.unreadable first)
      | [] => unusable .noText

/-- Decodes a result into fields, of which `fields` are asked for. -/
def decode (result : Option Result) (fields : List String) : Except Failure (Record Value) :=
  match result with
  | some result =>
    if result.failed then unusable (.reported result.texts)
    else if fields.isEmpty then .ok []
    else result.content
  | none => if fields.isEmpty then .ok [] else unusable .noResult

end AgentWorkflow.Tool
