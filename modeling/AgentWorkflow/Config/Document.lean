import AgentWorkflow.Error
import AgentWorkflow.Json.Reader
import AgentWorkflow.Value.Display

/-!
Stored configuration documents. A column that holds a JSON object arrives either decoded or as text,
or not at all; all three are read as a record of fields.

Only a text that is no JSON text is an issue of the configuration. A whole number with too many
digits is a fault, which no reader of a document handles.
-/

namespace AgentWorkflow

/-- The failure to read a text, with the issue of the configuration if it is no JSON text. -/
def Json.Issue.failure (issue : Json.Issue) (malformed : ConfigIssue) : Failure :=
  match issue with
  | .malformed => .error (.config malformed)
  | .wholeTooLong => .fault .badValue

/-- A JSON column as it is stored. -/
inductive Stored
  | absent
  | text (s : String)
  | object (fields : Record Value)
  deriving Inhabited

namespace Stored

/-- The column that a value stands for, when it stands for one. -/
def ofValue? : Value → Option Stored
  | .null => some .absent
  | .str s => some (.text s)
  | .object fields => some (.object fields)
  | _ => none

/-- The column as a value. -/
def toValue : Stored → Value
  | .absent => .null
  | .text s => .str s
  | .object fields => .object fields

/-- The fields of a stored document. No document, a blank text and the text of null have no fields.
`what` names the document in errors. -/
def fields (document : Stored) (what : String) : Except Failure (Record Value) :=
  match document with
  | .absent => .ok []
  | .object fields => .ok fields
  | .text s =>
    let trimmed := Text.strip s
    if trimmed == "" then .ok []
    else
      match Json.parse trimmed with
      | .error issue => .error (issue.failure (.malformedJson what))
      | .ok .null => .ok []
      | .ok (.object fields) => .ok fields
      | .ok _ => .error (.error (.config (.notObject what)))

end Stored

end AgentWorkflow
