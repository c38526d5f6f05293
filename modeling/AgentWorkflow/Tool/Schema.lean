import AgentWorkflow.Config.Document
import AgentWorkflow.Text.Blank

/-!
Stored schemas of tools, and the fields they declare.
-/

namespace AgentWorkflow.Tool

/-- The schema of an object without declared properties. -/
def emptySchema : Record Value := [("type", .str "object"), ("properties", .object [])]

/-- The schema in a stored document. A schema that is missing or blank is the empty one; every other
text has to be that of an object. -/
def schema (document : Stored) (tool : String) : Except Failure (Record Value) :=
  match document with
  | .absent => .ok emptySchema
  | .object fields => .ok fields
  | .text s =>
    let trimmed := Text.strip s
    if trimmed == "" then .ok emptySchema
    else
      match Json.parse trimmed with
      | .error issue => .error (issue.failure (.toolSchemaMalformed tool))
      | .ok (.object fields) => .ok fields
      | .ok _ => .error (.error (.config (.toolSchemaNotObject tool)))

/-- The names of the properties of a schema. Empty properties of any kind declare none. -/
def propertyNames (tool : String) (schema : Record Value) : Except Failure (List String) :=
  let properties := (schema.find? "properties").getD .null
  match properties with
  | .object fields => .ok (Record.keys fields)
  | value =>
    if value.isTruthy then .error (.error (.config (.toolPropertiesNotObject tool))) else .ok []

/-- The fields that a stored schema declares, in order. -/
def fieldNames (document : Stored) (tool : String) : Except Failure (List String) := do
  propertyNames tool (← schema document tool)

/-- The schema of the arguments as a model is told it: always one of an object with properties. -/
def argumentSchema (document : Stored) (tool : String) : Except Failure (Record Value) := do
  let fields ← schema document tool
  let isObject :=
    match fields.find? "type" with
    | some (.str type) => type == "object"
    | _ => false
  let fields := if isObject then fields else fields.put "type" (.str "object")
  return if fields.has "properties" then fields else fields.put "properties" (.object [])

end AgentWorkflow.Tool
