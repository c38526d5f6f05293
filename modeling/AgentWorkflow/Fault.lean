import AgentWorkflow.Text.Quoted

/-!
Faults that are not errors of the library itself: data of the wrong kind, collaborators that fail,
a store that refuses a row. Only the failure of a collaborator has a text of its own; every other
fault appears in a message as its name in angle brackets.
-/

namespace AgentWorkflow

/-- A step on the way to a field: a key, the place in a list, or the name of an alternative. -/
inductive PathPart
  | key (name : String)
  | index (place : Nat)
  deriving DecidableEq, Repr

/-- What is wrong with a field. -/
inductive FieldProblem
  | missing
  | notText
  | notList
  | notObject
  /-- A record is expected and something else is given. -/
  | notRecord
  | notWhole
  | fractional
  | notFinite
  | tooLarge
  | unreadableWhole
  | notNumber
  | unreadableNumber
  /-- The value has the right type and breaks a rule. -/
  | rejected (reason : String)
  deriving DecidableEq, Repr

/-- A field that cannot be read. -/
structure FieldIssue where
  path : List PathPart
  problem : FieldProblem
  deriving DecidableEq, Repr

/-- The issue of a field inside another one. -/
def FieldIssue.under (part : PathPart) (issue : FieldIssue) : FieldIssue :=
  { issue with path := part :: issue.path }

/-- A fault outside the library. -/
inductive Fault
  /-- A collaborator failed with this text. -/
  | collaborator (text : String)
  /-- A value of a type that cannot be used here. -/
  | wrongType
  /-- A value of the right type that makes no sense here. -/
  | badValue
  /-- A number too large to be converted. -/
  | overflow
  /-- A value of a kind that is not supported here. -/
  | unsupported
  | missingKey
  | missingAttribute
  /-- The store refuses a row. -/
  | brokenConstraint
  | malformedJson
  | invalidFields (issues : List FieldIssue)
  /-- The engine took all the steps it may take. -/
  | stepLimit
  deriving Repr

/-- The name of the kind of a fault. -/
def Fault.name : Fault → String
  | .collaborator _ => "CollaboratorError"
  | .wrongType => "TypeError"
  | .badValue => "ValueError"
  | .overflow => "OverflowError"
  | .unsupported => "NotImplementedError"
  | .missingKey => "KeyError"
  | .missingAttribute => "AttributeError"
  | .brokenConstraint => "IntegrityError"
  | .malformedJson => "JSONDecodeError"
  | .invalidFields _ => "PydanticValidationError"
  | .stepLimit => "GraphRecursionError"

/-- The text of a fault inside a message. -/
def Fault.text : Fault → String
  | .collaborator text => text
  | fault => "<" ++ fault.name ++ ">"

end AgentWorkflow
