import AgentWorkflow.Error
import AgentWorkflow.Text.Blank
import AgentWorkflow.Text.Lower
import AgentWorkflow.Value.Basic

/-!
Kinds of nodes. A stored node is a worker, a tool or a supervisor; a worker that a supervisor lists
as a member takes part in that supervisor's conversation and is a kind of its own.
-/

namespace AgentWorkflow

/-- What a node does. -/
inductive NodeKind
  | worker
  | tool
  | supervisor
  | member
  deriving DecidableEq, Repr

/-- The word for a kind of node. -/
def NodeKind.word : NodeKind → String
  | .worker => "worker"
  | .tool => "tool"
  | .supervisor => "supervisor"
  | .member => "supervisor_member"

/-- A stored node type without blanks at its ends and in lower case. -/
def normalizeType (type : String) : String := Text.lower (Text.strip type)

/-- Whether a stored type is that of a supervisor. -/
def isSupervisorType (type : String) : Bool := normalizeType type == NodeKind.supervisor.word

/-- The kind of a node, given the members of supervisors and who lists them. Tools and supervisors
keep their kind when they are listed. -/
def classify (key : String) (type : Option String) (members : Record String) :
    Except BuildIssue NodeKind :=
  let normalized := normalizeType (type.getD "")
  if normalized == NodeKind.worker.word then
    .ok (if members.has key then .member else .worker)
  else if normalized == NodeKind.tool.word then .ok .tool
  else if normalized == NodeKind.supervisor.word then .ok .supervisor
  else .error (.unknownNodeType key type)

end AgentWorkflow
