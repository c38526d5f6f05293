import AgentWorkflow.Config.Node
import AgentWorkflow.Graph.Validation

/-!
Who supervises whom. Every member is a node of the graph that is no supervisor itself, and it has
one supervisor only.
-/

namespace AgentWorkflow

/-- The supervisors of a graph with their configurations, in the order of the nodes. -/
abbrev Supervision := Record SupervisorConfig

namespace Supervision

/-- Each member with its supervisor. -/
def owners (supervision : Supervision) : Record String :=
  supervision.flatMap fun (supervisor, config) =>
    config.members.map fun member => (member, supervisor)

/-- Checks one member of a supervisor. `types` holds the type of every node, and `owned` the members
so far with their supervisors. -/
def checkMember (types owned : Record String) (supervisor member : String) :
    Except GraphError Unit :=
  if member == supervisor then .error (.config (.ownMember supervisor))
  else
    match types.find? member with
    | none => .error (.build (.unknownMember supervisor member))
    | some type =>
      if type == NodeKind.supervisor.word then
        .error (.build (.supervisorMember supervisor member))
      else
        match owned.find? member with
        | some first => .error (.build (.sharedMember member first supervisor))
        | none => .ok ()

/-- Checks the members of a supervisor, given the members so far, and adds them to these. -/
def checkMembers (types : Record String) (supervisor : String) :
    (owned : Record String) → List String → Except GraphError (Record String)
  | owned, [] => .ok owned
  | owned, member :: members => do
    checkMember types owned supervisor member
    checkMembers types supervisor (owned ++ [(member, supervisor)]) members

/-- The supervisors among some nodes, given the members so far. -/
def collectFrom (settings : Settings) (types : Record String) :
    (owned : Record String) → List PlanNode → Except Failure Supervision
  | _, [] => .ok []
  | owned, node :: nodes =>
    if types.find? node.key == some NodeKind.supervisor.word then do
      let config ← SupervisorConfig.parse settings node.key node.node.config
      let owned ← (checkMembers types node.key owned config.members).mapError .error
      let supervision ← collectFrom settings types owned nodes
      return (node.key, config) :: supervision
    else collectFrom settings types owned nodes

/-- The types of nodes by key. -/
def nodeTypes (nodes : List PlanNode) : Record String :=
  nodes.map fun node => (node.key, normalizeType node.node.type)

/-- The supervisors of a graph, if every one of them can be read and has the members it may have. -/
def collect (settings : Settings) (nodes : List PlanNode) : Except Failure Supervision :=
  collectFrom settings (nodeTypes nodes) [] nodes

end Supervision

end AgentWorkflow
