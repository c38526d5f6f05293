import AgentWorkflow.Config.Document

/-!
Snapshots: the stored description of one agent graph, before anything about it has been checked.

The order of nodes matters: nodes are built in this order and errors name places in it. A record
that should be there and is not is kept as missing, so that the check can say where.
-/

namespace AgentWorkflow

/-- The key that stands for the end of a graph as the target of an edge. -/
def endKey : String := "END"

/-- The description of a graph. -/
structure GraphMeta where
  id : String := ""
  name : String := ""
  entry : String := ""
  stateSchema : Stored := .absent
  deriving Inhabited

/-- A node. It reads one key of the state and writes another, if they are given. -/
structure GraphNode where
  id : String := ""
  key : String
  type : String
  config : Stored := .absent
  inputKey : Option String := none
  outputKey : Option String := none
  deriving Inhabited

/-- A chat model, by its provider and its name there. -/
structure ModelRef where
  provider : String
  name : String
  deriving DecidableEq, Repr, Inhabited

/-- A tool of the tool server. -/
structure ToolRef where
  name : String
  description : String := ""
  inputSchema : Stored := .absent
  outputSchema : Stored := .absent
  deriving Inhabited

/-- A node with its model and its tools, where the node itself may be missing. -/
structure SnapshotNode where
  node : Option GraphNode := none
  model : Option ModelRef := none
  tools : List ToolRef := []
  deriving Inhabited

/-- An edge between two node keys, or from a node key to the end. -/
structure GraphEdge where
  source : String
  target : String
  deriving DecidableEq, Repr, Inhabited

/-- The stored description of a graph. -/
structure Snapshot where
  graph : Option GraphMeta := none
  nodes : List (Option SnapshotNode) := []
  edges : List (Option GraphEdge) := []
  deriving Inhabited

end AgentWorkflow
