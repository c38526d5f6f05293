import AgentWorkflow.Config.Node
import AgentWorkflow.Config.NodeKind
import AgentWorkflow.Graph.Reachability

/-!
The check of a snapshot, made before any collaborator is touched.

A snapshot that passes is turned into a `GraphPlan`, in which nothing is missing any more. Keys are
trimmed and distinct, edges join keys of the graph, and a walk leads from the entry node to the end.
The walk goes along the stored edges and along the edges that supervisors bring with them: to each
member, back from each member, and to the end. A supervisor whose member list has an issue brings
none; a fault in reading it ends the check.
-/

namespace AgentWorkflow

open Text

/-- A node with its model and its tools. -/
structure PlanNode where
  node : GraphNode
  model : Option ModelRef := none
  tools : List ToolRef := []
  deriving Inhabited

/-- The key of a node. -/
abbrev PlanNode.key (n : PlanNode) : String := n.node.key

/-- A graph in which nothing is missing. -/
structure GraphPlan where
  graph : GraphMeta
  nodes : List PlanNode
  edges : List GraphEdge
  deriving Inhabited

/-- Checks the key of an entry node. -/
def checkEntry (entry : String) : Except SnapshotIssue Unit :=
  if strip entry == "" then .error .entryEmpty
  else if entry != strip entry then .error .entryPadded
  else .ok ()

/-- Checks one node, given the keys of the nodes before it. -/
def checkNode (index : Nat) (seen : List String) :
    Option SnapshotNode → Except SnapshotIssue PlanNode
  | none => .error (.nodeMissing index)
  | some ⟨none, _, _⟩ => .error (.nodeMissing index)
  | some ⟨some node, model, tools⟩ =>
    let trimmed := strip node.key
    if trimmed == "" then .error (.nodeKeyEmpty index)
    else if node.key != trimmed then .error (.nodeKeyPadded node.key)
    else if seen.contains trimmed then .error (.nodeKeyRepeated trimmed index)
    else .ok { node, model, tools }

/-- Checks nodes from a place on, given the keys of the nodes before them. -/
def checkNodes (index : Nat) (seen : List String) :
    List (Option SnapshotNode) → Except SnapshotIssue (List PlanNode)
  | [] => .ok []
  | entry :: rest => do
    let node ← checkNode index seen entry
    let nodes ← checkNodes (index + 1) (node.key :: seen) rest
    return node :: nodes

/-- Checks one edge, given the keys of the graph and the edges before it. -/
def checkEdge (keys : List String) (index : Nat) (seen : List GraphEdge) :
    Option GraphEdge → Except SnapshotIssue GraphEdge
  | none => .error (.edgeMissing index)
  | some edge =>
    let source := strip edge.source
    let target := strip edge.target
    if source == "" || target == "" then .error (.edgeEndMissing index)
    else if edge.source != source || edge.target != target then
      .error (.edgePadded edge.source edge.target)
    else if source == target then .error (.edgeLoop source)
    else if !keys.contains source then .error (.sourceUnknown source target)
    else if target != endKey && !keys.contains target then .error (.targetUnknown source target)
    else if seen.contains edge then .error (.edgeRepeated source target)
    else .ok edge

/-- Checks edges from a place on, given the edges before them. -/
def checkEdges (keys : List String) (index : Nat) (seen : List GraphEdge) :
    List (Option GraphEdge) → Except SnapshotIssue (List GraphEdge)
  | [] => .ok []
  | entry :: rest => do
    let edge ← checkEdge keys index seen entry
    let edges ← checkEdges keys (index + 1) (edge :: seen) rest
    return edge :: edges

/-- The connections that a node brings with it: a supervisor is joined to its members in both
directions and to the end. -/
def PlanNode.connections (n : PlanNode) : Except Failure (List Connection) :=
  if isSupervisorType n.node.type then do
    match ← peekMembers n.node.config with
    | none => return []
    | some members =>
      return members.flatMap (fun member => [(n.key, member), (member, n.key)]) ++ [(n.key, endKey)]
  else .ok []

/-- The connections along which the end has to be reached. -/
def GraphPlan.connections (plan : GraphPlan) : Except Failure (List Connection) := do
  let added ← plan.nodes.mapM PlanNode.connections
  return plan.edges.map (fun edge => (edge.source, edge.target)) ++ added.flatten

/-- Checks that everything is in place; whether the end can be reached is not looked at. -/
def checkStructure (snapshot : Option Snapshot) : Except SnapshotIssue GraphPlan :=
  match snapshot with
  | none => .error .missing
  | some snapshot =>
    match snapshot.graph with
    | none => .error .graphMissing
    | some graph => do
      checkEntry graph.entry
      let nodes ← checkNodes 0 [] snapshot.nodes
      let keys := nodes.map PlanNode.key
      if !keys.contains graph.entry then throw (.entryUnknown graph.entry)
      let edges ← checkEdges keys 0 [] snapshot.edges
      return { graph, nodes, edges }

/-- Checks a snapshot, and gives the first thing that is wrong with it. -/
def validate (snapshot : Option Snapshot) : Except Failure GraphPlan := do
  let plan ← (checkStructure snapshot).mapError fun issue => .error (.snapshot issue)
  let connections ← plan.connections
  if leadsTo endKey connections [plan.graph.entry] then return plan
  else throw (.error (.snapshot (.endUnreachable plan.graph.entry)))

end AgentWorkflow
