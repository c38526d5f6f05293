import AgentWorkflow.Graph.SnapshotReader
import AgentWorkflow.Store.Database
import AgentWorkflow.Text.Order

/-!
Graphs in the store. A graph is written with everything that belongs to it at once, and loaded as a
snapshot whose order does not depend on the order of the rows: nodes by key, edges by their ends,
and the tools of a node by name and identifier.
-/

namespace AgentWorkflow.Store

/-- A graph with the models and tools that come with it. -/
structure Definition where
  graph : GraphRow
  models : List ModelRow := []
  tools : List ToolRow := []
  nodes : List NodeRow := []
  nodeTools : List NodeToolRow := []
  edges : List EdgeRow := []

/-- Writes a graph. -/
def insertGraph (definition : Definition) (db : Database) : Except Fault (Unit × Database) := do
  let next ← Database.checked { db with
    graphs := db.graphs ++ [definition.graph]
    models := db.models ++ definition.models
    tools := db.tools ++ definition.tools
    nodes := db.nodes ++ definition.nodes
    nodeTools := db.nodeTools ++ definition.nodeTools
    edges := db.edges ++ definition.edges }
  return ((), next)

/-- Rows in the order of a pair of texts. -/
def sortByPair {α : Type} (key : α → String × String) (rows : List α) : List α :=
  rows.mergeSort fun a b =>
    let (a₁, a₂) := key a
    let (b₁, b₂) := key b
    if a₁ == b₁ then !decide (b₂ < a₂) else decide (a₁ < b₁)

/-- Rows in the order of a text. -/
def sortByText {α : Type} (key : α → String) (rows : List α) : List α :=
  rows.mergeSort fun a b => !decide (key b < key a)

/-- The tools of a node, by name and identifier. -/
def toolsOf (db : Database) (node : NodeRow) : List ToolRow :=
  sortByPair (fun tool => (tool.name, tool.id.text)) <|
    (db.nodeTools.filter fun row => row.node == node.id).filterMap fun row =>
      db.tools.find? fun tool => tool.id == row.tool

/-- The model of a node. -/
def modelOf (db : Database) (node : NodeRow) : Option ModelRef :=
  (node.model.bind fun id => db.models.find? fun model => model.id == id).map fun model =>
    { provider := model.provider, name := model.name }

/-- A JSON column under its name. -/
def column (name : String) (value : Value) : Checked Stored :=
  (Field.stored value).under (.key name)

/-- A stored tool as a part of a snapshot. -/
def toolRef (tool : ToolRow) : Checked ToolRef :=
  (Checked.both (column "input_schema" tool.inputSchema)
    (column "output_schema" tool.outputSchema)).map fun (inputSchema, outputSchema) =>
      { name := tool.name, description := tool.description, inputSchema, outputSchema }

/-- A stored node as a part of a snapshot. -/
def snapshotNode (db : Database) (row : NodeRow) : Checked (Option SnapshotNode) := do
  let tools ← (toolsOf db row).mapM toolRef
  let config ← column "config" row.config
  let node : GraphNode :=
    { id := row.id.text, key := row.key, type := row.type, config, inputKey := row.inputKey
      outputKey := row.outputKey }
  return some { node := some node, model := modelOf db row, tools }

/-- The nodes of a graph, by key. -/
def nodesOf (db : Database) (graph : Uuid) : List NodeRow :=
  sortByText NodeRow.key (db.nodes.filter fun row => row.graph == graph)

/-- The edges of a graph, by their ends. -/
def edgesOf (db : Database) (graph : Uuid) : List EdgeRow :=
  sortByPair (fun row => (row.source, row.target)) (db.edges.filter fun row => row.graph == graph)

/-- The snapshot of a graph. -/
def snapshotOf (db : Database) (graph : GraphRow) : Checked Snapshot := do
  let stateSchema ← column "state_schema" graph.stateSchema
  let nodes ← (nodesOf db graph.id).mapM (snapshotNode db)
  return {
    graph := some { id := graph.id.text, name := graph.name, entry := graph.entry, stateSchema }
    nodes
    edges := (edgesOf db graph.id).map fun row => some ⟨row.source, row.target⟩ }

/-- Loads the snapshot of a graph. A text that is no identifier names no graph. -/
def loadSnapshot (db : Database) (graphId : String) : Except Fault (Option Snapshot) :=
  match (Uuid.ofText? graphId).bind fun id => db.graphs.find? fun graph => graph.id == id with
  | none => .ok none
  | some graph => ((snapshotOf db graph).map some).mapError .invalidFields

/-- Loads a snapshot from the store. -/
def load (graphId : String) : Act Database (Option Snapshot) :=
  transaction fun db => (loadSnapshot db graphId).map fun snapshot => (snapshot, db)

end AgentWorkflow.Store
