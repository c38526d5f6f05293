import AgentWorkflow.Agent.Bounded
import AgentWorkflow.Rehearsal.Reader
import AgentWorkflow.Run.Execution
import AgentWorkflow.Store.Graphs
import AgentWorkflow.Store.Runs

/-!
Rehearsals: stored graphs are executed with collaborators that follow a script, and recorded in a
store that is held in memory.
-/

namespace AgentWorkflow.Rehearsal

open Store

/-- An identifier by its text. -/
def uuidOf (v : Value) : Except Fault Uuid :=
  match v with
  | .str s =>
    match Uuid.ofText? s with
    | some id => .ok id
    | none => .error .badValue
  | _ => .error .badValue

/-- An identifier that may be left out. -/
def uuidOr? (v : Value) : Except Fault (Option Uuid) :=
  match v with
  | .null => .ok none
  | v => (uuidOf v).map some

/-- A JSON column that is an empty object when it is left out. -/
def columnUnder (v : Value) (key : String) : Value := (v.get? key).getD (.object [])

/-- A model row. -/
def modelRowOf (v : Value) : Except Fault ModelRow := do
  return {
    id := ← uuidOf (fieldOf v "id")
    provider := textUnder v "provider"
    name := textUnder v "name" }

/-- A tool row. -/
def toolRowOf (v : Value) : Except Fault ToolRow := do
  return {
    id := ← uuidOf (fieldOf v "id")
    name := textUnder v "name"
    description := textUnder v "description"
    inputSchema := columnUnder v "input_schema"
    outputSchema := columnUnder v "output_schema" }

/-- A node row, and the rows of its tools. -/
def nodeRowOf (graph : Uuid) (v : Value) : Except Fault (NodeRow × List NodeToolRow) := do
  let id ← uuidOf (fieldOf v "id")
  let model ← uuidOr? (fieldOf v "model")
  let tools ← (itemsUnder v "tools").mapM uuidOf
  return ({
    id
    graph
    key := textUnder v "node_key"
    type := textUnder v "node_type"
    config := columnUnder v "config"
    inputKey := textUnder? v "input_key"
    outputKey := textUnder? v "output_key"
    model }, tools.map fun tool => { node := id, tool })

/-- An edge row. -/
def edgeRowOf (graph : Uuid) (v : Value) : EdgeRow :=
  match v with
  | .list [.str source, .str target] => { graph, source, target }
  | _ => { graph, source := "", target := "" }

/-- A graph with everything that belongs to it. -/
def definitionOf (v : Value) : Except Fault Definition := do
  let id ← uuidOf (fieldOf v "id")
  let models ← (itemsUnder v "models").mapM modelRowOf
  let tools ← (itemsUnder v "tools").mapM toolRowOf
  let nodes ← (itemsUnder v "nodes").mapM (nodeRowOf id)
  return {
    graph := {
      id
      name := textUnder v "name"
      entry := textUnder v "entry_node"
      stateSchema := fieldOf v "state_schema" }
    models
    tools
    nodes := nodes.map Prod.fst
    nodeTools := nodes.flatMap Prod.snd
    edges := (itemsUnder v "edges").map (edgeRowOf id) }

/-- Writes the graph that plain data describes. -/
def writeGraph (v : Value) : Act Database Unit :=
  transaction fun db => do insertGraph (← definitionOf v) db

/-- How rows are named in a rehearsal. -/
def naming : Naming :=
  { run := fun n => "<run" ++ toString n ++ ">"
    step := fun n => "<step" ++ toString n ++ ">" }

/-- The time at which every rehearsal takes place. -/
def now : Timestamp := { year := 2026, month := 1, day := 1, offset := some 0 }

/-- Fails when an operation is among those that are down. -/
def failWhenDown (down : List String) (operation : String) : Act Database Unit :=
  if down.contains operation then throw (failing (operation ++ " down")) else pure ()

theorem failWhenDown_settles (down : List String) (operation : String) :
    (failWhenDown down operation).Settles := by
  rw [failWhenDown]
  split
  · exact .throw rfl
  · exact .pure _

/-- The store as what runs are recorded in, with some operations that are down. -/
def recorder (down : List String) : Run.Recorder Database :=
  let store := Store.recorder naming now
  { createRun := fun graphId initial => do
      failWhenDown down "create_run"
      store.createRun graphId initial
    createStep := fun run node order startedAt => do
      failWhenDown down "create_step"
      store.createStep run node order startedAt
    finishStep := fun step delta time => do
      failWhenDown down "finish_step"
      store.finishStep step delta time
    finishRun := fun run status final error time => do
      failWhenDown down "finish_run"
      store.finishRun run status final error time
    createStep_settles := fun _ _ _ _ =>
      (failWhenDown_settles _ _).bind fun _ => store.createStep_settles _ _ _ _
    finishStep_settles := fun _ _ _ =>
      (failWhenDown_settles _ _).bind fun _ => store.finishStep_settles _ _ _
    finishRun_settles := fun _ _ _ _ _ =>
      (failWhenDown_settles _ _).bind fun _ => store.finishRun_settles _ _ _ _ _ }

/-- The collaborators that workflows are assembled from. -/
def services : Services World :=
  { makeClient := makeClient, buildAgent := Agent.bounded, prepareImage := prepareImage }

/-- The tool server. -/
def server : Run.Server World := { connect := openServer, disconnect := closeServer }

/-- The runtime of a rehearsal. -/
def runtime (settings : Settings) (served : Bool) (load : String → Act Database (Option Snapshot))
    (down : List String) : Run.Runtime World Database :=
  { settings
    services
    server := if served then some server else none
    load
    recorder := recorder down
    clock := fun _ => now }

end AgentWorkflow.Rehearsal
