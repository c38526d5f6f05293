import AgentWorkflow.Act
import AgentWorkflow.Run.Tracker
import AgentWorkflow.Uuid

/-!
The tables of the store, and the constraints on their rows.

The constraints are stated for the database as a whole. A change is made by computing the database
after it, which is kept only if it is consistent.
-/

namespace AgentWorkflow.Store

/-- A chat model. -/
structure ModelRow where
  id : Uuid
  provider : String
  name : String

/-- A tool of the tool server. Schemas are any JSON. -/
structure ToolRow where
  id : Uuid
  name : String
  description : String := ""
  inputSchema : Value := .object []
  outputSchema : Value := .object []

/-- A graph. -/
structure GraphRow where
  id : Uuid
  name : String
  entry : String
  stateSchema : Value := .null

/-- A node of a graph. -/
structure NodeRow where
  id : Uuid
  graph : Uuid
  key : String
  type : String
  config : Value := .object []
  inputKey : Option String := none
  outputKey : Option String := none
  model : Option Uuid := none

/-- A tool that a node may call. -/
structure NodeToolRow where
  node : Uuid
  tool : Uuid
  deriving DecidableEq

/-- An edge of a graph. -/
structure EdgeRow where
  graph : Uuid
  source : String
  target : String
  deriving DecidableEq

/-- A run of a graph. -/
structure RunRow where
  id : String
  graph : Uuid
  status : Run.Status := .running
  initial : Value
  final : Value := .null
  error : Option String := none
  startedAt : Timestamp
  finishedAt : Option Timestamp := none

/-- A node that was begun in a run. -/
structure StepRow where
  id : String
  run : String
  node : String
  order : Int
  delta : Value := .null
  startedAt : Timestamp
  finishedAt : Option Timestamp := none

/-- All tables. Rows are kept in the order in which they were written. -/
structure Database where
  models : List ModelRow := []
  tools : List ToolRow := []
  graphs : List GraphRow := []
  nodes : List NodeRow := []
  nodeTools : List NodeToolRow := []
  edges : List EdgeRow := []
  runs : List RunRow := []
  steps : List StepRow := []

/-- Whether no two rows agree in what is taken from them. -/
def distinctBy {α β : Type} [BEq β] (key : α → β) : List α → Bool
  | [] => true
  | row :: rows => !rows.any (fun other => key other == key row) && distinctBy key rows

/-- Whether nothing is finished before it is started. -/
def inOrder (started : Timestamp) : Option Timestamp → Bool
  | none => true
  | some finished => started.instant ≤ finished.instant

namespace Database

/-- Identifiers, names and keys that have to be unique are unique. -/
def isUnique (db : Database) : Bool :=
  distinctBy ModelRow.id db.models && distinctBy (fun row => (row.provider, row.name)) db.models &&
    distinctBy ToolRow.id db.tools && distinctBy ToolRow.name db.tools &&
    distinctBy GraphRow.id db.graphs && distinctBy NodeRow.id db.nodes &&
    distinctBy (fun row => (row.graph, row.key)) db.nodes && distinctBy id db.nodeTools &&
    distinctBy id db.edges && distinctBy RunRow.id db.runs && distinctBy StepRow.id db.steps &&
    distinctBy (fun row => (row.run, row.order)) db.steps

/-- Rows that are referred to exist. -/
def isClosed (db : Database) : Bool :=
  (db.nodes.all fun row =>
    (db.graphs.any fun graph => graph.id == row.graph) &&
      row.model.all fun model => db.models.any fun other => other.id == model) &&
  (db.nodeTools.all fun row =>
    (db.nodes.any fun node => node.id == row.node) &&
      db.tools.any fun tool => tool.id == row.tool) &&
  (db.edges.all fun row => db.graphs.any fun graph => graph.id == row.graph) &&
  (db.runs.all fun row => db.graphs.any fun graph => graph.id == row.graph) &&
  db.steps.all fun row => db.runs.any fun run => run.id == row.run

/-- The types that a node may have. -/
def nodeTypes : List String := ["worker", "supervisor", "tool"]

/-- Every row by itself is as it may be. -/
def isSound (db : Database) : Bool :=
  (db.nodes.all fun row => nodeTypes.contains row.type) &&
  (db.edges.all fun row => row.source != "END" && row.source != row.target) &&
  (db.runs.all fun row => inOrder row.startedAt row.finishedAt) &&
  db.steps.all fun row => 0 < row.order && inOrder row.startedAt row.finishedAt

/-- Whether all constraints hold. -/
def isConsistent (db : Database) : Bool := db.isUnique && db.isClosed && db.isSound

/-- A database that is kept if it is consistent. -/
def checked (db : Database) : Except Fault Database :=
  if db.isConsistent then .ok db else .error .brokenConstraint

end Database

/-- A change of the database. It is kept as a whole or not at all. -/
def transaction {α : Type} (change : Database → Except Fault (α × Database)) : Act Database α :=
  ExceptT.mk fun db =>
    match change db with
    | .ok (a, next) => (.ok a, next)
    | .error fault => (.error (.fault fault), db)

/-- A transaction fails with a fault, if it does. -/
theorem transaction_settles {α : Type} (change : Database → Except Fault (α × Database)) :
    (transaction change).Settles := by
  intro db failure fails
  change (match change db with
    | .ok (a, next) => (.ok a, next)
    | .error fault => (.error (.fault fault), db) : Except Failure α × Database).1 = _ at fails
  cases made : change db with
  | ok made' =>
    rw [made] at fails
    cases fails
  | error fault =>
    rw [made] at fails
    cases fails
    rfl

end AgentWorkflow.Store
