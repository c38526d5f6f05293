import AgentWorkflow.Store.Database

/-!
Runs and their steps in the store. Rows that are written are given names of their own; a row that
is refused uses no name up.
-/

namespace AgentWorkflow.Store

/-- How new rows are named, by their number. -/
structure Naming where
  run : Nat → String
  step : Nat → String

/-- Writes the row of a run that begins. -/
def createRun (naming : Naming) (now : Timestamp) (graphId : String) (initial : Value)
    (db : Database) : Except Fault (RunRow × Database) :=
  match Uuid.ofText? graphId with
  | none => .error .badValue
  | some graph => do
    let row : RunRow := { id := naming.run (db.runs.length + 1), graph, initial, startedAt := now }
    return (row, ← Database.checked { db with runs := db.runs ++ [row] })

/-- The row of a run. -/
def getRun (id : String) (db : Database) : Option RunRow := db.runs.find? fun row => row.id == id

/-- A run that is over. Whatever was written for its end before is replaced. -/
def RunRow.finish (row : RunRow) (status : Run.Status) (final : Value) (error : Option String)
    (time : Timestamp) : RunRow :=
  { row with status, final, error, finishedAt := some time }

/-- Writes the end of a run, and says whether there is such a run. The status has to be one. -/
def finishRun (id status : String) (final : Value) (error : Option String) (time : Timestamp)
    (db : Database) : Except Fault (Bool × Database) :=
  match getRun id db, Run.Status.ofWord? status with
  | none, _ => .ok (false, db)
  | some _, none => .error .brokenConstraint
  | some _, some status => do
    let runs := db.runs.map fun row =>
      if row.id == id then row.finish status final error time else row
    return (true, ← Database.checked { db with runs })

/-- Writes the row of a node that begins. -/
def createStep (naming : Naming) (run node : String) (order : Int) (startedAt : Timestamp)
    (db : Database) : Except Fault (StepRow × Database) := do
  let row : StepRow := { id := naming.step (db.steps.length + 1), run, node, order, startedAt }
  return (row, ← Database.checked { db with steps := db.steps ++ [row] })

/-- A node that is over. -/
def StepRow.finish (row : StepRow) (delta : Value) (time : Timestamp) : StepRow :=
  { row with delta, finishedAt := some time }

/-- Writes the end of a node, and says whether there is such a row. -/
def finishStep (id : String) (delta : Value) (time : Timestamp) (db : Database) :
    Except Fault (Bool × Database) :=
  if db.steps.any fun row => row.id == id then do
    let steps := db.steps.map fun row => if row.id == id then row.finish delta time else row
    return (true, ← Database.checked { db with steps })
  else .ok (false, db)

/-- Runs in the order in which they began. -/
def runsInOrder (db : Database) : List RunRow :=
  db.runs.mergeSort fun a b => a.startedAt.instant ≤ b.startedAt.instant

/-- The steps of a run in order. -/
def stepsOf (db : Database) (run : String) : List StepRow :=
  (db.steps.filter fun row => row.run == run).mergeSort fun a b => a.order ≤ b.order

/-- The store as what runs are recorded in. -/
def recorder (naming : Naming) (now : Timestamp) : Run.Recorder Database :=
  { createRun := fun graphId initial => do
      return (← transaction (createRun naming now graphId initial)).id
    createStep := fun run node order startedAt => do
      return (← transaction (createStep naming run node order startedAt)).id
    finishStep := fun step delta time => do
      let _ ← transaction (finishStep step delta time)
    finishRun := fun run status final error time => do
      let _ ← transaction (finishRun run status.word final error time)
    createStep_settles := fun _ _ _ _ => (transaction_settles _).bind fun _ => .pure _
    finishStep_settles := fun _ _ _ => (transaction_settles _).bind fun _ => .pure _
    finishRun_settles := fun _ _ _ _ _ => (transaction_settles _).bind fun _ => .pure _ }

end AgentWorkflow.Store
