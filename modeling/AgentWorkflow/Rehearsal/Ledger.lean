import AgentWorkflow.Rehearsal.World
import AgentWorkflow.Run.Tracker

/-!
A ledger: a recorder that only lists what is written to it, and of which a part may be down.
-/

namespace AgentWorkflow.Rehearsal

/-- One write. -/
inductive Entry
  | createRun (graphId : String) (initial : Value)
  | createStep (run node : String) (order : Nat)
  | finishStep (step : String) (delta : Value) (time : Timestamp)
  | finishRun (run : String) (status : Run.Status) (final : Value) (error : Option String)
      (time : Timestamp)

/-- The name of the operation that makes a write. -/
def Entry.operation : Entry → String
  | .createRun _ _ => "create_run"
  | .createStep _ _ _ => "create_step"
  | .finishStep _ _ _ => "finish_step"
  | .finishRun _ _ _ _ _ => "finish_run"

/-- What is written to a ledger, and the operation that is down. When no session can be opened,
nothing is written; otherwise a write is listed even if it fails. -/
structure Ledger where
  entries : List Entry := []
  down : String := ""

namespace Ledger

/-- How many writes an operation has made. -/
def count (ledger : Ledger) (operation : String) : Nat :=
  (ledger.entries.filter fun entry => entry.operation == operation).length

/-- Lists a write. Rows are named by the operation and its count. -/
def write (entry : Entry) : Act Ledger String := do
  let ledger ← get
  if ledger.down == "session" then throw (failing "session down")
  else do
    let after := { ledger with entries := ledger.entries ++ [entry] }
    set after
    if ledger.down == entry.operation then throw (failing (entry.operation ++ " down"))
    else return entry.operation ++ "-" ++ toString (after.count entry.operation)

theorem write_settles (entry : Entry) : (write entry).Settles := by
  refine Act.Settles.bind (by rintro _ _ ⟨⟩) fun ledger => ?_
  split
  · exact Act.Settles.throw rfl
  refine Act.Settles.bind (by rintro _ _ ⟨⟩) fun _ => ?_
  split
  · exact Act.Settles.throw rfl
  · exact Act.Settles.pure _

/-- The ledger as a recorder. -/
def recorder : Run.Recorder Ledger :=
  { createRun := fun graphId initial => write (.createRun graphId initial)
    createStep := fun run node order _ => write (.createStep run node order)
    finishStep := fun step delta time => do
      let _ ← write (.finishStep step delta time)
    finishRun := fun run status final error time => do
      let _ ← write (.finishRun run status final error time)
    createStep_settles := fun _ _ _ _ => write_settles _
    finishStep_settles := fun _ _ _ => (write_settles _).bind fun _ => .pure _
    finishRun_settles := fun _ _ _ _ _ => (write_settles _).bind fun _ => .pure _ }

end Ledger

end AgentWorkflow.Rehearsal
