import AgentWorkflow.Act
import AgentWorkflow.Run.Trace
import AgentWorkflow.State.Schema
import AgentWorkflow.Value.Plain

/-!
The record of a run: one row for the run, and one for every node that was begun.

A run is not begun before its row is written. Everything later is written as well as can be: a row
that cannot be written is given up, and the run goes on. Steps are numbered in the order in which
their nodes are begun, and a number is used up even if its row cannot be written.
-/

namespace AgentWorkflow.Run

/-- How far a run is. -/
inductive Status
  | running
  | completed
  | failed
  deriving DecidableEq, Repr, Inhabited

/-- The word for a status. -/
def Status.word : Status → String
  | .running => "running"
  | .completed => "completed"
  | .failed => "failed"

/-- The status that a word names. -/
def Status.ofWord? (word : String) : Option Status :=
  if word == "running" then some .running
  else if word == "completed" then some .completed
  else if word == "failed" then some .failed
  else none

/-- What rows are written to. Rows are known by identifiers. A write that follows the row of a run
may fail, but it is not cancelled, and it always answers. -/
structure Recorder (τ : Type) where
  createRun : (graphId : String) → (initial : Value) → Act τ String
  createStep : (run node : String) → (order : Nat) → (startedAt : Timestamp) → Act τ String
  finishStep : (step : String) → (delta : Value) → (finishedAt : Timestamp) → Act τ Unit
  finishRun : (run : String) → Status → (final : Value) → (error : Option String) →
    (finishedAt : Timestamp) → Act τ Unit
  createStep_settles : ∀ run node order startedAt, (createStep run node order startedAt).Settles
  finishStep_settles : ∀ step delta finishedAt, (finishStep step delta finishedAt).Settles
  finishRun_settles : ∀ run status final error finishedAt,
    (finishRun run status final error finishedAt).Settles

/-- What is remembered while a run is recorded. -/
structure Tracker where
  run : Option String := none
  /-- The number of the next step. -/
  nextOrder : Nat := 1
  /-- The rows of the nodes that are running, by what their events have in common. -/
  inFlight : Record String := []

namespace Tracker

variable {τ : Type}

/-- Takes the number of a step. -/
def takeOrder (tracker : Tracker) : Nat × Tracker :=
  (tracker.nextOrder, { tracker with nextOrder := tracker.nextOrder + 1 })

/-- Writes the row of a run that begins. -/
def start (recorder : Recorder τ) (tracker : Tracker) (graphId : String) (initial : State) :
    Act τ Tracker := do
  let run ← (recorder.createRun graphId (Value.plain (.object initial))).describe
    (Failure.causing fun cause => .persistence (.createRunFailed cause))
  return { tracker with run := some run }

/-- Writes a row as well as can be. A failure of the recorder is given up. Since its writes settle,
an interruption is never among them. -/
def attempt {α : Type} (write : Act τ α) : StateM τ (Option α) := do
  return (← write.run).toOption

/-- Writes the row of a node that begins. -/
def begin (recorder : Recorder τ) (run : String) (tracker : Tracker) (event : Event) :
    StateM τ Tracker := do
  let (order, tracker) := tracker.takeOrder
  match ← attempt (recorder.createStep run event.node order event.startedAt) with
  | some step => return { tracker with inFlight := tracker.inFlight.put event.id step }
  | none => return tracker

/-- Completes the row of a node that ends, if it has one. -/
def finish (recorder : Recorder τ) (tracker : Tracker) (event : Event) (delta : Value)
    (now : Timestamp) : StateM τ Tracker :=
  match tracker.inFlight.find? event.id with
  | none => return tracker
  | some step => do
    let _ ← attempt (recorder.finishStep step delta (event.endedAt.getD now))
    return { tracker with inFlight := tracker.inFlight.remove event.id }

/-- What is written for a node that failed: its error, and the state that it read. -/
def failureDelta (event : Event) : Value :=
  .object [("error", .ofText? event.error), ("state", event.state.plain)]

/-- Completes the row of a run. -/
def conclude (recorder : Recorder τ) (run : String) (event : Event) (now : Timestamp) :
    StateM τ Unit := do
  let time := event.endedAt.getD now
  let _ ←
    match event.error with
    | some error => attempt (recorder.finishRun run .failed .null (some error) time)
    | none => attempt (recorder.finishRun run .completed event.state.plain none time)

/-- Records one event of a run. -/
def record (recorder : Recorder τ) (now : Timestamp) (run : String) (tracker : Tracker)
    (event : Event) : StateM τ Tracker :=
  match event.kind with
  | .nodeStart => tracker.begin recorder run event
  | .nodeEnd => tracker.finish recorder event event.state.plain now
  | .nodeError => tracker.finish recorder event (failureDelta event) now
  | .graphEnd => do
    conclude recorder run event now
    return tracker

/-- Handles one event. There has to be a run that it belongs to. -/
def handle (recorder : Recorder τ) (now : Timestamp) (tracker : Tracker) (event : Event) :
    Act τ Tracker :=
  match tracker.run with
  | none => .fail (.persistence .notStarted)
  | some run => ExceptT.lift (tracker.record recorder now run event)

/-- What is left when the handling of events stops: why it stopped, if it failed, the tracker, and
the events that were not looked at. -/
structure Rest where
  outcome : Except Failure Unit
  tracker : Tracker
  left : List (Option Event)

/-- Handles events up to the end of all events. -/
def consume (recorder : Recorder τ) (now : Timestamp) (tracker : Tracker) :
    List (Option Event) → StateM τ Rest
  | [] => return ⟨.ok (), tracker, []⟩
  | none :: left => return ⟨.ok (), tracker, left⟩
  | some event :: left => do
    match ← (tracker.handle recorder now event).run with
    | .ok next => next.consume recorder now left
    | .error failure => return ⟨.error failure, tracker, left⟩

end Tracker

end AgentWorkflow.Run
