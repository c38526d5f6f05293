import AgentWorkflow.Run.Superstep
import AgentWorkflow.Run.Tracker

/-!
Executions: a stored graph is loaded, run once, and recorded.

The row of the run is written before anything else is done for it. Then the snapshot is checked, the
connection to the tool server is opened, and the workflow is assembled and run; the connection is
closed whatever comes of it. What happened is told as notices, which become events, which become
rows. Whatever is wrong leaves an execution as an error of the library, or as a cancellation.

The collaborators of a run and the store are worlds of their own. Nothing that is written to the
store after the start has an effect on the run, so the events are recorded when it is over.
-/

namespace AgentWorkflow.Run

variable {σ τ : Type}

/-- A tool server: how the connection to it is opened and closed. -/
structure Server (σ : Type) where
  connect : Act σ (Tool.Transport σ)
  disconnect : Act σ Unit

/-- What the runtime consists of. -/
structure Runtime (σ τ : Type) where
  settings : Settings
  services : Services σ
  server : Option (Server σ)
  load : (graphId : String) → Act τ (Option Snapshot)
  recorder : Recorder τ
  /-- The time of each notice of a run. -/
  clock : Nat → Timestamp

/-- The name of the run itself among all that begins and ends. -/
def rootId : String := "run"

/-- The name of an invocation among all that begins and ends. -/
def invocationId (superstep place : Nat) : String := toString superstep ++ "." ++ toString place

/-- The notice that a node begins. -/
def beginning (superstep : Nat) (input : State) (invocation : Invocation) (place : Nat) : Notice :=
  .started (invocationId superstep place) (some rootId) (some invocation.key) (some invocation.key)
    (.object input)

/-- The notice that a node ends. -/
def ending (superstep : Nat) (invocation : Invocation) (place : Nat) : Notice :=
  match invocation.outcome with
  | .ok (delta, _) => .ended (invocationId superstep place) (.object delta)
  | .error failure => .failed (invocationId superstep place) failure.text

/-- The notices of a superstep: all its nodes begin before any of them ends. -/
def superstepNotices (superstep : Superstep) (place : Nat) : List Notice :=
  let invocations := superstep.invocations.zipIdx
  invocations.map (fun (invocation, i) => beginning place superstep.input invocation i) ++
    invocations.map fun (invocation, i) => ending place invocation i

/-- The notices of a run. -/
def courseNotices (supersteps : List Superstep) : List Notice :=
  .started rootId none none none .null ::
    supersteps.zipIdx.flatMap fun (superstep, i) => superstepNotices superstep i

/-- The notice that a run is over. -/
def conclusion : Except Failure State → Notice
  | .ok state => .finished (.object state) none
  | .error .cancelled => .finished .null (some "run cancelled")
  | .error failure => .finished .null (some failure.text)

/-- The error that leaves an execution: faults are wrapped, and name the run. -/
def outward (run : String) : Failure → Failure :=
  Failure.faultCausing fun cause => .execution (.runFailed run cause)

/-- Assembles a workflow and runs it. A workflow that cannot be assembled takes no supersteps. -/
def perform (runtime : Runtime σ τ) (snapshot : Snapshot) (transport : Option (Tool.Transport σ))
    (initial : State) : StateM σ Course := do
  let assembled ← (Workflow.assemble runtime.settings runtime.services (some snapshot) transport
    (Record.keys initial)).run
  match assembled with
  | .error failure => return ⟨[], .error failure⟩
  | .ok workflow => workflow.run runtime.settings.recursionLimit initial

/-- Opens the connection to the tool server for a run and closes it again. A connection that cannot
be closed fails the run. While an answer is awaited it stays open. -/
def performWith (runtime : Runtime σ τ) (snapshot : Snapshot) (server : Server σ)
    (initial : State) : StateM σ Course := do
  match ← server.connect.run with
  | .error failure => return ⟨[], .error failure⟩
  | .ok transport =>
    let course ← perform runtime snapshot (some transport) initial
    if Workflow.isWaiting course.outcome then return course
    match ← server.disconnect.run with
    | .ok () => return course
    | .error failure => return { course with outcome := .error failure }

/-- Checks a snapshot and runs it. Nothing is opened for a snapshot that does not pass. -/
def conduct (runtime : Runtime σ τ) (snapshot : Snapshot) (initial : State) : StateM σ Course :=
  match validate (some snapshot) with
  | .error failure => return ⟨[], .error failure⟩
  | .ok _ =>
    match runtime.server with
    | none => perform runtime snapshot none initial
    | some server => performWith runtime snapshot server initial

/-- The notices of a run. It is never said to be over if it waits for an answer that never comes. -/
def notices (course : Course) : List Notice :=
  courseNotices course.supersteps ++
    if Workflow.isWaiting course.outcome then [] else [conclusion course.outcome, .closed]

/-- Records what happened in a run. -/
def recordCourse (runtime : Runtime σ τ) (tracker : Tracker) (course : Course) : Act τ Unit := do
  let events := Publisher.events runtime.clock 0 {} (notices course)
  let rest ← ExceptT.lift (tracker.consume runtime.recorder (runtime.clock events.length) events)
  Act.ofExcept rest.outcome

/-- Runs a stored graph once from an initial state, and gives the final state. -/
def execute (runtime : Runtime σ τ) (graphId : String) (initial : State) :
    Act (σ × τ) State := do
  match ← Act.onSecond (runtime.load graphId) with
  | none => .fail (.snapshot (.graphNotFound graphId))
  | some snapshot =>
    let tracker ← Act.onSecond (Tracker.start runtime.recorder {} graphId initial)
    let course ← Act.onFirst (ExceptT.lift (conduct runtime snapshot initial))
    Act.onSecond (recordCourse runtime tracker course)
    Act.ofExcept (course.outcome.mapError (outward (tracker.run.getD "")))

end AgentWorkflow.Run
