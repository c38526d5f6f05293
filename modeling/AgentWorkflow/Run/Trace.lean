import AgentWorkflow.Value.Basic

/-!
Events in the life of a run, as they are told to whoever records it.

The engine gives notice of everything that begins and ends: the run itself, its nodes, and whatever
runs inside a node. A `Publisher` picks the nodes out of this: a node is begun directly under the
first run that has no parent, and has a name that is not one of the engine's own. The end of a node
is told once, with the time and the input of its start.
-/

namespace AgentWorkflow.Run

/-- What an event is about. -/
inductive EventKind
  | nodeStart
  | nodeEnd
  | nodeError
  | graphEnd
  deriving DecidableEq, Repr

/-- An event. Its state is the input of a node that starts or fails, the output of a node that ends,
or the final state of the run. -/
structure Event where
  kind : EventKind
  /-- What a start has in common with its end. -/
  id : String := ""
  node : String := ""
  startedAt : Timestamp
  endedAt : Option Timestamp := none
  state : Value := .null
  error : Option String := none

/-- What is told about something that begins or ends. -/
inductive Notice
  | started (id : String) (parent : Option String) (node name : Option String) (input : Value)
  | ended (id : String) (output : Value)
  | failed (id : String) (error : String)
  | finished (state : Value) (error : Option String)
  | closed

/-- A node that has been begun and not ended. -/
structure Running where
  node : String
  input : Value
  startedAt : Timestamp

/-- What a publisher remembers. -/
structure Publisher where
  /-- The first run without a parent. -/
  root : Option String := none
  running : Record Running := []
  closed : Bool := false

namespace Publisher

/-- How the names of the engine's own nodes begin. -/
def internalMark : String := "__"

/-- The name of a node: the one it was given as a node, or else the one it runs under. -/
def nameOf (node name : Option String) : String :=
  ((node.filter (· != "")).orElse fun _ => name).getD ""

/-- Whether nodes with a name are told about. -/
def isPublic (name : String) : Bool := name != "" && !name.startsWith internalMark

/-- Tells an event, unless the publisher is closed. `none` is the end of all events. -/
def tell (publisher : Publisher) (event : Option Event) : List (Option Event) :=
  if publisher.closed then [] else [event]

/-- A node that begins. -/
def begin (publisher : Publisher) (now : Timestamp) (id name : String) (input : Value) :
    Publisher × List (Option Event) :=
  let running := publisher.running.put id { node := name, input, startedAt := now }
  ({ publisher with running },
    publisher.tell (some
      { kind := .nodeStart, id, node := name, startedAt := now, state := input }))

/-- A node that ends, if one is running. -/
def finish (publisher : Publisher) (id : String) (event : Running → Event) :
    Publisher × List (Option Event) :=
  match publisher.running.find? id with
  | none => (publisher, [])
  | some node =>
    ({ publisher with running := publisher.running.remove id }, publisher.tell (some (event node)))

/-- Takes a notice, and tells the events that follow from it. -/
def step (now : Timestamp) (publisher : Publisher) : Notice → Publisher × List (Option Event)
  | .started id none _ _ _ =>
    ({ publisher with root := publisher.root.orElse fun _ => some id }, [])
  | .started id (some parent) node name input =>
    if publisher.root == some parent && isPublic (nameOf node name) then
      publisher.begin now id (nameOf node name) input
    else (publisher, [])
  | .ended id output =>
    publisher.finish id fun node =>
      { kind := .nodeEnd, id, node := node.node, startedAt := node.startedAt, endedAt := some now,
        state := output }
  | .failed id error =>
    publisher.finish id fun node =>
      { kind := .nodeError, id, node := node.node, startedAt := node.startedAt, endedAt := some now,
        state := node.input, error := some error }
  | .finished state error =>
    (publisher,
      publisher.tell
        (some { kind := .graphEnd, startedAt := now, endedAt := some now, state, error }))
  | .closed => ({ publisher with closed := true }, publisher.tell none)

/-- The events that follow from notices, taken from a time on. `clock` says when the notice at a
place is given. -/
def events (clock : Nat → Timestamp) (place : Nat) (publisher : Publisher) :
    List Notice → List (Option Event)
  | [] => []
  | notice :: notices =>
    let (next, told) := publisher.step (clock place) notice
    told ++ events clock (place + 1) next notices

end Publisher

end AgentWorkflow.Run
