import AgentWorkflow.Node.Supervisor
import AgentWorkflow.Text.Order
import AgentWorkflow.Workflow.Assembly

/-!
Runs of a workflow in supersteps.

In a superstep every active node reads the same state. The nodes are begun, and what they write is
applied, in the order of their keys. The targets of the edges that leave them are active in the next
superstep. A run is over when no node is active, and it fails when it has taken all the supersteps
that it may take, even if nothing is left to do then.

A run leaves its history behind: every superstep with every invocation, whether the run succeeds or
not.
-/

namespace AgentWorkflow

variable {σ : Type}

/-- What one node did in a superstep: what it wrote and where its edges lead, or why it failed. -/
structure Invocation where
  key : String
  outcome : Except Failure (Delta × List Target)

/-- What the node wrote, or why it failed. -/
def Invocation.delta (invocation : Invocation) : Except Failure Delta :=
  invocation.outcome.map Prod.fst

/-- One superstep: the state that its nodes read, and what they did. -/
structure Superstep where
  input : State
  invocations : List Invocation

/-- A run that is over: its supersteps and its final state, or why it failed. -/
structure Course where
  supersteps : List Superstep
  outcome : Except Failure State

namespace Workflow

/-- The route that one decision names. Values that cannot be looked up at all are told apart from
values that name nothing. -/
def route (members : List String) : Value → Except Fault Target
  | .str key =>
    if members.contains key then .ok (.node key)
    else if key == endMark then .ok .finish
    else .error .missingKey
  | .list _ | .set _ | .object _ | .message _ | .edge _ _ => .error .wrongType
  | _ => .error .missingKey

/-- The decisions that a value holds: a list or a tuple holds several. -/
def decisions : Value → List Value
  | .list items => items
  | .tuple items => items
  | value => [value]

/-- The routes that a state calls for. -/
def routes? (members : List String) (state : State) : Except Fault (List Target) :=
  match Node.direction state with
  | .finished => .ok [.finish]
  | .toward decision => (decisions decision).mapM (route members)

/-- Where the edges of a node lead, given the state after its own writes. -/
def next (workflow : Workflow σ) (key : String) (state : State) : Except Fault (List Target) :=
  match workflow.routes.find? key with
  | none => .ok (workflow.targets key)
  | some members => (routes? members state).map (workflow.targets key ++ ·)

/-- Runs one node. A node whose deadline has passed is not begun. -/
def invoke (workflow : Workflow σ) (input : State) (task : Task σ) :
    Act σ (Delta × List Target) := do
  if Node.isPast task.seconds then
    throw (Node.timeOut task.key task.seconds .unanswered)
  let delta ← task.node.step input
  let targets ← Act.ofFault (workflow.next task.key (workflow.schema.apply input delta))
  return (delta, targets)

/-- Runs the nodes of a superstep to their ends. -/
def invokeEach (workflow : Workflow σ) (input : State) :
    List (Task σ) → StateM σ (List (Task σ × Except Failure (Delta × List Target)))
  | [] => return []
  | task :: tasks => do
    let outcome ← (workflow.invoke input task).run
    let outcomes ← invokeEach workflow input tasks
    return (task, outcome) :: outcomes

/-- The failure of an outcome that ends a superstep at once. -/
def immediateFailure? {α : Type} : Except Failure α → Option Failure
  | .error .unanswered => none
  | .error failure => some failure
  | .ok _ => none

/-- Whether an outcome is still waited for. -/
def isWaiting {α : Type} : Except Failure α → Bool
  | .error .unanswered => true
  | _ => false

/-- The deadline that passes first, of those that come before all others in the list. -/
def firstDeadline? {α : Type} : List (Task σ × Except Failure α) → Option (Task σ)
  | [] => none
  | (task, outcome) :: rest =>
    match isWaiting outcome, firstDeadline? rest with
    | false, other => other
    | true, none => some task
    | true, some other => some (if other.seconds < task.seconds then other else task)

/-- What becomes of the nodes that never end. They are cancelled when another node fails; otherwise
the first deadline passes, and that node is reported. -/
def settle (outcomes : List (Task σ × Except Failure (Delta × List Target))) : List Invocation :=
  let late? : Option (Task σ) :=
    if outcomes.any fun (_, outcome) => (immediateFailure? outcome).isSome then none
    else firstDeadline? outcomes
  outcomes.map fun (task, outcome) =>
    if isWaiting outcome then
      if late?.any fun late => late.key == task.key then
        ⟨task.key, .error (Node.timeOut task.key task.seconds .unanswered)⟩
      else ⟨task.key, .error .cancelled⟩
    else ⟨task.key, outcome⟩

/-- Runs a superstep. -/
def superstep (workflow : Workflow σ) (active : List String) (state : State) :
    StateM σ Superstep := do
  let input := workflow.schema.arrange state
  let tasks := (Text.sortedSet active).filterMap workflow.task?
  let outcomes ← workflow.invokeEach input tasks
  return ⟨input, settle outcomes⟩

end Workflow

/-- The first failure of a superstep, if there is one. A cancellation is one only when there is no
other. -/
def Superstep.failure? (superstep : Superstep) : Option Failure :=
  let failures := superstep.invocations.filterMap fun invocation =>
    match invocation.outcome with
    | .error failure => some failure
    | .ok _ => none
  (failures.find? Failure.isHandled).orElse fun _ => failures.head?

/-- What the nodes of a superstep wrote, in the order of their keys. -/
def Superstep.deltas (superstep : Superstep) : List Delta :=
  superstep.invocations.filterMap fun invocation => invocation.outcome.toOption.map Prod.fst

/-- The nodes that the edges of a superstep lead to. -/
def Superstep.targets (superstep : Superstep) : List String :=
  superstep.invocations.flatMap fun invocation =>
    match invocation.outcome with
    | .error _ => []
    | .ok (_, targets) => targets.filterMap fun
      | .node key => some key
      | .finish => none

namespace Workflow

/-- Goes on with a run for at most `limit` supersteps. -/
def advance (workflow : Workflow σ) : (limit : Nat) → (active : List String) → State →
    StateM σ Course
  | 0, _, _ => return ⟨[], .error (.fault .stepLimit)⟩
  | limit + 1, active, state =>
    if active.isEmpty then return ⟨[], .ok (workflow.schema.arrange state)⟩
    else do
      let superstep ← workflow.superstep active state
      match superstep.failure? with
      | some failure => return ⟨[superstep], .error failure⟩
      | none =>
        let course ← workflow.advance limit superstep.targets
          (superstep.deltas.foldl workflow.schema.apply state)
        return { course with supersteps := superstep :: course.supersteps }

/-- Runs a workflow from its entry. The limit on supersteps has to be above zero. -/
def run (workflow : Workflow σ) (limit : Int) (initial : State) : StateM σ Course :=
  if limit < 1 then return ⟨[], .error (.fault .badValue)⟩
  else workflow.advance limit.toNat [workflow.entry] (workflow.schema.apply [] initial)

end Workflow

end AgentWorkflow
