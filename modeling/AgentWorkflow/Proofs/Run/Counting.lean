import AgentWorkflow.Proofs.Node.Metering
import AgentWorkflow.Proofs.Run.History
import Mathlib.Algebra.Ring.Nat

/-!
# Runs that count calls

The calls of one node are counted by giving it another step, which does the same on the wider world
and counts, while the steps of all other nodes leave the count alone. Such a workflow runs as it did
before, and it counts no more calls than the node may make in the supersteps that it takes part in.

## Main definitions

* `Workflow.counting`: a workflow one of whose nodes has a step that counts
* `Superstep.allowed`: how many calls a node may make in a superstep

## Main results

* `Workflow.Runs.counting`: a workflow runs alike when calls are counted, and how many there are
-/

namespace AgentWorkflow

variable {σ : Type} {workflow : Workflow σ} {input state : State} {tasks : List (Task σ)}
  {task : Task σ} {active : List String} {superstep : Superstep} {limit : Nat} {course : Course}
  {before after : σ} {key : String} {step : Node.Step (σ × Nat)} {most : State → Nat}

/-- The step of one node counts, and all others work on the world alone. -/
def Task.counting (key : String) (step : Node.Step (σ × Nat)) (task : Task σ) :
    Task (σ × Nat) where
  node := {
    key := task.key
    description := task.node.description
    step := if task.key = key then step else fun state => (task.node.step state).onFirst }
  seconds := task.seconds

/-- A workflow one of whose nodes has a step that counts. -/
def Workflow.counting (workflow : Workflow σ) (key : String) (step : Node.Step (σ × Nat)) :
    Workflow (σ × Nat) where
  entry := workflow.entry
  tasks := workflow.tasks.map (Task.counting key step)
  edges := workflow.edges
  routes := workflow.routes
  schema := workflow.schema

/-- How many calls a node may make in a superstep, if it takes part. -/
def Superstep.allowed (key : String) (most : State → Nat) (superstep : Superstep) : Nat :=
  if key ∈ superstep.invocations.map Invocation.key then most superstep.input else 0

namespace Workflow

theorem task?_counting (workflow : Workflow σ) (key : String) (step : Node.Step (σ × Nat))
    (other : String) :
    (workflow.counting key step).task? other = (workflow.task? other).map (.counting key step) := by
  rw [task?, task?, counting, List.find?_map]
  rfl

/-! ### One node -/

/-- The counting step does what the step of the node does, and counts at most so many calls. -/
def Counts (key : String) (step : Node.Step (σ × Nat)) (most : State → Nat) (task : Task σ) :
    Prop :=
  task.key = key → ∀ input, Act.Meters (step input) (task.node.step input) (most input)

theorem Counts.meters_step (counts : Counts key step most task) (input : State) :
    Act.Meters ((task.counting key step).node.step input) (task.node.step input)
      (if task.key = key then most input else 0) := by
  rw [Task.counting]
  dsimp only
  by_cases here : task.key = key
  · rw [if_pos here, if_pos here]
    exact counts here input
  · rw [if_neg here, if_neg here]
    exact Act.meters_onFirst _

/-- Invoking a node comes to the same when calls are counted. -/
theorem Counts.meters_invoke (counts : Counts key step most task) (workflow : Workflow σ)
    (input : State) :
    Act.Meters ((workflow.counting key step).invoke input (task.counting key step))
      (workflow.invoke input task) (if task.key = key then most input else 0) := by
  intro world calls
  by_cases past : Node.isPast task.seconds = true
  · -- the node is not begun
    refine ⟨0, Nat.zero_le _, ?_⟩
    rw [outcome_invoke_of_isPast _ _ _ _ past, outcome_invoke_of_isPast]
    · rfl
    · exact past
  · have begun' : Node.isPast task.seconds = false := by simpa using past
    have begun : Node.isPast (task.counting key step).seconds = false := begun'
    obtain ⟨made, bound, same⟩ := counts.meters_step input world calls
    refine ⟨made, bound, ?_⟩
    rw [outcome_invoke _ _ _ _ begun, outcome_invoke _ _ _ _ begun', same]
    rcases (task.node.step input).outcome world with ⟨failure | delta, after⟩
    · rfl
    · have led : (workflow.counting key step).next (task.counting key step).key
            ((workflow.counting key step).schema.apply input delta) =
          workflow.next task.key (workflow.schema.apply input delta) := rfl
      dsimp only
      rw [led]
      cases workflow.next task.key (workflow.schema.apply input delta) <;> rfl

/-! ### A superstep -/

theorem Invokes.counting {outcomes : List (Task σ × Outcome)}
    (invokes : workflow.Invokes input tasks before outcomes after)
    (counts : ∀ task ∈ tasks, Counts key step most task)
    (distinct : (tasks.map Task.key).Nodup) (calls : Nat) :
    ∃ made ≤ if key ∈ tasks.map Task.key then most input else 0,
      (workflow.counting key step).Invokes input (tasks.map (Task.counting key step))
        (before, calls) (outcomes.map (Prod.map (Task.counting key step) id))
        (after, calls + made) := by
  induction invokes generalizing calls with
  | nil => exact ⟨0, Nat.zero_le _, .nil⟩
  | @cons task tasks outcome outcomes before middle after first rest ih =>
    rw [List.map_cons, List.nodup_cons] at distinct
    obtain ⟨made, bound, same⟩ :=
      (counts task List.mem_cons_self).meters_invoke workflow input before calls
    obtain ⟨later, bound', invokes⟩ := ih (fun task member => counts task (.tail _ member))
      distinct.2 (calls + made)
    rw [first] at same
    refine ⟨made + later, ?_, .cons same ?_⟩
    · -- the node that counts is invoked once at most
      by_cases here : task.key = key
      · have alone : key ∉ tasks.map Task.key := here ▸ distinct.1
        have taken : key ∈ (task :: tasks).map Task.key := here ▸ List.mem_cons_self
        rw [if_pos here] at bound
        rw [if_neg alone] at bound'
        rw [if_pos taken]
        omega
      · rw [if_neg here] at bound
        by_cases there : key ∈ tasks.map Task.key
        · rw [if_pos there] at bound'
          rw [List.map_cons, if_pos (List.mem_cons_of_mem _ there)]
          omega
        · rw [if_neg there] at bound'
          omega
    · rw [← Nat.add_assoc]
      exact invokes

theorem firstDeadline?_counting (outcomes : List (Task σ × Outcome)) :
    firstDeadline? (outcomes.map (Prod.map (Task.counting key step) id)) =
      (firstDeadline? outcomes).map (Task.counting key step) := by
  induction outcomes with
  | nil => rfl
  | cons pair outcomes ih =>
    obtain ⟨task, outcome⟩ := pair
    rw [List.map_cons, Prod.map_apply, id_eq, firstDeadline?, firstDeadline?, ih]
    cases isWaiting outcome with
    | false => rfl
    | true =>
      cases firstDeadline? outcomes with
      | none => rfl
      | some other =>
        exact congrArg some (apply_ite (Task.counting key step) (other.seconds < task.seconds)
          other task).symm

/-- What is recorded of the nodes is the same. -/
theorem settle_counting (outcomes : List (Task σ × Outcome)) :
    settle (outcomes.map (Prod.map (Task.counting key step) id)) = settle outcomes := by
  have fails : (outcomes.map (Prod.map (Task.counting key step) id)).any
        (fun pair => (immediateFailure? pair.2).isSome) =
      outcomes.any fun pair => (immediateFailure? pair.2).isSome := by
    rw [List.any_map]
    rfl
  have late : (if outcomes.any fun pair => (immediateFailure? pair.2).isSome then none
        else (firstDeadline? outcomes).map (Task.counting key step)) =
      (if outcomes.any fun pair => (immediateFailure? pair.2).isSome then none
        else firstDeadline? outcomes).map (Task.counting key step) := by
    split_ifs <;> rfl
  simp only [settle, firstDeadline?_counting, fails, late, List.map_map, Option.any_map]
  rfl

/-- A superstep is taken alike, and the node that counts makes no more calls than it may. -/
theorem Takes.counting (takes : workflow.Takes active state before superstep after)
    (counts : ∀ task, workflow.task? key = some task → Counts key step most task) (calls : Nat) :
    ∃ made ≤ superstep.allowed key most,
      (workflow.counting key step).Takes active state (before, calls) superstep
        (after, calls + made) := by
  obtain ⟨outcomes, invokes, rfl⟩ := takes_iff.mp takes
  -- a task that takes part is the one that its key finds
  have begun : ∀ task ∈ (Text.sortedSet active).filterMap workflow.task?,
      Counts key step most task := by
    intro task member here
    obtain ⟨_, -, found⟩ := List.mem_filterMap.mp member
    rw [← key_of_task? found, here] at found
    exact counts task found here
  have distinct : (((Text.sortedSet active).filterMap workflow.task?).map Task.key).Nodup := by
    rw [map_key_filterMap_task?]
    exact (Text.nodup_sortedSet _).filter _
  obtain ⟨made, bound, counted⟩ := invokes.counting begun distinct calls
  have tasks : (Text.sortedSet active).filterMap (workflow.counting key step).task? =
      ((Text.sortedSet active).filterMap workflow.task?).map (Task.counting key step) := by
    rw [List.map_filterMap]
    exact List.filterMap_congr fun other _ => task?_counting _ _ _ other
  refine ⟨made, ?_, takes_iff.mpr
    ⟨outcomes.map (Prod.map (Task.counting key step) id), ?_, ?_⟩⟩
  · rw [Superstep.allowed, invokes.keys_settle]
    exact bound
  · rw [tasks]
    exact counted
  · rw [settle_counting]
    rfl

/-! ### A run -/

/-- A workflow runs alike when calls are counted, and there are no more calls than the node may
make in the supersteps. -/
theorem Runs.counting (runs : workflow.Runs limit active state before course after)
    (counts : ∀ task, workflow.task? key = some task → Counts key step most task) (calls : Nat) :
    ∃ made ≤ (course.supersteps.map (Superstep.allowed key most)).sum,
      (workflow.counting key step).Runs limit active state (before, calls) course
        (after, calls + made) := by
  induction runs generalizing calls with
  | exhausted => exact ⟨0, Nat.zero_le _, .exhausted⟩
  | finished => exact ⟨0, Nat.zero_le _, .finished⟩
  | failed active_ne takes failed =>
    obtain ⟨made, bound, counted⟩ := takes.counting counts calls
    exact ⟨made, by simpa using bound, .failed active_ne counted failed⟩
  | continued active_ne takes passed _ ih =>
    obtain ⟨made, bound, counted⟩ := takes.counting counts calls
    obtain ⟨later, bound', rest⟩ := ih (calls + made)
    refine ⟨made + later, ?_, .continued active_ne counted passed ?_⟩
    · rw [List.map_cons, List.sum_cons]
      omega
    · rw [← Nat.add_assoc]
      exact rest

end Workflow

end AgentWorkflow
