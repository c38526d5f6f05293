import AgentWorkflow.Proofs.Outcome
import AgentWorkflow.Proofs.State.Schema
import AgentWorkflow.Run.Superstep

/-!
# The history of a run

A run takes supersteps until nothing is active, a superstep fails, or its limit is reached. The
world is threaded through the nodes of a superstep and through the supersteps. What each node did
came of invoking it on the state that the superstep read, in the world that the nodes before it had
left; only a node that never ends is reported as late or as cancelled.

## Main definitions

* `Workflow.Runs`: a run as a relation between the worlds before and after it
* `Workflow.Records`: a superstep holds what came of invoking each of its nodes
* `Superstep.leaves`: the state that a superstep leaves
* `Course.states`: the states that the supersteps of a run read, and the one it ends with

## Main results

* `Workflow.run_eq_iff`: running a workflow is such a run
* `Workflow.Runs.records`: every superstep of a run holds what came of invoking its nodes
* `Workflow.Runs.eq_leaves_of_states`: each state of a run is what the superstep before it left
-/

namespace AgentWorkflow

variable {σ : Type} {workflow : Workflow σ} {input state : State} {tasks : List (Task σ)}
  {task : Task σ} {active : List String} {superstep : Superstep} {limit : Nat} {course : Course}
  {world before after : σ} {invocation : Invocation} {schema : Schema}

/-- What comes of a node: what it wrote and where its edges lead, or why it failed. -/
abbrev Outcome := Except Failure (Delta × List Target)

namespace Workflow

/-! ### One node -/

/-- What comes of invoking a node: its step, and where its edges lead from what it wrote. -/
theorem outcome_invoke (workflow : Workflow σ) (input : State) (task : Task σ) (before : σ)
    (begun : Node.isPast task.seconds = false) :
    (workflow.invoke input task).outcome before =
      match (task.node.step input).outcome before with
      | (.error failure, after) => (.error failure, after)
      | (.ok delta, after) =>
        match workflow.next task.key (workflow.schema.apply input delta) with
        | .ok targets => (.ok (delta, targets), after)
        | .error fault => (.error (.fault fault), after) := by
  rw [invoke, begun]
  simp only [Bool.false_eq_true, ↓reduceIte, Act.outcome_bind]
  rcases (task.node.step input).outcome before with ⟨_ | delta, after⟩
  · rfl
  · dsimp only
    cases workflow.next task.key (workflow.schema.apply input delta) <;> rfl

/-- A node that ends well, and whose edges lead somewhere from what it wrote. -/
theorem outcome_invoke_of_gives {delta : Delta} {targets : List Target}
    (begun : Node.isPast task.seconds = false)
    (gives : (task.node.step input).Gives before delta after)
    (leads : workflow.next task.key (workflow.schema.apply input delta) = .ok targets) :
    (workflow.invoke input task).outcome before = (.ok (delta, targets), after) := by
  rw [outcome_invoke _ _ _ _ begun, gives]
  dsimp only
  rw [leads]

theorem outcome_invoke_of_isPast (workflow : Workflow σ) (input : State) (task : Task σ)
    (before : σ) (past : Node.isPast task.seconds = true) :
    (workflow.invoke input task).outcome before =
      (.error (Node.timeOut task.key task.seconds .unanswered), before) := by
  rw [invoke, past]
  rfl

/-! ### The nodes of a superstep -/

/-- The nodes of a superstep were invoked one after another. -/
inductive Invokes (workflow : Workflow σ) (input : State) :
    List (Task σ) → σ → List (Task σ × Outcome) → σ → Prop
  | nil {world : σ} : Invokes workflow input [] world [] world
  | cons {task : Task σ} {tasks : List (Task σ)} {outcome : Outcome}
      {outcomes : List (Task σ × Outcome)} {before middle after : σ}
      (first : (workflow.invoke input task).outcome before = (outcome, middle))
      (rest : Invokes workflow input tasks middle outcomes after) :
      Invokes workflow input (task :: tasks) before ((task, outcome) :: outcomes) after

theorem invokes_iff {outcomes : List (Task σ × Outcome)} :
    workflow.Invokes input tasks before outcomes after ↔
      ((workflow.invokeEach input tasks).run before).run = (outcomes, after) := by
  constructor
  · intro invokes
    induction invokes with
    | nil => rfl
    | @cons task tasks outcome outcomes before middle after first rest ih =>
      have one : ((workflow.invoke input task).run.run before).run = (outcome, middle) := first
      simp only [invokeEach, StateT.run_bind, Id.run_bind, one, ih]
      rfl
  · intro ran
    induction tasks generalizing before outcomes with
    | nil =>
      cases ran
      exact .nil
    | cons task tasks ih =>
      cases ran
      exact .cons rfl (ih rfl)

/-- Every outcome came of invoking its node in some world. -/
theorem Invokes.exists_outcome {outcomes : List (Task σ × Outcome)} {outcome : Outcome}
    (invokes : workflow.Invokes input tasks before outcomes after)
    (member : (task, outcome) ∈ outcomes) :
    ∃ world, ((workflow.invoke input task).outcome world).1 = outcome := by
  induction invokes with
  | nil => cases member
  | cons first rest ih =>
    rcases List.mem_cons.mp member with same | later
    · cases same
      exact ⟨_, congrArg Prod.fst first⟩
    · exact ih later

theorem Invokes.map_fst {outcomes : List (Task σ × Outcome)}
    (invokes : workflow.Invokes input tasks before outcomes after) :
    outcomes.map Prod.fst = tasks := by
  induction invokes with
  | nil => rfl
  | cons first rest ih => rw [List.map_cons, ih]

/-! ### What is recorded of them -/

/-- An outcome is recorded as it is, unless the node never ends. -/
def RecordedAs (outcome recorded : Outcome) : Prop :=
  recorded = outcome ∨ outcome = .error .unanswered ∧ ∃ failure, recorded = .error failure

theorem isWaiting_iff {α : Type} {outcome : Except Failure α} :
    isWaiting outcome = true ↔ outcome = .error .unanswered := by
  constructor
  · intro waiting
    unfold isWaiting at waiting
    split at waiting
    · rfl
    · cases waiting
  · rintro rfl
    rfl

theorem exists_of_mem_settle {outcomes : List (Task σ × Outcome)}
    (member : invocation ∈ settle outcomes) :
    ∃ task outcome, (task, outcome) ∈ outcomes ∧ invocation.key = task.key ∧
      RecordedAs outcome invocation.outcome := by
  rw [settle] at member
  obtain ⟨⟨task, outcome⟩, among, same⟩ := List.mem_map.mp member
  refine ⟨task, outcome, among, ?_⟩
  dsimp only at same
  by_cases waiting : isWaiting outcome = true
  · rw [if_pos waiting] at same
    -- whether it is late or cancelled, it has failed
    generalize Option.any _ _ = late at same
    cases late <;>
    · rw [← same]
      exact ⟨rfl, Or.inr ⟨isWaiting_iff.mp waiting, _, rfl⟩⟩
  · rw [if_neg waiting] at same
    rw [← same]
    exact ⟨rfl, Or.inl rfl⟩

/-- What is recorded stands under the keys of the nodes that were invoked. -/
theorem Invokes.keys_settle {outcomes : List (Task σ × Outcome)}
    (invokes : workflow.Invokes input tasks before outcomes after) :
    (settle outcomes).map Invocation.key = tasks.map Task.key := by
  rw [← invokes.map_fst, settle, List.map_map, List.map_map]
  refine List.map_congr_left fun pair _ => ?_
  obtain ⟨task, outcome⟩ := pair
  dsimp only [Function.comp_apply]
  split_ifs <;> rfl

/-! ### Supersteps -/

/-- A superstep is taken from a state, in a world that it changes. -/
def Takes (workflow : Workflow σ) (active : List String) (state : State) (before : σ)
    (superstep : Superstep) (after : σ) : Prop :=
  ((workflow.superstep active state).run before).run = (superstep, after)

/-- A superstep holds what came of invoking each of its nodes on the state that it read. No node
occurs in it twice. -/
structure Records (workflow : Workflow σ) (superstep : Superstep) : Prop where
  exists_task : ∀ invocation ∈ superstep.invocations, ∃ task world,
    workflow.task? invocation.key = some task ∧
      RecordedAs ((workflow.invoke superstep.input task).outcome world).1 invocation.outcome
  keys_nodup : (superstep.invocations.map Invocation.key).Nodup

theorem key_of_task? {key : String} (found : workflow.task? key = some task) : task.key = key := by
  simpa using List.find?_some found

theorem mem_of_task? {key : String} (found : workflow.task? key = some task) :
    task ∈ workflow.tasks :=
  List.mem_of_find?_eq_some found

/-- The nodes that are active have the keys that are active, as far as there are such nodes. -/
theorem map_key_filterMap_task? (keys : List String) :
    (keys.filterMap workflow.task?).map Task.key =
      keys.filter fun key => (workflow.task? key).isSome := by
  induction keys with
  | nil => rfl
  | cons key keys ih =>
    cases found : workflow.task? key with
    | none => rw [List.filterMap_cons_none found, List.filter_cons_of_neg (by simp [found]), ih]
    | some task =>
      rw [List.filterMap_cons_some found, List.filter_cons_of_pos (by simp [found]), List.map_cons,
        key_of_task? found, ih]

/-- In a superstep the nodes that are active are invoked in the order of their keys. -/
theorem takes_iff :
    workflow.Takes active state before superstep after ↔
      ∃ outcomes, workflow.Invokes (workflow.schema.arrange state)
          ((Text.sortedSet active).filterMap workflow.task?) before outcomes after ∧
        superstep = ⟨workflow.schema.arrange state, settle outcomes⟩ := by
  simp only [invokes_iff]
  constructor
  · intro takes
    cases takes
    exact ⟨_, rfl, rfl⟩
  · rintro ⟨outcomes, ran, rfl⟩
    rw [Takes, Workflow.superstep]
    simp only [StateT.run_bind, Id.run_bind, ran]
    rfl

/-- A superstep of one node that ends well. -/
theorem takes_singleton {key : String} {written : Delta × List Target}
    (found : workflow.task? key = some task)
    (invoked : (workflow.invoke (workflow.schema.arrange state) task).outcome before =
      (.ok written, after)) :
    workflow.Takes [key] state before ⟨workflow.schema.arrange state, [⟨key, .ok written⟩]⟩
      after := by
  refine takes_iff.mpr ⟨[(task, .ok written)], ?_, ?_⟩
  · rw [Text.sortedSet_singleton, List.filterMap_cons_some found]
    exact .cons invoked .nil
  · rw [← key_of_task? found]
    rfl

theorem Takes.input_eq (takes : workflow.Takes active state before superstep after) :
    superstep.input = workflow.schema.arrange state := by
  obtain ⟨_, -, rfl⟩ := takes_iff.mp takes
  rfl

/-- The nodes that are invoked are the active ones, in the order of their keys. -/
theorem Takes.keys_eq (takes : workflow.Takes active state before superstep after) :
    superstep.invocations.map Invocation.key =
      (Text.sortedSet active).filter fun key => (workflow.task? key).isSome := by
  obtain ⟨_, invokes, rfl⟩ := takes_iff.mp takes
  rw [invokes.keys_settle, map_key_filterMap_task?]

theorem Takes.records (takes : workflow.Takes active state before superstep after) :
    workflow.Records superstep := by
  obtain ⟨outcomes, invokes, rfl⟩ := takes_iff.mp takes
  constructor
  · intro invocation member
    obtain ⟨task, outcome, among, key_eq, recorded⟩ := exists_of_mem_settle member
    obtain ⟨world, rfl⟩ := invokes.exists_outcome among
    have begun : task ∈ (Text.sortedSet active).filterMap workflow.task? := by
      rw [← invokes.map_fst]
      exact List.mem_map_of_mem among
    obtain ⟨key, -, found⟩ := List.mem_filterMap.mp begun
    refine ⟨task, world, ?_, recorded⟩
    rw [key_eq, key_of_task? found]
    exact found
  · rw [takes.keys_eq]
    exact (Text.nodup_sortedSet _).filter _

/-- A node that is active takes part. -/
theorem Takes.exists_invocation {key : String} (found : workflow.task? key = some task)
    (takes : workflow.Takes active state before superstep after) (begun : key ∈ active) :
    ∃ invocation ∈ superstep.invocations, invocation.key = key := by
  obtain ⟨outcomes, invokes, rfl⟩ := takes_iff.mp takes
  refine List.mem_map.mp ?_
  rw [invokes.keys_settle, ← key_of_task? found]
  exact List.mem_map_of_mem
    (List.mem_filterMap.mpr ⟨key, Text.mem_sortedSet.mpr begun, found⟩)

/-- What is recorded of a node that ended well came of its step. -/
theorem Records.exists_gives (records : workflow.Records superstep)
    (member : invocation ∈ superstep.invocations) {delta : Delta} {targets : List Target}
    (wrote : invocation.outcome = .ok (delta, targets)) :
    ∃ task before after, workflow.task? invocation.key = some task ∧
      (task.node.step superstep.input).Gives before delta after := by
  obtain ⟨task, world, found, recorded⟩ := records.exists_task invocation member
  have invoked : ((workflow.invoke superstep.input task).outcome world).1 =
      .ok (delta, targets) := by
    rcases recorded with same | ⟨-, failure, same⟩
    · rw [← same, wrote]
    · rw [wrote] at same
      cases same
  by_cases past : Node.isPast task.seconds = true
  · rw [outcome_invoke_of_isPast _ _ _ _ past] at invoked
    cases invoked
  · rw [outcome_invoke _ _ _ _ (by simpa using past)] at invoked
    rcases stepped : (task.node.step superstep.input).outcome world with ⟨failure | written, after⟩
    · rw [stepped] at invoked
      cases invoked
    · rw [stepped] at invoked
      dsimp only at invoked
      split at invoked
      · cases invoked
        exact ⟨task, world, after, found, stepped⟩
      · cases invoked

/-! ### Runs -/

/-- A run goes on for at most so many supersteps. -/
inductive Runs (workflow : Workflow σ) : Nat → List String → State → σ → Course → σ → Prop
  | exhausted {active : List String} {state : State} {world : σ} :
      Runs workflow 0 active state world ⟨[], .error (.fault .stepLimit)⟩ world
  | finished {limit : Nat} {state : State} {world : σ} :
      Runs workflow (limit + 1) [] state world ⟨[], .ok (workflow.schema.arrange state)⟩ world
  | failed {limit : Nat} {active : List String} {state : State} {before after : σ}
      {superstep : Superstep} {failure : Failure} (active_ne : active ≠ [])
      (takes : workflow.Takes active state before superstep after)
      (failed : superstep.failure? = some failure) :
      Runs workflow (limit + 1) active state before ⟨[superstep], .error failure⟩ after
  | continued {limit : Nat} {active : List String} {state : State} {before middle after : σ}
      {superstep : Superstep} {course : Course} (active_ne : active ≠ [])
      (takes : workflow.Takes active state before superstep middle)
      (passed : superstep.failure? = none)
      (rest : Runs workflow limit superstep.targets
        (superstep.deltas.foldl workflow.schema.apply state) middle course after) :
      Runs workflow (limit + 1) active state before
        ⟨superstep :: course.supersteps, course.outcome⟩ after

/-- A run that takes a superstep either fails with it or goes on from what it leaves. -/
theorem run_advance_succ (active_ne : active ≠ [])
    (takes : workflow.Takes active state before superstep after) :
    ((workflow.advance (limit + 1) active state).run before).run =
      match superstep.failure? with
      | some failure => (⟨[superstep], .error failure⟩, after)
      | none =>
        let rest := ((workflow.advance limit superstep.targets
          (superstep.deltas.foldl workflow.schema.apply state)).run after).run
        (⟨superstep :: rest.1.supersteps, rest.1.outcome⟩, rest.2) := by
  have going : active.isEmpty = false := by simpa using active_ne
  rw [Takes] at takes
  rw [advance, going]
  simp only [Bool.false_eq_true, ↓reduceIte, StateT.run_bind, Id.run_bind, takes]
  cases superstep.failure? <;> rfl

theorem runs_iff :
    workflow.Runs limit active state before course after ↔
      ((workflow.advance limit active state).run before).run = (course, after) := by
  constructor
  · intro runs
    induction runs with
    | exhausted => rfl
    | finished => rfl
    | failed active_ne takes failed => rw [run_advance_succ active_ne takes, failed]
    | continued active_ne takes passed _ ih => rw [run_advance_succ active_ne takes, passed, ih]
  · intro ran
    -- on the supersteps that are left, as the engine counts them
    induction limit generalizing active state before course with
    | zero =>
      cases ran
      exact .exhausted
    | succ limit ih =>
      cases active with
      | nil =>
        cases ran
        exact .finished
      | cons key keys =>
        have active_ne : key :: keys ≠ [] := List.cons_ne_nil _ _
        rcases taken : ((workflow.superstep (key :: keys) state).run before).run with
          ⟨superstep, middle⟩
        rw [run_advance_succ active_ne taken] at ran
        cases failed : superstep.failure? with
        | some failure =>
          rw [failed] at ran
          cases ran
          exact .failed active_ne taken failed
        | none =>
          rw [failed] at ran
          cases ran
          exact .continued active_ne taken failed (ih rfl)

/-- Running a workflow is such a run, if it may take any supersteps at all. -/
theorem run_eq_iff {bound : Int} {initial : State} :
    ((workflow.run bound initial).run before).run = (course, after) ↔
      (bound < 1 ∧ course = ⟨[], .error (.fault .badValue)⟩ ∧ after = before) ∨
        (1 ≤ bound ∧ workflow.Runs bound.toNat [workflow.entry]
          (workflow.schema.apply [] initial) before course after) := by
  rw [run]
  by_cases none_allowed : bound < 1
  · rw [if_pos none_allowed]
    constructor
    · intro ran
      cases ran
      exact Or.inl ⟨none_allowed, rfl, rfl⟩
    · rintro (⟨-, rfl, rfl⟩ | ⟨allowed, -⟩)
      · rfl
      · omega
  · rw [if_neg none_allowed, ← runs_iff]
    constructor
    · exact fun runs => Or.inr ⟨by omega, runs⟩
    · rintro (⟨none_allowed', -⟩ | ⟨-, runs⟩)
      · exact absurd none_allowed' none_allowed
      · exact runs

/-- A run that has something to do takes its first superstep from the state that it begins in. -/
theorem Runs.exists_first (runs : workflow.Runs (limit + 1) active state before course after)
    (active_ne : active ≠ []) :
    ∃ superstep ∈ course.supersteps, ∃ middle,
      workflow.Takes active state before superstep middle := by
  cases runs with
  | finished => exact absurd rfl active_ne
  | failed _ takes _ => exact ⟨_, List.mem_singleton_self _, _, takes⟩
  | continued _ takes _ _ => exact ⟨_, List.mem_cons_self, _, takes⟩

theorem Runs.records (runs : workflow.Runs limit active state before course after) :
    ∀ superstep ∈ course.supersteps, workflow.Records superstep := by
  induction runs with
  | exhausted => simp
  | finished => simp
  | failed _ takes _ =>
    intro superstep member
    rw [List.mem_singleton] at member
    rw [member]
    exact takes.records
  | continued _ takes _ _ ih =>
    intro superstep member
    rcases List.mem_cons.mp member with rfl | later
    · exact takes.records
    · exact ih superstep later

end Workflow

/-- In a superstep that does not fail every node ends well. -/
theorem Superstep.exists_of_failure?_eq_none (passed : superstep.failure? = none)
    (member : invocation ∈ superstep.invocations) :
    ∃ written, invocation.outcome = .ok written := by
  cases same : invocation.outcome with
  | ok written => exact ⟨written, rfl⟩
  | error failure =>
    rw [failure?, Option.orElse_eq_or, Option.or_eq_none_iff, List.head?_eq_none_iff,
      List.filterMap_eq_nil_iff] at passed
    have none_failed := passed.2 invocation member
    rw [same] at none_failed
    cases none_failed

/-- What a superstep writes came of its nodes that ended well. -/
theorem Superstep.mem_deltas_iff {delta : Delta} :
    delta ∈ superstep.deltas ↔
      ∃ invocation ∈ superstep.invocations,
        ∃ targets, invocation.outcome = .ok (delta, targets) := by
  rw [deltas, List.mem_filterMap]
  refine exists_congr fun invocation => and_congr_right fun _ => ?_
  cases same : invocation.outcome with
  | error failure => simp [Except.toOption]
  | ok written =>
    obtain ⟨delta', targets⟩ := written
    simp [Except.toOption]

/-! ### The states of a run -/

/-- The state that a superstep leaves: what its nodes wrote is merged into what they read, in the
order of the nodes. -/
def Superstep.leaves (schema : Schema) (superstep : Superstep) : State :=
  schema.arrange (superstep.deltas.foldl schema.apply superstep.input)

/-- The states of a run: what each superstep read, and what a run that ends well ends with. -/
def Course.states (course : Course) : List State :=
  course.supersteps.map Superstep.input ++ course.outcome.toOption.toList

namespace Workflow

theorem Runs.eq_arrange_of_states_zero (runs : workflow.Runs limit active state before course after)
    {first : State} (head : course.states[0]? = some first) :
    first = workflow.schema.arrange state := by
  cases runs with
  | exhausted => cases head
  | finished =>
    cases head
    rfl
  | failed _ takes _ =>
    cases head
    exact takes.input_eq
  | continued _ takes _ _ =>
    cases head
    exact takes.input_eq

/-- Each state of a run is what the superstep before it left. -/
theorem Runs.eq_leaves_of_states (runs : workflow.Runs limit active state before course after)
    {place : Nat} {next : State} (here : course.supersteps[place]? = some superstep)
    (later : course.states[place + 1]? = some next) : next = superstep.leaves workflow.schema := by
  induction runs generalizing place with
  | exhausted => cases here
  | finished => cases here
  | failed _ takes _ =>
    cases place with
    | zero => cases later
    | succ place => cases here
  | continued _ takes _ rest ih =>
    cases place with
    | zero =>
      cases here
      -- the run goes on from what is not arranged, which makes no difference to what is merged
      rw [rest.eq_arrange_of_states_zero later, Superstep.leaves, takes.input_eq,
        Schema.foldl_apply, Schema.foldl_apply, Schema.arrange_apply_arrange]
    | succ place => exact ih here later

end Workflow

end AgentWorkflow
