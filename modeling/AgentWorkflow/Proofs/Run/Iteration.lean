import AgentWorkflow.Proofs.Run.Counting
import AgentWorkflow.Proofs.Workflow.Tasks

/-!
# The supervisors' budget

All supervisors of a workflow share one count of decisions. In a superstep each of them reads the
count as it was before, and they overwrite it with one and the same number, so however many of them
decide at once the count goes up by one. A supervisor that decides in a superstep therefore always
finds the count at least as high as the number of its own decisions so far, which bounds the calls
of its model.

## Main definitions

* `GraphPlan.Spares`: no node is told to write a key
* `Workflow.KeepsCount`: supervisors alone write the number of decisions, and they overwrite it

## Main results

* `Workflow.KeepsCount.readIteration_leaves`: what a superstep does to the count
* `Workflow.KeepsCount.sum_allowed_le`: how many calls of its model a run leaves to a supervisor
* `Workflow.assemble_bounds_calls`: no supervisor calls its model more often than it may
-/

namespace AgentWorkflow

open Node

variable {σ : Type} {settings : Settings} {services : Services σ} {snapshot : Option Snapshot}
  {transport : Option (Tool.Transport σ)} {stateKeys : List String} {blueprint : Blueprint}
  {plan : GraphPlan}
  {workflow : Workflow σ} {schema : Schema} {state other : State} {delta : Delta} {made : Int}
  {active : List String} {superstep : Superstep} {invocation : Invocation} {limit : Nat}
  {course : Course} {before after : σ} {n : PlanNode} {config : SupervisorConfig}
  {respond : Chat.Responder σ}

/-- No node is told to write a key, be it its output or the field of a tool's result. -/
def GraphPlan.Spares (plan : GraphPlan) (key : String) : Prop :=
  ∀ n ∈ plan.nodes, n.node.outputKey ≠ some key ∧ ¬ n.WritesResult key

/-- Where no node has an output and none is a tool, nobody is told to write anything. -/
theorem GraphPlan.spares_of_forall
    (silent : ∀ n ∈ plan.nodes, n.node.outputKey = none ∧ normalizeType n.node.type ≠ "tool")
    (key : String) : plan.Spares key := by
  intro n node
  obtain ⟨no_output, type_ne⟩ := silent n node
  exact ⟨by simp [no_output], fun writes => type_ne writes.1⟩

/-- A node that is not told to write a key and is no supervisor may write it only if it is the
conversation. -/
theorem GraphPlan.Spares.not_mayWrite {key : String} (spares : plan.Spares key)
    (node : n ∈ plan.nodes) (ne : key ≠ messagesKey) : ¬ n.MayWrite key := by
  rintro (same | named | result)
  · exact ne same
  · exact (spares n node).1 named
  · exact (spares n node).2 result

namespace Node

/-! ### The count in a state -/

theorem readIteration_congr (same : state.find? iterationKey = other.find? iterationKey) :
    readIteration state = readIteration other := by
  rw [readIteration, readIteration, same]

/-- Whatever is written for the number of decisions is one more than there were. -/
def CountsOn (made : Int) (delta : Delta) : Prop :=
  ∀ value, (iterationKey, value) ∈ delta → value = .int (made + 1)

/-- A count that is overwritten goes up by one, however often it is written. -/
theorem CountsOn.readIteration_apply (counts : CountsOn made delta)
    (merged : Record.find? schema iterationKey = some .overwrite)
    (read : readIteration state = .ok made) :
    readIteration (schema.apply state delta) =
      .ok (if iterationKey ∈ Record.keys delta then made + 1 else made) := by
  by_cases written : iterationKey ∈ Record.keys delta
  -- the last value stands, and all values are the same
  · have held : (schema.apply state delta).find? iterationKey = some (.int (made + 1)) := by
      rw [Schema.find?_apply_of_overwrite merged, Record.find?_ofPairs_of_forall counts written,
        Option.some_or]
    rw [if_pos written, readIteration, held]
    rfl
  · rw [if_neg written, readIteration_congr (Schema.find?_apply_of_not_mem written), read]

/-- What a supervisor writes counts its decision. -/
theorem countsOn_of_gives_supervisorStep {prepare : ImagePreparer σ}
    (gives : (supervisorStep prepare n.node config respond state).Gives before delta after)
    (read : readIteration state = .ok made) (free : n.node.outputKey ≠ some iterationKey) :
    CountsOn made delta ∧ iterationKey ∈ Record.keys delta := by
  obtain ⟨c, consulted, concluded⟩ := gives_supervisorStep_iff.mp gives
  obtain ⟨made', read', -, counted, -⟩ := gives_consult_iff.mp consulted
  obtain rfl : made = made' := Except.ok.inj (read.symm.trans read')
  have found := find?_iterationKey_of_conclude concluded free
  rw [counted] at found
  constructor
  · intro value member
    have held := Record.find?_of_mem (keys_nodup_of_conclude concluded) member
    rw [found] at held
    exact (Option.some.inj held).symm
  · exact List.mem_map_of_mem (Record.mem_of_find? found)

end Node

namespace Workflow

/-- The nodes of a workflow count decisions together: supervisors alone write the number of them,
and they overwrite it. -/
structure KeepsCount (workflow : Workflow σ) (settings : Settings) (services : Services σ)
    (plan : GraphPlan) : Prop where
  merged : Record.find? workflow.schema iterationKey = some .overwrite
  taskOf : ∀ task ∈ workflow.tasks, TaskOf settings services plan task
  spares : plan.Spares iterationKey

theorem KeepsCount.readIteration_arrange (keeps : workflow.KeepsCount settings services plan)
    (state : State) : readIteration (workflow.schema.arrange state) = readIteration state := by
  refine readIteration_congr ?_
  rw [Schema.find?_arrange, keeps.merged, Option.bind_some]

/-- The nodes of a superstep all read the count of the state that it is taken from. -/
theorem KeepsCount.readIteration_input (keeps : workflow.KeepsCount settings services plan)
    (takes : workflow.Takes active state before superstep after)
    (read : readIteration state = .ok made) : readIteration superstep.input = .ok made := by
  rw [takes.input_eq, keeps.readIteration_arrange, read]

/-! ### The count in a superstep -/

/-- Every node that ends well leaves the count alone or counts on. -/
theorem KeepsCount.countsOn (keeps : workflow.KeepsCount settings services plan)
    (records : workflow.Records superstep) (read : readIteration superstep.input = .ok made) :
    CountsOn made superstep.deltas.flatten := by
  intro value member
  obtain ⟨delta, among, written⟩ := List.mem_flatten.mp member
  obtain ⟨invocation, invoked, targets, ended⟩ := Superstep.mem_deltas_iff.mp among
  obtain ⟨task, world, later, found, gives⟩ := records.exists_gives invoked ended
  cases keeps.taskOf task (mem_of_task? found) with
  | supervisor node supervises =>
    -- all supervisors count on from the state that the superstep read
    have free := (keeps.spares _ node).1
    exact (countsOn_of_gives_supervisorStep gives read free).1 value written
  | other node type_ne key_eq writes =>
    exact absurd (writes gives iterationKey (List.mem_map_of_mem written))
      (keeps.spares.not_mayWrite node (by decide))

/-- What a superstep does to the count. -/
theorem KeepsCount.readIteration_foldl (keeps : workflow.KeepsCount settings services plan)
    (records : workflow.Records superstep) (read : readIteration superstep.input = .ok made)
    (same : readIteration state = .ok made) :
    readIteration (superstep.deltas.foldl workflow.schema.apply state) =
      .ok (if iterationKey ∈ Record.keys superstep.deltas.flatten then made + 1 else made) := by
  rw [Schema.foldl_apply]
  exact (keeps.countsOn records read).readIteration_apply keeps.merged same

/-- A supervisor that decides in a superstep writes the count. -/
theorem KeepsCount.mem_keys_of_decides (keeps : workflow.KeepsCount settings services plan)
    (records : workflow.Records superstep) (read : readIteration superstep.input = .ok made)
    (node : n ∈ plan.nodes)
    (task : workflow.task? n.key = some (supervisorTask services.prepareImage n config respond))
    (member : invocation ∈ superstep.invocations) (key_eq : invocation.key = n.key)
    {written : Delta × List Target} (decides : invocation.outcome = .ok written) :
    iterationKey ∈ Record.keys superstep.deltas.flatten := by
  obtain ⟨delta, targets⟩ := written
  obtain ⟨found, world, later, has, gives⟩ := records.exists_gives member decides
  rw [key_eq, task] at has
  cases has
  have counted := (countsOn_of_gives_supervisorStep gives read (keeps.spares n node).1).2
  obtain ⟨pair, held, same⟩ := List.mem_map.mp counted
  have among : delta ∈ superstep.deltas :=
    Superstep.mem_deltas_iff.mpr ⟨invocation, member, targets, decides⟩
  exact List.mem_map.mpr ⟨pair, List.mem_flatten.mpr ⟨delta, among, held⟩, same⟩

/-- A superstep in which a supervisor decides raises the count by one. -/
theorem KeepsCount.readIteration_leaves (keeps : workflow.KeepsCount settings services plan)
    (records : workflow.Records superstep) (read : readIteration superstep.input = .ok made)
    (node : n ∈ plan.nodes)
    (task : workflow.task? n.key = some (supervisorTask services.prepareImage n config respond))
    (member : invocation ∈ superstep.invocations) (key_eq : invocation.key = n.key)
    {written : Delta × List Target} (decides : invocation.outcome = .ok written) :
    readIteration (superstep.leaves workflow.schema) = .ok (made + 1) := by
  rw [Superstep.leaves, keeps.readIteration_arrange, keeps.readIteration_foldl records read read,
    if_pos (keeps.mem_keys_of_decides records read node task member key_eq decides)]

/-! ### The count in a run -/

/-- The state that every superstep of a run reads has a count. -/
theorem KeepsCount.exists_readIteration (keeps : workflow.KeepsCount settings services plan)
    (runs : workflow.Runs limit active state before course after)
    (read : readIteration state = .ok made) :
    ∀ superstep ∈ course.supersteps, ∃ made, readIteration superstep.input = .ok made := by
  induction runs generalizing made with
  | exhausted => simp
  | finished => simp
  | failed _ takes _ =>
    intro superstep member
    rw [List.mem_singleton.mp member]
    exact ⟨made, keeps.readIteration_input takes read⟩
  | continued _ takes _ _ ih =>
    have input := keeps.readIteration_input takes read
    intro superstep member
    rcases List.mem_cons.mp member with rfl | later
    · exact ⟨made, input⟩
    · exact ih (keeps.readIteration_foldl takes.records input read) superstep later

/-- A call of the model uses up one of the decisions that are left. -/
theorem allowed_allowance (key : String) (config : SupervisorConfig)
    (read : readIteration superstep.input = .ok made) :
    superstep.allowed key (allowance config) =
      if key ∈ superstep.invocations.map Invocation.key ∧ made + 1 ≤ config.maxIterations then 1
      else 0 := by
  rw [Superstep.allowed, allowance, read, ite_and]

/-- In the supersteps of a run that begins with a count, a supervisor may make no more calls than
it has decisions left. -/
theorem KeepsCount.sum_allowed_le (keeps : workflow.KeepsCount settings services plan)
    (node : n ∈ plan.nodes)
    (task : workflow.task? n.key = some (supervisorTask services.prepareImage n config respond))
    (runs : workflow.Runs limit active state before course after)
    (read : readIteration state = .ok made) :
    (course.supersteps.map (Superstep.allowed n.key (allowance config))).sum ≤
      (config.maxIterations - made).toNat := by
  -- the calls that may still be made go down with the count
  induction runs generalizing made with
  | exhausted => simp
  | finished => simp
  | failed _ takes _ =>
    rw [List.map_singleton, List.sum_singleton,
      allowed_allowance n.key config (keeps.readIteration_input takes read)]
    split_ifs with may
    · omega
    · omega
  | @continued limit active state before middle after superstep course _ takes passed _ ih =>
    have records := takes.records
    have input := keeps.readIteration_input takes read
    have rest := ih (keeps.readIteration_foldl records input read)
    rw [List.map_cons, List.sum_cons, allowed_allowance n.key config input]
    by_cases may : n.key ∈ superstep.invocations.map Invocation.key ∧
        made + 1 ≤ config.maxIterations
    · -- it ended well, like all nodes of this superstep, and counted
      obtain ⟨invocation, member, key_eq⟩ := List.mem_map.mp may.1
      obtain ⟨written, decides⟩ := Superstep.exists_of_failure?_eq_none passed member
      have raised := keeps.mem_keys_of_decides records input node task member key_eq decides
      rw [if_pos raised] at rest
      rw [if_pos may]
      have left := may.2
      omega
    · rw [if_neg may]
      split_ifs at rest
      · omega
      · omega

/-! ### Assembled workflows -/

/-- Supervisors alone write the number of decisions if no node is told to write it. -/
theorem keepsCount_of_build (drawn : Blueprint.ofSnapshot settings snapshot = .ok blueprint)
    (built : (build settings services transport stateKeys blueprint).Gives before workflow after)
    (node : n ∈ blueprint.plan.nodes) (supervises : n.Supervises settings config)
    (plain : ¬ blueprint.plan.Declares iterationKey .append)
    (spares : blueprint.plan.Spares iterationKey) :
    workflow.KeepsCount settings services blueprint.plan := by
  have faithful := Blueprint.faithful_of_ofSnapshot drawn
  have entry := faithful.mem_supervision_iff.mpr ⟨n, node, rfl, supervises⟩
  obtain ⟨r, merged, append_iff⟩ :=
    exists_find?_schema_of_supervision drawn built entry (List.mem_cons_of_mem _ List.mem_cons_self)
  refine ⟨?_, fun task member => taskOf_of_mem_tasks faithful built member, spares⟩
  cases r with
  | overwrite => exact merged
  | append => exact absurd (append_iff.mp rfl) plain

/-- No supervisor calls its model more often than it may, and whenever one decides the count goes
up. Whatever the collaborators do and however the supervisors are activated, a run from a state
without a count does the same when the calls of one supervisor's model are counted, and there are
at most as many as its iterations are limited to. -/
theorem assemble_bounds_calls {earlier later : σ}
    (assembled : (assemble settings services snapshot transport stateKeys).Gives earlier workflow
      later)
    (valid : validate snapshot = .ok plan) (plain : ¬ plan.Declares iterationKey .append)
    (spares : plan.Spares iterationKey) (node : n ∈ plan.nodes)
    (supervises : n.Supervises settings config) :
    ∃ respond, workflow.task? n.key =
        some (supervisorTask services.prepareImage n config respond) ∧
      ∀ limit initial before course after, initial.find? iterationKey = none →
        ((workflow.run limit initial).run before).run = (course, after) →
          (∃ calls ≤ config.maxIterations.toNat,
            (((workflow.counting n.key (supervisorStep services.prepareImage.onFirst n.node config
              respond.counted)).run limit initial).run (before, 0)).run =
                (course, (after, calls))) ∧
          ∀ place superstep, course.supersteps[place]? = some superstep →
            ∀ invocation ∈ superstep.invocations, invocation.key = n.key →
              ∀ written, invocation.outcome = .ok written →
                ∃ made, readIteration superstep.input = .ok made ∧
                  readIteration (superstep.leaves workflow.schema) = .ok (made + 1) ∧
                  ∀ next, course.states[place + 1]? = some next →
                    readIteration next = .ok (made + 1) := by
  obtain ⟨blueprint, drawn, built⟩ := gives_assemble_iff.mp assembled
  have faithful := Blueprint.faithful_of_ofSnapshot drawn
  obtain rfl : blueprint.plan = plan :=
    Except.ok.inj ((Blueprint.ofSnapshot_eq_ok_iff.mp drawn).1.symm.trans valid)
  have keeps := keepsCount_of_build drawn built node supervises plain spares
  obtain ⟨respond, task⟩ := exists_task?_of_supervises faithful built node supervises
  refine ⟨respond, task, ?_⟩
  intro limit initial before course after fresh ran
  have begins : readIteration (workflow.schema.apply [] initial) = .ok 0 := by
    have missing : (workflow.schema.apply [] initial).find? iterationKey = none :=
      (Schema.find?_apply_of_not_mem (Record.find?_eq_none_iff.mp fresh)).trans rfl
    rw [readIteration, missing]
    rfl
  have counts : ∀ task, workflow.task? n.key = some task → Counts n.key
      (supervisorStep services.prepareImage.onFirst n.node config respond.counted)
      (allowance config) task := by
    intro task' found _ input
    rw [task] at found
    cases found
    exact meters_supervisorStep services.prepareImage n.node config respond input
  rcases run_eq_iff.mp ran with ⟨none_allowed, rfl, rfl⟩ | ⟨allowed, runs⟩
  · -- no superstep is taken
    refine ⟨⟨0, Nat.zero_le _, run_eq_iff.mpr (Or.inl ⟨none_allowed, rfl, rfl⟩)⟩, ?_⟩
    intro place superstep taken
    cases taken
  · constructor
    · obtain ⟨calls, bound, counted⟩ := runs.counting counts 0
      have left := keeps.sum_allowed_le node task runs begins
      rw [Int.sub_zero] at left
      rw [Nat.zero_add] at counted
      exact ⟨calls, Nat.le_trans bound left, run_eq_iff.mpr (Or.inr ⟨allowed, counted⟩)⟩
    · intro place superstep taken invocation member key_eq written decides
      have among := List.mem_of_getElem? taken
      obtain ⟨made, read⟩ := keeps.exists_readIteration runs begins superstep among
      have raised := keeps.readIteration_leaves (runs.records superstep among) read node task member
        key_eq decides
      refine ⟨made, read, raised, fun next follows => ?_⟩
      rw [runs.eq_leaves_of_states taken follows, raised]

/-- The first supervisor of the newsroom keeps to its iterations. -/
theorem newsroom_bounds_calls :
    ∃ workflow, (assemble {} Newsroom.services (some (Newsroom.plan .absent).toSnapshot) none
        []).Gives [] workflow [] ∧
      validate (some (Newsroom.plan .absent).toSnapshot) = .ok (Newsroom.plan .absent) ∧
      ¬ (Newsroom.plan .absent).Declares iterationKey .append ∧
      (Newsroom.plan .absent).Spares iterationKey ∧
      Newsroom.supervisor "lead" "writer" ∈ (Newsroom.plan .absent).nodes ∧
      (Newsroom.supervisor "lead" "writer").Supervises {} (Newsroom.config "writer") ∧
      ∃ respond, workflow.task? "lead" =
          some (supervisorTask Newsroom.services.prepareImage (Newsroom.supervisor "lead" "writer")
            (Newsroom.config "writer") respond) ∧
        ∀ limit initial before course after, initial.find? iterationKey = none →
          ((workflow.run limit initial).run before).run = (course, after) →
            (∃ calls ≤ (Newsroom.config "writer").maxIterations.toNat,
              (((workflow.counting "lead" (supervisorStep Newsroom.services.prepareImage.onFirst
                (Newsroom.supervisor "lead" "writer").node (Newsroom.config "writer")
                  respond.counted)).run limit initial).run (before, 0)).run =
                    (course, (after, calls))) ∧
            ∀ place superstep, course.supersteps[place]? = some superstep →
              ∀ invocation ∈ superstep.invocations, invocation.key = "lead" →
                ∀ written, invocation.outcome = .ok written →
                  ∃ made, readIteration superstep.input = .ok made ∧
                    readIteration (superstep.leaves workflow.schema) = .ok (made + 1) ∧
                    ∀ next, course.states[place + 1]? = some next →
                      readIteration next = .ok (made + 1) := by
  obtain ⟨workflow, assembled⟩ := Newsroom.exists_gives_assemble []
  have valid := Newsroom.validate_plan .absent
  have plain : ¬ (Newsroom.plan .absent).Declares iterationKey .append := by
    intro ⟨declared, parsed, found⟩
    cases parsed
    cases found
  have spares : (Newsroom.plan .absent).Spares iterationKey := by
    -- nothing but the supervisors writes a count: no node has an output, and none is a tool
    have others : ∀ n ∈ (Newsroom.plan .absent).nodes,
        n.node.outputKey = none ∧ normalizeType n.node.type ≠ "tool" := by
      decide +kernel
    intro n node
    obtain ⟨no_output, type_ne⟩ := others n node
    exact ⟨by simp [no_output], fun writes => type_ne writes.1⟩
  exact ⟨workflow, assembled, valid, plain, spares, List.mem_cons_self, Newsroom.lead_supervises,
    assemble_bounds_calls assembled valid plain spares List.mem_cons_self
      Newsroom.lead_supervises⟩

end Workflow

end AgentWorkflow
