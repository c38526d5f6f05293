import AgentWorkflow.Proofs.Run.Merging
import AgentWorkflow.Proofs.Workflow.Staff

/-!
# What a run leaves alone

A workflow is assembled with the keys of the state that it is to begin in. Then nothing that is
written in a run gets lost: every key of that state is carried, and so is every key that a node can
write. What is carried stays in the state once it is there, and a key that no node is told to write
holds at the end just what it held at the beginning.

The keys that a node is told to write are said by the stored graph alone: the output of a worker or
a supervisor, and the fields of the result of a tool node. Besides these, supervisors and their
members write the keys of their conversation.

## Main definitions

* `PlanNode.Outputs`: a node is told to write a key
* `GraphPlan.LeavesAlone`: no node of a graph writes a key

## Main results

* `Workflow.writesOnly_of_mem_tasks`: what a task writes, its node is told to write
* `Workflow.mem_keys_of_run`: what is carried and written stays in the states of a run
* `Workflow.assemble_frames_state`: nothing is dropped, and what no node writes is left alone
-/

namespace AgentWorkflow

section Framing

variable {σ : Type} {settings : Settings} {services : Services σ} {snapshot : Option Snapshot}
  {transport : Option (Tool.Transport σ)} {stateKeys : List String} {blueprint : Blueprint}
  {plan : GraphPlan} {workflow : Workflow σ} {initial state : State} {course : Course}
  {before after : σ} {n : PlanNode} {key : String} {owners : Record String}
  {clients : Record (Chat.Client σ)}

/-- A node is told to write a key: it is the output of a worker or of a supervisor, or the result of
a tool node is written under it. The output of a tool node is not looked at. -/
def PlanNode.Outputs (n : PlanNode) (key : String) : Prop :=
  (normalizeType n.node.type = "worker" ∨ normalizeType n.node.type = "supervisor") ∧
      n.node.outputKey = some key ∨
    n.WritesResult key

/-- No node of a graph writes a key, and it is none of those that supervisors keep. -/
structure GraphPlan.LeavesAlone (plan : GraphPlan) (key : String) : Prop where
  not_own : key ∉ supervisorKeys
  not_output : ∀ n ∈ plan.nodes, ¬ n.Outputs key

namespace Workflow

/-! ### What tasks write -/

/-- A node that is no supervisor writes what it is told to write, and the conversation. -/
theorem BuiltAs.writesOnly {part : Part σ} (builtAs : BuiltAs services owners n part) :
    Node.WritesOnly part.task.node.step fun key => key ∈ supervisorKeys ∨ n.Outputs key := by
  intro state before delta after gives key written
  cases builtAs with
  | member agent _ _ step_eq =>
    rw [step_eq] at gives
    rw [Node.memberStep_writesOnly _ _ gives key written]
    exact Or.inl (by decide)
  | worker config agent type_eq step_eq _ =>
    rw [step_eq] at gives
    obtain ⟨named, -⟩ := Node.workerStep_writesOnly _ _ _ _ gives key written
    exact Or.inr (Or.inl ⟨Or.inl type_eq, named⟩)
  | tool _ writes _ _ => exact Or.inr (Or.inr (writes gives key written))

/-- A supervisor writes its output, and the keys that it keeps. -/
theorem supervisorTask_writesOnly {config : SupervisorConfig} (prepare : Node.ImagePreparer σ)
    (respond : Chat.Responder σ) (type_eq : normalizeType n.node.type = "supervisor") :
    Node.WritesOnly (supervisorTask prepare n config respond).node.step fun key =>
      key ∈ supervisorKeys ∨ n.Outputs key := by
  intro state before delta after gives key written
  rcases Node.supervisorStep_writesOnly _ _ _ _ gives key written with own | ⟨named, -⟩
  · exact Or.inl own
  · exact Or.inr (Or.inl ⟨Or.inr type_eq, named⟩)

/-- What a task writes, some node of the graph is told to write, or supervisors keep it. -/
theorem writesOnly_of_mem_tasks (faithful : blueprint.Faithful settings)
    (built : (build settings services transport stateKeys blueprint).Gives before workflow after)
    {task : Task σ} (member : task ∈ workflow.tasks) :
    Node.WritesOnly task.node.step fun key => ¬ blueprint.plan.LeavesAlone key := by
  have told : ∃ n ∈ blueprint.plan.nodes,
      Node.WritesOnly task.node.step fun key => key ∈ supervisorKeys ∨ n.Outputs key := by
    obtain ⟨clients, _, -, parts, _, plain, routings, routed, joined⟩ := gives_build_iff.mp built
    obtain ⟨rfl, -, -⟩ := join_eq_ok_iff.mp joined
    obtain ⟨part, among, rfl⟩ := mem_arrangeTasks member
    rcases List.mem_append.mp among with early | late
    · obtain ⟨n, node, _, _, made⟩ := exists_node_of_mem_parts plain early
      exact ⟨n, node, (builtAs_of_buildPart made).2.2.writesOnly⟩
    · obtain ⟨n, node, _, _, made⟩ := exists_node_of_mem_parts routed late
      rcases gives_buildRouting made with
        ⟨-, impossible⟩ | ⟨config, _, respond, found, same, task_eq, -⟩
      · cases impossible
      · cases same
        -- a node is configured as a supervisor because some node with its key is one, and keys are
        -- distinct
        have kind := faithful.has_supervision_iff.mp
          (Record.has_iff.mpr (List.mem_map_of_mem (Record.mem_of_find? found)))
        obtain ⟨m, node', same, type_eq⟩ := kind
        obtain rfl := List.inj_on_of_nodup_map faithful.wellFormed.keys_nodup node' node same
        rw [task_eq]
        exact ⟨m, node, supervisorTask_writesOnly _ _ type_eq⟩
  obtain ⟨n, node, writes⟩ := told
  intro state before delta after gives key written alone
  rcases writes gives key written with own | output
  · exact alone.not_own own
  · exact alone.not_output n node output

/-! ### What stays in the states of a run -/

/-- The last state of a run that ends well. -/
theorem states_of_outcome {final : State} (ended : course.outcome = .ok final) :
    course.states[course.supersteps.length]? = some final := by
  simp [Course.states, ended, Except.toOption]

/-- What has been written under a key that is carried stays in the states of a run. -/
theorem mem_keys_of_run {bound : Int} {place : Nat}
    (carried : key ∈ Record.keys workflow.schema)
    (ran : ((workflow.run bound initial).run before).run = (course, after))
    (here : course.states[place]? = some state) :
    key ∈ state.keys ↔ key ∈ Record.keys (initial ++ course.written place) := by
  obtain ⟨r, declared⟩ := Option.ne_none_iff_exists'.mp
    (mt Record.find?_eq_none_iff.mp (not_not.mpr carried))
  have held := find?_of_run declared ran here
  rw [← not_iff_not, ← Record.find?_eq_none_iff, ← Record.valuesUnder_eq_nil_iff, held,
    Reducer.gather_eq_none_iff]
  exact and_iff_right rfl

/-- A key that is not written after the beginning holds what it held there. -/
theorem find?_of_run_of_unwritten {bound : Int} {place : Nat}
    (distinct : (Record.keys initial).Nodup) (carried : key ∈ Record.keys workflow.schema)
    (unwritten : key ∉ Record.keys (course.written place))
    (ran : ((workflow.run bound initial).run before).run = (course, after))
    (here : course.states[place]? = some state) : state.find? key = initial.find? key := by
  obtain ⟨r, declared⟩ := Option.ne_none_iff_exists'.mp
    (mt Record.find?_eq_none_iff.mp (not_not.mpr carried))
  have nothing := Record.valuesUnder_eq_nil_iff.mpr unwritten
  rw [find?_of_run declared ran here, Record.valuesUnder_append, nothing, List.append_nil,
    Record.valuesUnder_of_nodup distinct]
  -- the only value under the key is the first one, which is kept as it is
  cases initial.find? key <;> rfl

/-- A workflow that is assembled with the keys of an initial state drops nothing. Whatever a node
writes, its key is declared; so in a run that ends well all that was written is there at the end,
and what the run began with, too. And what no node is told to write holds what it held. -/
theorem assemble_frames_state
    (assembled : (assemble settings services snapshot transport (Record.keys initial)).Gives before
      workflow after)
    (distinct : (Record.keys initial).Nodup) :
    ∃ plan, validate snapshot = .ok plan ∧
      (∀ task ∈ workflow.tasks,
        Node.WritesOnly task.node.step fun key => key ∈ Record.keys workflow.schema) ∧
      ∀ limit before course after final,
        ((workflow.run limit initial).run before).run = (course, after) →
        course.outcome = .ok final →
          (∀ superstep ∈ course.supersteps, ∀ delta ∈ superstep.deltas, ∀ key ∈ Record.keys delta,
            key ∈ Record.keys workflow.schema ∧ key ∈ Record.keys final) ∧
          (∀ key ∈ Record.keys initial, key ∈ Record.keys final) ∧
          ∀ key ∈ Record.keys initial, plan.LeavesAlone key →
            final.find? key = initial.find? key := by
  obtain ⟨blueprint, drawn, built⟩ := gives_assemble_iff.mp assembled
  have faithful := Blueprint.faithful_of_ofSnapshot drawn
  have carried : (∀ task ∈ workflow.tasks,
        Node.WritesOnly task.node.step fun key => key ∈ Record.keys workflow.schema) ∧
      ∀ key ∈ Record.keys initial, key ∈ Record.keys workflow.schema := by
    obtain ⟨parts, rfl, writes⟩ := exists_eq_joined_carrying faithful built
    refine ⟨fun task member state before delta after gives key written => ?_, fun key asked => ?_⟩
    · exact Schema.mem_keys_build.mpr (Or.inr (writes task member gives key written))
    · exact Schema.mem_keys_build.mpr (Or.inr (mem_furtherKeys_of_stateKeys asked))
  refine ⟨blueprint.plan, (Blueprint.ofSnapshot_eq_ok_iff.mp drawn).1, carried.1, ?_⟩
  intro limit before course after final ran ended
  have last := states_of_outcome ended
  refine ⟨?_, ?_, ?_⟩
  -- what was written, what the run began with, and what is left alone
  · intro superstep taken delta wrote key written
    have among : key ∈ Record.keys (course.written course.supersteps.length) := by
      obtain ⟨pair, held, rfl⟩ := List.mem_map.mp written
      refine List.mem_map_of_mem (List.mem_flatten.mpr ⟨delta, ?_, held⟩)
      rw [List.take_length]
      exact List.mem_flatMap.mpr ⟨superstep, taken, wrote⟩
    have declared := allowed_of_mem_written carried.1 ran among
    refine ⟨declared, (mem_keys_of_run declared ran last).mpr ?_⟩
    rw [Record.keys, List.map_append]
    exact List.mem_append_right _ among
  · intro key asked
    refine (mem_keys_of_run (carried.2 key asked) ran last).mpr ?_
    rw [Record.keys, List.map_append]
    exact List.mem_append_left _ asked
  · intro key asked alone
    have unwritten : key ∉ Record.keys (course.written course.supersteps.length) := fun written =>
      allowed_of_mem_written (fun task member => writesOnly_of_mem_tasks faithful built member) ran
        written alone
    exact find?_of_run_of_unwritten distinct (carried.2 key asked) unwritten ran last

end Workflow

end Framing

/-! ### A desk

A graph with a single node, which answers. The topic of the state is none of its business. -/

namespace Desk

/-- The only node. -/
def worker : PlanNode where
  node := { key := "desk", type := "worker", outputKey := some "answer" }
  model := some ⟨"maker", "model"⟩

def plan : GraphPlan where
  graph := { entry := "desk" }
  nodes := [worker]
  edges := [⟨"desk", endKey⟩]

theorem validate_plan : validate (some plan.toSnapshot) = .ok plan :=
  validate_single rfl (by decide : IsKey "desk") (by decide) (by decide)

def blueprint : Blueprint where
  plan := plan
  declared := []
  supervision := []

theorem ofSnapshot_plan : Blueprint.ofSnapshot {} (some plan.toSnapshot) = .ok blueprint :=
  Blueprint.ofSnapshot_eq_ok_iff.mpr ⟨validate_plan, rfl, [], rfl, rfl⟩

/-- The task of the node. Its agent leaves a conversation as it is. -/
def task : Task (List Message) where
  node := {
    key := "desk"
    description := "desk"
    step := Node.workerStep Newsroom.services.prepareImage worker.node {} { run := pure } }
  seconds := ({} : Settings).nodeTimeoutSeconds

/-- The state that its runs begin in. -/
def initial : State := [("topic", .str "rain"), ("answer", .str "none yet")]

def workflow : Workflow (List Message) :=
  Workflow.joined blueprint [⟨task, ["answer"]⟩] (Record.keys initial)

theorem gives_assemble (script : List Message) :
    (Workflow.assemble {} Newsroom.services (some plan.toSnapshot) none
      (Record.keys initial)).Gives script workflow script :=
  Workflow.gives_assemble_iff.mpr ⟨blueprint, ofSnapshot_plan,
    Workflow.gives_build_iff.mpr ⟨_, _, rfl, [⟨task, ["answer"]⟩], _, rfl, [], rfl,
      Workflow.join_eq_ok_of_free (by decide +kernel) (by decide +kernel)⟩⟩

/-- What the node writes. -/
def answer : Delta := [("answer", .str "")]

/-- The turn of the human. -/
def turn : Message where
  role := .human
  content := .list [Node.textPart Node.defaultWorkerPrompt]

/-- The node answers nothing, since its agent adds nothing. -/
theorem gives_step (state : State) (script : List Message) :
    (task.node.step state).Gives script answer script := by
  have plain : Node.sendsImage {} "" = false := by decide +kernel
  have opens : (Node.humanTurn Newsroom.services.prepareImage {} Node.defaultWorkerPrompt
      "").Gives script turn script := by
    rw [Node.humanTurn, plain]
    rfl
  have answers : (Node.finalText (Node.workerLabel "desk") [.message turn]).Gives script (.str "")
      script := by
    rfl
  exact Act.gives_bind_iff.mpr ⟨turn, script, opens, Act.gives_bind_iff.mpr
    ⟨[.message turn], script, rfl, Act.gives_bind_iff.mpr ⟨.str "", script, answers, rfl⟩⟩⟩

/-- The state after the initial values have been written. -/
def begun : State := workflow.schema.apply [] initial

def superstep : Superstep where
  input := workflow.schema.arrange begun
  invocations := [⟨"desk", .ok (answer, [.finish])⟩]

theorem takes (script : List Message) :
    workflow.Takes ["desk"] begun script superstep script := by
  have timely : Node.isPast task.seconds = false := by decide
  have leads : workflow.targets "desk" = [.finish] := by decide +kernel
  have invoked : (workflow.invoke (workflow.schema.arrange begun) task).outcome script =
      (.ok (answer, [.finish]), script) :=
    Workflow.outcome_invoke_of_gives timely (gives_step _ script) (congrArg Except.ok leads)
  exact Workflow.takes_singleton rfl invoked

/-- The state that its runs end in. -/
def final : State := workflow.schema.arrange (workflow.schema.apply begun answer)

def course : Course where
  supersteps := [superstep]
  outcome := .ok final

theorem run_eq (script : List Message) :
    ((workflow.run 100 initial).run script).run = (course, script) :=
  Workflow.run_eq_iff.mpr (Or.inr ⟨by decide,
    .continued (List.cons_ne_nil _ _) (takes script) rfl .finished⟩)

/-- Nothing but the output is written. -/
theorem leavesAlone_topic : plan.LeavesAlone "topic" where
  not_own := by decide
  not_output := by
    refine List.forall_mem_singleton.mpr ?_
    rintro (⟨-, named⟩ | ⟨kind, -⟩)
    · exact absurd named (by decide)
    · exact absurd kind (by decide)

end Desk

namespace Workflow

/-- The run of the desk overwrites the answer it began with, and keeps the topic. -/
theorem desk_frames_state :
    ∃ workflow, (assemble {} Newsroom.services (some Desk.plan.toSnapshot) none
        (Record.keys Desk.initial)).Gives [] workflow [] ∧
      (Record.keys Desk.initial).Nodup ∧
      ∃ course final, ((workflow.run 100 Desk.initial).run []).run = (course, []) ∧
        course.outcome = .ok final ∧ course.supersteps.map Superstep.deltas = [[Desk.answer]] ∧
        (∀ key ∈ Record.keys Desk.answer, key ∈ Record.keys workflow.schema) ∧
        (∀ key ∈ Record.keys Desk.initial, key ∈ Record.keys final) ∧
        final.find? "topic" = Desk.initial.find? "topic" := by
  have distinct : (Record.keys Desk.initial).Nodup := by decide
  obtain ⟨plan, valid, -, framed⟩ := assemble_frames_state (Desk.gives_assemble []) distinct
  obtain rfl : Desk.plan = plan := Except.ok.inj (Desk.validate_plan.symm.trans valid)
  obtain ⟨written, kept, alone⟩ := framed 100 [] _ _ _ (Desk.run_eq []) rfl
  refine ⟨Desk.workflow, Desk.gives_assemble [], distinct, Desk.course, Desk.final, Desk.run_eq [],
    rfl, rfl, fun key named => ?_, kept, alone "topic" (by decide) Desk.leavesAlone_topic⟩
  exact (written Desk.superstep List.mem_cons_self Desk.answer List.mem_cons_self key named).1

end Workflow

end AgentWorkflow
