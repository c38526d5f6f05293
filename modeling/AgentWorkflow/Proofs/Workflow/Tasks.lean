import AgentWorkflow.Proofs.Node.Built
import AgentWorkflow.Proofs.Node.Writes
import AgentWorkflow.Proofs.Workflow.Assembly

/-!
# The tasks of an assembled workflow

Every task was built from a node of the graph. The task of a supervisor does what supervisors do,
with some responder for its model; every other task writes only what its node may write.

## Main definitions

* `Workflow.supervisorTask`: the task of a supervisor
* `Workflow.BuiltAs`: what is built for any other node, kind by kind
* `Workflow.PlainPart`: what the step of such a node does
* `PlanNode.MayWrite`: the state keys that a node which is no supervisor may write
* `Workflow.TaskOf`: the tasks that the nodes of a graph may have

## Main results

* `Workflow.exists_task?_of_supervises`: under the key of a supervisor stands its task
* `Workflow.taskOf_of_mem_tasks`: every task is that of a supervisor, or keeps to what its node may
  write
-/

namespace AgentWorkflow

variable {σ : Type} {settings : Settings} {services : Services σ} {snapshot : Option Snapshot}
  {transport : Option (Tool.Transport σ)} {stateKeys : List String} {blueprint : Blueprint}
  {workflow : Workflow σ} {before after : σ} {n : PlanNode} {config : SupervisorConfig}
  {key : String} {owners : Record String} {clients : Record (Chat.Client σ)}
  {supervision : Supervision}

/-- A tool node writes a field of its result under a state key. -/
def PlanNode.WritesResult (n : PlanNode) (key : String) : Prop :=
  normalizeType n.node.type = "tool" ∧ ∃ tool config fields, n.tools = [tool] ∧
    ToolConfig.parse n.node.config (Node.toolLabel n.key) = .ok config ∧
      Tool.fieldNames tool.outputSchema tool.name = .ok fields ∧
        key ∈ fields.map config.target

/-- The state keys that a node which is no supervisor may write. -/
def PlanNode.MayWrite (n : PlanNode) (key : String) : Prop :=
  key = messagesKey ∨ n.node.outputKey = some key ∨ n.WritesResult key

/-- The kind of a node is a supervisor's or a tool's only if its type says so, and a member's only
if a supervisor lists it. Workers and members have the type of a worker. -/
theorem type_of_classify {type : String} {kind : NodeKind}
    (classified : classify key (some type) owners = .ok kind) :
    (kind = .supervisor ↔ normalizeType type = "supervisor") ∧
      (kind = .tool → normalizeType type = "tool") ∧ (kind = .member → owners.has key = true) ∧
        (kind = .worker ∨ kind = .member → normalizeType type = "worker") := by
  simp only [classify, Option.getD_some, NodeKind.word, beq_iff_eq] at classified
  split_ifs at classified with worker member tool supervisor
  all_goals
    cases classified
    simp [*]

namespace Workflow

/-! ### What is built -/

/-- The task of a supervisor. -/
def supervisorTask (prepare : Node.ImagePreparer σ) (n : PlanNode) (config : SupervisorConfig)
    (respond : Chat.Responder σ) : Task σ where
  node := {
    key := n.key
    description := "Supervisor routing node: " ++ n.key
    step := Node.supervisorStep prepare n.node config respond }
  seconds := config.timeoutSeconds

/-- What the step of a node does that is no supervisor: a member goes on with the conversation, and
any other node writes what it is told to write, under keys that its part uses. -/
inductive PlainPart (owners : Record String) (n : PlanNode) (part : Part σ) : Prop
  | member (agent : Agent.Reasoner σ) (owned : owners.has n.key = true)
      (step_eq : part.task.node.step = Node.memberStep n.key agent) : PlainPart owners n part
  | teller (writes : Node.WritesOnly part.task.node.step fun key =>
      (n.node.outputKey = some key ∨ n.WritesResult key) ∧ key ∈ part.keys) :
      PlainPart owners n part

/-- A tool node that could be built has one tool, whose schemas can be read. -/
theorem writesOnly_of_buildTool {built : Node.Built σ} (kind : normalizeType n.node.type = "tool")
    (gives : (Node.buildTool n transport).Gives before built after) :
    built.key = n.key ∧ Node.WritesOnly built.step n.WritesResult := by
  obtain ⟨server, plan, -, ⟨tool, only, -, -, parsed, -, declared⟩, rfl, -⟩ :=
    Node.gives_buildTool_iff.mp gives
  refine ⟨rfl, ?_⟩
  intro state before delta after gives key written
  exact ⟨kind, tool, plan.config, plan.outputs, only, parsed, declared,
    Node.toolStep_writesOnly _ _ gives key written⟩

/-- The keys of the results of a tool node are among the state keys that it uses. -/
theorem mem_of_toolStateKeys {keys : List String} (used : Node.toolStateKeys n = .ok keys)
    (writes : n.WritesResult key) : key ∈ keys := by
  obtain ⟨-, tool, config, fields, only, parsed, declared, member⟩ := writes
  rw [Node.toolStateKeys, only] at used
  simp only [bind_eq_ok_iff, parsed, declared] at used
  obtain ⟨config', same, inputs, -, fields', same', all⟩ := used
  cases same
  cases same'
  cases all
  exact List.mem_append_right _ member

/-- The keys that a stored node names are used by its part. -/
theorem mem_ownKeys_of_outputKey (named : n.node.outputKey = some key) (nonempty : key ≠ "") :
    key ∈ ownKeys n.node := by
  simp [ownKeys, named, nonempty]

/-- What is built for a node that is no supervisor, kind by kind. -/
inductive BuiltAs (services : Services σ) (owners : Record String) (n : PlanNode) (part : Part σ) :
    Prop
  | member (agent : Agent.Reasoner σ) (type_eq : normalizeType n.node.type = "worker")
      (owned : owners.has n.key = true)
      (step_eq : part.task.node.step = Node.memberStep n.key agent) :
      BuiltAs services owners n part
  | worker (config : WorkerConfig) (agent : Agent.Reasoner σ)
      (type_eq : normalizeType n.node.type = "worker")
      (step_eq : part.task.node.step = Node.workerStep services.prepareImage n.node config agent)
      (keys_eq : part.keys = ownKeys n.node) : BuiltAs services owners n part
  | tool (keys : List String) (writes : Node.WritesOnly part.task.node.step n.WritesResult)
      (used : Node.toolStateKeys n = .ok keys) (keys_eq : part.keys = keys ++ ownKeys n.node) :
      BuiltAs services owners n part

theorem builtAs_of_buildPart {part : Part σ}
    (built : (buildPart settings services transport owners clients n).Gives before (some part)
      after) :
    normalizeType n.node.type ≠ "supervisor" ∧ part.task.key = n.key ∧
      BuiltAs services owners n part := by
  simp only [buildPart, Act.gives_bind_iff, Node.gives_ofBuild_iff] at built
  obtain ⟨kind, _, ⟨classified, rfl⟩, rest⟩ := built
  obtain ⟨supervisor_iff, tool, owned, worker⟩ := type_of_classify classified
  cases kind with
  | supervisor => simp at rest
  | member =>
    simp only [Act.gives_bind_iff, Act.gives_pure_iff, Node.gives_buildMember_iff] at rest
    obtain ⟨_, _, ⟨_, agent, -, rfl⟩, same, -⟩ := rest
    cases same
    exact ⟨fun type => NodeKind.noConfusion (supervisor_iff.mpr type), rfl,
      .member agent (worker (Or.inr rfl)) (owned rfl) rfl⟩
  | worker =>
    simp only [Act.gives_bind_iff, Act.gives_pure_iff, Node.gives_buildWorker_iff] at rest
    obtain ⟨_, _, ⟨config, agent, -, rfl⟩, same, -⟩ := rest
    cases same
    exact ⟨fun type => NodeKind.noConfusion (supervisor_iff.mpr type), rfl,
      .worker config agent (worker (Or.inl rfl)) rfl rfl⟩
  | tool =>
    simp only [Act.gives_bind_iff, Act.gives_pure_iff, Act.gives_ofExcept_iff] at rest
    obtain ⟨made, _, gives, keys, _, ⟨used, -⟩, same, -⟩ := rest
    cases same
    obtain ⟨key_eq, writes⟩ := writesOnly_of_buildTool (tool rfl) gives
    exact ⟨fun type => NodeKind.noConfusion (supervisor_iff.mpr type), key_eq,
      .tool keys writes used rfl⟩

/-- What is built for a node that is no supervisor. -/
theorem plainPart_of_buildPart {part : Part σ}
    (built : (buildPart settings services transport owners clients n).Gives before (some part)
      after) :
    normalizeType n.node.type ≠ "supervisor" ∧ part.task.key = n.key ∧ PlainPart owners n part := by
  obtain ⟨type_ne, key_eq, builtAs⟩ := builtAs_of_buildPart built
  refine ⟨type_ne, key_eq, ?_⟩
  cases builtAs with
  | member agent _ owned step_eq => exact .member agent owned step_eq
  | worker config agent _ step_eq keys_eq =>
    refine .teller ?_
    intro state before delta after gives key written
    rw [step_eq] at gives
    rw [keys_eq]
    obtain ⟨named, nonempty⟩ := Node.workerStep_writesOnly _ _ _ _ gives key written
    exact ⟨Or.inl named, mem_ownKeys_of_outputKey named nonempty⟩
  | tool keys writes used keys_eq =>
    refine .teller ?_
    intro state before delta after gives key written
    have result := writes gives key written
    rw [keys_eq]
    exact ⟨Or.inr result, List.mem_append_left _ (mem_of_toolStateKeys used result)⟩

/-- A node that is no supervisor keeps to what it may write. -/
theorem PlainPart.writesOnly {part : Part σ} (plain : PlainPart owners n part) :
    Node.WritesOnly part.task.node.step n.MayWrite := by
  intro state before delta after gives key written
  cases plain with
  | member agent _ step_eq =>
    rw [step_eq] at gives
    exact Or.inl (Node.memberStep_writesOnly _ _ gives key written)
  | teller writes => exact Or.inr (writes gives key written).1

/-- The part of a supervisor is its task. Other nodes are passed over. -/
theorem gives_buildRouting {result : Option (Part σ)}
    (built : (buildRouting settings services supervision clients n).Gives before result after) :
    (supervision.find? n.key = none ∧ result = none) ∨
      ∃ config part respond, supervision.find? n.key = some config ∧ result = some part ∧
        part.task = supervisorTask services.prepareImage n config respond ∧
          part.keys = ownKeys n.node := by
  rw [buildRouting] at built
  cases found : supervision.find? n.key with
  | none =>
    rw [found] at built
    obtain ⟨rfl, -⟩ := Act.gives_pure_iff.mp built
    exact Or.inl ⟨rfl, rfl⟩
  | some config =>
    rw [found] at built
    simp only [Node.buildSupervisor, Node.supervisorConfig, Act.gives_bind_iff,
      Act.gives_ofExcept_iff, Act.gives_pure_iff] at built
    obtain ⟨_, _, ⟨model, _, -, config', _, ⟨same, rfl⟩, respond, _, -, rfl, -⟩, rfl, -⟩ := built
    cases same
    exact Or.inr ⟨config, _, respond, rfl, rfl, rfl, rfl⟩

/-! ### Tasks by key -/

theorem mem_arrangeTasks {nodes : List PlanNode} {parts : List (Part σ)} {task : Task σ}
    (member : task ∈ arrangeTasks nodes parts) : ∃ part ∈ parts, part.task = task := by
  rw [arrangeTasks, List.mem_filterMap] at member
  obtain ⟨_, -, found⟩ := member
  exact List.mem_map.mp (List.mem_of_find?_eq_some found)

/-- Arranging tasks keeps the first one of every key that is a node's. -/
theorem find?_arrangeTasks {nodes : List PlanNode} {parts : List (Part σ)} {task : Task σ}
    (found : (parts.map Part.task).find? (fun task => task.key == key) = some task)
    (known : key ∈ nodes.map PlanNode.key) :
    (arrangeTasks nodes parts).find? (fun task => task.key == key) = some task := by
  rw [arrangeTasks]
  induction nodes with
  | nil => cases known
  | cons node nodes ih =>
    by_cases here : node.key = key
    · have first : (parts.map Part.task).find? (fun task => task.key == node.key) = some task := by
        rw [here]
        exact found
      have hit : task.key = key := by simpa using List.find?_some found
      rw [List.filterMap_cons]
      simp only [first]
      exact List.find?_cons_of_pos (by simpa using hit)
    · have later : key ∈ nodes.map PlanNode.key :=
        (List.mem_cons.mp known).resolve_left fun same => here same.symm
      cases other : (parts.map Part.task).find? (fun task => task.key == node.key) with
      | none =>
        rw [List.filterMap_cons]
        simp only [other]
        exact ih later
      | some passed =>
        have passed_key : passed.key = node.key := by simpa using List.find?_some other
        -- the task of another node has another key
        rw [List.filterMap_cons]
        simp only [other]
        rw [List.find?_cons_of_neg (by simpa [passed_key] using here)]
        exact ih later

/-- A task is that of a supervisor, or it keeps to what its node may write. -/
inductive TaskOf (settings : Settings) (services : Services σ) (plan : GraphPlan) :
    Task σ → Prop
  | supervisor {n : PlanNode} {config : SupervisorConfig} {respond : Chat.Responder σ}
      (node : n ∈ plan.nodes) (supervises : n.Supervises settings config) :
      TaskOf settings services plan (supervisorTask services.prepareImage n config respond)
  | other {n : PlanNode} {task : Task σ} (node : n ∈ plan.nodes)
      (type_ne : normalizeType n.node.type ≠ "supervisor") (key_eq : task.key = n.key)
      (writes : Node.WritesOnly task.node.step n.MayWrite) : TaskOf settings services plan task

/-- A task under the key of a supervisor is the task of that supervisor. -/
theorem TaskOf.exists_respond {plan : GraphPlan} {task : Task σ}
    (taskOf : TaskOf settings services plan task) (distinct : (plan.nodes.map PlanNode.key).Nodup)
    (node : n ∈ plan.nodes) (supervises : n.Supervises settings config)
    (same : task.key = n.key) :
    ∃ respond, task = supervisorTask services.prepareImage n config respond := by
  cases taskOf with
  | @supervisor m config' respond node' supervises' =>
    obtain rfl := List.inj_on_of_nodup_map distinct node' node same
    obtain rfl : config' = config :=
      Except.ok.inj (supervises'.parse_eq.symm.trans supervises.parse_eq)
    exact ⟨respond, rfl⟩
  | other node' type_ne key_eq _ =>
    obtain rfl := List.inj_on_of_nodup_map distinct node' node (key_eq.symm.trans same)
    exact absurd supervises.type_eq type_ne

/-- A part belongs to a supervisor, or to another node of the graph. -/
inductive PartOf (settings : Settings) (services : Services σ) (blueprint : Blueprint)
    (part : Part σ) : Prop
  | supervisor {n : PlanNode} {config : SupervisorConfig} {respond : Chat.Responder σ}
      (node : n ∈ blueprint.plan.nodes) (supervises : n.Supervises settings config)
      (task_eq : part.task = supervisorTask services.prepareImage n config respond)
      (keys_eq : part.keys = ownKeys n.node) : PartOf settings services blueprint part
  | other {n : PlanNode} (node : n ∈ blueprint.plan.nodes)
      (type_ne : normalizeType n.node.type ≠ "supervisor") (key_eq : part.task.key = n.key)
      (plain : PlainPart blueprint.supervision.owners n part) :
      PartOf settings services blueprint part

theorem PartOf.taskOf {part : Part σ} (partOf : PartOf settings services blueprint part) :
    TaskOf settings services blueprint.plan part.task := by
  cases partOf with
  | supervisor node supervises task_eq _ =>
    rw [task_eq]
    exact .supervisor node supervises
  | other node type_ne key_eq plain => exact .other node type_ne key_eq plain.writesOnly

section Built

variable (faithful : blueprint.Faithful settings)

include faithful in
/-- Every part was built from a node of the graph. -/
theorem partOf_of_mem_parts {parts routings : List (Part σ)} {made middle last : σ}
    (plain : (buildEach (buildPart settings services transport blueprint.supervision.owners
      clients) blueprint.plan.nodes).Gives made parts middle)
    (routed : (buildEach (buildRouting settings services blueprint.supervision clients)
      blueprint.plan.nodes).Gives middle routings last)
    {part : Part σ} (member : part ∈ parts ++ routings) :
    PartOf settings services blueprint part := by
  rcases List.mem_append.mp member with early | late
  · obtain ⟨n, node, _, _, built⟩ := exists_node_of_mem_parts plain early
    obtain ⟨type_ne, key_eq, plain⟩ := plainPart_of_buildPart built
    exact .other node type_ne key_eq plain
  · obtain ⟨n, node, _, _, built⟩ := exists_node_of_mem_parts routed late
    rcases gives_buildRouting built with
      ⟨-, impossible⟩ | ⟨config, _, respond, found, same, task_eq, keys_eq⟩
    · cases impossible
    · cases same
      obtain ⟨m, node', same, supervises⟩ :=
        faithful.mem_supervision_iff.mp (Record.mem_of_find? found)
      obtain rfl := List.inj_on_of_nodup_map faithful.wellFormed.keys_nodup node' node same
      exact .supervisor node supervises task_eq keys_eq

variable
  (built : (build settings services transport stateKeys blueprint).Gives before workflow after)

include faithful built in
/-- A workflow that was built was joined from parts of its nodes. -/
theorem exists_eq_joined_partOf :
    ∃ parts, workflow = joined blueprint parts stateKeys ∧
      ∀ part ∈ parts, PartOf settings services blueprint part := by
  obtain ⟨clients, _, -, parts, _, plain, routings, routed, joined⟩ := gives_build_iff.mp built
  exact ⟨parts ++ routings, (join_eq_ok_iff.mp joined).1,
    fun part member => partOf_of_mem_parts faithful plain routed member⟩

include faithful built in
/-- Every task was built from a node of the graph. -/
theorem taskOf_of_mem_tasks {task : Task σ} (member : task ∈ workflow.tasks) :
    TaskOf settings services blueprint.plan task := by
  obtain ⟨parts, rfl, partOf⟩ := exists_eq_joined_partOf faithful built
  obtain ⟨part, among, rfl⟩ := mem_arrangeTasks member
  exact (partOf part among).taskOf

include faithful built in
/-- Under the key of a supervisor stands its task. -/
theorem exists_task?_of_supervises (node : n ∈ blueprint.plan.nodes)
    (supervises : n.Supervises settings config) :
    ∃ respond,
      workflow.task? n.key = some (supervisorTask services.prepareImage n config respond) := by
  obtain ⟨clients, _, -, parts, _, plain, routings, routed, joined⟩ := gives_build_iff.mp built
  obtain ⟨rfl, -, -⟩ := join_eq_ok_iff.mp joined
  have entry := faithful.mem_supervision_iff.mpr ⟨n, node, rfl, supervises⟩
  have found := Record.find?_of_mem faithful.keys_nodup entry
  obtain ⟨result, _, _, made, kept⟩ := exists_gives_of_mem_nodes routed node
  rcases gives_buildRouting made with ⟨missing, -⟩ | ⟨config', part, respond, -, rfl, task, -⟩
  · rw [found] at missing
    cases missing
  · have present : part ∈ parts ++ routings :=
      List.mem_append_right _ (kept (Option.mem_toList.mpr rfl))
    cases first : ((parts ++ routings).map Part.task).find? fun task => task.key == n.key with
    | none =>
      have refused := List.find?_eq_none.mp first part.task (List.mem_map_of_mem present)
      rw [task] at refused
      exact absurd (beq_self_eq_true n.key) refused
    | some chosen =>
      -- whichever part has its key comes from the same node
      obtain ⟨part', member, rfl⟩ := List.mem_map.mp (List.mem_of_find?_eq_some first)
      have taskOf := (partOf_of_mem_parts faithful plain routed member).taskOf
      obtain ⟨respond', same⟩ := taskOf.exists_respond faithful.wellFormed.keys_nodup node
        supervises (by simpa using List.find?_some first)
      refine ⟨respond', ?_⟩
      rw [← same]
      exact find?_arrangeTasks first (List.mem_map_of_mem node)

end Built

end Workflow

end AgentWorkflow
