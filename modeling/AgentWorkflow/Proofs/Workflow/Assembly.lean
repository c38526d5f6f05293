import AgentWorkflow.Proofs.Node.Built
import AgentWorkflow.Proofs.State.Schema
import AgentWorkflow.Proofs.Workflow.Supervision
import AgentWorkflow.Workflow.Assembly

/-!
# What an assembled workflow is made of

A workflow that has been assembled comes from a blueprint, from parts that were built one by one,
and from joining them. Its edges, routes and schema can be read off the blueprint; only its tasks
depend on the collaborators.

## Main results

* `Blueprint.faithful_of_ofSnapshot`: what a blueprint says about its snapshot
* `Workflow.gives_assemble_iff`: the stages of an assembly that succeeds
* `Workflow.join_eq_ok_iff`: what is joined, and which keys are refused
* `Workflow.exists_find?_schema_joined`: how the keys of its state are merged
-/

namespace AgentWorkflow

theorem Blueprint.ofSnapshot_eq_ok_iff {settings : Settings} {snapshot : Option Snapshot}
    {blueprint : Blueprint} :
    ofSnapshot settings snapshot = .ok blueprint ↔
      validate snapshot = .ok blueprint.plan ∧
        Supervision.collect settings blueprint.plan.nodes = .ok blueprint.supervision ∧
          ∃ declared, Schema.parse blueprint.plan.graph.stateSchema = .ok declared ∧
            blueprint.declared = declare blueprint.supervision declared := by
  simp only [ofSnapshot, bind_eq_ok_iff]
  constructor
  · rintro ⟨plan, valid, declared, parsed, supervision, collected, same⟩
    cases same
    exact ⟨valid, collected, declared, parsed, rfl⟩
  · rintro ⟨valid, collected, declared, parsed, same⟩
    refine ⟨blueprint.plan, valid, declared, parsed, blueprint.supervision, collected, ?_⟩
    rw [← same]
    rfl

/-- What is known of a blueprint that was drawn from a snapshot: the graph passes the check, and its
supervisors are exactly the nodes of that type, each with a configuration that can be read. -/
structure Blueprint.Faithful (settings : Settings) (blueprint : Blueprint) : Prop where
  wellFormed : blueprint.plan.WellFormed
  reachesEnd : blueprint.plan.ReachesEnd
  mem_supervision_iff : ∀ {key : String} {config : SupervisorConfig},
    (key, config) ∈ blueprint.supervision ↔
      ∃ n ∈ blueprint.plan.nodes, n.key = key ∧ n.Supervises settings config
  exists_supervises : ∀ n ∈ blueprint.plan.nodes, normalizeType n.node.type = "supervisor" →
    ∃ config, n.Supervises settings config
  exists_member : ∀ {key member : String} {config : SupervisorConfig},
    (key, config) ∈ blueprint.supervision → member ∈ config.members →
      ∃ n ∈ blueprint.plan.nodes, n.key = member ∧ normalizeType n.node.type ≠ "supervisor"
  keys_nodup : blueprint.supervision.keys.Nodup

theorem Blueprint.faithful_of_ofSnapshot {settings : Settings} {snapshot : Option Snapshot}
    {blueprint : Blueprint} (drawn : ofSnapshot settings snapshot = .ok blueprint) :
    blueprint.Faithful settings := by
  obtain ⟨valid, collected, -⟩ := ofSnapshot_eq_ok_iff.mp drawn
  obtain ⟨-, wellFormed, -, reachesEnd⟩ := validate_eq_ok_iff.mp valid
  exact {
    wellFormed
    reachesEnd
    mem_supervision_iff := Supervision.mem_collect_iff wellFormed.keys_nodup collected
    exists_supervises := fun _ =>
      Supervision.exists_supervises_of_collect wellFormed.keys_nodup collected
    exists_member := Supervision.member_of_collect collected
    keys_nodup := Supervision.keys_nodup_of_collect wellFormed.keys_nodup collected }

/-- A supervisor is a node of that type, and no other. -/
theorem Blueprint.Faithful.has_supervision_iff {settings : Settings} {blueprint : Blueprint}
    (faithful : blueprint.Faithful settings) {key : String} :
    blueprint.supervision.has key = true ↔
      ∃ n ∈ blueprint.plan.nodes, n.key = key ∧ normalizeType n.node.type = "supervisor" := by
  rw [Record.has_iff, Record.keys, List.mem_map]
  constructor
  · rintro ⟨⟨key, config⟩, entry, rfl⟩
    obtain ⟨n, node, same, supervises⟩ := faithful.mem_supervision_iff.mp entry
    exact ⟨n, node, same, supervises.type_eq⟩
  · rintro ⟨n, node, same, kind⟩
    obtain ⟨config, supervises⟩ := faithful.exists_supervises n node kind
    exact ⟨(key, config), faithful.mem_supervision_iff.mpr ⟨n, node, same, supervises⟩, rfl⟩

/-- The stored schema of a graph declares how a key is merged. Of two declarations of a key the
later one counts. -/
def GraphPlan.Declares (plan : GraphPlan) (key : String) (r : Reducer) : Prop :=
  ∃ declared, Schema.parse plan.graph.stateSchema = .ok declared ∧
    (Record.ofPairs declared).find? key = some r

/-- But for the conversation, a blueprint declares what the stored schema does. -/
theorem Blueprint.find?_declared_iff {settings : Settings} {snapshot : Option Snapshot}
    {blueprint : Blueprint} (drawn : ofSnapshot settings snapshot = .ok blueprint) {key : String}
    (ne : key ≠ messagesKey) {r : Reducer} :
    (Record.ofPairs blueprint.declared).find? key = some r ↔ blueprint.plan.Declares key r := by
  obtain ⟨-, -, declared, parsed, same⟩ := ofSnapshot_eq_ok_iff.mp drawn
  have kept : (Record.ofPairs blueprint.declared).find? key =
      (Record.ofPairs declared).find? key := by
    rw [same, declare]
    split_ifs
    · rfl
    · exact Record.find?_ofPairs_put_of_ne ne
  rw [kept]
  constructor
  · exact fun found => ⟨declared, parsed, found⟩
  · rintro ⟨declared', parsed', found⟩
    rw [parsed] at parsed'
    cases parsed'
    exact found

namespace Workflow

variable {σ : Type} {settings : Settings} {services : Services σ} {snapshot : Option Snapshot}
  {transport : Option (Tool.Transport σ)} {stateKeys : List String} {blueprint : Blueprint}
  {workflow : Workflow σ} {before after : σ} {parts : List (Part σ)}

/-- The workflow that parts are joined to, if the engine takes their keys. -/
def joined (blueprint : Blueprint) (parts : List (Part σ)) (stateKeys : List String) :
    Workflow σ where
  entry := blueprint.plan.graph.entry
  tasks := arrangeTasks blueprint.plan.nodes parts
  edges := (edgesOf blueprint).eraseDups
  routes := blueprint.supervision.map fun (supervisor, config) => (supervisor, config.members)
  schema := Schema.build blueprint.declared (furtherKeys blueprint parts stateKeys)

theorem join_eq_ok_iff :
    join blueprint parts stateKeys = .ok workflow ↔
      workflow = joined blueprint parts stateKeys ∧
      (∀ task ∈ workflow.tasks, isNodeKey task.key) ∧
        ∀ key ∈ workflow.tasks.map Task.key ++ Record.keys workflow.schema, key ∉ reservedKeys := by
  simp only [join]
  split
  · rename_i task found
    constructor
    · intro h
      cases h
    · rintro ⟨rfl, taken, -⟩
      have refused := List.find?_some found
      rw [taken task (List.mem_of_find?_eq_some found)] at refused
      cases refused
  · rename_i none_refused
    split
    · rename_i reserved
      constructor
      · intro h
        cases h
      · rintro ⟨rfl, -, free⟩
        obtain ⟨key, member, clash⟩ := List.any_eq_true.mp reserved
        exact absurd (List.contains_iff_mem.mp clash) (free key member)
    · rename_i free
      constructor
      · intro h
        cases h
        refine ⟨rfl, fun task member => ?_, fun key member clash => free ?_⟩
        · simpa using List.find?_eq_none.mp none_refused task member
        · exact List.any_eq_true.mpr ⟨key, member, List.contains_iff_mem.mpr clash⟩
      · rintro ⟨rfl, -, -⟩
        rfl

/-- Parts can be joined when the engine takes the key of every task and every key that is declared
or used. -/
theorem join_eq_ok_of_free
    (taken : ∀ task ∈ arrangeTasks blueprint.plan.nodes parts, isNodeKey task.key)
    (free : ∀ key ∈ (arrangeTasks blueprint.plan.nodes parts).map Task.key ++
      (Record.keys blueprint.declared ++ (stateKeys ++ parts.flatMap Part.keys ++
        (if blueprint.supervision.isEmpty then [] else [decisionKey, iterationKey]) ++
          [messagesKey])), key ∉ reservedKeys) :
    join blueprint parts stateKeys = .ok (joined blueprint parts stateKeys) := by
  refine join_eq_ok_iff.mpr ⟨rfl, taken, fun key member => free key ?_⟩
  rcases List.mem_append.mp member with task | carried
  · exact List.mem_append_left _ task
  · rw [joined, Schema.mem_keys_build, furtherKeys, Text.mem_sortedSet] at carried
    exact List.mem_append_right _ (List.mem_append.mpr carried)

/-- A key that is carried is overwritten unless the stored schema declares it as appended to. -/
theorem exists_find?_schema_joined (drawn : Blueprint.ofSnapshot settings snapshot = .ok blueprint)
    {key : String} (ne : key ≠ messagesKey)
    (carried : key ∈ furtherKeys blueprint parts stateKeys) :
    ∃ r, Record.find? (joined blueprint parts stateKeys).schema key = some r ∧
      (r = .append ↔ blueprint.plan.Declares key .append) := by
  rw [joined, Schema.find?_build, if_pos carried]
  cases found : (Record.ofPairs blueprint.declared).find? key with
  | none =>
    refine ⟨.overwrite, rfl, fun same => Reducer.noConfusion same, fun declares => ?_⟩
    rw [(Blueprint.find?_declared_iff drawn ne).mpr declares] at found
    cases found
  | some r =>
    refine ⟨r, rfl, ?_, fun declares => ?_⟩
    · rintro rfl
      exact (Blueprint.find?_declared_iff drawn ne).mp found
    · rw [(Blueprint.find?_declared_iff drawn ne).mpr declares] at found
      cases found
      rfl

/-- With a supervisor the keys that belong to supervisors are carried. -/
theorem mem_furtherKeys_of_supervision {supervisor key : String} {config : SupervisorConfig}
    (entry : (supervisor, config) ∈ blueprint.supervision)
    (own : key ∈ [decisionKey, iterationKey]) :
    key ∈ furtherKeys blueprint parts stateKeys := by
  have some_supervisor : blueprint.supervision.isEmpty = false := by
    rw [List.isEmpty_eq_false_iff]
    exact List.ne_nil_of_mem entry
  rw [furtherKeys, some_supervisor, Text.mem_sortedSet]
  exact List.mem_append_left _ (List.mem_append_right _ own)

theorem gives_build_iff :
    (build settings services transport stateKeys blueprint).Gives before workflow after ↔
      ∃ clients made, (makeClients services.makeClient {} blueprint.plan.nodes).Gives before
          clients made ∧
        ∃ parts built, (buildEach (buildPart settings services transport
            blueprint.supervision.owners clients) blueprint.plan.nodes).Gives made parts built ∧
          ∃ routings, (buildEach (buildRouting settings services blueprint.supervision clients)
              blueprint.plan.nodes).Gives built routings after ∧
            join blueprint (parts ++ routings) stateKeys = .ok workflow := by
  simp only [build, Act.gives_bind_iff, Node.gives_ofBuild_iff]
  constructor
  · rintro ⟨clients, made, first, parts, built, second, routings, _, third, joined, rfl⟩
    exact ⟨clients, made, first, parts, built, second, routings, third, joined⟩
  · rintro ⟨clients, made, first, parts, built, second, routings, third, joined⟩
    exact ⟨clients, made, first, parts, built, second, routings, _, third, joined, rfl⟩

/-- A workflow that was built was joined from parts. -/
theorem exists_eq_joined
    (built : (build settings services transport stateKeys blueprint).Gives before workflow after) :
    ∃ parts, workflow = joined blueprint parts stateKeys := by
  obtain ⟨_, _, _, parts, _, _, routings, _, joined_ok⟩ := gives_build_iff.mp built
  exact ⟨parts ++ routings, (join_eq_ok_iff.mp joined_ok).1⟩

/-- With a supervisor the keys that belong to supervisors are overwritten, unless the stored schema
declares that they are appended to. -/
theorem exists_find?_schema_of_supervision {supervisor key : String} {config : SupervisorConfig}
    (drawn : Blueprint.ofSnapshot settings snapshot = .ok blueprint)
    (built : (build settings services transport stateKeys blueprint).Gives before workflow after)
    (entry : (supervisor, config) ∈ blueprint.supervision)
    (own : key ∈ [decisionKey, iterationKey]) :
    ∃ r, Record.find? workflow.schema key = some r ∧
      (r = .append ↔ blueprint.plan.Declares key .append) := by
  obtain ⟨parts, rfl⟩ := exists_eq_joined built
  have ne : key ≠ messagesKey := by
    have others : ∀ key ∈ [decisionKey, iterationKey], key ≠ messagesKey := by decide
    exact others key own
  exact exists_find?_schema_joined drawn ne (mem_furtherKeys_of_supervision entry own)

/-- An assembly succeeds when the snapshot has a blueprint and this can be built. -/
theorem gives_assemble_iff :
    (assemble settings services snapshot transport stateKeys).Gives before workflow after ↔
      ∃ blueprint, Blueprint.ofSnapshot settings snapshot = .ok blueprint ∧
        (build settings services transport stateKeys blueprint).Gives before workflow after := by
  simp only [assemble, Act.gives_bind_iff, Act.gives_ofExcept_iff]
  constructor
  · rintro ⟨blueprint, _, ⟨drawn, rfl⟩, built⟩
    exact ⟨blueprint, drawn, built⟩
  · rintro ⟨blueprint, drawn, built⟩
    exact ⟨blueprint, _, ⟨drawn, rfl⟩, built⟩

/-! ### Parts -/

section Parts

variable {build : PlanNode → Act σ (Option (Part σ))} {nodes : List PlanNode} {n : PlanNode}
  {part : Part σ}

theorem buildEach_eq_gather (build : PlanNode → Act σ (Option (Part σ))) (nodes : List PlanNode) :
    buildEach build nodes = Act.gather build nodes := by
  induction nodes with
  | nil => rfl
  | cons n nodes ih => rw [buildEach, Act.gather, ih]

theorem gives_buildEach_cons_iff :
    (buildEach build (n :: nodes)).Gives before parts after ↔
      ∃ first middle, (build n).Gives before first middle ∧
        ∃ rest, (buildEach build nodes).Gives middle rest after ∧ parts = first.toList ++ rest := by
  simp only [buildEach_eq_gather, Act.gives_gather_cons_iff]

/-- Every part was built from one of the nodes. -/
theorem exists_node_of_mem_parts (built : (buildEach build nodes).Gives before parts after)
    (member : part ∈ parts) :
    ∃ n ∈ nodes, ∃ before after, (build n).Gives before (some part) after := by
  rw [buildEach_eq_gather] at built
  exact Act.exists_of_mem_gather built member

/-- Every node was built, and what came of it is among the parts. -/
theorem exists_gives_of_mem_nodes (built : (buildEach build nodes).Gives before parts after)
    (node : n ∈ nodes) :
    ∃ result before after, (build n).Gives before result after ∧ result.toList ⊆ parts := by
  induction nodes generalizing before parts with
  | nil => cases node
  | cons first nodes ih =>
    obtain ⟨result, middle, one, rest, others, rfl⟩ := gives_buildEach_cons_iff.mp built
    rcases List.mem_cons.mp node with rfl | later
    · exact ⟨result, _, _, one, List.subset_append_left _ _⟩
    · obtain ⟨result', before', after', again, kept⟩ := ih others later
      exact ⟨result', before', after', again, List.subset_append_of_subset_right _ kept⟩

end Parts

end Workflow

/-! ### A newsroom

A graph with two supervisors, each with a member of its own. The edge that leaves the first
supervisor is dropped, and the one that leaves its member activates both supervisors at once. -/

namespace Newsroom

/-- A model that gives the replies of a script, one after another. -/
def reply : Chat.Responder (List Message) := fun _ =>
  ExceptT.mk fun
    | [] => (.error .unanswered, [])
    | reply :: script => (.ok reply, script)

/-- Collaborators that follow a script. Agents leave a conversation as it is. -/
def services : Services (List Message) where
  makeClient _ _ := pure (.chat { respond := reply, offer := fun _ _ => pure reply })
  buildAgent _ _ _ _ := pure { run := pure }
  prepareImage _ := throw .unanswered

def supervisor (key member : String) : PlanNode where
  node := { key, type := "supervisor", config := .object [("members", .list [.str member])] }
  model := some ⟨"maker", "model"⟩

def worker (key : String) : PlanNode where
  node := { key, type := "worker" }
  model := some ⟨"maker", "model"⟩

def plan (stateSchema : Stored) : GraphPlan where
  graph := { entry := "lead", stateSchema }
  nodes := [supervisor "lead" "writer", worker "writer", supervisor "desk" "reader",
    worker "reader"]
  edges := [⟨"lead", "writer"⟩, ⟨"writer", "desk"⟩]

/-- The configuration of a supervisor that leaves its limits to the settings. -/
def config (member : String) : SupervisorConfig where
  members := [member]
  maxIterations := ({} : Settings).supervisorMaxIterations
  timeoutSeconds := ({} : Settings).supervisorTimeoutSeconds

def blueprint (stateSchema : Stored) (declared : Schema) : Blueprint where
  plan := plan stateSchema
  declared := Record.put declared messagesKey .append
  supervision := [("lead", config "writer"), ("desk", config "reader")]

theorem lead_supervises : (supervisor "lead" "writer").Supervises {} (config "writer") :=
  ⟨by decide +kernel, rfl⟩

theorem desk_supervises : (supervisor "desk" "reader").Supervises {} (config "reader") :=
  ⟨by decide +kernel, rfl⟩

/-- Without a stored schema no key is declared. -/
theorem not_declares (key : String) (r : Reducer) : ¬ (plan .absent).Declares key r := by
  rintro ⟨declared, parsed, found⟩
  cases parsed
  cases found

theorem plan_wellFormed (stateSchema : Stored) : (plan stateSchema).WellFormed :=
  .of_listing ["lead", "writer", "desk", "reader"] [⟨"lead", "writer"⟩, ⟨"writer", "desk"⟩] rfl rfl
    (by decide) (by decide) List.mem_cons_self (by decide) (by decide)

theorem plan_legible (stateSchema : Stored) : ¬ (plan stateSchema).IsIllegible := by
  refine GraphPlan.not_isIllegible fun n node s => ?_
  simp only [plan, List.mem_cons, List.not_mem_nil, or_false] at node
  rcases node with rfl | rfl | rfl | rfl <;> nofun

theorem validate_plan (stateSchema : Stored) :
    validate (some (plan stateSchema).toSnapshot) = .ok (plan stateSchema) := by
  have reaches : (plan stateSchema).ReachesEnd :=
    .single (.toEnd List.mem_cons_self lead_supervises.lists)
  exact validate_eq_ok_iff.mpr
    ⟨rfl, plan_wellFormed stateSchema, plan_legible stateSchema, reaches⟩

theorem ofSnapshot_plan {stateSchema : Stored} {declared : Schema}
    (parsed : Schema.parse stateSchema = .ok declared) :
    Blueprint.ofSnapshot {} (some (plan stateSchema).toSnapshot) =
      .ok (blueprint stateSchema declared) :=
  Blueprint.ofSnapshot_eq_ok_iff.mpr ⟨validate_plan stateSchema, rfl, declared, parsed, rfl⟩

/-- The newsroom can be assembled, whatever the script. -/
theorem exists_gives_assemble (script : List Message) :
    ∃ workflow, (Workflow.assemble {} services (some (plan .absent).toSnapshot) none []).Gives
      script workflow script :=
  ⟨_, Workflow.gives_assemble_iff.mpr ⟨blueprint .absent [], ofSnapshot_plan rfl,
    Workflow.gives_build_iff.mpr ⟨_, _, rfl, _, _, rfl, _, rfl,
      Workflow.join_eq_ok_of_free (by decide +kernel) (by decide +kernel)⟩⟩⟩

/-- A stored schema by which decisions are appended to one another. -/
def appending : Stored := .object [(decisionKey, .str "append")]

/-- The newsroom can be assembled with such a schema, too. -/
theorem exists_gives_assemble_appending (script : List Message) :
    ∃ workflow, (Workflow.assemble {} services (some (plan appending).toSnapshot) none []).Gives
      script workflow script :=
  ⟨_, Workflow.gives_assemble_iff.mpr ⟨blueprint appending [(decisionKey, .append)],
    ofSnapshot_plan rfl,
    Workflow.gives_build_iff.mpr ⟨_, _, rfl, _, _, rfl, _, rfl,
      Workflow.join_eq_ok_of_free (by decide +kernel) (by decide +kernel)⟩⟩⟩

end Newsroom

end AgentWorkflow
