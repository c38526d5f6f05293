import AgentWorkflow.Proofs.Graph.Columns
import AgentWorkflow.Proofs.Workflow.Refusals

/-!
# Assembling columns that are written as text

An assembly reads its columns through two readers, and each of them gives the same for a text as for
the value that the text decodes to, but for one case. A tool may have no schema, and then it takes
any object; but the text of null in the place of a schema is refused. So two snapshots that are the
same up to how their columns are written assemble to the same workflow, act for act, unless a node
reads a missing schema that is written as a text. With such a text nothing is assembled at all.

## Main results

* `Tool.schema_eq_of_keepsNull`: a schema that is not missing is read as it is
* `Workflow.build_eq_of_written`: nodes are built as they are, however their columns are written
* `Workflow.assemble_of_written`: when the columns of a snapshot may be written as texts
-/

namespace AgentWorkflow

/-! ### The schemas of tools -/

namespace Tool

variable {document other : Stored}

/-- A schema is read as it is, however it is written, unless it is missing. -/
theorem schema_eq_of_keepsNull (kept : document.KeepsNull other) (tool : String) :
    schema other tool = schema document tool := by
  obtain ⟨written, absent⟩ := kept
  cases written with
  | same => rfl
  | null _ => exact absurd (absent rfl) (fun same => Stored.noConfusion same)
  | object decoded => simp [schema, Stored.strip_ne_empty decoded, decoded]

/-- The text of null is no schema. -/
theorem keepsNull_of_schema {tool : String} {fields : Record Value}
    (written : document.WrittenAs other) (read : schema other tool = .ok fields) :
    document.KeepsNull other := by
  refine ⟨written, ?_⟩
  cases written with
  | same => exact id
  | null decoded =>
    simp [schema, Stored.strip_ne_empty decoded, decoded] at read
  | object _ =>
    intro absent
    cases absent

theorem fieldNames_eq_of_keepsNull (kept : document.KeepsNull other) (tool : String) :
    fieldNames other tool = fieldNames document tool := by
  rw [fieldNames, fieldNames, schema_eq_of_keepsNull kept]

theorem argumentSchema_eq_of_keepsNull (kept : document.KeepsNull other) (tool : String) :
    argumentSchema other tool = argumentSchema document tool := by
  rw [argumentSchema, argumentSchema, schema_eq_of_keepsNull kept]

end Tool

/-! ### Blueprints -/

section Blueprints

variable {schemas : Stored → Stored → Prop} {n n' : PlanNode} {nodes nodes' : List PlanNode}
  {plan plan' : GraphPlan} {snapshot snapshot' : Snapshot}

theorem Supervision.nodeTypes_eq_of_written
    (written : List.Forall₂ (PlanNode.WrittenAs schemas) nodes nodes') :
    nodeTypes nodes' = nodeTypes nodes := by
  induction written with
  | nil => rfl
  | cons first _ ih =>
    cases first
    exact congrArg (_ :: ·) ih

/-- Who supervises whom is the same. -/
theorem Supervision.collect_eq_of_written (settings : Settings)
    (written : List.Forall₂ (PlanNode.WrittenAs schemas) nodes nodes') :
    collect settings nodes' = collect settings nodes := by
  rw [collect, collect, nodeTypes_eq_of_written written]
  -- the types are those of all nodes, while the induction takes the nodes one by one
  generalize nodeTypes nodes = types
  generalize ([] : Record String) = owned
  induction written generalizing owned with
  | nil => rfl
  | cons first _ ih =>
    obtain ⟨config_written, -⟩ := first
    simp only [collectFrom, SupervisorConfig.parse, config_written.parse_eq, ih]

/-- What a blueprint says besides its graph is the same. -/
structure Blueprint.WrittenAs (schemas : Stored → Stored → Prop) (blueprint other : Blueprint) :
    Prop where
  plan : blueprint.plan.WrittenAs schemas other.plan
  declared_eq : other.declared = blueprint.declared
  supervision_eq : other.supervision = blueprint.supervision

/-- The blueprints of two snapshots that differ only in how their columns are written do so, too. -/
theorem Blueprint.ofSnapshot_alike (settings : Settings)
    (written : snapshot.WrittenAs schemas snapshot') :
    Alike Eq (Blueprint.WrittenAs schemas) (ofSnapshot settings (some snapshot))
      (ofSnapshot settings (some snapshot')) := by
  refine written.validate_alike.bind fun plan plan' same => ?_
  obtain ⟨graph_written, nodes_written⟩ := same
  have parsed : ∀ {graph graph' : GraphMeta}, graph.WrittenAs graph' →
      Schema.parse graph'.stateSchema = Schema.parse graph.stateSchema := by
    rintro graph _ ⟨written⟩
    rw [Schema.parse, Schema.parse, written.fields_eq]
  simp only [parsed graph_written, Supervision.collect_eq_of_written settings nodes_written]
  refine (Alike.refl (fun _ => rfl) _).bind fun declared _ same => ?_
  subst same
  refine (Alike.refl (fun _ => rfl) _).bind fun supervision _ same => ?_
  subst same
  exact .ok ⟨.of graph_written nodes_written, rfl, rfl⟩

end Blueprints

/-! ### Building -/

section Building

variable {σ : Type} {settings : Settings} {services : Services σ}
  {transport : Option (Tool.Transport σ)} {stateKeys : List String} {owners : Record String}
  {clients : Record (Chat.Client σ)} {supervision : Supervision} {blueprint blueprint' : Blueprint}
  {n n' : PlanNode} {nodes nodes' : List PlanNode} {tools tools' : List ToolRef}
  {inputs inputs' outputs outputs' schemas : Stored → Stored → Prop}

theorem ToolRef.AllWrittenAs.imp (written : ToolRef.AllWrittenAs inputs outputs tools tools')
    (input : ∀ document other, inputs document other → inputs' document other)
    (output : ∀ document other, outputs document other → outputs' document other) :
    ToolRef.AllWrittenAs inputs' outputs' tools tools' := by
  refine List.Forall₂.imp ?_ written
  rintro tool _ ⟨input_written, output_written⟩
  exact .of (input _ _ input_written) (output _ _ output_written)

theorem ToolRef.AllWrittenAs.isEmpty_eq
    (written : ToolRef.AllWrittenAs inputs outputs tools tools') :
    tools'.isEmpty = tools.isEmpty := by
  cases written <;> rfl

/-- The tools of an agent are offered as they are. -/
theorem Tool.offeredAll_eq_of_written (transport : Option (Tool.Transport σ))
    (written : ToolRef.AllWrittenAs Stored.KeepsNull outputs tools tools') :
    offeredAll transport tools' = offeredAll transport tools := by
  cases transport with
  | none => rfl
  | some transport =>
    rw [offeredAll, offeredAll]
    induction written with
    | nil => rfl
    | cons first _ ih =>
      obtain ⟨input, -⟩ := first
      simp only [List.mapM_cons, ih, offered, argumentSchema_eq_of_keepsNull input]

namespace Node

/-- The agent of a worker is built as it is. -/
theorem buildAgent_eq_of_written (builder : Agent.Builder σ) (label : String)
    (client : Option (Chat.Client σ)) (written : n.WrittenAs Stored.KeepsNull n')
    (reads : n.ReadsInputs) :
    buildAgent settings builder label n' client transport =
      buildAgent settings builder label n client transport := by
  obtain ⟨config_written, tools_written⟩ := written
  have kept := tools_written.imp (fun _ _ both => both.2 reads) fun _ _ => id
  simp only [buildAgent, kept.isEmpty_eq, WorkerConfig.parse, config_written.parse_eq,
    Tool.offeredAll_eq_of_written transport kept]

/-- A member is built as it is. -/
theorem buildMember_eq_of_written (builder : Agent.Builder σ) (client : Option (Chat.Client σ))
    (written : n.WrittenAs Stored.KeepsNull n') (reads : n.ReadsInputs) :
    buildMember settings builder n' client transport =
      buildMember settings builder n client transport := by
  simp only [buildMember, buildAgent_eq_of_written builder _ client written reads, written.key_eq]

/-- A worker is built as it is: its step looks at no column. -/
theorem buildWorker_eq_of_written (builder : Agent.Builder σ) (prepare : ImagePreparer σ)
    (client : Option (Chat.Client σ)) (written : n.WrittenAs Stored.KeepsNull n')
    (reads : n.ReadsInputs) :
    buildWorker settings builder prepare n' client transport =
      buildWorker settings builder prepare n client transport := by
  simp only [buildWorker, buildAgent_eq_of_written builder _ client written reads]
  cases written
  rfl

/-- The schemas of the tool of a tool node, as both are read. -/
theorem tools_written_of_reads (written : n.WrittenAs Stored.KeepsNull n')
    (reads : n.ReadsOutputs) :
    ToolRef.AllWrittenAs Stored.KeepsNull Stored.KeepsNull n.tools n'.tools := by
  obtain ⟨-, tools_written⟩ := written
  exact tools_written.imp (fun _ _ both => both.2 (Or.inr reads)) fun _ _ both => both.2 reads

/-- A tool node is built as it is. -/
theorem buildTool_eq_of_written (written : n.WrittenAs Stored.KeepsNull n')
    (reads : n.ReadsOutputs) : buildTool n' transport = buildTool n transport := by
  have tools_written := tools_written_of_reads written reads
  obtain ⟨config_written, -⟩ := written
  obtain ⟨node, model, tools⟩ := n
  rcases tools_written with _ | ⟨⟨input, output⟩, _ | ⟨_, rest⟩⟩
  · rfl
  · simp only [buildTool, ToolConfig.parse, config_written.parse_eq,
      Tool.fieldNames_eq_of_keepsNull input, Tool.fieldNames_eq_of_keepsNull output]
  · simp only [buildTool, List.length_cons, rest.length_eq]

/-- A tool node uses the state keys that it uses. -/
theorem toolStateKeys_eq_of_written (written : n.WrittenAs Stored.KeepsNull n')
    (reads : n.ReadsOutputs) : toolStateKeys n' = toolStateKeys n := by
  have tools_written := tools_written_of_reads written reads
  obtain ⟨config_written, -⟩ := written
  obtain ⟨node, model, tools⟩ := n
  rcases tools_written with _ | ⟨⟨input, output⟩, _ | ⟨_, rest⟩⟩
  · rfl
  · simp only [toolStateKeys, ToolConfig.parse, config_written.parse_eq,
      Tool.fieldNames_eq_of_keepsNull input, Tool.fieldNames_eq_of_keepsNull output]
  · rfl

end Node

namespace Workflow

theorem makeClients_eq_of_written (factory : Chat.ClientFactory σ)
    (written : List.Forall₂ (PlanNode.WrittenAs schemas) nodes nodes')
    (arena : Chat.Arena (Chat.Client σ)) :
    makeClients factory arena nodes' = makeClients factory arena nodes := by
  induction written generalizing arena with
  | nil => rfl
  | cons first _ ih =>
    obtain ⟨-, -⟩ := first
    simp only [makeClients, ih]

theorem buildEach_eq_of_written {build : PlanNode → Act σ (Option (Part σ))}
    (written : List.Forall₂ (PlanNode.WrittenAs schemas) nodes nodes')
    (same : ∀ {n n' : PlanNode}, n.WrittenAs schemas n' → build n' = build n) :
    buildEach build nodes' = buildEach build nodes := by
  induction written with
  | nil => rfl
  | cons first _ ih => rw [buildEach, buildEach, same first, ih]

/-- A node that is no supervisor is built as it is. -/
theorem buildPart_eq_of_written (written : n.WrittenAs Stored.KeepsNull n') :
    buildPart settings services transport owners clients n' =
      buildPart settings services transport owners clients n := by
  have node_eq : n'.key = n.key ∧ n'.node.type = n.node.type ∧
      ownKeys n'.node = ownKeys n.node := by
    cases written
    exact ⟨rfl, rfl, rfl⟩
  obtain ⟨key_eq, type_eq, own_eq⟩ := node_eq
  simp only [buildPart, key_eq, type_eq, own_eq]
  cases classified : classify n.key (some n.node.type) owners with
  | error issue =>
    -- a node that has no kind fails before anything of it is read
    rw [Node.ofBuild, Act.fail_bind, Act.fail_bind]
  | ok kind =>
    -- the kind says which schemas are read, so that these are known not to be texts of null
    obtain ⟨-, tool, -, worker⟩ := type_of_classify classified
    cases kind with
    | supervisor => simp only [Node.ofBuild, pure_bind]
    | member =>
      have reads : n.ReadsInputs := Or.inl (worker (Or.inr rfl))
      simp only [Node.ofBuild, pure_bind, Node.buildMember_eq_of_written _ _ written reads]
    | worker =>
      have reads : n.ReadsInputs := Or.inl (worker (Or.inl rfl))
      simp only [Node.ofBuild, pure_bind, Node.buildWorker_eq_of_written _ _ _ written reads]
    | tool =>
      have reads : n.ReadsOutputs := tool rfl
      simp only [Node.ofBuild, pure_bind, Node.buildTool_eq_of_written written reads,
        Node.toolStateKeys_eq_of_written written reads]

/-- A supervisor is built as it is: its configuration has been read before. -/
theorem buildRouting_eq_of_written (written : n.WrittenAs schemas n') :
    buildRouting settings services supervision clients n' =
      buildRouting settings services supervision clients n := by
  cases written
  rfl

/-- Which task comes first is said by the keys of the nodes alone. -/
theorem arrangeTasks_eq (nodes : List PlanNode) (parts : List (Part σ)) :
    arrangeTasks nodes parts = (nodes.map PlanNode.key).filterMap fun key =>
      (parts.map Part.task).find? fun task => task.key == key := by
  rw [List.filterMap_map]
  rfl

/-- Parts are joined as they are. -/
theorem join_eq_of_written (written : blueprint.WrittenAs schemas blueprint')
    (parts : List (Part σ)) : join blueprint' parts stateKeys = join blueprint parts stateKeys := by
  obtain ⟨plan_written, declared_eq, supervision_eq⟩ := written
  have keys_eq : blueprint'.plan.nodes.map PlanNode.key = blueprint.plan.nodes.map PlanNode.key :=
    PlanNode.keys_eq_of_written plan_written.all_nodes
  simp only [join, furtherKeys, edgesOf, arrangeTasks_eq, keys_eq, plan_written.entry_eq,
    plan_written.edges_eq, declared_eq, supervision_eq]

/-- A blueprint is built as it is, however the columns of its graph are written, if there is no text
for a missing schema. -/
theorem build_eq_of_written (written : blueprint.WrittenAs Stored.KeepsNull blueprint') :
    build settings services transport stateKeys blueprint' =
      build settings services transport stateKeys blueprint := by
  have nodes_written := written.plan.all_nodes
  simp only [build, written.supervision_eq, makeClients_eq_of_written _ nodes_written,
    buildEach_eq_of_written nodes_written buildPart_eq_of_written,
    buildEach_eq_of_written nodes_written buildRouting_eq_of_written, join_eq_of_written written]

end Workflow

/-! ### Schemas that were read -/

/-- The tools that were offered to an agent have schemas that can be read. -/
theorem Tool.exists_schema_of_offeredAll {transport : Tool.Transport σ}
    {offers : List (Offered σ)} (read : offeredAll (some transport) tools = .ok offers)
    {tool : ToolRef} (member : tool ∈ tools) :
    ∃ fields, schema tool.inputSchema tool.name = .ok fields := by
  rw [offeredAll] at read
  induction tools generalizing offers with
  | nil => cases member
  | cons first rest ih =>
    simp only [List.mapM_cons, bind_eq_ok_iff] at read
    obtain ⟨offer, offered_first, others, offered_rest, -⟩ := read
    rcases List.mem_cons.mp member with rfl | later
    · simp only [offered, argumentSchema, bind_eq_ok_iff] at offered_first
      obtain ⟨_, ⟨fields, read, -⟩, -⟩ := offered_first
      exact ⟨fields, read⟩
    · exact ih offered_rest later

namespace Node

variable {before after : σ} {tool : ToolRef}

theorem exists_schema_of_buildAgent {builder : Agent.Builder σ} {label : String}
    {client : Option (Chat.Client σ)} {config : WorkerConfig} {agent : Agent.Reasoner σ}
    (gives : (buildAgent settings builder label n client transport).Gives before (config, agent)
      after) (member : tool ∈ n.tools) :
    ∃ fields, Tool.schema tool.inputSchema tool.name = .ok fields := by
  obtain ⟨_, offers, -, served, -, offered, -⟩ := gives_buildAgent_iff.mp gives
  cases transport with
  | none => exact absurd (served rfl) (List.ne_nil_of_mem member)
  | some transport => exact Tool.exists_schema_of_offeredAll offered member

/-- Both schemas of the tool of a tool node can be read. -/
theorem exists_schemas_of_buildTool {built : Built σ}
    (gives : (buildTool n transport).Gives before built after) (member : tool ∈ n.tools) :
    (∃ fields, Tool.schema tool.inputSchema tool.name = .ok fields) ∧
      ∃ fields, Tool.schema tool.outputSchema tool.name = .ok fields := by
  obtain ⟨_, plan, -, ⟨only, same, -, -, -, input, output⟩, -⟩ := gives_buildTool_iff.mp gives
  rw [same, List.mem_singleton] at member
  subst member
  rw [Tool.fieldNames, bind_eq_ok_iff] at input output
  obtain ⟨inputs, input, -⟩ := input
  obtain ⟨outputs, output, -⟩ := output
  exact ⟨⟨inputs, input⟩, outputs, output⟩

end Node

namespace Workflow

/-- The schemas that a node reads could be read, if the node was built. -/
theorem exists_schemas_of_buildPart {before after : σ} {result : Option (Part σ)}
    (built : (buildPart settings services transport owners clients n).Gives before result after)
    {tool : ToolRef} (member : tool ∈ n.tools) :
    (n.ReadsInputs → ∃ fields, Tool.schema tool.inputSchema tool.name = .ok fields) ∧
      (n.ReadsOutputs → ∃ fields, Tool.schema tool.outputSchema tool.name = .ok fields) := by
  simp only [buildPart, Act.gives_bind_iff, Node.gives_ofBuild_iff] at built
  obtain ⟨kind, _, ⟨classified, rfl⟩, rest⟩ := built
  obtain ⟨supervisor, -, -, worker⟩ := type_of_classify classified
  have only_inputs : (∃ fields, Tool.schema tool.inputSchema tool.name = .ok fields) →
      normalizeType n.node.type = "worker" →
      (n.ReadsInputs → ∃ fields, Tool.schema tool.inputSchema tool.name = .ok fields) ∧
        (n.ReadsOutputs → ∃ fields, Tool.schema tool.outputSchema tool.name = .ok fields) :=
    fun input type_eq => ⟨fun _ => input, fun reads =>
      absurd (type_eq.symm.trans reads) (by decide)⟩
  cases kind with
  | supervisor =>
    have type_eq := supervisor.mp rfl
    refine ⟨?_, fun reads => absurd (type_eq.symm.trans reads) (by decide)⟩
    rintro (reads | reads) <;> exact absurd (type_eq.symm.trans reads) (by decide)
  | member =>
    simp only [Act.gives_bind_iff, Node.gives_buildMember_iff] at rest
    obtain ⟨_, _, ⟨_, _, gives, -⟩, -⟩ := rest
    exact only_inputs (Node.exists_schema_of_buildAgent gives member) (worker (Or.inr rfl))
  | worker =>
    simp only [Act.gives_bind_iff, Node.gives_buildWorker_iff] at rest
    obtain ⟨_, _, ⟨_, _, gives, -⟩, -⟩ := rest
    exact only_inputs (Node.exists_schema_of_buildAgent gives member) (worker (Or.inl rfl))
  | tool =>
    simp only [Act.gives_bind_iff] at rest
    obtain ⟨_, _, gives, -⟩ := rest
    obtain ⟨input, output⟩ := Node.exists_schemas_of_buildTool gives member
    exact ⟨fun _ => input, fun _ => output⟩

/-- A node that was built has no text for a missing schema that it reads. -/
theorem keepsNull_of_buildPart {before after : σ} {result : Option (Part σ)}
    (written : n.WrittenAs Stored.WrittenAs n')
    (built : (buildPart settings services transport owners clients n').Gives before result after) :
    n.WrittenAs Stored.KeepsNull n' := by
  obtain ⟨config_written, tools_written⟩ := written
  refine .of config_written ?_
  rw [ToolRef.AllWrittenAs, List.forall₂_iff_zip] at tools_written ⊢
  refine ⟨tools_written.1, ?_⟩
  rintro tool tool' pair
  obtain ⟨input, output⟩ := exists_schemas_of_buildPart built (List.of_mem_zip pair).2
  obtain ⟨input_written, output_written⟩ := tools_written.2 pair
  refine .of ⟨input_written.1, fun reads => ?_⟩ ⟨output_written.1, fun reads => ?_⟩
  · obtain ⟨fields, read⟩ := input reads
    exact Tool.keepsNull_of_schema input_written.1 read
  · obtain ⟨fields, read⟩ := output reads
    exact Tool.keepsNull_of_schema output_written.1 read

/-! ### What is assembled -/

variable {snapshot snapshot' : Snapshot}

/-- A snapshot is assembled as it is, however its columns are written, if there is no text for a
missing schema that a node reads. -/
theorem assemble_eq_of_written (written : snapshot.WrittenAs Stored.KeepsNull snapshot') :
    assemble settings services (some snapshot') transport stateKeys =
      assemble settings services (some snapshot) transport stateKeys := by
  have alike := Blueprint.ofSnapshot_alike settings written
  rw [assemble, assemble]
  generalize Blueprint.ofSnapshot settings (some snapshot) = drawn at alike ⊢
  generalize Blueprint.ofSnapshot settings (some snapshot') = drawn' at alike ⊢
  cases alike with
  | error same => rw [same]
  | ok same => exact build_eq_of_written same

/-- Whatever is assembled has no text for a missing schema that a node reads. -/
theorem keepsNull_of_gives_assemble {before after : σ} {workflow : Workflow σ}
    (written : snapshot.WrittenAs Stored.WrittenAs snapshot')
    (assembled : (assemble settings services (some snapshot') transport stateKeys).Gives before
      workflow after) : snapshot.WrittenAs Stored.KeepsNull snapshot' := by
  obtain ⟨blueprint, drawn, built⟩ := gives_assemble_iff.mp assembled
  obtain ⟨_, _, -, parts, _, each, -⟩ := gives_build_iff.mp built
  obtain ⟨same, -⟩ := validate_eq_ok_iff.mp (Blueprint.ofSnapshot_eq_ok_iff.mp drawn).1
  obtain rfl := Option.some.inj same
  obtain ⟨graph_written, entries_written, edges_eq⟩ := written
  refine ⟨graph_written, ?_, edges_eq⟩
  rw [List.forall₂_iff_zip] at entries_written ⊢
  refine ⟨entries_written.1, fun {entry entry'} pair => ?_⟩
  obtain ⟨⟨node', model', tools'⟩, member, rfl⟩ := List.mem_map.mp (List.of_mem_zip pair).2
  -- every node of the graph was built, so this one was
  obtain ⟨result, _, _, made, -⟩ := exists_gives_of_mem_nodes each member
  cases entries_written.2 pair with
  | some entry_written =>
    cases entry_written with
    | node node_written => exact .some (.node (keepsNull_of_buildPart node_written made))

/-- The columns of a snapshot may be written as texts: the check of the snapshot has the same
verdict, and unless a node reads a missing schema that is written as a text, the assembly is the
same act, with the same workflow. With such a text nothing is assembled. -/
theorem assemble_of_written (written : snapshot.WrittenAs Stored.WrittenAs snapshot') :
    (∀ issue, validate (some snapshot') = .error issue ↔
      validate (some snapshot) = .error issue) ∧
    (snapshot.WrittenAs Stored.KeepsNull snapshot' →
      assemble settings services (some snapshot') transport stateKeys =
        assemble settings services (some snapshot) transport stateKeys) ∧
    ∀ before workflow after,
      (assemble settings services (some snapshot') transport stateKeys).Gives before workflow
        after → snapshot.WrittenAs Stored.KeepsNull snapshot' := by
  refine ⟨fun issue => written.validate_alike.error_iff issue, assemble_eq_of_written, ?_⟩
  intro before workflow after assembled
  exact keepsNull_of_gives_assemble written assembled

end Workflow

end Building

/-! ### A lookup

A graph with one tool node. Its columns are written in one way and in another. -/

namespace Lookup

/-- The only node, given its configuration and the schema of the arguments of its tool. -/
def node (config inputSchema : Stored) : PlanNode where
  node := { key := "lookup", type := "tool", config }
  tools := [{ name := "find", inputSchema }]

def plan (config inputSchema : Stored) : GraphPlan where
  graph := { entry := "lookup" }
  nodes := [node config inputSchema]
  edges := [⟨"lookup", endKey⟩]

def snapshot (config inputSchema : Stored) : Snapshot := (plan config inputSchema).toSnapshot

/-- A tool server that never answers. -/
def transport : Tool.Transport (List Message) where
  call _ _ := throw .unanswered

theorem validate_plan (config inputSchema : Stored) :
    validate (some (snapshot config inputSchema)) = .ok (plan config inputSchema) :=
  validate_single rfl (by decide : IsKey "lookup") (by decide : "lookup" ≠ endKey)
    (by decide : normalizeType "tool" ≠ "supervisor")

/-- Without a configuration and a schema the node calls its tool without arguments. -/
theorem exists_gives_assemble (script : List Message) :
    ∃ workflow, (Workflow.assemble {} Newsroom.services (some (snapshot .absent .absent))
      (some transport) []).Gives script workflow script :=
  ⟨_, Workflow.gives_assemble_iff.mpr ⟨⟨plan .absent .absent, [], []⟩,
    Blueprint.ofSnapshot_eq_ok_iff.mpr ⟨validate_plan _ _, rfl, [], rfl, rfl⟩,
    Workflow.gives_build_iff.mpr ⟨_, _, rfl, _, _, rfl, _, rfl,
      Workflow.join_eq_ok_of_free (by decide +kernel) (by decide +kernel)⟩⟩⟩

/-- The text of null. -/
theorem parse_null : Json.parse (Text.strip "null") = .ok .null := by
  have stripped : Text.strip "null" = "null" := by decide +kernel
  rw [stripped]
  rfl

/-- How the snapshot may be written when its node has no configuration and no schema. -/
theorem snapshot_written {schemas : Stored → Stored → Prop} {config inputSchema : Stored}
    (config_written : Stored.WrittenAs .absent config)
    (input_written : Stored.WrittenAs .absent inputSchema)
    (inputs : schemas .absent inputSchema) (outputs : schemas .absent .absent) :
    (snapshot .absent .absent).WrittenAs schemas (snapshot config inputSchema) := by
  have node_written : (node .absent .absent).WrittenAs schemas (node config inputSchema) :=
    .of config_written (.cons (.of ⟨input_written, fun _ => inputs⟩
      ⟨.same _, fun _ => outputs⟩) .nil)
  exact ⟨.some (.of (.same _)), .cons (.some (.node node_written)) .nil, rfl⟩

/-- The text of null is no schema, so the tool cannot be called. -/
theorem fails_assemble (script : List Message) :
    (Workflow.assemble {} Newsroom.services (some (snapshot .absent (.text "null")))
      (some transport) []).Fails script (.error (.config (.within (Node.toolLabel "lookup")
        (.toolSchemaNotObject "find")))) script := by
  have unread : Tool.schema (.text "null") "find" =
      .error (.error (.config (.toolSchemaNotObject "find"))) := by
    simp [Tool.schema, Stored.strip_ne_empty parse_null, parse_null]
  have names : Tool.fieldNames (.text "null") "find" =
      .error (.error (.config (.toolSchemaNotObject "find"))) := by
    rw [Tool.fieldNames, unread]
    rfl
  have tool_fails : (Node.buildTool (node .absent (.text "null")) (some transport)).Fails script
      (.error (.config (.within (Node.toolLabel "lookup") (.toolSchemaNotObject "find"))))
      script := by
    have configured : (Act.ofExcept (ToolConfig.parse .absent (Node.toolLabel "lookup"))).Gives
        script {} script := rfl
    have input_fails : Node.within (Node.toolLabel "lookup")
        (Tool.fieldNames (.text "null") "find") =
          .error (.error (.config (.within (Node.toolLabel "lookup")
            (.toolSchemaNotObject "find")))) := by
      rw [names]
      rfl
    exact Act.fails_bind_iff.mpr (Or.inr ⟨_, _, configured, Act.fails_bind_iff.mpr (Or.inl
      (Act.fails_ofExcept_iff.mpr ⟨input_fails, rfl⟩))⟩)
  refine Workflow.fails_assemble_iff.mpr (Or.inr ⟨⟨plan .absent (.text "null"), [], []⟩,
    Blueprint.ofSnapshot_eq_ok_iff.mpr ⟨validate_plan _ _, rfl, [], rfl, rfl⟩, ?_⟩)
  have part_fails : (Workflow.buildPart {} Newsroom.services (some transport) [] []
      (node .absent (.text "null"))).Fails script
      (.error (.config (.within (Node.toolLabel "lookup") (.toolSchemaNotObject "find"))))
      script :=
    Act.fails_bind_iff.mpr (Or.inr ⟨.tool, script, rfl, Act.fails_bind_iff.mpr (Or.inl tool_fails)⟩)
  exact Act.fails_bind_iff.mpr (Or.inr ⟨[], script, rfl, Act.fails_bind_iff.mpr (Or.inl
    (Act.fails_bind_iff.mpr (Or.inl part_fails)))⟩)

end Lookup

namespace Workflow

/-- A configuration that is missing may be written as the text of null. -/
theorem lookup_of_written :
    (Lookup.snapshot .absent .absent).WrittenAs Stored.WrittenAs
        (Lookup.snapshot (.text "null") .absent) ∧
      (∀ issue, validate (some (Lookup.snapshot (.text "null") .absent)) = .error issue ↔
        validate (some (Lookup.snapshot .absent .absent)) = .error issue) ∧
      ∃ workflow, (assemble {} Newsroom.services (some (Lookup.snapshot .absent .absent))
          (some Lookup.transport) []).Gives [] workflow [] ∧
        (assemble {} Newsroom.services (some (Lookup.snapshot (.text "null") .absent))
          (some Lookup.transport) []).Gives [] workflow [] := by
  have same_schema : Stored.WrittenAs .absent .absent := .same _
  have kept_schema : Stored.KeepsNull .absent .absent := ⟨same_schema, id⟩
  have config_written := Stored.WrittenAs.null Lookup.parse_null
  have written := Lookup.snapshot_written config_written same_schema same_schema same_schema
  have kept := Lookup.snapshot_written config_written same_schema kept_schema kept_schema
  obtain ⟨verdict, same, -⟩ := assemble_of_written written
  obtain ⟨workflow, assembled⟩ := Lookup.exists_gives_assemble []
  refine ⟨written, verdict, workflow, assembled, ?_⟩
  rw [same kept]
  exact assembled

/-- A schema that is missing may not: the text of null in its place is refused. -/
theorem lookup_null_text_is_refused :
    (Lookup.snapshot .absent .absent).WrittenAs Stored.WrittenAs
        (Lookup.snapshot .absent (.text "null")) ∧
      (∃ workflow, (assemble {} Newsroom.services (some (Lookup.snapshot .absent .absent))
        (some Lookup.transport) []).Gives [] workflow []) ∧
      (assemble {} Newsroom.services (some (Lookup.snapshot .absent (.text "null")))
        (some Lookup.transport) []).Fails [] (.error (.config (.within (Node.toolLabel "lookup")
          (.toolSchemaNotObject "find")))) [] := by
  have same_schema : Stored.WrittenAs .absent .absent := .same _
  have input_written := Stored.WrittenAs.null Lookup.parse_null
  exact ⟨Lookup.snapshot_written same_schema input_written input_written same_schema,
    Lookup.exists_gives_assemble [], Lookup.fails_assemble []⟩

end Workflow

end AgentWorkflow
