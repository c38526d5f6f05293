import AgentWorkflow.Node.ToolCall
import AgentWorkflow.Node.Worker
import AgentWorkflow.Proofs.Config.Legibility
import Mathlib.Tactic.SplitIfs

/-!
# What is built for a node

A worker and a member are built around an agent, which is made of the model of the node, the tools
that are on offer and what its configuration says. A tool node is built from the one tool it has. An
equivalence for each of them says when it is built, and what is built; nothing that follows has to
know the order in which this is done.

What is missing or wrong is told as an error. But a document that is illegible, the configuration of
the node or the schema of a tool, ends the building in a fault as soon as it is read.

## Main definitions

* `PlanNode.PlannedAs`: what a tool node knows of its tool
* `Node.AgentObscured`, `Node.ToolObscured`: nodes that are not built since a document is illegible

## Main results

* `Node.gives_buildAgent_iff`: when an agent is built for a node
* `Node.gives_buildWorker_iff`, `Node.gives_buildMember_iff`: what is built around the agent
* `Node.gives_buildTool_iff`: when a tool node is built, and what is built
* `Node.fails_buildAgent_fault_iff`, `Node.fails_buildTool_fault_iff`: when building ends in a fault
-/

namespace AgentWorkflow

/-- What a tool node knows of its tool: its key, the one tool, its own configuration, and the fields
that the schemas of the tool declare. -/
def PlanNode.PlannedAs (n : PlanNode) (plan : Node.ToolPlan) : Prop :=
  ∃ tool, n.tools = [tool] ∧ plan.key = n.key ∧ plan.tool = tool.name ∧
    ToolConfig.parse n.node.config (Node.toolLabel n.key) = .ok plan.config ∧
      Tool.fieldNames tool.inputSchema tool.name = .ok plan.inputs ∧
        Tool.fieldNames tool.outputSchema tool.name = .ok plan.outputs

/-- A node has at most one plan. -/
theorem PlanNode.PlannedAs.unique {n : PlanNode} {plan other : Node.ToolPlan}
    (planned : n.PlannedAs plan) (again : n.PlannedAs other) : plan = other := by
  obtain ⟨key, name, config, inputs, outputs⟩ := plan
  obtain ⟨key', name', config', inputs', outputs'⟩ := other
  obtain ⟨tool, only, rfl, rfl, parsed, input, output⟩ := planned
  obtain ⟨tool', only', rfl, rfl, parsed', input', output'⟩ := again
  rw [only] at only'
  cases only'
  rw [parsed] at parsed'
  rw [input] at input'
  rw [output] at output'
  cases parsed'
  cases input'
  cases output'
  rfl

namespace Node

variable {σ : Type} {settings : Settings} {builder : Agent.Builder σ} {prepare : ImagePreparer σ}
  {n : PlanNode} {client : Option (Chat.Client σ)} {transport : Option (Tool.Transport σ)}
  {before after : σ} {built : Built σ}

@[simp] theorem gives_ofBuild_iff {α : Type} {outcome : Except BuildIssue α} {a : α} :
    (ofBuild outcome : Act σ α).Gives before a after ↔ outcome = .ok a ∧ before = after := by
  cases outcome <;> simp [ofBuild]

theorem within_eq_ok_iff {α : Type} {label : String} {outcome : Except Failure α} {a : α} :
    within label outcome = .ok a ↔ outcome = .ok a := mapError_eq_ok_iff

/-- The label of a node does not hide a fault, and makes none. -/
theorem within_eq_fault_iff {α : Type} {label : String} {outcome : Except Failure α}
    {fault : Fault} : within label outcome = .error (.fault fault) ↔
      outcome = .error (.fault fault) := by
  rw [within, mapError_eq_error_iff]
  simp only [Failure.configCausing_eq_fault_iff, exists_eq_right]

theorem isUnserved_iff : (transport.isNone && !n.tools.isEmpty) = true ↔
    ¬ (transport = none → n.tools = []) := by
  simp

@[simp] theorem fails_ofBuild_iff {α : Type} {failure : Failure} {result : Except BuildIssue α} :
    (ofBuild result : Act σ α).Fails before failure after ↔
      ∃ issue, result = .error issue ∧ .error (.build issue) = failure ∧ before = after := by
  cases result <;> simp [ofBuild]

/-- An agent is built from the model, the tools and the limits of its node. A node that has tools
needs a tool server. -/
theorem gives_buildAgent_iff {label : String} {config : WorkerConfig} {agent : Agent.Reasoner σ} :
    (buildAgent settings builder label n client transport).Gives before (config, agent) after ↔
      ∃ model tools, chatModel label client = .ok model ∧ (transport = none → n.tools = []) ∧
        WorkerConfig.parse n.node.config label = .ok config ∧
        Tool.offeredAll transport n.tools = .ok tools ∧
        (builder model tools (config.effectiveMaxIterations settings) config.systemMessage).Gives
          before agent after := by
  simp only [buildAgent, Act.gives_bind_iff, gives_ofBuild_iff]
  constructor
  · rintro ⟨model, _, ⟨chosen, rfl⟩, rest⟩
    -- a node whose tools have no server is refused before its configuration is read
    split_ifs at rest with missing
    · simp [Act.fail_bind] at rest
    · simp only [Act.gives_bind_iff, Act.gives_describe_iff, Act.gives_pure_iff,
        Act.gives_ofExcept_iff] at rest
      obtain ⟨_, _, ⟨parsed, rfl⟩, tools, _, ⟨offered, rfl⟩, _, _, made, same, rfl⟩ := rest
      cases same
      exact ⟨model, tools, chosen, Classical.not_not.mp (mt isUnserved_iff.mpr missing), parsed,
        offered, made⟩
  · rintro ⟨model, tools, chosen, served, parsed, offered, made⟩
    refine ⟨model, before, ⟨chosen, rfl⟩, ?_⟩
    rw [if_neg fun missing => isUnserved_iff.mp missing served]
    simp only [Act.gives_bind_iff, Act.gives_describe_iff, Act.gives_pure_iff,
      Act.gives_ofExcept_iff]
    exact ⟨config, before, ⟨parsed, rfl⟩, tools, before, ⟨offered, rfl⟩, agent, after, made, rfl,
      rfl⟩

theorem gives_buildWorker_iff :
    (buildWorker settings builder prepare n client transport).Gives before built after ↔
      ∃ config agent,
        (buildAgent settings builder (workerLabel n.key) n client transport).Gives before
          (config, agent) after ∧
        built = {
          key := n.key
          description := n.key
          step := workerStep prepare n.node config agent } := by
  simp only [buildWorker, Act.gives_bind_iff, Act.gives_pure_iff]
  constructor
  · rintro ⟨⟨config, agent⟩, _, made, same, rfl⟩
    exact ⟨config, agent, made, same.symm⟩
  · rintro ⟨config, agent, made, rfl⟩
    exact ⟨(config, agent), after, made, rfl, rfl⟩

theorem gives_buildMember_iff :
    (buildMember settings builder n client transport).Gives before built after ↔
      ∃ config agent,
        (buildAgent settings builder (memberLabel n.key) n client transport).Gives before
          (config, agent) after ∧
        built = {
          key := n.key
          description := "Supervisor member worker: " ++ n.key
          step := memberStep n.key agent } := by
  simp only [buildMember, Act.gives_bind_iff, Act.gives_pure_iff]
  constructor
  · rintro ⟨⟨config, agent⟩, _, made, same, rfl⟩
    exact ⟨config, agent, made, same.symm⟩
  · rintro ⟨config, agent, made, rfl⟩
    exact ⟨(config, agent), after, made, rfl, rfl⟩

/-- A tool node is built from the one tool it has, and building it touches nothing. -/
theorem gives_buildTool_iff :
    (buildTool n transport).Gives before built after ↔
      ∃ server plan, transport = some server ∧ n.PlannedAs plan ∧
        built = { key := n.key, description := n.key, step := toolStep plan server } ∧
          before = after := by
  rw [buildTool]
  constructor
  · intro gives
    split at gives
    · rename_i tool only
      cases transport with
      | none => simp at gives
      | some server =>
        simp only [Act.gives_bind_iff, Act.gives_ofExcept_iff, Act.gives_pure_iff,
          within_eq_ok_iff] at gives
        obtain ⟨config, _, ⟨parsed, rfl⟩, inputs, _, ⟨input, rfl⟩, outputs, _, ⟨output, rfl⟩, rfl,
          rfl⟩ := gives
        exact ⟨server, _, rfl, ⟨tool, only, rfl, rfl, parsed, input, output⟩, rfl, rfl⟩
    · simp at gives
  · rintro ⟨server, ⟨key, name, config, inputs, outputs⟩, rfl,
      ⟨tool, only, rfl, rfl, parsed, input, output⟩, rfl, rfl⟩
    rw [only]
    simp only [Act.gives_bind_iff, Act.gives_ofExcept_iff, Act.gives_pure_iff, within_eq_ok_iff]
    exact ⟨config, before, ⟨parsed, rfl⟩, inputs, before, ⟨input, rfl⟩, outputs, before,
      ⟨output, rfl⟩, rfl, rfl⟩

/-! ### Illegible documents -/

/-- No agent is built for a node since a document is illegible: the node has a chat model, and a
server for its tools, and then its configuration is illegible or the schema of the arguments of one
of its tools is. All that is read before is in order. -/
structure AgentObscured (label : String) (n : PlanNode) (client : Option (Chat.Client σ))
    (transport : Option (Tool.Transport σ)) : Prop where
  modelled : ∃ model, chatModel label client = .ok model
  served : transport = none → n.tools = []
  illegible : n.node.config.IsIllegible ∨
    (∃ config, WorkerConfig.parse n.node.config label = .ok config) ∧
      ∃ earlier tool later, n.tools = earlier ++ tool :: later ∧
        (∀ other ∈ earlier,
          ∃ fields, Tool.argumentSchema other.inputSchema other.name = .ok fields) ∧
        tool.inputSchema.IsIllegible

/-- A tool node is not built since a document is illegible: there is a server for its one tool, and
then its configuration is illegible or one of the schemas is. All that is read before is in
order. -/
def ToolObscured (n : PlanNode) (transport : Option (Tool.Transport σ)) : Prop :=
  transport ≠ none ∧ ∃ tool, n.tools = [tool] ∧
    (n.node.config.IsIllegible ∨
      (∃ config, ToolConfig.parse n.node.config (toolLabel n.key) = .ok config) ∧
        (tool.inputSchema.IsIllegible ∨
          (∃ inputs, Tool.fieldNames tool.inputSchema tool.name = .ok inputs) ∧
            tool.outputSchema.IsIllegible))

variable {fault : Fault}

theorem exists_offered_iff {server : Tool.Transport σ} {tool : ToolRef} :
    (∃ offered, Tool.offered server tool = .ok offered) ↔
      ∃ fields, Tool.argumentSchema tool.inputSchema tool.name = .ok fields := by
  constructor
  · rintro ⟨offered, made⟩
    obtain ⟨fields, read, -⟩ := bind_eq_ok_iff.mp made
    exact ⟨fields, read⟩
  · rintro ⟨fields, read⟩
    exact ⟨_, bind_eq_ok_iff.mpr ⟨fields, read, rfl⟩⟩

theorem reads_offered (server : Tool.Transport σ) (tool : ToolRef) :
    tool.inputSchema.Reads (Tool.offered server tool) :=
  (Tool.reads_argumentSchema tool.inputSchema tool.name).bind fun refused => nomatch refused

/-- Tools are not on offer because of a fault when the first one without a proper schema has one
that is illegible. -/
theorem offeredAll_eq_fault_iff {server : Tool.Transport σ} {tools : List ToolRef} :
    Tool.offeredAll (some server) tools = .error (.fault fault) ↔
      fault = .badValue ∧ ∃ earlier tool later, tools = earlier ++ tool :: later ∧
        (∀ other ∈ earlier,
          ∃ fields, Tool.argumentSchema other.inputSchema other.name = .ok fields) ∧
        tool.inputSchema.IsIllegible := by
  rw [Tool.offeredAll, mapM_eq_error_iff]
  simp only [exists_offered_iff, (reads_offered server _).eq_fault_iff]
  constructor
  · rintro ⟨earlier, tool, later, split, passed, rfl, illegible⟩
    exact ⟨rfl, earlier, tool, later, split, passed, illegible⟩
  · rintro ⟨rfl, earlier, tool, later, split, passed, illegible⟩
    exact ⟨earlier, tool, later, split, passed, rfl, illegible⟩

theorem fails_buildAgent_fault_iff {label : String} :
    (buildAgent settings builder label n client transport).Fails before (.fault fault) after ↔
      fault = .badValue ∧ before = after ∧ AgentObscured label n client transport := by
  have reads : n.node.config.Reads (WorkerConfig.parse n.node.config label) :=
    Stored.reads_parse _ _ _
  rw [buildAgent, Act.fails_bind_iff]
  constructor
  · rintro (unmodelled | ⟨model, _, got, rest⟩)
    · simp at unmodelled
    obtain ⟨modelled, rfl⟩ := gives_ofBuild_iff.mp got
    split_ifs at rest with unserved
    · simp [Act.fail_bind] at rest
    have served := Classical.not_not.mp (mt isUnserved_iff.mpr unserved)
    -- nothing but the reading of documents is left that ends in a fault
    simp only [Act.fails_bind_iff, Act.fails_ofExcept_iff, Act.gives_ofExcept_iff,
      Act.fails_describe_iff, Failure.faultCausing_eq_fault_iff, Act.not_fails_pure, and_false,
      exists_false, or_false] at rest
    rcases rest with ⟨unread, rfl⟩ | ⟨config, _, ⟨parsed, rfl⟩, refused, rfl⟩
    · obtain ⟨rfl, illegible⟩ := reads.eq_fault_iff.mp unread
      exact ⟨rfl, rfl, ⟨model, modelled⟩, served, Or.inl illegible⟩
    · cases transport with
      | none => cases refused
      | some server =>
        obtain ⟨rfl, found⟩ := offeredAll_eq_fault_iff.mp refused
        exact ⟨rfl, rfl, ⟨model, modelled⟩, served, Or.inr ⟨⟨config, parsed⟩, found⟩⟩
  · rintro ⟨rfl, rfl, ⟨model, modelled⟩, served, illegible⟩
    refine Or.inr ⟨model, before, gives_ofBuild_iff.mpr ⟨modelled, rfl⟩, ?_⟩
    rw [if_neg fun unserved => isUnserved_iff.mp unserved served]
    rcases illegible with
      illegible | ⟨⟨config, parsed⟩, earlier, tool, later, split, passed, illegible⟩
    · exact Act.fails_bind_iff.mpr (Or.inl (Act.fails_ofExcept_iff.mpr
        ⟨reads.faults illegible, rfl⟩))
    · refine Act.fails_bind_iff.mpr (Or.inr ⟨config, before,
        Act.gives_ofExcept_iff.mpr ⟨parsed, rfl⟩, ?_⟩)
      cases transport with
      | none =>
        rw [served rfl] at split
        simp at split
      | some server =>
        exact Act.fails_bind_iff.mpr (Or.inl (Act.fails_ofExcept_iff.mpr
          ⟨offeredAll_eq_fault_iff.mpr ⟨rfl, earlier, tool, later, split, passed, illegible⟩, rfl⟩))

theorem fails_buildTool_fault_iff :
    (buildTool n transport).Fails before (.fault fault) after ↔
      fault = .badValue ∧ before = after ∧ ToolObscured n transport := by
  have reads : n.node.config.Reads (ToolConfig.parse n.node.config (toolLabel n.key)) :=
    Stored.reads_parse _ _ _
  rw [buildTool]
  constructor
  · intro fails
    split at fails
    · rename_i tool only
      cases transport with
      | none => simp at fails
      | some server =>
        have served : some server ≠ none := Option.some_ne_none server
        simp only [Act.fails_bind_iff, Act.fails_ofExcept_iff, Act.gives_ofExcept_iff,
          within_eq_ok_iff, within_eq_fault_iff, Act.not_fails_pure, and_false, exists_false,
          or_false] at fails
        -- three documents are read, in this order: the configuration, then the two schemas
        rcases fails with ⟨unread, rfl⟩ | ⟨config, _, ⟨parsed, rfl⟩, ⟨unread, rfl⟩ |
          ⟨inputs, _, ⟨input, rfl⟩, unread, rfl⟩⟩
        · obtain ⟨rfl, illegible⟩ := reads.eq_fault_iff.mp unread
          exact ⟨rfl, rfl, served, tool, only, Or.inl illegible⟩
        · obtain ⟨rfl, illegible⟩ := (Tool.reads_fieldNames _ _).eq_fault_iff.mp unread
          exact ⟨rfl, rfl, served, tool, only, Or.inr ⟨⟨config, parsed⟩, Or.inl illegible⟩⟩
        · obtain ⟨rfl, illegible⟩ := (Tool.reads_fieldNames _ _).eq_fault_iff.mp unread
          exact ⟨rfl, rfl, served, tool, only,
            Or.inr ⟨⟨config, parsed⟩, Or.inr ⟨⟨inputs, input⟩, illegible⟩⟩⟩
    · simp at fails
  · rintro ⟨rfl, rfl, served, tool, only, illegible⟩
    obtain ⟨server, rfl⟩ := Option.ne_none_iff_exists'.mp served
    rw [only]
    simp only [Act.fails_bind_iff, Act.fails_ofExcept_iff, Act.gives_ofExcept_iff,
      within_eq_ok_iff, within_eq_fault_iff]
    rcases illegible with illegible | ⟨⟨config, parsed⟩, illegible | ⟨⟨inputs, input⟩, illegible⟩⟩
    · exact Or.inl ⟨reads.faults illegible, trivial⟩
    · exact Or.inr ⟨config, before, ⟨parsed, rfl⟩,
        Or.inl ⟨(Tool.reads_fieldNames _ _).faults illegible, rfl⟩⟩
    · exact Or.inr ⟨config, before, ⟨parsed, rfl⟩, Or.inr ⟨inputs, before, ⟨input, rfl⟩,
        Or.inl ⟨(Tool.reads_fieldNames _ _).faults illegible, rfl⟩⟩⟩

end Node

end AgentWorkflow
