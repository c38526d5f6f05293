import AgentWorkflow.Proofs.Node.Consultation
import AgentWorkflow.Proofs.Workflow.Tasks

/-!
# The keys that a workflow carries

A workflow carries the keys that its stored schema declares, those that its nodes use and its own.
What is written under any other key is dropped, but no node writes one. A declared key is merged as
it is declared. The keys that come in besides are overwritten, so they never change a declaration;
only the conversation is always appended to when there is a supervisor.

## Main definitions

* `GraphPlan.HasSupervisor`: a graph has a supervisor
* `GraphPlan.Appends`: the keys whose values are appended to

## Main results

* `Workflow.find?_schema_joined_of_declares`: a declaration stands
* `Workflow.find?_schema_joined_of_appends`, `Workflow.find?_schema_joined_of_not_appends`: how a
  key that is carried is merged
* `Workflow.exists_eq_joined_carrying`: no node writes a key that is not carried
-/

namespace AgentWorkflow

variable {σ : Type} {settings : Settings} {services : Services σ} {snapshot : Option Snapshot}
  {transport : Option (Tool.Transport σ)} {stateKeys : List String} {blueprint : Blueprint}
  {workflow : Workflow σ} {before after : σ} {key : String} {declared : Schema} {r : Reducer}
  {parts : List (Workflow.Part σ)}

/-- A graph has a supervisor. -/
def GraphPlan.HasSupervisor (plan : GraphPlan) : Prop :=
  ∃ n ∈ plan.nodes, normalizeType n.node.type = "supervisor"

/-- The values of a key are appended to: the stored schema says so, or the key is the conversation
and there is a supervisor. -/
def GraphPlan.Appends (plan : GraphPlan) (key : String) : Prop :=
  plan.Declares key .append ∨ key = messagesKey ∧ plan.HasSupervisor

/-! ### Declared keys -/

/-- A schema that was read declares every key once. -/
theorem Schema.keys_nodup_of_parse {document : Stored} (parsed : parse document = .ok declared) :
    (Record.keys declared).Nodup := by
  obtain ⟨fields, -, rest⟩ := bind_eq_ok_iff.mp parsed
  obtain ⟨pairs, -, same⟩ := bind_eq_ok_iff.mp rest
  cases same
  exact Record.keys_ofPairs_nodup pairs

theorem GraphPlan.declares_iff {plan : GraphPlan}
    (parsed : Schema.parse plan.graph.stateSchema = .ok declared) :
    plan.Declares key r ↔ Record.find? declared key = some r := by
  have distinct := Schema.keys_nodup_of_parse parsed
  constructor
  · rintro ⟨declared', parsed', found⟩
    rw [parsed] at parsed'
    cases parsed'
    rwa [Record.find?_ofPairs_of_nodup distinct] at found
  · intro found
    exact ⟨declared, parsed, by rwa [Record.find?_ofPairs_of_nodup distinct]⟩

theorem Blueprint.Faithful.isEmpty_supervision_iff (faithful : blueprint.Faithful settings) :
    blueprint.supervision.isEmpty = true ↔ ¬ blueprint.plan.HasSupervisor := by
  rw [List.isEmpty_iff, List.eq_nil_iff_forall_not_mem]
  constructor
  · rintro none_collected ⟨n, node, type_eq⟩
    obtain ⟨config, supervises⟩ := faithful.exists_supervises n node type_eq
    exact none_collected (n.key, config)
      (faithful.mem_supervision_iff.mpr ⟨n, node, rfl, supervises⟩)
  · rintro no_supervisor ⟨supervisor, config⟩ entry
    obtain ⟨n, node, -, supervises⟩ := faithful.mem_supervision_iff.mp entry
    exact no_supervisor ⟨n, node, supervises.type_eq⟩

section Drawn

variable (drawn : Blueprint.ofSnapshot settings snapshot = .ok blueprint)

include drawn in
/-- With a supervisor the conversation is appended to, whatever the stored schema says. -/
theorem Blueprint.find?_declared_of_hasSupervisor (has : blueprint.plan.HasSupervisor) :
    (Record.ofPairs blueprint.declared).find? messagesKey = some .append := by
  obtain ⟨-, -, declared, parsed, same⟩ := ofSnapshot_eq_ok_iff.mp drawn
  have distinct : (Record.keys (declared.put messagesKey .append)).Nodup :=
    Record.keys_put_nodup (Schema.keys_nodup_of_parse parsed)
  have some_supervisor : ¬ blueprint.supervision.isEmpty = true := fun empty =>
    (faithful_of_ofSnapshot drawn).isEmpty_supervision_iff.mp empty has
  rw [same, declare, if_neg some_supervisor, Record.find?_ofPairs_of_nodup distinct,
    Record.find?_put_self]

include drawn in
/-- Any other key is declared by the stored schema or not at all. -/
theorem Blueprint.find?_declared_iff_declares
    (own : ¬ (key = messagesKey ∧ blueprint.plan.HasSupervisor)) :
    (Record.ofPairs blueprint.declared).find? key = some r ↔ blueprint.plan.Declares key r := by
  by_cases conversation : key = messagesKey
  · -- without a supervisor nothing is added to what the stored schema declares
    have no_supervisor : ¬ blueprint.plan.HasSupervisor := fun has => own ⟨conversation, has⟩
    obtain ⟨-, -, declared, parsed, same⟩ := ofSnapshot_eq_ok_iff.mp drawn
    have empty := (faithful_of_ofSnapshot drawn).isEmpty_supervision_iff.mpr no_supervisor
    rw [same, declare, if_pos empty, GraphPlan.declares_iff parsed,
      Record.find?_ofPairs_of_nodup (Schema.keys_nodup_of_parse parsed)]
  · exact find?_declared_iff drawn conversation

include drawn in
theorem Blueprint.find?_declared_append_iff :
    (Record.ofPairs blueprint.declared).find? key = some .append ↔ blueprint.plan.Appends key := by
  by_cases own : key = messagesKey ∧ blueprint.plan.HasSupervisor
  · have forced := find?_declared_of_hasSupervisor drawn own.2
    rw [own.1]
    exact ⟨fun _ => Or.inr ⟨rfl, own.2⟩, fun _ => forced⟩
  · rw [find?_declared_iff_declares drawn own]
    exact ⟨Or.inl, fun appends => appends.resolve_right own⟩

include drawn in
/-- A declaration stands, whatever keys are carried besides. -/
theorem Workflow.find?_schema_joined_of_declares (declares : blueprint.plan.Declares key r)
    (own : ¬ (key = messagesKey ∧ blueprint.plan.HasSupervisor)) :
    Record.find? (joined blueprint parts stateKeys).schema key = some r := by
  rw [joined, Schema.find?_build, (Blueprint.find?_declared_iff_declares drawn own).mpr declares,
    Option.some_or]

include drawn in
theorem Workflow.find?_schema_joined_of_appends (appends : blueprint.plan.Appends key) :
    Record.find? (joined blueprint parts stateKeys).schema key = some .append := by
  rw [joined, Schema.find?_build, (Blueprint.find?_declared_append_iff drawn).mpr appends,
    Option.some_or]

include drawn in
/-- A key that is carried is appended to or overwritten. -/
theorem Workflow.find?_schema_joined_of_not_appends
    (carried : key ∈ Record.keys (joined blueprint parts stateKeys).schema)
    (replaced : ¬ blueprint.plan.Appends key) :
    Record.find? (joined blueprint parts stateKeys).schema key = some .overwrite := by
  obtain ⟨r, found⟩ := Option.ne_none_iff_exists'.mp
    (mt Record.find?_eq_none_iff.mp (not_not.mpr carried))
  rw [found]
  cases r with
  | overwrite => rfl
  | append =>
    -- only a declaration says that a key is appended to
    rw [joined, Schema.find?_build] at found
    cases declares : (Record.ofPairs blueprint.declared).find? key with
    | none =>
      rw [declares, Option.none_or] at found
      split_ifs at found
      cases found
    | some r =>
      rw [declares, Option.some_or] at found
      rw [found] at declares
      exact absurd ((Blueprint.find?_declared_append_iff drawn).mp declares) replaced

end Drawn

/-! ### Keys that are written -/

namespace Node

/-- A supervisor writes its decision, the number of decisions, the conversation and its output. -/
theorem supervisorStep_writesOnly (prepare : ImagePreparer σ) (node : GraphNode)
    (config : SupervisorConfig) (respond : Chat.Responder σ) :
    WritesOnly (supervisorStep prepare node config respond) fun key =>
      key ∈ [decisionKey, iterationKey, messagesKey] ∨ node.outputKey = some key ∧ key ≠ "" := by
  intro state before delta after gives key written
  obtain ⟨c, -, concluded⟩ := gives_supervisorStep_iff.mp gives
  obtain ⟨d, -, -, added⟩ := conclude_eq_ok_iff.mp concluded
  rcases eq_or_eq_put_of_addAnswer added with rfl | ⟨-, output, outputKey, named, nonempty, rfl⟩
  · exact Or.inl written
  · rcases Record.mem_keys_put.mp written with rfl | own
    · exact Or.inr ⟨named, nonempty⟩
    · exact Or.inl own

end Node

namespace Workflow

theorem mem_furtherKeys_messagesKey : messagesKey ∈ furtherKeys blueprint parts stateKeys := by
  rw [furtherKeys, Text.mem_sortedSet]
  exact List.mem_append_right _ (List.mem_singleton_self _)

theorem mem_furtherKeys_of_stateKeys (stored : key ∈ stateKeys) :
    key ∈ furtherKeys blueprint parts stateKeys := by
  rw [furtherKeys, Text.mem_sortedSet]
  exact List.mem_append_left _ (List.mem_append_left _ (List.mem_append_left _ stored))

theorem mem_furtherKeys_of_part {part : Part σ} (member : part ∈ parts) (used : key ∈ part.keys) :
    key ∈ furtherKeys blueprint parts stateKeys := by
  rw [furtherKeys, Text.mem_sortedSet]
  exact List.mem_append_left _ (List.mem_append_left _ (List.mem_append_right _
    (List.mem_flatMap.mpr ⟨part, member, used⟩)))

/-- No part writes a key that is not carried. -/
theorem PartOf.writesOnly (faithful : blueprint.Faithful settings) {part : Part σ}
    (member : part ∈ parts) (partOf : PartOf settings services blueprint part) :
    Node.WritesOnly part.task.node.step fun key => key ∈ furtherKeys blueprint parts stateKeys := by
  intro state before delta after gives key written
  cases partOf with
  | supervisor node supervises task_eq keys_eq =>
    rw [task_eq] at gives
    rcases Node.supervisorStep_writesOnly _ _ _ _ gives key written with own | ⟨named, nonempty⟩
    · have entry := faithful.mem_supervision_iff.mpr ⟨_, node, rfl, supervises⟩
      simp only [List.mem_cons, List.not_mem_nil, or_false] at own
      rcases own with rfl | rfl | rfl
      · exact mem_furtherKeys_of_supervision entry List.mem_cons_self
      · exact mem_furtherKeys_of_supervision entry (List.mem_cons_of_mem _ List.mem_cons_self)
      · exact mem_furtherKeys_messagesKey
    · refine mem_furtherKeys_of_part member ?_
      rw [keys_eq]
      exact mem_ownKeys_of_outputKey named nonempty
  | other _ _ _ plain =>
    cases plain with
    | member agent _ step_eq =>
      rw [step_eq] at gives
      rw [Node.memberStep_writesOnly _ _ gives key written]
      exact mem_furtherKeys_messagesKey
    | teller writes => exact mem_furtherKeys_of_part member (writes gives key written).2

/-- In a workflow that was built no node writes a key that is not carried. -/
theorem exists_eq_joined_carrying (faithful : blueprint.Faithful settings)
    (built : (build settings services transport stateKeys blueprint).Gives before workflow after) :
    ∃ parts, workflow = joined blueprint parts stateKeys ∧
      ∀ task ∈ workflow.tasks, Node.WritesOnly task.node.step fun key =>
        key ∈ furtherKeys blueprint parts stateKeys := by
  obtain ⟨parts, rfl, partOf⟩ := exists_eq_joined_partOf faithful built
  refine ⟨parts, rfl, fun task member => ?_⟩
  obtain ⟨part, among, rfl⟩ := mem_arrangeTasks member
  exact (partOf part among).writesOnly faithful among

end Workflow

end AgentWorkflow
