import AgentWorkflow.Proofs.Run.Iteration
import AgentWorkflow.Proofs.Workflow.Keys

/-!
# Who does what under a single supervisor

With a single supervisor a task of an assembled workflow is that of the supervisor, that of one of
its members, or the task of a node that stays out of the conversation. If no node is told to write
the keys of the conversation, nobody but the supervisor and its members does.

## Main definitions

* `GraphPlan.SupervisedBy`: a graph has a single supervisor, and its keys are left to it
* `Workflow.StaffOf`: what a task does under a single supervisor

## Main results

* `Workflow.exists_eq_joined_staffOf`: the tasks of an assembled workflow
-/

namespace AgentWorkflow

variable {σ : Type} {settings : Settings} {services : Services σ} {snapshot : Option Snapshot}
  {transport : Option (Tool.Transport σ)} {stateKeys : List String} {blueprint : Blueprint}
  {plan : GraphPlan} {workflow : Workflow σ} {before after : σ} {n : PlanNode}
  {config : SupervisorConfig} {key : String}

/-- The keys that a supervisor writes besides its output. -/
def supervisorKeys : List String := [decisionKey, iterationKey, messagesKey]

/-- A node is the only supervisor of a graph. The stored schema leaves its keys to it, and no node
is told to write one of them. -/
structure GraphPlan.SupervisedBy (settings : Settings) (plan : GraphPlan) (n : PlanNode)
    (config : SupervisorConfig) : Prop where
  node : n ∈ plan.nodes
  supervises : n.Supervises settings config
  only : ∀ m ∈ plan.nodes, normalizeType m.node.type = "supervisor" → m = n
  plain : ∀ key ∈ [decisionKey, iterationKey], ¬ plan.Declares key .append
  spares : ∀ key ∈ supervisorKeys, plan.Spares key

/-- A key has an owner when some supervisor lists it. -/
theorem Supervision.exists_of_has_owners {supervision : Supervision}
    (owned : supervision.owners.has key = true) :
    ∃ supervisor config, (supervisor, config) ∈ supervision ∧ key ∈ config.members := by
  obtain ⟨⟨member, owner⟩, listed, rfl⟩ := List.mem_map.mp (Record.has_iff.mp owned)
  rw [owners, List.mem_flatMap] at listed
  obtain ⟨⟨supervisor, config⟩, entry, among⟩ := listed
  obtain ⟨_, here, same⟩ := List.mem_map.mp among
  cases same
  exact ⟨_, config, entry, here⟩

namespace Workflow

/-- What a task does under a single supervisor. -/
inductive StaffOf (services : Services σ) (n : PlanNode) (config : SupervisorConfig)
    (task : Task σ) : Prop
  | supervisor (respond : Chat.Responder σ)
      (task_eq : task = supervisorTask services.prepareImage n config respond) :
      StaffOf services n config task
  | member (agent : Agent.Reasoner σ) (listed : task.key ∈ config.members)
      (step_eq : task.node.step = Node.memberStep task.key agent) : StaffOf services n config task
  | other (ne : task.key ≠ n.key)
      (writes : Node.WritesOnly task.node.step fun key => key ∉ supervisorKeys) :
      StaffOf services n config task

theorem PartOf.staffOf (faithful : blueprint.Faithful settings)
    (supervised : blueprint.plan.SupervisedBy settings n config) {part : Part σ}
    (partOf : PartOf settings services blueprint part) : StaffOf services n config part.task := by
  cases partOf with
  | @supervisor m config' respond node supervises task_eq _ =>
    obtain rfl := supervised.only m node supervises.type_eq
    obtain rfl : config' = config :=
      Except.ok.inj (supervises.parse_eq.symm.trans supervised.supervises.parse_eq)
    exact .supervisor respond task_eq
  | @other m node type_ne key_eq plain =>
    cases plain with
    | member agent owned step_eq =>
      obtain ⟨supervisor, config', entry, listed⟩ := Supervision.exists_of_has_owners owned
      obtain ⟨m', node', -, supervises⟩ := faithful.mem_supervision_iff.mp entry
      obtain rfl := supervised.only m' node' supervises.type_eq
      obtain rfl : config' = config :=
        Except.ok.inj (supervises.parse_eq.symm.trans supervised.supervises.parse_eq)
      rw [← key_eq] at listed step_eq
      exact .member agent listed step_eq
    | teller writes =>
      refine .other (fun same => ?_) ?_
      · obtain rfl := List.inj_on_of_nodup_map faithful.wellFormed.keys_nodup node supervised.node
          (key_eq.symm.trans same)
        exact type_ne supervised.supervises.type_eq
      · intro state before delta after gives key written own
        rcases (writes gives key written).1 with named | result
        · exact (supervised.spares key own m node).1 named
        · exact (supervised.spares key own m node).2 result

/-- The tasks of a workflow that was built for a graph with a single supervisor. -/
theorem exists_eq_joined_staffOf (faithful : blueprint.Faithful settings)
    (supervised : blueprint.plan.SupervisedBy settings n config)
    (built : (build settings services transport stateKeys blueprint).Gives before workflow after) :
    ∃ parts, workflow = joined blueprint parts stateKeys ∧
      ∀ task ∈ workflow.tasks, StaffOf services n config task := by
  obtain ⟨parts, rfl, partOf⟩ := exists_eq_joined_partOf faithful built
  refine ⟨parts, rfl, fun task member => ?_⟩
  obtain ⟨part, among, rfl⟩ := mem_arrangeTasks member
  exact (partOf part among).staffOf faithful supervised

end Workflow

/-! ### A bureau -/

namespace Newsroom

/-- A bureau of the newsroom: its first supervisor with its member. -/
def bureau : GraphPlan where
  graph := { entry := "lead", stateSchema := .absent }
  nodes := [supervisor "lead" "writer", worker "writer"]
  edges := []

theorem bureau_wellFormed : bureau.WellFormed :=
  .of_listing ["lead", "writer"] [] rfl rfl (by decide) (by decide) List.mem_cons_self nofun
    List.nodup_nil

theorem bureau_legible : ¬ bureau.IsIllegible :=
  GraphPlan.not_isIllegible
    (List.forall_mem_cons.mpr ⟨nofun, List.forall_mem_singleton.mpr nofun⟩)

theorem validate_bureau : validate (some bureau.toSnapshot) = .ok bureau := by
  have reaches : bureau.ReachesEnd := .single (.toEnd List.mem_cons_self lead_supervises.lists)
  exact validate_eq_ok_iff.mpr ⟨rfl, bureau_wellFormed, bureau_legible, reaches⟩

theorem bureau_supervised :
    bureau.SupervisedBy {} (supervisor "lead" "writer") (Newsroom.config "writer") where
  node := List.mem_cons_self
  supervises := lead_supervises
  only := by
    have kind : normalizeType (worker "writer").node.type ≠ "supervisor" := by decide +kernel
    intro m node type_eq
    obtain rfl | rfl : m = supervisor "lead" "writer" ∨ m = worker "writer" := by
      simpa [bureau] using node
    · rfl
    · exact absurd type_eq kind
  plain := by
    rintro key - ⟨declared, parsed, found⟩
    cases parsed
    cases found
  spares := fun key _ => GraphPlan.spares_of_forall (by decide +kernel) key

/-- The bureau can be assembled, whatever the script. -/
theorem exists_gives_assemble_bureau (script : List Message) :
    ∃ workflow, (Workflow.assemble {} Newsroom.services (some bureau.toSnapshot) none []).Gives
      script workflow script := by
  have drawn : Blueprint.ofSnapshot {} (some bureau.toSnapshot) =
      .ok ⟨bureau, Record.put [] messagesKey .append, [("lead", Newsroom.config "writer")]⟩ :=
    Blueprint.ofSnapshot_eq_ok_iff.mpr ⟨validate_bureau, rfl, [], rfl, rfl⟩
  exact ⟨_, Workflow.gives_assemble_iff.mpr ⟨_, drawn, Workflow.gives_build_iff.mpr
    ⟨_, _, rfl, _, _, rfl, _, rfl,
      Workflow.join_eq_ok_of_free (by decide +kernel) (by decide +kernel)⟩⟩⟩

end Newsroom

end AgentWorkflow
