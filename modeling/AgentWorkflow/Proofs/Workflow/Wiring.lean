import AgentWorkflow.Proofs.Workflow.Assembly

/-!
# The wiring of a workflow refines the graph that was checked

The check searches one graph and the assembly wires another. The search follows every stored edge
and takes member lists leniently; the wiring drops the stored edges that leave a supervisor, takes
member lists strictly and lets a supervisor finish on its own. A walk that the search found is cut
at its first supervisor, from where the wiring leads to the end at once. Up to there its steps leave
no supervisor, and all of these are wired.

## Main definitions

* `Workflow.Leads`: the steps that a workflow can take
* `Workflow.Reaches`: what it can reach from its entry
* `GraphPlan.Wires`: the steps that a graph asks for, with member lists read strictly

## Main results

* `Workflow.leads_joined_iff`: a workflow is wired as its graph asks for
* `Workflow.assemble_refines_search`: the end stays within reach, and nothing new comes into reach
-/

namespace AgentWorkflow

variable {σ : Type} {settings : Settings} {services : Services σ} {snapshot : Option Snapshot}
  {transport : Option (Tool.Transport σ)} {stateKeys : List String} {plan : GraphPlan}
  {workflow : Workflow σ} {before after : σ} {source : String} {target : Target}

/-- A step of a workflow: along an edge, or along a route of a supervisor to a member or to the
end. -/
inductive Workflow.Leads (workflow : Workflow σ) : String → Target → Prop
  | edge {edge : Edge} (wired : edge ∈ workflow.edges) : Leads workflow edge.source edge.target
  | member {supervisor member : String} {members : List String}
      (route : (supervisor, members) ∈ workflow.routes) (listed : member ∈ members) :
      Leads workflow supervisor (.node member)
  | finish {supervisor : String} {members : List String}
      (route : (supervisor, members) ∈ workflow.routes) : Leads workflow supervisor .finish

/-- What can be reached from the entry of a workflow. -/
inductive Workflow.Reaches (workflow : Workflow σ) : Target → Prop
  | entry : Reaches workflow (.node workflow.entry)
  | step {source : String} {target : Target} (reached : Reaches workflow (.node source))
      (leads : workflow.Leads source target) : Reaches workflow target

/-- Where a stored edge leads. -/
def GraphEdge.goal (edge : GraphEdge) : Target :=
  if edge.target = "END" then .finish else .node edge.target

/-- A key of a supervisor. -/
def GraphPlan.IsSupervisor (plan : GraphPlan) (key : String) : Prop :=
  ∃ n ∈ plan.nodes, n.key = key ∧ normalizeType n.node.type = "supervisor"

/-- The steps that a graph asks for: stored edges unless they leave a supervisor, a way back from
every member to its supervisor, and from a supervisor the ways to its members and to the end. -/
inductive GraphPlan.Wires (settings : Settings) (plan : GraphPlan) : String → Target → Prop
  | edge {edge : GraphEdge} (stored : edge ∈ plan.edges)
      (plain : ¬ plan.IsSupervisor edge.source) : Wires settings plan edge.source edge.goal
  | back {n : PlanNode} {config : SupervisorConfig} {member : String} (node : n ∈ plan.nodes)
      (supervises : n.Supervises settings config) (listed : member ∈ config.members) :
      Wires settings plan member (.node n.key)
  | member {n : PlanNode} {config : SupervisorConfig} {member : String} (node : n ∈ plan.nodes)
      (supervises : n.Supervises settings config) (listed : member ∈ config.members) :
      Wires settings plan n.key (.node member)
  | finish {n : PlanNode} {config : SupervisorConfig} (node : n ∈ plan.nodes)
      (supervises : n.Supervises settings config) : Wires settings plan n.key .finish

/-! ### The wiring follows the graph -/

/-- The edges of a blueprint: from members back to their supervisors, and the stored ones that leave
no supervisor. -/
theorem mem_edgesOf_iff {blueprint : Blueprint} {edge : Edge} :
    edge ∈ Workflow.edgesOf blueprint ↔
      (∃ supervisor config, (supervisor, config) ∈ blueprint.supervision ∧
        edge.source ∈ config.members ∧ edge.target = .node supervisor) ∨
      ∃ stored ∈ blueprint.plan.edges, blueprint.supervision.has stored.source = false ∧
        edge.source = stored.source ∧ edge.target = stored.goal := by
  obtain ⟨source, target⟩ := edge
  rw [Workflow.edgesOf, List.mem_append, List.mem_map, List.mem_map, Supervision.owners]
  refine or_congr ?_ ?_
  · simp only [List.mem_flatMap, List.mem_map]
    constructor
    · rintro ⟨_, ⟨⟨supervisor, config⟩, entry, member, listed, rfl⟩, same⟩
      cases same
      exact ⟨supervisor, config, entry, listed, rfl⟩
    · rintro ⟨supervisor, config, entry, listed, rfl⟩
      exact ⟨(source, supervisor), ⟨(supervisor, config), entry, source, listed, rfl⟩, rfl⟩
  · simp only [List.mem_filter, Bool.not_eq_true', Edge.mk.injEq, beq_iff_eq, GraphEdge.goal,
      endKey]
    constructor
    · rintro ⟨stored, ⟨member, plain⟩, rfl, rfl⟩
      exact ⟨stored, member, plain, rfl, rfl⟩
    · rintro ⟨stored, member, plain, rfl, rfl⟩
      exact ⟨stored, ⟨member, plain⟩, rfl, rfl⟩

theorem mem_routes_joined_iff {blueprint : Blueprint} {parts : List (Workflow.Part σ)}
    {supervisor : String} {members : List String} :
    (supervisor, members) ∈ (Workflow.joined blueprint parts stateKeys).routes ↔
      ∃ config, (supervisor, config) ∈ blueprint.supervision ∧ config.members = members := by
  simp only [Workflow.joined, List.mem_map]
  constructor
  · rintro ⟨⟨supervisor, config⟩, entry, same⟩
    cases same
    exact ⟨config, entry, rfl⟩
  · rintro ⟨config, entry, rfl⟩
    exact ⟨(supervisor, config), entry, rfl⟩

/-- A workflow is wired as its graph asks for. -/
theorem Workflow.leads_joined_iff {blueprint : Blueprint} {parts : List (Part σ)}
    (faithful : blueprint.Faithful settings) :
    (joined blueprint parts stateKeys).Leads source target ↔
      blueprint.plan.Wires settings source target := by
  have not_isSupervisor {key : String} :
      blueprint.supervision.has key = false ↔ ¬ blueprint.plan.IsSupervisor key := by
    rw [← Bool.not_eq_true, faithful.has_supervision_iff]
    rfl
  constructor
  · intro leads
    cases leads with
    | @edge edge wired =>
      rcases mem_edgesOf_iff.mp (List.mem_eraseDups.mp wired) with
        ⟨supervisor, config, entry, listed, same⟩ | ⟨stored, member, plain, sourceEq, targetEq⟩
      · obtain ⟨n, node, rfl, supervises⟩ := faithful.mem_supervision_iff.mp entry
        rw [same]
        exact .back node supervises listed
      -- a stored edge of a supervisor is not wired, since its route takes the place
      · rw [sourceEq, targetEq]
        exact .edge member (not_isSupervisor.mp plain)
    | member route listed =>
      obtain ⟨config, entry, rfl⟩ := mem_routes_joined_iff.mp route
      obtain ⟨n, node, rfl, supervises⟩ := faithful.mem_supervision_iff.mp entry
      exact .member node supervises listed
    | finish route =>
      obtain ⟨config, entry, rfl⟩ := mem_routes_joined_iff.mp route
      obtain ⟨n, node, rfl, supervises⟩ := faithful.mem_supervision_iff.mp entry
      exact .finish node supervises
  · intro wires
    cases wires with
    | @edge stored member plain =>
      have wired : (⟨stored.source, stored.goal⟩ : Edge) ∈
          (joined blueprint parts stateKeys).edges :=
        List.mem_eraseDups.mpr (mem_edgesOf_iff.mpr
          (Or.inr ⟨stored, member, not_isSupervisor.mpr plain, rfl, rfl⟩))
      exact .edge wired
    | @back n config _ node supervises listed =>
      have entry := faithful.mem_supervision_iff.mpr ⟨n, node, rfl, supervises⟩
      have wired : (⟨source, .node n.key⟩ : Edge) ∈ (joined blueprint parts stateKeys).edges :=
        List.mem_eraseDups.mpr (mem_edgesOf_iff.mpr
          (Or.inl ⟨n.key, config, entry, listed, rfl⟩))
      exact .edge wired
    | @member n config _ node supervises listed =>
      have entry := faithful.mem_supervision_iff.mpr ⟨n, node, rfl, supervises⟩
      exact .member (mem_routes_joined_iff.mpr ⟨config, entry, rfl⟩) listed
    | @finish n config node supervises =>
      have entry := faithful.mem_supervision_iff.mpr ⟨n, node, rfl, supervises⟩
      exact .finish (mem_routes_joined_iff.mpr ⟨config, entry, rfl⟩)

/-! ### Walks and the wiring -/

/-- A step that is wired to a node is one that the search follows. -/
theorem GraphPlan.Wires.joins {key : String} (wires : plan.Wires settings source (.node key)) :
    plan.Joins source key := by
  generalize same : Target.node key = target at wires
  cases wires with
  | @edge stored member plain =>
    rw [GraphEdge.goal] at same
    split_ifs at same
    cases same
    exact .edge member
  | back node supervises listed =>
    cases same
    exact .fromMember node supervises.lists listed
  | member node supervises listed =>
    cases same
    exact .toMember node supervises.lists listed
  | finish => cases same

/-- A step of the search that leaves no supervisor is wired: to the end, or to a key that is not
taken for the end unless it is a supervisor's. -/
theorem GraphPlan.Joins.wires {key : String} (joins : plan.Joins source key)
    (plain : ¬ plan.IsSupervisor source)
    (readable : ∀ n ∈ plan.nodes, normalizeType n.node.type = "supervisor" →
      ∃ config, n.Supervises settings config) :
    plan.Wires settings source .finish ∨
      plan.Wires settings source (.node key) ∧ (key = "END" → plan.IsSupervisor key) := by
  cases joins with
  | @edge stored member =>
    have wires : plan.Wires settings stored.source stored.goal := .edge member plain
    rw [GraphEdge.goal] at wires
    split_ifs at wires with last
    · exact Or.inl wires
    · exact Or.inr ⟨wires, fun same => absurd same last⟩
  | toMember node lists listed => exact absurd ⟨_, node, rfl, lists.1⟩ plain
  | @fromMember n members _ node lists listed =>
    obtain ⟨config, supervises⟩ := readable n node lists.1
    have same : some config.members = some members :=
      Except.ok.inj (supervises.lists.2.symm.trans lists.2)
    cases same
    exact Or.inr ⟨.back node supervises listed, fun _ => ⟨n, node, rfl, lists.1⟩⟩
  | toEnd node lists => exact absurd ⟨_, node, rfl, lists.1⟩ plain

section Assembled

variable (entry_eq : workflow.entry = plan.graph.entry)
  (leads_iff : ∀ {source target}, workflow.Leads source target ↔ plan.Wires settings source target)

include leads_iff in
/-- Wherever the workflow can be, a walk to the end shows that it can finish. -/
theorem Workflow.reaches_finish_of_walk
    (readable : ∀ n ∈ plan.nodes, normalizeType n.node.type = "supervisor" →
      ∃ config, n.Supervises settings config)
    (walk : Relation.TransGen plan.Joins source "END") (reached : workflow.Reaches (.node source)) :
    workflow.Reaches .finish := by
  have finishes : ∀ {key}, plan.IsSupervisor key → workflow.Reaches (.node key) →
      workflow.Reaches .finish := by
    rintro _ ⟨n, node, rfl, kind⟩ reached
    obtain ⟨config, supervises⟩ := readable n node kind
    exact .step reached (leads_iff.mpr (.finish node supervises))
  induction walk using Relation.TransGen.head_induction_on with
  | @single source joins =>
    by_cases supervisor : plan.IsSupervisor source
    · exact finishes supervisor reached
    · rcases joins.wires supervisor readable with wires | ⟨wires, isSupervisor⟩
      · exact .step reached (leads_iff.mpr wires)
      -- a supervisor may have the key that stands for the end
      · exact finishes (isSupervisor rfl) (.step reached (leads_iff.mpr wires))
  | @head source next joins _ ih =>
    by_cases supervisor : plan.IsSupervisor source
    · exact finishes supervisor reached
    · rcases joins.wires supervisor readable with wires | ⟨wires, -⟩
      · exact .step reached (leads_iff.mpr wires)
      · exact ih (.step reached (leads_iff.mpr wires))

include entry_eq leads_iff in
/-- Whatever the workflow can reach, the search can. -/
theorem Workflow.walk_of_reaches {key : String} (reached : workflow.Reaches (.node key)) :
    Relation.ReflTransGen plan.Joins plan.graph.entry key := by
  generalize same : Target.node key = target at reached
  induction reached generalizing key with
  | entry =>
    cases same
    rw [entry_eq]
  | step _ leads ih =>
    cases same
    exact (ih rfl).tail (leads_iff.mp leads).joins

end Assembled

/-- A workflow that could be assembled is wired as its graph asks for. From its entry the end can be
reached, and every node that can be reached is one that the search can reach as well. -/
theorem Workflow.assemble_refines_search
    (assembled : (assemble settings services snapshot transport stateKeys).Gives before workflow
      after) :
    ∃ plan, validate snapshot = .ok plan ∧ workflow.entry = plan.graph.entry ∧
      (∀ source target, workflow.Leads source target ↔ plan.Wires settings source target) ∧
      workflow.Reaches .finish ∧
      ∀ key, workflow.Reaches (.node key) →
        Relation.ReflTransGen plan.Joins plan.graph.entry key := by
  obtain ⟨blueprint, drawn, built⟩ := gives_assemble_iff.mp assembled
  have faithful := Blueprint.faithful_of_ofSnapshot drawn
  obtain ⟨parts, rfl⟩ := exists_eq_joined built
  have leads_iff {source target} : (joined blueprint parts stateKeys).Leads source target ↔
      blueprint.plan.Wires settings source target := leads_joined_iff faithful
  refine ⟨blueprint.plan, (Blueprint.ofSnapshot_eq_ok_iff.mp drawn).1, rfl, fun _ _ => leads_iff,
    ?_, fun key reached => walk_of_reaches rfl leads_iff reached⟩
  exact reaches_finish_of_walk leads_iff faithful.exists_supervises faithful.reachesEnd .entry

/-- The newsroom is assembled from a graph with a stored edge that is not wired. -/
theorem Workflow.newsroom_refines_search :
    ∃ workflow, (assemble {} Newsroom.services (some (Newsroom.plan .absent).toSnapshot) none
        []).Gives [] workflow [] ∧
      ∃ plan, validate (some (Newsroom.plan .absent).toSnapshot) = .ok plan ∧
        workflow.entry = plan.graph.entry ∧
        (∀ source target, workflow.Leads source target ↔ plan.Wires {} source target) ∧
        workflow.Reaches .finish ∧
        ∀ key, workflow.Reaches (.node key) →
          Relation.ReflTransGen plan.Joins plan.graph.entry key := by
  obtain ⟨workflow, assembled⟩ := Newsroom.exists_gives_assemble []
  exact ⟨workflow, assembled, assemble_refines_search assembled⟩

end AgentWorkflow
