import AgentWorkflow.Proofs.Workflow.Wiring

/-!
# The two readings of a supervisor

A member list is read twice: leniently when a graph is checked, to see whether the end can be
reached, and strictly when the graph is assembled. The lenient reading knows less about a document,
but where the strict one accepts it both name the same members, and where the lenient one finds no
members the strict one refuses. So the steps that the check adds for a supervisor are those that the
assembly wires for it, in every graph that is assembled.

## Main definitions

* `Workflow.Attends`: the steps that a workflow has because of a supervisor

## Main results

* `SupervisorConfig.exists_issue_of_peekMembers`: what names no members is refused
* `Workflow.find?_routes_joined_iff`: what routes a node has
* `Workflow.readings_agree`: both readings agree on documents, and on what is assembled from them
-/

namespace AgentWorkflow

/-- A document in which no members are found is refused. -/
theorem SupervisorConfig.exists_issue_of_peekMembers {settings : Settings} {key : String}
    {document : Stored}
    (unnamed : peekMembers document = .ok none ∨ peekMembers document = .ok (some [])) :
    ∃ issue, parse settings key document = .error (.error (.config issue)) := by
  have reads : document.Reads (parse settings key document) := Stored.reads_parse _ _ _
  cases parsed : parse settings key document with
  | error failure =>
    rcases (reads.refuses parsed).cases_on with ⟨-, illegible⟩ | ⟨issue, rfl, -⟩
    · have unpeeked := peekMembers_eq_error_iff.mpr ⟨rfl, illegible⟩
      rcases unnamed with unreadable | empty
      · cases unreadable.symm.trans unpeeked
      · cases empty.symm.trans unpeeked
    · exact ⟨issue, rfl⟩
  | ok config =>
    have found := peekMembers_of_parse parsed
    rcases unnamed with unreadable | empty
    · cases unreadable.symm.trans found
    · exact absurd (Option.some.inj (Except.ok.inj (empty.symm.trans found))).symm
        (members_of_parse parsed).1

namespace Workflow

variable {σ : Type} {settings : Settings} {services : Services σ} {snapshot : Option Snapshot}
  {transport : Option (Tool.Transport σ)} {stateKeys : List String} {workflow : Workflow σ}
  {before after : σ} {blueprint : Blueprint} {parts : List (Part σ)} {n : PlanNode}

/-- The steps that a workflow has because of a supervisor, between keys: its routes to the members
and to the end, and the edges by which the members come back. -/
inductive Attends (workflow : Workflow σ) (supervisor : String) : String → String → Prop
  | member {members : List String} {member : String}
      (routed : workflow.routes.find? supervisor = some members) (listed : member ∈ members) :
      Attends workflow supervisor supervisor member
  | back {members : List String} {member : String}
      (routed : workflow.routes.find? supervisor = some members) (listed : member ∈ members)
      (wired : ⟨member, .node supervisor⟩ ∈ workflow.edges) :
      Attends workflow supervisor member supervisor
  | finish {members : List String} (routed : workflow.routes.find? supervisor = some members) :
      Attends workflow supervisor supervisor "END"

/-- The routes of a node are the members of its configuration as a supervisor. -/
theorem find?_routes_joined_iff (faithful : blueprint.Faithful settings)
    (node : n ∈ blueprint.plan.nodes) {members : List String} :
    (joined blueprint parts stateKeys).routes.find? n.key = some members ↔
      ∃ config, n.Supervises settings config ∧ config.members = members := by
  have routes_eq : (joined blueprint parts stateKeys).routes.find? n.key =
      (blueprint.supervision.find? n.key).map SupervisorConfig.members :=
    Record.find?_map SupervisorConfig.members blueprint.supervision n.key
  rw [routes_eq, Option.map_eq_some_iff]
  refine exists_congr fun config => and_congr_left fun _ => ?_
  constructor
  · intro found
    obtain ⟨other, other_node, same, supervises⟩ :=
      faithful.mem_supervision_iff.mp (Record.mem_of_find? found)
    rwa [← List.inj_on_of_nodup_map faithful.wellFormed.keys_nodup other_node node same]
  · intro supervises
    exact Record.find?_of_mem faithful.keys_nodup
      (faithful.mem_supervision_iff.mpr ⟨n, node, rfl, supervises⟩)

/-- A node that lists members when it is read leniently has them as its routes. -/
theorem find?_routes_joined_iff_lists (faithful : blueprint.Faithful settings)
    (node : n ∈ blueprint.plan.nodes) {members : List String} :
    (joined blueprint parts stateKeys).routes.find? n.key = some members ↔ n.Lists members := by
  rw [find?_routes_joined_iff faithful node]
  constructor
  · rintro ⟨config, supervises, rfl⟩
    exact supervises.lists
  · rintro ⟨kind, peeked⟩
    obtain ⟨config, supervises⟩ := faithful.exists_supervises n node kind
    have same : some config.members = some members :=
      Except.ok.inj (supervises.lists.2.symm.trans peeked)
    exact ⟨config, supervises, Option.some.inj same⟩

/-- The steps that the check adds for a node are those that the assembly wires for it. -/
theorem mem_connections_iff_attends (faithful : blueprint.Faithful settings)
    (node : n ∈ blueprint.plan.nodes) {added : List Connection} (read : n.connections = .ok added)
    {source target : String} :
    (source, target) ∈ added ↔
      (joined blueprint parts stateKeys).Attends n.key source target := by
  rw [PlanNode.mem_connections_iff read]
  have routed_iff {members : List String} :
      (joined blueprint parts stateKeys).routes.find? n.key = some members ↔ n.Lists members :=
    find?_routes_joined_iff_lists faithful node
  constructor
  · rintro ⟨members, lists, ⟨rfl, listed⟩ | ⟨listed, rfl⟩ | ⟨rfl, rfl⟩⟩
    · exact .member (routed_iff.mpr lists) listed
    · have routed := routed_iff.mpr lists
      obtain ⟨config, supervises, rfl⟩ := (find?_routes_joined_iff faithful node).mp routed
      have entry := faithful.mem_supervision_iff.mpr ⟨n, node, rfl, supervises⟩
      refine .back routed listed (List.mem_eraseDups.mpr (mem_edgesOf_iff.mpr (.inl ?_)))
      exact ⟨n.key, config, entry, listed, rfl⟩
    · exact .finish (routed_iff.mpr lists)
  · intro attends
    cases attends with
    | member routed listed => exact ⟨_, routed_iff.mp routed, .inl ⟨rfl, listed⟩⟩
    | back routed listed wired => exact ⟨_, routed_iff.mp routed, .inr (.inl ⟨listed, rfl⟩)⟩
    | finish routed => exact ⟨_, routed_iff.mp routed, .inr (.inr ⟨rfl, rfl⟩)⟩

/-- Both readings agree. A document that is accepted names the members that are found in it, and one
in which none are found is refused; and what is assembled is wired, at every node of its graph, as
the check of that graph has it. -/
theorem readings_agree :
    (∀ key document config, SupervisorConfig.parse settings key document = .ok config →
      peekMembers document = .ok (some config.members)) ∧
    (∀ key document, peekMembers document = .ok none ∨ peekMembers document = .ok (some []) →
      ∃ issue, SupervisorConfig.parse settings key document = .error (.error (.config issue))) ∧
    ∀ workflow before after,
      (assemble settings services snapshot transport stateKeys).Gives before workflow after →
        ∃ plan, validate snapshot = .ok plan ∧
          ∀ n ∈ plan.nodes, ∃ added, n.connections = .ok added ∧ ∀ source target,
            (source, target) ∈ added ↔ workflow.Attends n.key source target := by
  refine ⟨fun _ _ _ => SupervisorConfig.peekMembers_of_parse,
    fun _ _ => SupervisorConfig.exists_issue_of_peekMembers, ?_⟩
  intro workflow before after assembled
  obtain ⟨blueprint, drawn, built⟩ := gives_assemble_iff.mp assembled
  obtain ⟨parts, rfl⟩ := exists_eq_joined built
  have valid := (Blueprint.ofSnapshot_eq_ok_iff.mp drawn).1
  obtain ⟨-, -, legible, -⟩ := validate_eq_ok_iff.mp valid
  refine ⟨blueprint.plan, valid, fun n node => ?_⟩
  obtain ⟨added, read⟩ := PlanNode.exists_connections fun illegible => legible ⟨n, node, illegible⟩
  exact ⟨added, read, fun source target =>
    mem_connections_iff_attends (Blueprint.faithful_of_ofSnapshot drawn) node read⟩

/-- In the newsroom the lead has its writer in both readings, and the way back is wired. -/
theorem newsroom_readings_agree :
    peekMembers (Newsroom.supervisor "lead" "writer").node.config = .ok (some ["writer"]) ∧
    (∃ issue,
      SupervisorConfig.parse {} "lead" (.text "\x7b\x7d") = .error (.error (.config issue))) ∧
    ∃ workflow : Workflow (List Message), workflow.Attends "lead" "writer" "lead" := by
  obtain ⟨workflow, assembled⟩ := Newsroom.exists_gives_assemble []
  obtain ⟨accepted, refused, wired⟩ := @readings_agree (List Message) {} Newsroom.services
    (some (Newsroom.plan .absent).toSnapshot) none []
  obtain ⟨plan, valid, attends_iff⟩ := wired workflow [] [] assembled
  rw [Newsroom.validate_plan] at valid
  cases valid
  refine ⟨accepted _ _ _ Newsroom.lead_supervises.parse_eq, refused _ _ (.inr rfl), workflow, ?_⟩
  obtain ⟨added, read, added_iff⟩ := attends_iff (Newsroom.supervisor "lead" "writer")
    List.mem_cons_self
  have back : ("writer", "lead") ∈ added := (PlanNode.mem_connections_iff read).mpr
    ⟨_, Newsroom.lead_supervises.lists, .inr (.inl ⟨List.mem_cons_self, rfl⟩)⟩
  exact (added_iff _ _).mp back

end Workflow

end AgentWorkflow
