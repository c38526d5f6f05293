import AgentWorkflow.Proofs.Config.Legibility
import AgentWorkflow.Proofs.Graph.Search
import AgentWorkflow.Proofs.Graph.WellFormed

/-!
# What the check of a snapshot decides

A snapshot passes exactly when nothing is missing in it, its keys and edges are well formed, and a
walk leads from its entry to the end. The walk may use the stored edges and those that supervisors
bring with them. Members are read leniently here: they need not be keys of the graph, and a
supervisor whose members cannot be read joins nothing.

There is one exception. When the configuration of a supervisor holds a whole number that is too long
to be read, the check ends in a fault, wherever the walks lead.

## Main definitions

* `GraphPlan.Joins`: the steps of such a walk
* `GraphPlan.ReachesEnd`: there is a walk of at least one step from the entry to the end
* `GraphPlan.IsIllegible`: the configuration of a supervisor is illegible

## Main results

* `mem_connections_iff`: the connections that are searched are these steps
* `validate_verdict`: when a snapshot passes, when only the end is out of reach, when it is refused
  for anything else, and when its check ends in a fault
* `census_check_faults`: a snapshot that should pass, and whose check ends in a fault
-/

namespace AgentWorkflow

/-- A node is a supervisor that can be read, with these members. -/
def PlanNode.Lists (n : PlanNode) (members : List String) : Prop :=
  normalizeType n.node.type = "supervisor" ∧ peekMembers n.node.config = .ok (some members)

/-- A node is a supervisor whose configuration is illegible. -/
def PlanNode.IsIllegible (n : PlanNode) : Prop :=
  normalizeType n.node.type = "supervisor" ∧ n.node.config.IsIllegible

/-- One step of a walk: along a stored edge, between a supervisor and one of its members in either
direction, or from a supervisor to the end. -/
inductive GraphPlan.Joins (plan : GraphPlan) : String → String → Prop
  | edge {edge : GraphEdge} (stored : edge ∈ plan.edges) : Joins plan edge.source edge.target
  | toMember {n : PlanNode} {members : List String} {member : String} (node : n ∈ plan.nodes)
      (lists : n.Lists members) (listed : member ∈ members) : Joins plan n.key member
  | fromMember {n : PlanNode} {members : List String} {member : String} (node : n ∈ plan.nodes)
      (lists : n.Lists members) (listed : member ∈ members) : Joins plan member n.key
  | toEnd {n : PlanNode} {members : List String} (node : n ∈ plan.nodes)
      (lists : n.Lists members) : Joins plan n.key "END"

/-- A walk of at least one step leads from the entry to the end. -/
def GraphPlan.ReachesEnd (plan : GraphPlan) : Prop :=
  Relation.TransGen plan.Joins plan.graph.entry "END"

/-- The configuration of a supervisor of the graph is illegible. -/
def GraphPlan.IsIllegible (plan : GraphPlan) : Prop := ∃ n ∈ plan.nodes, n.IsIllegible

/-- Only texts are illegible. -/
theorem GraphPlan.not_isIllegible {plan : GraphPlan}
    (no_text : ∀ n ∈ plan.nodes, ∀ s, n.node.config ≠ .text s) : ¬ plan.IsIllegible := by
  rintro ⟨n, node, -, s, text, -⟩
  exact no_text n node s text

theorem isSupervisorType_iff {type : String} :
    isSupervisorType type = true ↔ normalizeType type = "supervisor" := by
  simp [isSupervisorType, NodeKind.word]

/-- The connections of a node are out of reach exactly when it is an illegible supervisor. -/
theorem PlanNode.connections_eq_error_iff {n : PlanNode} {failure : Failure} :
    n.connections = .error failure ↔ failure = .fault .badValue ∧ n.IsIllegible := by
  rw [connections, IsIllegible]
  split_ifs with kind
  · rw [isSupervisorType_iff] at kind
    rw [bind_eq_error_iff, peekMembers_eq_error_iff]
    simp only [kind, true_and, or_iff_left_iff_imp]
    rintro ⟨_ | members, -, impossible⟩ <;> cases impossible
  · rw [isSupervisorType_iff] at kind
    simp [kind]

theorem PlanNode.exists_connections {n : PlanNode} (legible : ¬ n.IsIllegible) :
    ∃ added, n.connections = .ok added := by
  cases read : n.connections with
  | ok added => exact ⟨added, rfl⟩
  | error failure => exact absurd (connections_eq_error_iff.mp read).2 legible

theorem PlanNode.mem_connections_iff {n : PlanNode} {added : List Connection}
    {source target : String} (read : n.connections = .ok added) :
    (source, target) ∈ added ↔
      ∃ members, n.Lists members ∧
        ((source = n.key ∧ target ∈ members) ∨ (source ∈ members ∧ target = n.key) ∨
          (source = n.key ∧ target = "END")) := by
  rw [connections] at read
  split_ifs at read with kind
  · rw [isSupervisorType_iff] at kind
    obtain ⟨listed, peeked, rest⟩ := bind_eq_ok_iff.mp read
    simp only [Lists, kind, true_and, peeked, Except.ok.injEq]
    cases listed with
    | none =>
      cases rest
      simp
    | some members =>
      cases rest
      simp only [List.mem_append, List.mem_flatMap, List.mem_cons, List.not_mem_nil, or_false,
        Prod.mk.injEq, Option.some.injEq, exists_eq_left', endKey]
      constructor
      · rintro (⟨member, listed, ⟨rfl, rfl⟩ | ⟨rfl, rfl⟩⟩ | last)
        · exact Or.inl ⟨rfl, listed⟩
        · exact Or.inr (Or.inl ⟨listed, rfl⟩)
        · exact Or.inr (Or.inr last)
      · rintro (⟨rfl, listed⟩ | ⟨listed, rfl⟩ | last)
        · exact Or.inl ⟨target, listed, Or.inl ⟨rfl, rfl⟩⟩
        · exact Or.inl ⟨source, listed, Or.inr ⟨rfl, rfl⟩⟩
        · exact Or.inr last
  · rw [isSupervisorType_iff] at kind
    cases read
    simp [Lists, kind]

/-- A step that any node brings with it is among the connections that are gathered. -/
theorem mem_flatten_connections_iff {nodes : List PlanNode} {added : List (List Connection)}
    {connection : Connection} (read : nodes.mapM PlanNode.connections = .ok added) :
    connection ∈ added.flatten ↔
      ∃ n ∈ nodes, ∃ own, n.connections = .ok own ∧ connection ∈ own := by
  have each := mapM_eq_ok_iff.mp read
  clear read
  induction each with
  | nil => simp
  | cons first _ ih => simp [ih, first]

/-- The connections that are searched are the steps of a walk. -/
theorem GraphPlan.mem_connections_iff {plan : GraphPlan} {connections : List Connection}
    {source target : String} (read : plan.connections = .ok connections) :
    (source, target) ∈ connections ↔ plan.Joins source target := by
  rw [GraphPlan.connections] at read
  obtain ⟨added, gathered, rest⟩ := bind_eq_ok_iff.mp read
  cases rest
  rw [List.mem_append, List.mem_map, mem_flatten_connections_iff gathered]
  have brings : ∀ {n : PlanNode} {members : List String}, n ∈ plan.nodes → n.Lists members →
      ((source = n.key ∧ target ∈ members) ∨ (source ∈ members ∧ target = n.key) ∨
        (source = n.key ∧ target = "END")) →
      ∃ n ∈ plan.nodes, ∃ own, n.connections = .ok own ∧ (source, target) ∈ own := by
    intro n members node lists step
    obtain ⟨own, among⟩ := exists_mapM_iff.mp ⟨added, gathered⟩ n node
    exact ⟨n, node, own, among, (PlanNode.mem_connections_iff among).mpr ⟨members, lists, step⟩⟩
  constructor
  · rintro (⟨edge, stored, same⟩ | ⟨n, node, own, among, member⟩)
    · cases same
      exact .edge stored
    · obtain ⟨members, lists, step⟩ := (PlanNode.mem_connections_iff among).mp member
      rcases step with ⟨rfl, listed⟩ | ⟨listed, rfl⟩ | ⟨rfl, rfl⟩
      · exact .toMember node lists listed
      · exact .fromMember node lists listed
      · exact .toEnd node lists
  · intro step
    cases step with
    | edge stored => exact Or.inl ⟨_, stored, rfl⟩
    | toMember node lists listed => exact Or.inr (brings node lists (Or.inl ⟨rfl, listed⟩))
    | fromMember node lists listed =>
      exact Or.inr (brings node lists (Or.inr (Or.inl ⟨listed, rfl⟩)))
    | toEnd node lists => exact Or.inr (brings node lists (Or.inr (Or.inr ⟨rfl, rfl⟩)))

/-- The connections of a graph are out of reach exactly when a supervisor in it is illegible. -/
theorem GraphPlan.connections_eq_error_iff {plan : GraphPlan} {failure : Failure} :
    plan.connections = .error failure ↔ failure = .fault .badValue ∧ plan.IsIllegible := by
  rw [GraphPlan.connections, bind_eq_error_iff]
  constructor
  · rintro (unread | ⟨added, -, impossible⟩)
    · obtain ⟨earlier, n, later, split, -, fails⟩ := mapM_eq_error_iff.mp unread
      obtain ⟨rfl, illegible⟩ := PlanNode.connections_eq_error_iff.mp fails
      exact ⟨rfl, n, by simp [split], illegible⟩
    · cases impossible
  · rintro ⟨rfl, n, node, illegible⟩
    refine Or.inl ?_
    cases gathered : plan.nodes.mapM PlanNode.connections with
    | ok added =>
      obtain ⟨own, among⟩ := exists_mapM_iff.mp ⟨added, gathered⟩ n node
      rw [PlanNode.connections_eq_error_iff.mpr ⟨rfl, illegible⟩] at among
      cases among
    | error failure =>
      obtain ⟨-, other, -, -, -, fails⟩ := mapM_eq_error_iff.mp gathered
      rw [(PlanNode.connections_eq_error_iff.mp fails).1]

theorem GraphPlan.exists_connections_iff {plan : GraphPlan} :
    (∃ connections, plan.connections = .ok connections) ↔ ¬ plan.IsIllegible := by
  constructor
  · rintro ⟨connections, read⟩ illegible
    cases read.symm.trans (connections_eq_error_iff.mpr ⟨rfl, illegible⟩)
  · intro legible
    cases read : plan.connections with
    | ok connections => exact ⟨connections, rfl⟩
    | error failure => exact absurd (connections_eq_error_iff.mp read).2 legible

/-- The search from the entry succeeds exactly when the end is reached. -/
theorem leadsTo_entry_iff {plan : GraphPlan} {connections : List Connection}
    (read : plan.connections = .ok connections) :
    leadsTo endKey connections [plan.graph.entry] = true ↔ plan.ReachesEnd := by
  have steps : (fun a b => (a, b) ∈ connections) = plan.Joins := by
    ext a b
    exact GraphPlan.mem_connections_iff read
  rw [leadsTo_iff]
  simp only [List.mem_singleton, exists_eq_left, Walk, steps]
  rfl

/-! ### The check -/

/-- What is checked of a plan after its structure. -/
def GraphPlan.passed (plan : GraphPlan) : Except Failure GraphPlan := do
  let connections ← plan.connections
  if leadsTo endKey connections [plan.graph.entry] then return plan
  else throw (.error (.snapshot (.endUnreachable plan.graph.entry)))

theorem GraphPlan.passed_of_illegible {plan : GraphPlan} (illegible : plan.IsIllegible) :
    plan.passed = .error (.fault .badValue) := by
  rw [passed, connections_eq_error_iff.mpr ⟨rfl, illegible⟩]
  rfl

theorem GraphPlan.passed_of_reachesEnd {plan : GraphPlan} (legible : ¬ plan.IsIllegible)
    (reaches : plan.ReachesEnd) : plan.passed = .ok plan := by
  obtain ⟨connections, read⟩ := exists_connections_iff.mpr legible
  rw [passed, read]
  exact if_pos ((leadsTo_entry_iff read).mpr reaches)

theorem GraphPlan.passed_of_not_reachesEnd {plan : GraphPlan} (legible : ¬ plan.IsIllegible)
    (missed : ¬ plan.ReachesEnd) :
    plan.passed = .error (.error (.snapshot (.endUnreachable plan.graph.entry))) := by
  obtain ⟨connections, read⟩ := exists_connections_iff.mpr legible
  rw [passed, read]
  exact if_neg fun found => missed ((leadsTo_entry_iff read).mp found)

/-- What comes of these checks. -/
theorem GraphPlan.passed_cases (plan : GraphPlan) :
    (plan.IsIllegible ∧ plan.passed = .error (.fault .badValue)) ∨
      (¬ plan.IsIllegible ∧ plan.ReachesEnd ∧ plan.passed = .ok plan) ∨
      (¬ plan.IsIllegible ∧ ¬ plan.ReachesEnd ∧
        plan.passed = .error (.error (.snapshot (.endUnreachable plan.graph.entry)))) := by
  by_cases illegible : plan.IsIllegible
  · exact Or.inl ⟨illegible, passed_of_illegible illegible⟩
  by_cases reaches : plan.ReachesEnd
  · exact Or.inr (Or.inl ⟨illegible, reaches, passed_of_reachesEnd illegible reaches⟩)
  · exact Or.inr (Or.inr ⟨illegible, reaches, passed_of_not_reachesEnd illegible reaches⟩)

/-- A snapshot that is well formed is checked further, and any other one has a plain issue. -/
theorem validate_cases (snapshot : Option Snapshot) :
    (∃ plan : GraphPlan, snapshot = some plan.toSnapshot ∧ plan.WellFormed ∧
        validate snapshot = plan.passed) ∨
      (¬ ∃ plan : GraphPlan, snapshot = some plan.toSnapshot ∧ plan.WellFormed) ∧
        ∃ issue, validate snapshot = .error (.error (.snapshot issue)) ∧
          (GraphError.snapshot issue).kind = .validation := by
  cases checked : checkStructure snapshot with
  | ok plan =>
    obtain ⟨present, good⟩ := checkStructure_eq_ok_iff.mp checked
    refine Or.inl ⟨plan, present, good, ?_⟩
    rw [validate, checked]
    rfl
  | error issue =>
    refine Or.inr ⟨?_, issue, ?_, checkStructure_isPlain checked⟩
    · rintro ⟨plan, good⟩
      cases checked.symm.trans (checkStructure_eq_ok_iff.mpr good)
    · rw [validate, checked]
      rfl

theorem validate_of_wellFormed {plan : GraphPlan} (good : plan.WellFormed) :
    validate (some plan.toSnapshot) = plan.passed := by
  rw [validate, checkStructure_eq_ok_iff.mpr ⟨rfl, good⟩]
  rfl

section Outcomes

variable {snapshot : Option Snapshot} {plan : GraphPlan} {failure : Failure} {fault : Fault}

theorem validate_eq_ok_iff :
    validate snapshot = .ok plan ↔
      snapshot = some plan.toSnapshot ∧ plan.WellFormed ∧ ¬ plan.IsIllegible ∧
        plan.ReachesEnd := by
  constructor
  · intro valid
    rcases validate_cases snapshot with ⟨checked, present, good, same⟩ | ⟨-, issue, refused, -⟩
    · rw [same] at valid
      rcases checked.passed_cases with ⟨-, faults⟩ | ⟨legible, reaches, passed⟩ | ⟨-, -, missed⟩
      · cases faults.symm.trans valid
      · cases passed.symm.trans valid
        exact ⟨present, good, legible, reaches⟩
      · cases missed.symm.trans valid
    · cases refused.symm.trans valid
  · rintro ⟨rfl, good, legible, reaches⟩
    rw [validate_of_wellFormed good, GraphPlan.passed_of_reachesEnd legible reaches]

theorem validate_eq_unreachable_iff {entry : String} :
    validate snapshot = .error (.error (.snapshot (.endUnreachable entry))) ↔
      ∃ plan : GraphPlan, snapshot = some plan.toSnapshot ∧ plan.WellFormed ∧
        ¬ plan.IsIllegible ∧ ¬ plan.ReachesEnd ∧ entry = plan.graph.entry := by
  constructor
  · intro fails
    rcases validate_cases snapshot with ⟨plan, present, good, same⟩ | ⟨-, issue, refused, isPlain⟩
    · rw [same] at fails
      rcases plan.passed_cases with ⟨-, faults⟩ | ⟨-, -, passed⟩ | ⟨legible, misses, missed⟩
      · cases faults.symm.trans fails
      · cases passed.symm.trans fails
      · cases missed.symm.trans fails
        exact ⟨plan, present, good, legible, misses, rfl⟩
    · cases refused.symm.trans fails
      cases isPlain
  · rintro ⟨plan, rfl, good, legible, misses, rfl⟩
    rw [validate_of_wellFormed good, GraphPlan.passed_of_not_reachesEnd legible misses]

theorem validate_plain_iff :
    (∃ error, validate snapshot = .error (.error error) ∧ error.kind = .validation) ↔
      ¬ ∃ plan : GraphPlan, snapshot = some plan.toSnapshot ∧ plan.WellFormed := by
  constructor
  · rintro ⟨error, fails, isPlain⟩
    rcases validate_cases snapshot with ⟨plan, -, -, same⟩ | ⟨malformed, -⟩
    · rw [same] at fails
      rcases plan.passed_cases with ⟨-, faults⟩ | ⟨-, -, passed⟩ | ⟨-, -, missed⟩
      · cases faults.symm.trans fails
      · cases passed.symm.trans fails
      · cases missed.symm.trans fails
        cases isPlain
    · exact malformed
  · intro malformed
    rcases validate_cases snapshot with ⟨plan, present, good, -⟩ | ⟨-, issue, refused, isPlain⟩
    · exact absurd ⟨plan, present, good⟩ malformed
    · exact ⟨_, refused, isPlain⟩

theorem validate_eq_fault_iff :
    validate snapshot = .error (.fault fault) ↔
      fault = .badValue ∧ ∃ plan : GraphPlan, snapshot = some plan.toSnapshot ∧
        plan.WellFormed ∧ plan.IsIllegible := by
  constructor
  · intro fails
    rcases validate_cases snapshot with ⟨plan, present, good, same⟩ | ⟨-, issue, refused, -⟩
    · rw [same] at fails
      rcases plan.passed_cases with ⟨illegible, faults⟩ | ⟨-, -, passed⟩ | ⟨-, -, missed⟩
      · cases faults.symm.trans fails
        exact ⟨rfl, plan, present, good, illegible⟩
      · cases passed.symm.trans fails
      · cases missed.symm.trans fails
    · cases refused.symm.trans fails
  · rintro ⟨rfl, plan, rfl, good, illegible⟩
    rw [validate_of_wellFormed good, GraphPlan.passed_of_illegible illegible]

/-- What is no fault is an issue of the snapshot. -/
theorem issue_or_fault_of_validate (fails : validate snapshot = .error failure) :
    (∃ issue, failure = .error (.snapshot issue)) ∨ failure = .fault .badValue := by
  rcases validate_cases snapshot with ⟨plan, -, -, same⟩ | ⟨-, issue, refused, -⟩
  · rw [same] at fails
    rcases plan.passed_cases with ⟨-, faults⟩ | ⟨-, -, passed⟩ | ⟨-, -, missed⟩
    · exact Or.inr (Except.error.inj (fails.symm.trans faults))
    · cases passed.symm.trans fails
    · exact Or.inl ⟨_, Except.error.inj (fails.symm.trans missed)⟩
  · exact Or.inl ⟨issue, Except.error.inj (fails.symm.trans refused)⟩

end Outcomes

/-! ### Graphs with a single node -/

section Single

variable {graph : GraphMeta} {n : PlanNode}

theorem GraphPlan.WellFormed.alone (entry_eq : graph.entry = n.key) (isKey : IsKey n.key)
    (ne_end : n.key ≠ endKey) :
    (⟨graph, [n], [⟨n.key, endKey⟩]⟩ : GraphPlan).WellFormed := by
  have end_isKey : IsKey endKey := ⟨by decide, by decide⟩
  have last : (⟨n.key, endKey⟩ : GraphEdge).WellFormed [n.key] :=
    ⟨isKey, end_isKey, ne_end, List.mem_cons_self, Or.inl rfl⟩
  exact {
    entry_isKey := entry_eq ▸ isKey
    key_isKey := List.forall_mem_singleton.mpr isKey
    keys_nodup := List.nodup_singleton _
    entry_mem := List.mem_singleton.mpr entry_eq
    edge_wellFormed := List.forall_mem_singleton.mpr last
    edges_nodup := List.nodup_singleton _ }

theorem GraphPlan.ReachesEnd.alone (entry_eq : graph.entry = n.key) :
    (⟨graph, [n], [⟨n.key, endKey⟩]⟩ : GraphPlan).ReachesEnd := by
  have stored : (⟨n.key, endKey⟩ : GraphEdge) ∈
      (⟨graph, [n], [⟨n.key, endKey⟩]⟩ : GraphPlan).edges := List.mem_cons_self
  have leads := GraphPlan.Joins.edge stored
  refine .single ?_
  rw [entry_eq]
  exact leads

/-- A graph with a single node that is no supervisor, and an edge from it to the end, passes. -/
theorem validate_single (entry_eq : graph.entry = n.key) (isKey : IsKey n.key)
    (ne_end : n.key ≠ endKey) (plain : normalizeType n.node.type ≠ "supervisor") :
    validate (some (GraphPlan.toSnapshot ⟨graph, [n], [⟨n.key, endKey⟩]⟩)) =
      .ok ⟨graph, [n], [⟨n.key, endKey⟩]⟩ := by
  have legible : ¬ (⟨graph, [n], [⟨n.key, endKey⟩]⟩ : GraphPlan).IsIllegible := by
    rintro ⟨other, node, kind, -⟩
    rw [List.mem_singleton.mp node] at kind
    exact plain kind
  exact validate_eq_ok_iff.mpr ⟨rfl, .alone entry_eq isKey ne_end, legible, .alone entry_eq⟩

end Single

/-- Every snapshot comes out in one of four ways. It passes, as the plan that it holds, when nothing
is missing, all is well formed and the end is reached. It is refused for its entry when only the end
is out of reach. When it is not well formed, it is refused with a plain validation error. But when
it is, and the configuration of a supervisor is illegible, the check ends in a fault. -/
theorem validate_verdict (snapshot : Option Snapshot) :
    (∀ plan, validate snapshot = .ok plan ↔
      snapshot = some plan.toSnapshot ∧ plan.WellFormed ∧ ¬ plan.IsIllegible ∧
        plan.ReachesEnd) ∧
    (∀ entry, validate snapshot = .error (.error (.snapshot (.endUnreachable entry))) ↔
      ∃ plan : GraphPlan, snapshot = some plan.toSnapshot ∧ plan.WellFormed ∧
        ¬ plan.IsIllegible ∧ ¬ plan.ReachesEnd ∧ entry = plan.graph.entry) ∧
    ((∃ error, validate snapshot = .error (.error error) ∧ error.kind = .validation) ↔
      ¬ ∃ plan : GraphPlan, snapshot = some plan.toSnapshot ∧ plan.WellFormed) ∧
    ∀ fault, validate snapshot = .error (.fault fault) ↔
      fault = .badValue ∧ ∃ plan : GraphPlan, snapshot = some plan.toSnapshot ∧
        plan.WellFormed ∧ plan.IsIllegible := by
  exact ⟨fun _ => validate_eq_ok_iff, fun _ => validate_eq_unreachable_iff, validate_plain_iff,
    fun _ => validate_eq_fault_iff⟩

/-! ### A supervisor that cannot be read -/

namespace Census

/-- A supervisor whose configuration is one long number. -/
def desk : PlanNode :=
  { node := { key := "desk", type := "supervisor", config := .text (String.ofList Json.figures) } }

/-- The supervisor alone, with an edge to the end. -/
def plan : GraphPlan := ⟨{ entry := "desk" }, [desk], [⟨"desk", endKey⟩]⟩

theorem desk_isIllegible : desk.node.config.IsIllegible :=
  ⟨_, rfl, by rw [Json.strip_figures, Json.parse_figures]⟩

end Census

/-- The end is within reach of a supervisor that cannot be read, along a stored edge, and all is
well formed. But the check of the snapshot ends in a fault. -/
theorem census_check_faults :
    Census.plan.WellFormed ∧ Census.plan.ReachesEnd ∧
      validate (some Census.plan.toSnapshot) = .error (.fault .badValue) := by
  have good : Census.plan.WellFormed :=
    .alone rfl (by decide : IsKey "desk") (by decide)
  have illegible : Census.plan.IsIllegible :=
    ⟨Census.desk, List.mem_singleton_self _, by decide, Census.desk_isIllegible⟩
  refine ⟨good, .alone rfl, ?_⟩
  rw [validate_of_wellFormed good, GraphPlan.passed_of_illegible illegible]

end AgentWorkflow
