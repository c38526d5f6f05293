import AgentWorkflow.Proofs.Config.Members
import AgentWorkflow.Proofs.Graph.Verdict
import AgentWorkflow.Workflow.Supervision

/-!
# Who supervises whom

The supervisors are collected node by node, with the members that are already taken. What comes out
has one entry for every node whose type is that of a supervisor, with its configuration as it is
read strictly; members are nodes of the graph that are no supervisors.

## Main definitions

* `PlanNode.Supervises`: a node is a supervisor with a configuration

## Main results

* `Supervision.collectFrom_eq_ok_iff`: what the collection of supervisors checks, without its order
* `Supervision.mem_collect_iff`: the supervisors that are collected
* `Supervision.member_of_collect`: where members come from
-/

namespace AgentWorkflow

/-- A node is a supervisor, and this is its configuration. -/
structure PlanNode.Supervises (settings : Settings) (n : PlanNode) (config : SupervisorConfig) :
    Prop where
  type_eq : normalizeType n.node.type = "supervisor"
  parse_eq : SupervisorConfig.parse settings n.key n.node.config = .ok config

/-- What a supervisor lists when it is read strictly, it lists when it is read leniently. -/
theorem PlanNode.Supervises.lists {settings : Settings} {n : PlanNode} {config : SupervisorConfig}
    (supervises : n.Supervises settings config) : n.Lists config.members :=
  ⟨supervises.type_eq, SupervisorConfig.peekMembers_of_parse supervises.parse_eq⟩

namespace Supervision

variable {settings : Settings} {types owned owned' : Record String} {nodes : List PlanNode}
  {supervision : Supervision} {supervisor member key : String}

/-- A key that a supervisor may list: another node of the graph that is no supervisor. -/
def MayList (types : Record String) (supervisor member : String) : Prop :=
  member ≠ supervisor ∧ ∃ type, types.find? member = some type ∧ type ≠ "supervisor"

theorem checkMember_eq_ok_iff :
    checkMember types owned supervisor member = .ok () ↔
      MayList types supervisor member ∧ member ∉ owned.keys := by
  rw [checkMember, MayList, ← Record.find?_eq_none_iff]
  by_cases own : member = supervisor
  · simp [own]
  · simp only [beq_iff_eq, own, ↓reduceIte, ne_eq, not_false_eq_true, true_and]
    cases types.find? member with
    | none => simp
    | some type =>
      by_cases kind : type = "supervisor"
      · simp [kind, NodeKind.word]
      · cases owned.find? member <;> simp [kind, NodeKind.word]

theorem keys_append (r s : Record String) : Record.keys (r ++ s) = r.keys ++ s.keys := by
  simp [Record.keys]

/-- Members are added to those that are taken when each may be listed and none is taken yet. -/
theorem checkMembers_eq_ok_iff {members : List String} :
    checkMembers types supervisor owned members = .ok owned' ↔
      owned' = owned ++ members.map (fun member => (member, supervisor)) ∧
        (∀ member ∈ members, MayList types supervisor member ∧ member ∉ owned.keys) ∧
          members.Nodup := by
  induction members generalizing owned with
  | nil =>
    rw [checkMembers]
    simp [eq_comm]
  | cons first members ih =>
    rw [checkMembers, bind_eq_ok_iff]
    constructor
    · rintro ⟨⟨⟩, free, rest⟩
      obtain ⟨rfl, good, nodup⟩ := ih.mp rest
      have firstGood := checkMember_eq_ok_iff.mp free
      refine ⟨by simp, ?_, List.nodup_cons.mpr ⟨fun again => ?_, nodup⟩⟩
      · intro member listed
        rcases List.mem_cons.mp listed with rfl | listed
        · exact firstGood
        -- what is taken at the start is still taken later
        · refine ⟨(good member listed).1, fun taken => (good member listed).2 ?_⟩
          rw [keys_append]
          exact List.mem_append_left _ taken
      -- the first member is taken by the time it would be listed again
      · refine (good first again).2 ?_
        rw [keys_append]
        exact List.mem_append_right _ List.mem_cons_self
    · rintro ⟨rfl, good, nodup⟩
      rw [List.nodup_cons] at nodup
      refine ⟨(), checkMember_eq_ok_iff.mpr (good first List.mem_cons_self),
        ih.mpr ⟨by simp, fun member listed => ?_, nodup.2⟩⟩
      have fine := good member (List.mem_cons_of_mem _ listed)
      refine ⟨fine.1, fun taken => ?_⟩
      rw [keys_append] at taken
      rcases List.mem_append.mp taken with earlier | here
      · exact fine.2 earlier
      · have same : member = first := by simpa [Record.keys] using here
        exact nodup.1 (same ▸ listed)

/-- How the collection goes on at a node: a supervisor is read and takes its members, and any other
node is passed over. -/
theorem collectFrom_cons_eq_ok_iff {n : PlanNode} :
    collectFrom settings types owned (n :: nodes) = .ok supervision ↔
      (types.find? n.key = some "supervisor" ∧ ∃ config owned' rest,
        SupervisorConfig.parse settings n.key n.node.config = .ok config ∧
          checkMembers types n.key owned config.members = .ok owned' ∧
            collectFrom settings types owned' nodes = .ok rest ∧
              supervision = (n.key, config) :: rest) ∨
        (types.find? n.key ≠ some "supervisor" ∧
          collectFrom settings types owned nodes = .ok supervision) := by
  rw [collectFrom]
  by_cases kind : types.find? n.key = some "supervisor"
  · rw [if_pos (by simp [kind, NodeKind.word])]
    simp only [kind, true_and, ne_eq, not_true_eq_false, false_and, or_false, bind_eq_ok_iff,
      mapError_eq_ok_iff]
    constructor
    · rintro ⟨config, read, owned', taken, rest, later, same⟩
      cases same
      exact ⟨config, owned', rest, read, taken, later, rfl⟩
    · rintro ⟨config, owned', rest, read, taken, later, rfl⟩
      exact ⟨config, read, owned', taken, rest, later, rfl⟩
  · rw [if_neg (by simpa [NodeKind.word] using kind)]
    simp [kind]

/-- The supervisors that are collected, with what is read for them. -/
theorem mem_collectFrom_iff (h : collectFrom settings types owned nodes = .ok supervision)
    {config : SupervisorConfig} :
    (key, config) ∈ supervision ↔
      ∃ n ∈ nodes, n.key = key ∧ types.find? n.key = some "supervisor" ∧
        SupervisorConfig.parse settings n.key n.node.config = .ok config := by
  induction nodes generalizing owned supervision with
  | nil =>
    cases h
    simp
  | cons n nodes ih =>
    simp only [List.exists_mem_cons_iff]
    rcases collectFrom_cons_eq_ok_iff.mp h with
      ⟨kind, read, owned', rest, parsed, -, later, rfl⟩ | ⟨kind, later⟩
    · rw [List.mem_cons, ih later]
      refine or_congr_left ?_
      constructor
      · intro same
        cases same
        exact ⟨rfl, kind, parsed⟩
      · rintro ⟨rfl, -, again⟩
        rw [parsed] at again
        cases again
        rfl
    · rw [ih later]
      simp [kind]

/-- Every supervisor that is collected can be read. -/
theorem exists_config_of_collectFrom
    (h : collectFrom settings types owned nodes = .ok supervision) {n : PlanNode}
    (node : n ∈ nodes) (kind : types.find? n.key = some "supervisor") :
    ∃ config, SupervisorConfig.parse settings n.key n.node.config = .ok config := by
  induction nodes generalizing owned supervision with
  | nil => cases node
  | cons first nodes ih =>
    rcases collectFrom_cons_eq_ok_iff.mp h with
      ⟨-, config, owned', rest, parsed, -, later, rfl⟩ | ⟨other, later⟩
    · rcases List.mem_cons.mp node with rfl | node
      · exact ⟨config, parsed⟩
      · exact ih later node
    · rcases List.mem_cons.mp node with rfl | node
      · exact absurd kind other
      · exact ih later node

/-- Members are keys of nodes that are no supervisors. -/
theorem mayList_of_collectFrom (h : collectFrom settings types owned nodes = .ok supervision)
    {config : SupervisorConfig} (entry : (key, config) ∈ supervision) :
    ∀ member ∈ config.members, MayList types key member := by
  induction nodes generalizing owned supervision with
  | nil =>
    cases h
    cases entry
  | cons n nodes ih =>
    rcases collectFrom_cons_eq_ok_iff.mp h with
      ⟨-, read, owned', rest, -, taken, later, rfl⟩ | ⟨-, later⟩
    · rcases List.mem_cons.mp entry with same | entry
      · cases same
        exact fun member listed => ((checkMembers_eq_ok_iff.mp taken).2.1 member listed).1
      · exact ih later entry
    · exact ih later entry

/-- Supervisors come in the order of the nodes. -/
theorem keys_sublist_of_collectFrom (h : collectFrom settings types owned nodes = .ok supervision) :
    supervision.keys.Sublist (nodes.map PlanNode.key) := by
  induction nodes generalizing owned supervision with
  | nil =>
    cases h
    exact List.Sublist.slnil
  | cons n nodes ih =>
    rcases collectFrom_cons_eq_ok_iff.mp h with
      ⟨-, read, owned', rest, -, -, later, rfl⟩ | ⟨-, later⟩
    · exact (ih later).cons_cons _
    · exact (ih later).cons _

/-- An entry says of a node that it is a supervisor with this configuration. -/
def Reads (settings : Settings) (n : PlanNode) (entry : String × SupervisorConfig) : Prop :=
  entry.1 = n.key ∧ SupervisorConfig.parse settings n.key n.node.config = .ok entry.2

theorem keys_owners_cons (key : String) (config : SupervisorConfig) (rest : Supervision) :
    (owners ((key, config) :: rest)).keys = config.members ++ rest.owners.keys := by
  rw [owners, List.flatMap_cons, keys_append, Record.keys, List.map_map]
  exact congrArg (· ++ _) (List.map_id _)

/-- Members are free and distinct when those of the first supervisor are, and those of the others
are with these taken, too. -/
theorem free_append_iff {members others taken : List String} :
    (members ++ others).Nodup ∧ (∀ member ∈ members ++ others, member ∉ taken) ↔
      (members.Nodup ∧ ∀ member ∈ members, member ∉ taken) ∧
        others.Nodup ∧ ∀ member ∈ others, member ∉ taken ++ members := by
  rw [List.nodup_append, List.forall_mem_append]
  simp only [List.mem_append, not_or]
  constructor
  · rintro ⟨⟨nodup, others_nodup, apart⟩, free, others_free⟩
    exact ⟨⟨nodup, free⟩, others_nodup, fun member among =>
      ⟨others_free member among, fun again => apart member again member among rfl⟩⟩
  · rintro ⟨⟨nodup, free⟩, others_nodup, others_free⟩
    refine ⟨⟨nodup, others_nodup, ?_⟩, free, fun member among => (others_free member among).1⟩
    rintro member among _ again rfl
    exact (others_free member again).2 among

/-- What the collection of supervisors checks: each of them can be read, its members may be listed,
and no member is listed twice or taken already. -/
theorem collectFrom_eq_ok_iff :
    collectFrom settings types owned nodes = .ok supervision ↔
      List.Forall₂ (Reads settings)
        (nodes.filter fun n => types.find? n.key = some "supervisor") supervision ∧
      (∀ entry ∈ supervision, ∀ member ∈ entry.2.members, MayList types entry.1 member) ∧
      supervision.owners.keys.Nodup ∧ ∀ member ∈ supervision.owners.keys, member ∉ owned.keys := by
  -- the members of the supervisors before are taken; they are carried along as `owned`
  induction nodes generalizing owned supervision with
  | nil =>
    constructor
    · intro collected
      cases collected
      exact ⟨.nil, by simp, .nil, by simp [owners, Record.keys]⟩
    · rintro ⟨reads, -⟩
      cases reads
      rfl
  | cons n nodes ih =>
    rw [collectFrom_cons_eq_ok_iff]
    by_cases kind : types.find? n.key = some "supervisor"
    · have taken_keys (members : List String) :
          Record.keys (members.map fun member => (member, n.key)) = members := by
        rw [Record.keys, List.map_map]
        exact List.map_id _
      rw [List.filter_cons_of_pos (by simpa using kind)]
      simp only [kind, true_and, ne_eq, not_true_eq_false, false_and, or_false]
      constructor
      · rintro ⟨config, owned', rest, parsed, taken, later, rfl⟩
        obtain ⟨rfl, listed, distinct⟩ := checkMembers_eq_ok_iff.mp taken
        obtain ⟨reads, may, others⟩ := ih.mp later
        rw [keys_append, taken_keys] at others
        refine ⟨.cons ⟨rfl, parsed⟩ reads, List.forall_mem_cons.mpr
          ⟨fun member named => (listed member named).1, may⟩, ?_⟩
        rw [keys_owners_cons]
        exact free_append_iff.mpr ⟨⟨distinct, fun member named => (listed member named).2⟩, others⟩
      · rintro ⟨reads, may, free⟩
        cases reads with
        | @cons _ entry _ rest first reads =>
          obtain ⟨key, config⟩ := entry
          obtain ⟨rfl, parsed⟩ := first
          obtain ⟨first_may, may⟩ := List.forall_mem_cons.mp may
          rw [keys_owners_cons] at free
          obtain ⟨⟨distinct, first_free⟩, others⟩ := free_append_iff.mp free
          refine ⟨config, _, rest, parsed, checkMembers_eq_ok_iff.mpr ⟨rfl, fun member named =>
            ⟨first_may member named, first_free member named⟩, distinct⟩, ih.mpr ⟨reads, may, ?_⟩,
            rfl⟩
          rw [keys_append, taken_keys]
          exact others
    · rw [List.filter_cons_of_neg (by simpa using kind)]
      simp only [kind, false_and, ne_eq, not_false_eq_true, true_and, false_or]
      exact ih

theorem find?_nodeTypes (nodup : (nodes.map PlanNode.key).Nodup) {n : PlanNode} (node : n ∈ nodes) :
    (nodeTypes nodes).find? n.key = some (normalizeType n.node.type) := by
  refine Record.find?_of_mem ?_ (List.mem_map.mpr ⟨n, node, rfl⟩)
  simpa [Record.keys, nodeTypes, Function.comp_def] using nodup

/-- The supervisors of a graph are its nodes of that type, each with its configuration. -/
theorem mem_collect_iff (nodup : (nodes.map PlanNode.key).Nodup)
    (h : collect settings nodes = .ok supervision) {config : SupervisorConfig} :
    (key, config) ∈ supervision ↔ ∃ n ∈ nodes, n.key = key ∧ n.Supervises settings config := by
  rw [mem_collectFrom_iff h]
  constructor
  · rintro ⟨n, node, same, kind, parsed⟩
    rw [find?_nodeTypes nodup node, Option.some.injEq] at kind
    exact ⟨n, node, same, kind, parsed⟩
  · rintro ⟨n, node, same, kind, parsed⟩
    exact ⟨n, node, same, by rw [find?_nodeTypes nodup node, kind], parsed⟩

/-- Every node of that type has a configuration. -/
theorem exists_supervises_of_collect (nodup : (nodes.map PlanNode.key).Nodup)
    (h : collect settings nodes = .ok supervision) {n : PlanNode} (node : n ∈ nodes)
    (kind : normalizeType n.node.type = "supervisor") : ∃ config, n.Supervises settings config := by
  have found := find?_nodeTypes nodup node
  rw [kind] at found
  obtain ⟨config, parsed⟩ := exists_config_of_collectFrom h node found
  exact ⟨config, kind, parsed⟩

/-- A member is another node of the graph, and no supervisor. -/
theorem member_of_collect (h : collect settings nodes = .ok supervision)
    {config : SupervisorConfig} (entry : (key, config) ∈ supervision)
    (listed : member ∈ config.members) :
    ∃ n ∈ nodes, n.key = member ∧ normalizeType n.node.type ≠ "supervisor" := by
  obtain ⟨-, type, found, kind⟩ := mayList_of_collectFrom h entry member listed
  obtain ⟨n, node, same⟩ := List.mem_map.mp (Record.mem_of_find? found)
  cases same
  exact ⟨n, node, rfl, kind⟩

/-- Every node has at most one configuration as a supervisor. -/
theorem keys_nodup_of_collect (nodup : (nodes.map PlanNode.key).Nodup)
    (h : collect settings nodes = .ok supervision) : supervision.keys.Nodup :=
  (keys_sublist_of_collectFrom h).nodup nodup

end Supervision

end AgentWorkflow
