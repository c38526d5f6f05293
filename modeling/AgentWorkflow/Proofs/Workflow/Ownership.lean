import AgentWorkflow.Proofs.Failure
import AgentWorkflow.Proofs.Workflow.Assembly

/-!
# One supervisor for every member

The supervisors of a graph are collected node by node and member by member, with a map of the
members that are taken. What the collection looks for can be said without that map and without an
order: every supervisor can be read, lists other nodes that are no supervisors, and shares no member
with another one. What it reports depends on the order, since it is the first thing wrong: the map
then holds exactly the members of the supervisors before. A supervisor whose configuration holds a
whole number that is too long is no issue that is reported: the collection ends in a fault there.

## Main definitions

* `PlanNode.WellStaffed`: nothing is wrong with the supervisors of a graph
* `Supervision.Staffs`: the supervisors of some nodes with their configurations, and nothing wrong
* `Supervision.MemberIssue`, `Supervision.FirstFailure`: what is wrong with a member, and what is
  wrong first with the supervisors of a graph

## Main results

* `Supervision.checkMember_eq_error_iff`, `Supervision.collectFrom_eq_error_iff`: where the
  collection fails
* `Supervision.collect_verdict`: when supervisors are collected, as what, and what is reported
  otherwise
* `Supervision.census_desk_faults`: a supervisor that is not reported
-/

namespace AgentWorkflow

/-- Nothing is wrong with the supervisors of a graph: each can be read, lists other nodes that are
no supervisors, and shares no member with another supervisor. -/
structure PlanNode.WellStaffed (settings : Settings) (nodes : List PlanNode) : Prop where
  reads : ∀ n ∈ nodes, normalizeType n.node.type = "supervisor" →
    ∃ config, n.Supervises settings config
  lists : ∀ n ∈ nodes, ∀ config, n.Supervises settings config → ∀ member ∈ config.members,
    member ≠ n.key ∧
      ∃ other ∈ nodes, other.key = member ∧ normalizeType other.node.type ≠ "supervisor"
  apart : ∀ n ∈ nodes, ∀ other ∈ nodes, ∀ config config', n.Supervises settings config →
    other.Supervises settings config' → ∀ member ∈ config.members, member ∈ config'.members →
      n.key = other.key

namespace Supervision

variable {settings : Settings} {types owned : Record String} {nodes part : List PlanNode}
  {supervision earlier : Supervision} {supervisor member : String} {members : List String}
  {error : GraphError} {failure : Failure}

/-- The supervisors among some of the nodes of a graph, one configuration for each in the order of
the nodes, when nothing is wrong with them. The members of each are distinct nodes that are no
supervisors, and the map of members leads each of them to the supervisor that lists it. -/
structure Staffs (settings : Settings) (nodes part : List PlanNode) (supervision : Supervision) :
    Prop where
  reads : List.Forall₂ (Reads settings)
    (part.filter fun n => normalizeType n.node.type = "supervisor") supervision
  lists : ∀ entry ∈ supervision, ∀ member ∈ entry.2.members,
    member ≠ entry.1 ∧ ∃ n ∈ nodes, n.key = member ∧ normalizeType n.node.type ≠ "supervisor"
  nonempty : ∀ entry ∈ supervision, entry.2.members ≠ []
  nodup : ∀ entry ∈ supervision, entry.2.members.Nodup
  apart : supervision.Pairwise fun entry other => entry.2.members.Disjoint other.2.members
  owner_iff : ∀ member supervisor, supervision.owners.find? member = some supervisor ↔
    ∃ config, (supervisor, config) ∈ supervision ∧ member ∈ config.members

/-- What is wrong with a member of a supervisor, after the supervisors in `earlier`. -/
inductive MemberIssue (nodes : List PlanNode) (earlier : Supervision) (supervisor member : String) :
    GraphError → Prop
  | own : member = supervisor →
      MemberIssue nodes earlier supervisor member (.config (.ownMember supervisor))
  | unknown : member ≠ supervisor → (∀ n ∈ nodes, n.key ≠ member) →
      MemberIssue nodes earlier supervisor member (.build (.unknownMember supervisor member))
  | supervisor {n : PlanNode} : member ≠ supervisor → n ∈ nodes → n.key = member →
      normalizeType n.node.type = "supervisor" →
      MemberIssue nodes earlier supervisor member (.build (.supervisorMember supervisor member))
  | shared {n : PlanNode} {first : String} {config : SupervisorConfig} : member ≠ supervisor →
      n ∈ nodes → n.key = member → normalizeType n.node.type ≠ "supervisor" →
      (first, config) ∈ earlier → member ∈ config.members →
      MemberIssue nodes earlier supervisor member (.build (.sharedMember member first supervisor))

/-- The first thing that is wrong with the supervisors of a graph, in the order of its nodes and of
the members that each lists: nothing is wrong with those before. -/
inductive FirstFailure (settings : Settings) (nodes : List PlanNode) : Failure → Prop
  | unreadable {before after : List PlanNode} {n : PlanNode} {earlier : Supervision}
      {issue : ConfigIssue} : nodes = before ++ n :: after →
      Staffs settings nodes before earlier → normalizeType n.node.type = "supervisor" →
      SupervisorConfig.parse settings n.key n.node.config = .error (.error (.config issue)) →
      FirstFailure settings nodes (.error (.config issue))
  | illegible {before after : List PlanNode} {n : PlanNode} {earlier : Supervision} :
      nodes = before ++ n :: after → Staffs settings nodes before earlier → n.IsIllegible →
      FirstFailure settings nodes (.fault .badValue)
  | member {before after : List PlanNode} {n : PlanNode} {earlier : Supervision}
      {config : SupervisorConfig} {fine rest : List String} {member : String} {error : GraphError} :
      nodes = before ++ n :: after → Staffs settings nodes before earlier →
      n.Supervises settings config → config.members = fine ++ member :: rest →
      (∀ other ∈ fine, ∀ issue, ¬ MemberIssue nodes earlier n.key other issue) →
      MemberIssue nodes earlier n.key member error → FirstFailure settings nodes (.error error)

/-! ### The map of members -/

theorem mem_owners_iff : (member, supervisor) ∈ supervision.owners ↔
    ∃ config, (supervisor, config) ∈ supervision ∧ member ∈ config.members := by
  simp only [owners, List.mem_flatMap, List.mem_map, Prod.mk.injEq]
  constructor
  · rintro ⟨⟨_, config⟩, entry, _, listed, rfl, rfl⟩
    exact ⟨config, entry, listed⟩
  · rintro ⟨config, entry, listed⟩
    exact ⟨_, entry, member, listed, rfl, rfl⟩

/-- No member is taken twice when none is listed twice, neither by one supervisor nor by two. -/
theorem nodup_keys_owners_iff : supervision.owners.keys.Nodup ↔
    (∀ entry ∈ supervision, entry.2.members.Nodup) ∧
      supervision.Pairwise fun entry other => entry.2.members.Disjoint other.2.members := by
  have keys_eq : supervision.owners.keys = supervision.flatMap fun entry => entry.2.members := by
    simp [owners, Record.keys, List.map_flatMap, Function.comp_def]
  rw [keys_eq, List.nodup_flatMap]

/-! ### Where the collection fails -/

theorem mayList_nodeTypes_iff (nodup : (nodes.map PlanNode.key).Nodup) :
    MayList (nodeTypes nodes) supervisor member ↔
      member ≠ supervisor ∧
        ∃ n ∈ nodes, n.key = member ∧ normalizeType n.node.type ≠ "supervisor" := by
  refine and_congr_right fun _ => ?_
  constructor
  · rintro ⟨type, found, other⟩
    obtain ⟨n, node, same⟩ := List.mem_map.mp (Record.mem_of_find? found)
    cases same
    exact ⟨n, node, rfl, other⟩
  · rintro ⟨n, node, rfl, other⟩
    exact ⟨_, find?_nodeTypes nodup node, other⟩

/-- What the check of a member reports is what is wrong with it. -/
theorem checkMember_eq_error_iff (nodup : (nodes.map PlanNode.key).Nodup)
    (taken : ∀ member first, owned.find? member = some first ↔
      ∃ config, (first, config) ∈ earlier ∧ member ∈ config.members) :
    checkMember (nodeTypes nodes) owned supervisor member = .error error ↔
      MemberIssue nodes earlier supervisor member error := by
  constructor
  · intro refused
    simp only [checkMember, beq_iff_eq] at refused
    split_ifs at refused with own
    · cases refused
      exact .own own
    · split at refused
      · rename_i missing
        cases refused
        refine .unknown own fun n node same => ?_
        -- a node of that key would have been found, since keys are distinct
        rw [← same, find?_nodeTypes nodup node] at missing
        cases missing
      · rename_i type found
        obtain ⟨n, node, same⟩ := List.mem_map.mp (Record.mem_of_find? found)
        cases same
        split_ifs at refused with kind
        · cases refused
          exact .supervisor own node rfl kind
        · split at refused
          · rename_i first again
            cases refused
            obtain ⟨config, entry, listed⟩ := (taken _ _).mp again
            exact .shared own node rfl kind entry listed
          · cases refused
  · intro issue
    cases issue with
    | own same => simp [checkMember, same]
    | unknown ne unknown =>
      have missing : (nodeTypes nodes).find? member = none := by
        rw [Record.find?_eq_none_iff]
        simpa [Record.keys, nodeTypes] using unknown
      simp [checkMember, ne, missing]
    | supervisor ne node same kind =>
      subst same
      simp [checkMember, ne, find?_nodeTypes nodup node, kind, NodeKind.word]
    | shared ne node same kind entry listed =>
      subst same
      have again := (taken _ _).mpr ⟨_, entry, listed⟩
      simp [checkMember, ne, find?_nodeTypes nodup node, kind, NodeKind.word, again]

/-- A member is checked as before once another one is taken. -/
theorem checkMember_append_of_ne {first : String} (ne : member ≠ first) :
    checkMember types (owned ++ [(first, supervisor)]) supervisor member =
      checkMember types owned supervisor member := by
  have kept : Record.find? (owned ++ [(first, supervisor)]) member = owned.find? member := by
    induction owned with
    | nil => simpa [Record.find?_cons] using ne
    | cons pair owned ih => rw [List.cons_append, Record.find?_cons, Record.find?_cons, ih]
  simp only [checkMember, kept]

/-- Distinct members are checked one by one against those taken before, since none of them is in the
way of another. -/
theorem checkMembers_eq_error_iff (nodup : members.Nodup) :
    checkMembers types supervisor owned members = .error error ↔
      ∃ fine member rest, members = fine ++ member :: rest ∧
        (∀ other ∈ fine, ∃ passed, checkMember types owned supervisor other = .ok passed) ∧
          checkMember types owned supervisor member = .error error := by
  rw [← mapM_eq_error_iff]
  induction members generalizing owned with
  | nil =>
    rw [checkMembers, List.mapM_nil]
    constructor <;> intro impossible <;> cases impossible
  | cons first members ih =>
    obtain ⟨once, nodup⟩ := List.nodup_cons.mp nodup
    have later : members.mapM (checkMember types (owned ++ [(first, supervisor)]) supervisor) =
        members.mapM (checkMember types owned supervisor) := by
      refine mapM_congr_of_mem fun member listed => checkMember_append_of_ne ?_
      rintro rfl
      exact once listed
    rw [checkMembers, List.mapM_cons, bind_eq_error_iff, bind_eq_error_iff]
    simp only [ih nodup, later, bind_eq_error_iff]
    simp [pure, Except.pure]

/-- The check of a member list reports the first thing wrong with it. -/
theorem checkMembers_eq_error_iff_issue (nodup : (nodes.map PlanNode.key).Nodup)
    (taken : ∀ member first, owned.find? member = some first ↔
      ∃ config, (first, config) ∈ earlier ∧ member ∈ config.members) (distinct : members.Nodup) :
    checkMembers (nodeTypes nodes) supervisor owned members = .error error ↔
      ∃ fine member rest, members = fine ++ member :: rest ∧
        (∀ other ∈ fine, ∀ issue, ¬ MemberIssue nodes earlier supervisor other issue) ∧
          MemberIssue nodes earlier supervisor member error := by
  have issue_iff {member : String} {error : GraphError} :
      checkMember (nodeTypes nodes) owned supervisor member = .error error ↔
        MemberIssue nodes earlier supervisor member error := checkMember_eq_error_iff nodup taken
  have passes_iff {member : String} :
      (∃ passed, checkMember (nodeTypes nodes) owned supervisor member = .ok passed) ↔
        ∀ issue, ¬ MemberIssue nodes earlier supervisor member issue := by
    cases checked : checkMember (nodeTypes nodes) owned supervisor member with
    | ok passed =>
      refine iff_of_true ⟨passed, rfl⟩ fun issue wrong => ?_
      rw [issue_iff.mpr wrong] at checked
      cases checked
    | error issue =>
      refine iff_of_false ?_ fun fine => fine issue (issue_iff.mp checked)
      rintro ⟨passed, same⟩
      cases same
  simp only [checkMembers_eq_error_iff distinct, passes_iff, issue_iff]

/-- Where the collection fails at a node: at a supervisor that cannot be read or lists something it
may not, or at a later node. -/
theorem collectFrom_cons_eq_error_iff {n : PlanNode} :
    collectFrom settings types owned (n :: nodes) = .error failure ↔
      (types.find? n.key = some "supervisor" ∧
        (SupervisorConfig.parse settings n.key n.node.config = .error failure ∨
          ∃ config, SupervisorConfig.parse settings n.key n.node.config = .ok config ∧
            ((∃ error, checkMembers types n.key owned config.members = .error error ∧
                .error error = failure) ∨
              ∃ owned', checkMembers types n.key owned config.members = .ok owned' ∧
                collectFrom settings types owned' nodes = .error failure))) ∨
      (types.find? n.key ≠ some "supervisor" ∧
        collectFrom settings types owned nodes = .error failure) := by
  rw [collectFrom]
  by_cases kind : types.find? n.key = some "supervisor"
  · rw [if_pos (by simp [kind, NodeKind.word])]
    simp only [kind, true_and, ne_eq, not_true_eq_false, false_and, or_false, bind_eq_error_iff,
      mapError_eq_error_iff, mapError_eq_ok_iff]
    simp [pure, Except.pure]
  · rw [if_neg (by simpa [NodeKind.word] using kind)]
    simp [kind]

/-- The collection fails at the first supervisor that cannot be read or lists something it may not.
The members of those before it are taken. -/
theorem collectFrom_eq_error_iff :
    collectFrom settings types owned nodes = .error failure ↔
      ∃ before n after earlier, nodes = before ++ n :: after ∧
        collectFrom settings types owned before = .ok earlier ∧
          types.find? n.key = some "supervisor" ∧
            (SupervisorConfig.parse settings n.key n.node.config = .error failure ∨
              ∃ config, SupervisorConfig.parse settings n.key n.node.config = .ok config ∧
                ∃ error, checkMembers types n.key (owned ++ earlier.owners) config.members =
                  .error error ∧ .error error = failure) := by
  -- on the nodes; what is owned grows on the way, up to `owned ++ earlier.owners`
  induction nodes generalizing owned with
  | nil => simp [collectFrom]
  | cons first nodes ih =>
    rw [collectFrom_cons_eq_error_iff]
    constructor
    · rintro (⟨kind, unreadable | ⟨config, parsed, refused | ⟨owned', taken, later⟩⟩⟩ |
        ⟨other, later⟩)
      · exact ⟨[], first, nodes, [], rfl, rfl, kind, .inl unreadable⟩
      · exact ⟨[], first, nodes, [], rfl, rfl, kind, .inr ⟨config, parsed, by simpa [owners]⟩⟩
      · obtain ⟨before, n, after, earlier, rfl, collected, at_fault⟩ := ih.mp later
        obtain ⟨rfl, -⟩ := checkMembers_eq_ok_iff.mp taken
        refine ⟨first :: before, n, after, (first.key, config) :: earlier, rfl,
          collectFrom_cons_eq_ok_iff.mpr (.inl ⟨kind, config, _, earlier, parsed, taken, collected,
            rfl⟩), ?_⟩
        simpa [owners] using at_fault
      · obtain ⟨before, n, after, earlier, rfl, collected, at_fault⟩ := ih.mp later
        exact ⟨first :: before, n, after, earlier, rfl,
          collectFrom_cons_eq_ok_iff.mpr (.inr ⟨other, collected⟩), at_fault⟩
    · rintro ⟨before, n, after, earlier, split, collected, kind, at_fault⟩
      rcases before with _ | ⟨_, before⟩
      · cases split
        cases collected
        refine .inl ⟨kind, at_fault.imp_right ?_⟩
        rintro ⟨config, parsed, refused⟩
        exact ⟨config, parsed, .inl (by simpa [owners] using refused)⟩
      · cases split
        rcases collectFrom_cons_eq_ok_iff.mp collected with
          ⟨first_kind, config, owned', rest, parsed, taken, others, rfl⟩ | ⟨other, others⟩
        · refine .inl ⟨first_kind, .inr ⟨config, parsed, .inr ⟨owned', taken, ih.mpr ⟨before, n,
            after, rest, rfl, others, kind, ?_⟩⟩⟩⟩
          obtain ⟨rfl, -⟩ := checkMembers_eq_ok_iff.mp taken
          simpa [owners] using at_fault
        · exact .inr ⟨other, ih.mpr ⟨before, n, after, earlier, rfl, others, kind, at_fault⟩⟩

/-! ### What the collection finds -/

/-- The configuration of a supervisor is read so that a fault is a document that is illegible. -/
theorem reads_config (n : PlanNode) :
    n.node.config.Reads (SupervisorConfig.parse settings n.key n.node.config) :=
  Stored.reads_parse _ _ _

/-- Some of the nodes of a graph are collected exactly as their supervisors, with nothing wrong. -/
theorem collectFrom_eq_ok_iff_staffs (nodup : (nodes.map PlanNode.key).Nodup)
    (among : part ⊆ nodes) :
    collectFrom settings (nodeTypes nodes) [] part = .ok supervision ↔
      Staffs settings nodes part supervision := by
  have supervisors : (part.filter fun n => (nodeTypes nodes).find? n.key = some "supervisor") =
      part.filter fun n => normalizeType n.node.type = "supervisor" := by
    refine List.filter_congr fun n node => ?_
    simp only [find?_nodeTypes nodup (among node), Option.some.injEq]
  constructor
  · intro collected
    obtain ⟨reads, lists, distinct, -⟩ := collectFrom_eq_ok_iff.mp collected
    obtain ⟨members_nodup, apart⟩ := nodup_keys_owners_iff.mp distinct
    rw [supervisors] at reads
    exact {
      reads
      lists := fun entry listed member named =>
        (mayList_nodeTypes_iff nodup).mp (lists entry listed member named)
      nonempty := by
        rintro ⟨key, config⟩ listed
        obtain ⟨n, -, -, -, parsed⟩ := (mem_collectFrom_iff collected).mp listed
        exact (SupervisorConfig.members_of_parse parsed).1
      nodup := members_nodup
      apart
      owner_iff := fun member supervisor => by
        rw [← mem_owners_iff]
        exact ⟨Record.mem_of_find?, Record.find?_of_mem distinct⟩ }
  · intro staffs
    refine collectFrom_eq_ok_iff.mpr ⟨?_, fun entry listed member named =>
      (mayList_nodeTypes_iff nodup).mpr (staffs.lists entry listed member named),
      nodup_keys_owners_iff.mpr ⟨staffs.nodup, staffs.apart⟩, by simp [Record.keys]⟩
    rw [supervisors]
    exact staffs.reads

/-- What the collection reports is the first thing wrong. -/
theorem collect_eq_error_iff (nodup : (nodes.map PlanNode.key).Nodup) :
    collect settings nodes = .error failure ↔ FirstFailure settings nodes failure := by
  rw [collect, collectFrom_eq_error_iff]
  simp only [List.nil_append]
  constructor
  · rintro ⟨before, n, after, earlier, rfl, collected, kind, at_fault⟩
    have staffs := (collectFrom_eq_ok_iff_staffs nodup (by simp)).mp collected
    rw [find?_nodeTypes nodup (by simp), Option.some.injEq] at kind
    rcases at_fault with unread | ⟨config, parsed, error, refused, rfl⟩
    -- a configuration that is refused is illegible, or there is an issue with it
    · rcases ((reads_config n).refuses unread).cases_on with
        ⟨rfl, illegible⟩ | ⟨issue, rfl, -⟩
      · exact .illegible rfl staffs ⟨kind, illegible⟩
      · exact .unreadable rfl staffs kind unread
    · have distinct := (SupervisorConfig.members_of_parse parsed).2
      obtain ⟨fine, member, rest, listed, passed, issue⟩ :=
        (checkMembers_eq_error_iff_issue nodup staffs.owner_iff distinct).mp refused
      exact .member rfl staffs ⟨kind, parsed⟩ listed passed issue
  · intro first
    cases first with
    | @unreadable before after n earlier issue split staffs kind unreadable =>
      subst split
      refine ⟨before, n, after, earlier, rfl,
        (collectFrom_eq_ok_iff_staffs nodup (by simp)).mpr staffs, ?_,
          .inl unreadable⟩
      rw [find?_nodeTypes nodup (by simp), kind]
    | @illegible before after n earlier split staffs illegible =>
      subst split
      refine ⟨before, n, after, earlier, rfl,
        (collectFrom_eq_ok_iff_staffs nodup (by simp)).mpr staffs, ?_,
          .inl ((reads_config n).faults illegible.2)⟩
      rw [find?_nodeTypes nodup (by simp), illegible.1]
    | @member before after n earlier config fine rest member _ split staffs supervises listed passed
        issue =>
      subst split
      have distinct := (SupervisorConfig.members_of_parse supervises.parse_eq).2
      refine ⟨before, n, after, earlier, rfl,
        (collectFrom_eq_ok_iff_staffs nodup (by simp)).mpr staffs, ?_,
          .inr ⟨config, supervises.parse_eq, _, ?_, rfl⟩⟩
      · rw [find?_nodeTypes nodup (by simp), supervises.type_eq]
      · exact (checkMembers_eq_error_iff_issue nodup staffs.owner_iff distinct).mpr
          ⟨fine, member, rest, listed, passed, issue⟩

/-- With nothing wrong there is nothing to report. -/
theorem not_firstFailure (nodup : (nodes.map PlanNode.key).Nodup)
    (well : PlanNode.WellStaffed settings nodes) : ¬ FirstFailure settings nodes failure := by
  intro first
  cases first with
  | @unreadable before after n earlier issue split staffs kind unreadable =>
    obtain ⟨config, supervises⟩ := well.reads n (by simp [split]) kind
    rw [supervises.parse_eq] at unreadable
    cases unreadable
  | @illegible before after n earlier split staffs illegible =>
    obtain ⟨config, supervises⟩ := well.reads n (by simp [split]) illegible.1
    exact (reads_config n).legible supervises.parse_eq illegible.2
  | @member before after n earlier config fine rest member _ split staffs supervises listed passed
      issue =>
    have node : n ∈ nodes := by simp [split]
    obtain ⟨ne, other, other_node, same, kind⟩ :=
      well.lists n node config supervises member (by simp [listed])
    cases issue with
    | own own => exact ne own
    | unknown _ unknown => exact unknown other other_node same
    | @supervisor n' _ node' same' kind' =>
      have equal : other = n' :=
        List.inj_on_of_nodup_map nodup other_node node' (same.trans same'.symm)
      exact kind (equal ▸ kind')
    | @shared _ first config' _ _ _ _ entry again =>
      subst split
      have collected := (collectFrom_eq_ok_iff_staffs nodup (by simp)).mpr staffs
      obtain ⟨m, before_n, -, m_kind, parsed⟩ := (mem_collectFrom_iff collected).mp entry
      have m_node : m ∈ before ++ n :: after := List.mem_append_left _ before_n
      rw [find?_nodeTypes nodup m_node, Option.some.injEq] at m_kind
      have same_key := well.apart n node m m_node config config' supervises ⟨m_kind, parsed⟩ member
        (by simp [listed]) again
      -- but the other supervisor comes before this one, so it has another key
      rw [List.map_append, List.map_cons] at nodup
      exact List.disjoint_of_nodup_append nodup (List.mem_map_of_mem before_n)
        (same_key ▸ List.mem_cons_self)

/-- Supervisors that are collected leave nothing wrong. -/
theorem wellStaffed_of_collect (nodup : (nodes.map PlanNode.key).Nodup)
    (collected : collect settings nodes = .ok supervision) :
    PlanNode.WellStaffed settings nodes := by
  have staffs := (collectFrom_eq_ok_iff_staffs nodup (List.Subset.refl _)).mp collected
  have entry_of {n : PlanNode} {config : SupervisorConfig} (node : n ∈ nodes)
      (supervises : n.Supervises settings config) : (n.key, config) ∈ supervision :=
    (mem_collect_iff nodup collected).mpr ⟨n, node, rfl, supervises⟩
  exact {
    reads := fun n => exists_supervises_of_collect nodup collected
    lists := fun n node config supervises => staffs.lists _ (entry_of node supervises)
    apart := fun n node other other_node config config' supervises supervises' member listed
        listed' => by
      have owner := (staffs.owner_iff member n.key).mpr ⟨config, entry_of node supervises, listed⟩
      have owner' := (staffs.owner_iff member other.key).mpr
        ⟨config', entry_of other_node supervises', listed'⟩
      rw [owner] at owner'
      exact Option.some.inj owner' }

/-- Supervisors are collected exactly when nothing is wrong with them: one configuration for each,
in the order of the nodes, with members that are distinct and apart and are each led to the one
supervisor that lists them. Otherwise the first thing wrong is reported, unless that is a supervisor
whose configuration is illegible. -/
theorem collect_verdict (nodup : (nodes.map PlanNode.key).Nodup) :
    ((∃ supervision, collect settings nodes = .ok supervision) ↔
      PlanNode.WellStaffed settings nodes) ∧
    (∀ supervision, collect settings nodes = .ok supervision ↔
      Staffs settings nodes nodes supervision) ∧
    ∀ failure, collect settings nodes = .error failure ↔ FirstFailure settings nodes failure := by
  refine ⟨⟨?_, fun well => ?_⟩, fun supervision =>
    collectFrom_eq_ok_iff_staffs nodup (List.Subset.refl _), fun failure =>
      collect_eq_error_iff nodup⟩
  · rintro ⟨supervision, collected⟩
    exact wellStaffed_of_collect nodup collected
  · cases collected : collect settings nodes with
    | ok supervision => exact ⟨supervision, rfl⟩
    | error failure =>
      exact absurd ((collect_eq_error_iff nodup).mp collected) (not_firstFailure nodup well)

/-- Two supervisors of the newsroom that want the same writer. -/
def rivals : List PlanNode :=
  [Newsroom.supervisor "lead" "writer", Newsroom.worker "writer",
    Newsroom.supervisor "desk" "writer"]

/-- The supervisors of the newsroom are collected, and of two rivals the later one is reported. -/
theorem newsroom_verdict :
    PlanNode.WellStaffed {} (Newsroom.plan .absent).nodes ∧
    Staffs {} (Newsroom.plan .absent).nodes (Newsroom.plan .absent).nodes
      [("lead", Newsroom.config "writer"), ("desk", Newsroom.config "reader")] ∧
    FirstFailure {} rivals (.error (.build (.sharedMember "writer" "lead" "desk"))) := by
  obtain ⟨newsroom_iff, collects_iff, -⟩ := @collect_verdict {} (Newsroom.plan .absent).nodes
    (Newsroom.plan_wellFormed .absent).keys_nodup
  obtain ⟨-, -, fails_iff⟩ := @collect_verdict {} rivals (by decide)
  exact ⟨newsroom_iff.mp ⟨_, rfl⟩, (collects_iff _).mp rfl, (fails_iff _).mp rfl⟩

/-- A supervisor whose configuration is one long number cannot be read, and the collection fails
with no error of the library. -/
theorem census_desk_faults :
    (¬ ∃ config, Census.desk.Supervises {} config) ∧
      collect {} Census.plan.nodes = .error (.fault .badValue) := by
  have desk : normalizeType Census.desk.node.type = "supervisor" := by decide
  constructor
  · rintro ⟨config, supervises⟩
    exact (reads_config Census.desk).legible supervises.parse_eq Census.desk_isIllegible
  · have nodup : (Census.plan.nodes.map PlanNode.key).Nodup := List.nodup_singleton _
    have before : Staffs {} Census.plan.nodes [] [] :=
      (collectFrom_eq_ok_iff_staffs nodup (List.nil_subset _)).mp rfl
    exact (collect_eq_error_iff nodup).mpr
      (.illegible (List.nil_append _).symm before ⟨desk, Census.desk_isIllegible⟩)

end Supervision

end AgentWorkflow
