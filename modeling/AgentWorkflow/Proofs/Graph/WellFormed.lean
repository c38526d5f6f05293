import AgentWorkflow.Graph.Validation
import AgentWorkflow.Proofs.Outcome
import Mathlib.Data.List.Nodup
import Mathlib.Logic.Relation

/-!
# Well-formed graphs

What a graph has to be like to be accepted, said without the check: keys are in order and distinct,
the entry is one of them, and edges join keys of the graph or lead to the end. The check goes
through the nodes and the edges once, with what it has seen so far; here it is shown to accept
exactly the snapshots in which nothing is missing and whose content is well formed.

## Main definitions

* `GraphPlan.toSnapshot`: the snapshot that holds a plan and in which nothing is missing
* `GraphPlan.WellFormed`: the conditions on keys and edges

## Main results

* `checkStructure_eq_ok_iff`: what is accepted, and as which plan
* `checkStructure_isPlain`: whatever is wrong with the structure is a plain validation error
-/

namespace AgentWorkflow

open Text

/-- A text that may be a key: it is not empty, and no blank stands at either end. -/
def IsKey (s : String) : Prop := s ≠ "" ∧ Trimmed s

instance (s : String) : Decidable (IsKey s) := inferInstanceAs (Decidable (_ ∧ _))

/-- A node as it stands in a snapshot. -/
def PlanNode.toEntry (n : PlanNode) : Option SnapshotNode :=
  some { node := some n.node, model := n.model, tools := n.tools }

/-- The snapshot that holds a plan. Nothing is missing in it. -/
def GraphPlan.toSnapshot (plan : GraphPlan) : Snapshot where
  graph := some plan.graph
  nodes := plan.nodes.map PlanNode.toEntry
  edges := plan.edges.map some

/-- The keys of a graph. -/
def GraphPlan.keys (plan : GraphPlan) : List String := plan.nodes.map PlanNode.key

/-- An edge between two different keys, from a key of the graph to another one or to the end. -/
structure GraphEdge.WellFormed (keys : List String) (edge : GraphEdge) : Prop where
  source_isKey : IsKey edge.source
  target_isKey : IsKey edge.target
  source_ne_target : edge.source ≠ edge.target
  source_mem : edge.source ∈ keys
  target_mem : edge.target = endKey ∨ edge.target ∈ keys

instance (keys : List String) (edge : GraphEdge) : Decidable (edge.WellFormed keys) :=
  decidable_of_iff
    (IsKey edge.source ∧ IsKey edge.target ∧ edge.source ≠ edge.target ∧ edge.source ∈ keys ∧
      (edge.target = endKey ∨ edge.target ∈ keys))
    ⟨fun ⟨source, target, different, among, leads⟩ => ⟨source, target, different, among, leads⟩,
      fun ⟨source, target, different, among, leads⟩ => ⟨source, target, different, among, leads⟩⟩

/-- A graph whose keys and edges are in order. -/
structure GraphPlan.WellFormed (plan : GraphPlan) : Prop where
  entry_isKey : IsKey plan.graph.entry
  key_isKey : ∀ n ∈ plan.nodes, IsKey n.key
  keys_nodup : plan.keys.Nodup
  entry_mem : plan.graph.entry ∈ plan.keys
  edge_wellFormed : ∀ edge ∈ plan.edges, edge.WellFormed plan.keys
  edges_nodup : plan.edges.Nodup

/-- Of the nodes only the keys matter. -/
theorem GraphPlan.WellFormed.of_listing {plan : GraphPlan} (keys : List String)
    (edges : List GraphEdge) (keys_eq : plan.keys = keys) (edges_eq : plan.edges = edges)
    (all_keys : ∀ key ∈ keys, IsKey key) (distinct : keys.Nodup)
    (entry_mem : plan.graph.entry ∈ keys) (all_edges : ∀ edge ∈ edges, edge.WellFormed keys)
    (edges_nodup : edges.Nodup) : plan.WellFormed := by
  subst keys_eq edges_eq
  exact {
    entry_isKey := all_keys _ entry_mem
    key_isKey := fun n node => all_keys n.key (List.mem_map_of_mem node)
    keys_nodup := distinct
    entry_mem
    edge_wellFormed := all_edges
    edges_nodup }

/-- An issue that is a validation error and not the special one about the end. -/
def SnapshotIssue.IsPlain (issue : SnapshotIssue) : Prop :=
  (GraphError.snapshot issue).kind = .validation

/-! ### One key, one node, one edge -/

theorem isKey_of_strip {s : String} (nonempty : strip s ≠ "") (same : s = strip s) : IsKey s :=
  ⟨same ▸ nonempty, same.symm⟩

theorem checkEntry_eq_ok_iff {entry : String} : checkEntry entry = .ok () ↔ IsKey entry := by
  constructor
  · intro h
    simp only [checkEntry] at h
    split_ifs at h with empty padded
    exact isKey_of_strip (by simpa using empty) (by simpa using padded)
  · rintro ⟨nonempty, trimmed⟩
    rw [Trimmed] at trimmed
    simp [checkEntry, trimmed, nonempty]

theorem checkNode_eq_ok_iff {index : Nat} {seen : List String} {entry : Option SnapshotNode}
    {n : PlanNode} :
    checkNode index seen entry = .ok n ↔ entry = n.toEntry ∧ IsKey n.key ∧ n.key ∉ seen := by
  constructor
  · intro h
    match entry with
    | none => cases h
    | some ⟨none, _, _⟩ => cases h
    | some ⟨some node, model, tools⟩ =>
      simp only [checkNode] at h
      split_ifs at h with empty padded repeated
      cases h
      have key : IsKey node.key := isKey_of_strip (by simpa using empty) (by simpa using padded)
      have fresh : strip node.key ∉ seen := by simpa using repeated
      rw [key.2] at fresh
      exact ⟨rfl, key, fresh⟩
  · rintro ⟨rfl, ⟨nonempty, trimmed⟩, fresh⟩
    rw [Trimmed] at trimmed
    simp [PlanNode.toEntry, checkNode, trimmed, nonempty, fresh]

theorem checkEdge_eq_ok_iff {keys : List String} {index : Nat} {seen : List GraphEdge}
    {entry : Option GraphEdge} {edge : GraphEdge} :
    checkEdge keys index seen entry = .ok edge ↔
      entry = some edge ∧ edge.WellFormed keys ∧ edge ∉ seen := by
  constructor
  · intro h
    match entry with
    | none => cases h
    | some stored =>
      simp only [checkEdge] at h
      split_ifs at h with empty padded loop source target repeated
      cases h
      simp only [Bool.or_eq_true, beq_iff_eq, not_or, bne_iff_ne, not_not] at empty padded
      have sourceKey : IsKey edge.source := isKey_of_strip empty.1 padded.1
      have targetKey : IsKey edge.target := isKey_of_strip empty.2 padded.2
      rw [sourceKey.2] at loop source
      rw [targetKey.2] at loop target
      refine ⟨rfl, ⟨sourceKey, targetKey, by simpa using loop, by simpa using source, ?_⟩,
        by simpa using repeated⟩
      by_cases finish : edge.target = endKey
      · exact Or.inl finish
      · exact Or.inr (by simpa [finish] using target)
  · rintro ⟨rfl, ⟨⟨sourceNonempty, sourceTrimmed⟩, ⟨targetNonempty, targetTrimmed⟩, different,
      source, target⟩, fresh⟩
    rw [Trimmed] at sourceTrimmed targetTrimmed
    simpa [checkEdge, sourceTrimmed, targetTrimmed, sourceNonempty, targetNonempty, different,
      source, fresh] using target.resolve_left

/-! ### All nodes and all edges

Nodes and edges are gone through in the same way: each entry is checked against the marks of those
before it, and leaves a mark of its own. -/

section Sequence

variable {ε ι α κ : Type} (check : Nat → List κ → ι → Except ε α) (mark : α → κ)
  {checkAll : Nat → List κ → List ι → Except ε (List α)} {entry : α → ι} {Good : α → Prop}

/-- If one entry is accepted when it is good and its mark is new, then a sequence is accepted when
all its entries are good and their marks are new and distinct. -/
theorem checkAll_eq_ok_iff
    (nil : ∀ index seen, checkAll index seen [] = .ok [])
    (cons : ∀ index seen e es, checkAll index seen (e :: es) = do
      let a ← check index seen e
      let as ← checkAll (index + 1) (mark a :: seen) es
      return a :: as)
    (one : ∀ {index seen e a},
      check index seen e = .ok a ↔ e = entry a ∧ Good a ∧ mark a ∉ seen)
    {entries : List ι} {index : Nat} {seen : List κ} {items : List α} :
    checkAll index seen entries = .ok items ↔
      entries = items.map entry ∧ (∀ a ∈ items, Good a ∧ mark a ∉ seen) ∧
        (items.map mark).Nodup := by
  induction entries generalizing index seen items with
  | nil =>
    rw [nil]
    constructor
    · intro h
      cases h
      simp
    · rintro ⟨same, -⟩
      rw [List.map_eq_nil_iff.mp same.symm]
  | cons e entries ih =>
    rw [cons, bind_eq_ok_iff]
    constructor
    · rintro ⟨a, first, rest⟩
      obtain ⟨later, later_ok, same⟩ := bind_eq_ok_iff.mp rest
      cases same
      obtain ⟨rfl, good, fresh⟩ := one.mp first
      obtain ⟨rfl, laterGood, nodup⟩ := ih.mp later_ok
      refine ⟨rfl, ?_, ?_⟩
      -- later entries are checked against more marks than the first one
      · intro a' member
        rcases List.mem_cons.mp member with rfl | member
        · exact ⟨good, fresh⟩
        · have both := laterGood a' member
          exact ⟨both.1, fun old => both.2 (List.mem_cons_of_mem _ old)⟩
      · rw [List.map_cons, List.nodup_cons]
        -- the mark of this entry is among those that later ones must not have
        refine ⟨fun repeated => ?_, nodup⟩
        obtain ⟨a', member, same⟩ := List.mem_map.mp repeated
        exact (laterGood a' member).2 (same ▸ List.mem_cons_self)
    · rintro ⟨same, good, nodup⟩
      obtain ⟨a, later, rfl, rfl, rfl⟩ := List.map_eq_cons_iff.mp same.symm
      rw [List.map_cons, List.nodup_cons] at nodup
      have headGood := good a List.mem_cons_self
      refine ⟨a, one.mpr ⟨rfl, headGood⟩, bind_eq_ok_iff.mpr ⟨later, ?_, rfl⟩⟩
      refine ih.mpr ⟨rfl, fun a' member => ?_, nodup.2⟩
      have both := good a' (List.mem_cons_of_mem _ member)
      refine ⟨both.1, fun old => ?_⟩
      rcases List.mem_cons.mp old with same | old
      · exact nodup.1 (same ▸ List.mem_map_of_mem member)
      · exact both.2 old

/-- If a sequence is refused, one of its entries is. -/
theorem exists_check_of_checkAll_eq_error
    (nil : ∀ index seen, checkAll index seen [] = .ok [])
    (cons : ∀ index seen e es, checkAll index seen (e :: es) = do
      let a ← check index seen e
      let as ← checkAll (index + 1) (mark a :: seen) es
      return a :: as)
    {entries : List ι} {index : Nat} {seen : List κ} {issue : ε}
    (h : checkAll index seen entries = .error issue) :
    ∃ index seen e, check index seen e = .error issue := by
  induction entries generalizing index seen with
  | nil =>
    rw [nil] at h
    cases h
  | cons e entries ih =>
    rw [cons] at h
    rcases bind_eq_error_iff.mp h with first | ⟨a, -, rest⟩
    · exact ⟨_, _, _, first⟩
    · rcases bind_eq_error_iff.mp rest with later | ⟨_, -, impossible⟩
      · exact ih later
      · cases impossible

end Sequence

/-- Nodes are accepted when their keys are in order and distinct. -/
theorem checkNodes_eq_ok_iff {entries : List (Option SnapshotNode)} {nodes : List PlanNode} :
    checkNodes 0 [] entries = .ok nodes ↔
      entries = nodes.map PlanNode.toEntry ∧ (∀ n ∈ nodes, IsKey n.key) ∧
        (nodes.map PlanNode.key).Nodup := by
  rw [checkAll_eq_ok_iff checkNode PlanNode.key (fun _ _ => rfl) (fun _ _ _ _ => rfl)
    checkNode_eq_ok_iff]
  simp only [List.not_mem_nil, not_false_eq_true, and_true]

/-- Edges are accepted when each is in order and none occurs twice. -/
theorem checkEdges_eq_ok_iff {keys : List String} {entries : List (Option GraphEdge)}
    {edges : List GraphEdge} :
    checkEdges keys 0 [] entries = .ok edges ↔
      entries = edges.map some ∧ (∀ edge ∈ edges, edge.WellFormed keys) ∧ edges.Nodup := by
  rw [checkAll_eq_ok_iff (checkEdge keys) id (fun _ _ => rfl) (fun _ _ _ _ => rfl)
    checkEdge_eq_ok_iff]
  simp only [List.not_mem_nil, not_false_eq_true, and_true, id_eq, List.map_id]

/-! ### The whole structure -/

/-- A snapshot is in order exactly when nothing is missing in it and its content is well formed. -/
theorem checkStructure_eq_ok_iff {snapshot : Option Snapshot} {plan : GraphPlan} :
    checkStructure snapshot = .ok plan ↔ snapshot = some plan.toSnapshot ∧ plan.WellFormed := by
  constructor
  · intro h
    match snapshot with
    | none => cases h
    | some ⟨none, _, _⟩ => cases h
    | some ⟨some graph, entries, edgeEntries⟩ =>
      obtain ⟨⟨⟩, entry, rest⟩ := bind_eq_ok_iff.mp h
      obtain ⟨nodes, nodes_ok, rest⟩ := bind_eq_ok_iff.mp rest
      obtain ⟨rfl, keys, keysNodup⟩ := checkNodes_eq_ok_iff.mp nodes_ok
      dsimp only at rest
      -- the entry is looked up once all keys are known, and before the edges
      split at rest
      · cases rest
      · rename_i known
        obtain ⟨edges, edges_ok, same⟩ := bind_eq_ok_iff.mp rest
        cases same
        obtain ⟨rfl, good, edgesNodup⟩ := checkEdges_eq_ok_iff.mp edges_ok
        have entryKnown : graph.entry ∈ nodes.map PlanNode.key := by simpa using known
        exact ⟨rfl, checkEntry_eq_ok_iff.mp entry, keys, keysNodup, entryKnown, good, edgesNodup⟩
  · rintro ⟨rfl, good⟩
    have known : (!(plan.nodes.map PlanNode.key).contains plan.graph.entry) = false := by
      simpa [GraphPlan.keys] using good.entry_mem
    have nodes_ok := checkNodes_eq_ok_iff.mpr ⟨rfl, good.key_isKey, good.keys_nodup⟩
    have edges_ok := checkEdges_eq_ok_iff.mpr ⟨rfl, good.edge_wellFormed, good.edges_nodup⟩
    refine bind_eq_ok_iff.mpr ⟨(), checkEntry_eq_ok_iff.mpr good.entry_isKey, ?_⟩
    refine bind_eq_ok_iff.mpr ⟨plan.nodes, nodes_ok, ?_⟩
    dsimp only
    rw [known]
    exact bind_eq_ok_iff.mpr ⟨plan.edges, edges_ok, rfl⟩

/-! ### Issues of the structure -/

theorem checkEntry_isPlain {entry : String} {issue : SnapshotIssue}
    (h : checkEntry entry = .error issue) : issue.IsPlain := by
  simp only [checkEntry] at h
  split_ifs at h <;> cases h <;> rfl

theorem checkNode_isPlain {index : Nat} {seen : List String} {entry : Option SnapshotNode}
    {issue : SnapshotIssue} (h : checkNode index seen entry = .error issue) : issue.IsPlain := by
  match entry with
  | none => cases h; rfl
  | some ⟨none, _, _⟩ => cases h; rfl
  | some ⟨some node, _, _⟩ =>
    simp only [checkNode] at h
    split_ifs at h <;> cases h <;> rfl

theorem checkEdge_isPlain {keys : List String} {index : Nat} {seen : List GraphEdge}
    {entry : Option GraphEdge} {issue : SnapshotIssue}
    (h : checkEdge keys index seen entry = .error issue) : issue.IsPlain := by
  match entry with
  | none => cases h; rfl
  | some edge =>
    simp only [checkEdge] at h
    split_ifs at h <;> cases h <;> rfl

theorem checkNodes_isPlain {entries : List (Option SnapshotNode)} {issue : SnapshotIssue}
    (h : checkNodes 0 [] entries = .error issue) : issue.IsPlain := by
  obtain ⟨_, _, _, failed⟩ := exists_check_of_checkAll_eq_error checkNode PlanNode.key
    (fun _ _ => rfl) (fun _ _ _ _ => rfl) h
  exact checkNode_isPlain failed

theorem checkEdges_isPlain {keys : List String} {entries : List (Option GraphEdge)}
    {issue : SnapshotIssue} (h : checkEdges keys 0 [] entries = .error issue) : issue.IsPlain := by
  obtain ⟨_, _, _, failed⟩ := exists_check_of_checkAll_eq_error (checkEdge keys) id
    (fun _ _ => rfl) (fun _ _ _ _ => rfl) h
  exact checkEdge_isPlain failed

/-- Whatever is wrong with the structure of a snapshot is a plain validation error. -/
theorem checkStructure_isPlain {snapshot : Option Snapshot} {issue : SnapshotIssue}
    (h : checkStructure snapshot = .error issue) : issue.IsPlain := by
  match snapshot with
  | none => cases h; rfl
  | some ⟨none, _, _⟩ => cases h; rfl
  | some ⟨some graph, entries, edgeEntries⟩ =>
    rcases bind_eq_error_iff.mp h with entry | ⟨-, -, rest⟩
    · exact checkEntry_isPlain entry
    · rcases bind_eq_error_iff.mp rest with nodes | ⟨nodes, -, rest⟩
      · exact checkNodes_isPlain nodes
      · dsimp only at rest
        split at rest
        · cases rest; rfl
        · rcases bind_eq_error_iff.mp rest with edges | ⟨_, -, impossible⟩
          · exact checkEdges_isPlain edges
          · cases impossible

end AgentWorkflow
