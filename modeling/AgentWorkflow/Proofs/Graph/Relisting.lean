import AgentWorkflow.Proofs.Agreement
import AgentWorkflow.Proofs.Graph.Verdict
import Mathlib.Data.List.Perm.Basic

/-!
# Graphs whose parts are listed in another order

The check of a snapshot goes through its nodes and its edges one by one, and what it says about one
of them depends on those before it: the second one of two nodes with the same key is refused, and
the place of the node that is refused is told. That it refuses a snapshot does not depend on the
order, and neither does the graph that it finds in one that it accepts.

## Main definitions

* `Snapshot.RelistedAs`, `GraphPlan.RelistedAs`: the same graph, listed in another order

## Main results

* `Snapshot.RelistedAs.validate_alike`: a snapshot passes the check in every order or in none
-/

namespace AgentWorkflow

/-- The same snapshot, with its nodes and its edges listed in another order. -/
structure Snapshot.RelistedAs (snapshot other : Snapshot) : Prop where
  graph_eq : other.graph = snapshot.graph
  nodes : other.nodes.Perm snapshot.nodes
  edges : other.edges.Perm snapshot.edges

/-- The same graph, with its nodes and its edges listed in another order. -/
structure GraphPlan.RelistedAs (plan other : GraphPlan) : Prop where
  graph_eq : other.graph = plan.graph
  nodes : other.nodes.Perm plan.nodes
  edges : other.edges.Perm plan.edges

variable {snapshot other : Snapshot} {plan plan' : GraphPlan}

theorem Snapshot.RelistedAs.symm (relisted : snapshot.RelistedAs other) :
    other.RelistedAs snapshot :=
  ⟨relisted.graph_eq.symm, relisted.nodes.symm, relisted.edges.symm⟩

namespace GraphPlan.RelistedAs

theorem keys (relisted : plan.RelistedAs plan') : plan'.keys.Perm plan.keys :=
  relisted.nodes.map _

theorem wellFormed (relisted : plan.RelistedAs plan') (good : plan.WellFormed) :
    plan'.WellFormed where
  entry_isKey := relisted.graph_eq ▸ good.entry_isKey
  key_isKey n node := good.key_isKey n (relisted.nodes.mem_iff.mp node)
  keys_nodup := relisted.keys.nodup_iff.mpr good.keys_nodup
  entry_mem := relisted.graph_eq ▸ relisted.keys.mem_iff.mpr good.entry_mem
  edge_wellFormed edge stored := by
    have fine := good.edge_wellFormed edge (relisted.edges.mem_iff.mp stored)
    exact { fine with
      source_mem := relisted.keys.mem_iff.mpr fine.source_mem
      target_mem := fine.target_mem.imp_right relisted.keys.mem_iff.mpr }
  edges_nodup := relisted.edges.nodup_iff.mpr good.edges_nodup

/-- The steps of a walk are the same. -/
theorem joins (relisted : plan.RelistedAs plan') {source target : String}
    (step : plan.Joins source target) : plan'.Joins source target := by
  have nodes {n : PlanNode} (node : n ∈ plan.nodes) : n ∈ plan'.nodes :=
    relisted.nodes.mem_iff.mpr node
  cases step with
  | edge stored => exact .edge (relisted.edges.mem_iff.mpr stored)
  | toMember node lists listed => exact .toMember (nodes node) lists listed
  | fromMember node lists listed => exact .fromMember (nodes node) lists listed
  | toEnd node lists => exact .toEnd (nodes node) lists

theorem isIllegible (relisted : plan.RelistedAs plan') (illegible : plan'.IsIllegible) :
    plan.IsIllegible := by
  obtain ⟨n, node, n_illegible⟩ := illegible
  exact ⟨n, relisted.nodes.mem_iff.mp node, n_illegible⟩

theorem reachesEnd (relisted : plan.RelistedAs plan') (reaches : plan.ReachesEnd) :
    plan'.ReachesEnd := by
  rw [GraphPlan.ReachesEnd, relisted.graph_eq]
  exact Relation.TransGen.mono (fun _ _ => relisted.joins) _ _ reaches

end GraphPlan.RelistedAs

/-- What is listed in another order comes from the same items in another order. -/
theorem exists_eq_map_of_perm {α β : Type} {f : α → β} {items : List α} {listed : List β}
    (perm : listed.Perm (items.map f)) :
    ∃ items' : List α, listed = items'.map f ∧ items'.Perm items := by
  have each : List.Forall₂ (fun b a => b = f a) (items.map f) items := by
    rw [List.forall₂_map_left_iff]
    exact List.forall₂_same.mpr fun _ _ => rfl
  obtain ⟨items', from_items, perm'⟩ : Relation.Comp (List.Forall₂ fun b a => b = f a) List.Perm
      listed items := List.perm_comp_forall₂ perm each
  refine ⟨items', ?_, perm'⟩
  rw [← List.forall₂_eq_eq_eq, List.forall₂_map_right_iff]
  exact from_items

/-- A snapshot that passes the check passes it in every order, as the same graph. -/
theorem Snapshot.RelistedAs.exists_plan (relisted : snapshot.RelistedAs other)
    (valid : validate (some snapshot) = .ok plan) :
    ∃ plan', validate (some other) = .ok plan' ∧ plan.RelistedAs plan' := by
  obtain ⟨same, wellFormed, legible, reachesEnd⟩ := validate_eq_ok_iff.mp valid
  cases same
  obtain ⟨nodes, nodes_eq, nodes_perm⟩ := exists_eq_map_of_perm relisted.nodes
  obtain ⟨edges, edges_eq, edges_perm⟩ := exists_eq_map_of_perm relisted.edges
  have plan_relisted : plan.RelistedAs ⟨plan.graph, nodes, edges⟩ := ⟨rfl, nodes_perm, edges_perm⟩
  refine ⟨_, validate_eq_ok_iff.mpr ⟨?_, plan_relisted.wellFormed wellFormed,
    fun illegible => legible (plan_relisted.isIllegible illegible),
    plan_relisted.reachesEnd reachesEnd⟩, plan_relisted⟩
  rw [GraphPlan.toSnapshot, ← nodes_eq, ← edges_eq]
  exact congrArg (fun graph => some { other with graph }) relisted.graph_eq

/-- A snapshot passes the check in every order or in none. -/
theorem Snapshot.RelistedAs.validate_alike (relisted : snapshot.RelistedAs other) :
    Alike AnyFailure GraphPlan.RelistedAs (validate (some snapshot)) (validate (some other)) := by
  refine .of_ok (fun plan => relisted.exists_plan) fun plan valid => ?_
  obtain ⟨plan', valid', -⟩ := relisted.symm.exists_plan valid
  exact ⟨plan', valid'⟩

end AgentWorkflow
