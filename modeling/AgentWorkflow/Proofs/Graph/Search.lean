import AgentWorkflow.Graph.Reachability
import Mathlib.Logic.Relation

/-!
# The search for the end finds exactly the walks

`leadsTo` follows the connections of one key at a time and forgets them afterwards. What keeps this
sound is that every connection it looks at is one of the graph; what keeps it complete is that a
walk which still needs the forgotten connections can be entered later, at a key that is waiting by
then.

## Main results

* `Walk.without`: a walk survives the loss of the connections of one key, from there or from a key
  that these connections lead to
* `leadsTo_iff`: the search succeeds exactly when some waiting key has a walk to the goal
-/

namespace AgentWorkflow

variable {connections : List Connection} {goal key start : String}

theorem mem_leaving {c : Connection} :
    c ∈ leaving key connections ↔ c ∈ connections ∧ c.1 = key := by
  simp [leaving]

theorem mem_without {c : Connection} :
    c ∈ without key connections ↔ c ∈ connections ∧ c.1 ≠ key := by
  simp [without]

/-- The keys that the connections of a key lead to. -/
theorem mem_map_snd_leaving {target : String} :
    target ∈ (leaving key connections).map Prod.snd ↔ (key, target) ∈ connections := by
  rw [List.mem_map]
  constructor
  · rintro ⟨⟨source, _⟩, member, rfl⟩
    obtain ⟨stored, rfl⟩ := mem_leaving.mp member
    exact stored
  · intro stored
    exact ⟨(key, target), mem_leaving.mpr ⟨stored, rfl⟩, rfl⟩

theorem any_leaving_iff :
    (leaving key connections).any (·.2 == goal) = true ↔ (key, goal) ∈ connections := by
  rw [List.any_eq_true, ← mem_map_snd_leaving, List.mem_map]
  simp only [beq_iff_eq]

/-- Fewer connections allow no new walks. -/
theorem Walk.of_without (walk : Walk (without key connections) start goal) :
    Walk connections start goal :=
  Relation.TransGen.mono (fun _ _ member => (mem_without.mp member).1) _ _ walk

/-- A walk to a key that is not joined to the goal directly still leads there when the connections
of that key are forgotten: from its own start, or from one of the keys they lead to. -/
theorem Walk.without (walk : Walk connections start goal)
    (notDirect : (key, goal) ∉ connections) :
    Walk (without key connections) start goal ∨
      ∃ target, (key, target) ∈ connections ∧ Walk (without key connections) target goal := by
  induction walk using Relation.TransGen.head_induction_on with
  | @single source member =>
    by_cases same : source = key
    · exact absurd (same ▸ member) notDirect
    · exact Or.inl (.single (mem_without.mpr ⟨member, same⟩))
  | @head source next member _ ih =>
    -- only a step that leaves the forgotten key is lost, and its target is one to go on from
    rcases ih with walk | detour
    · by_cases same : source = key
      · exact Or.inr ⟨next, same ▸ member, walk⟩
      · exact Or.inl (.head (mem_without.mpr ⟨member, same⟩) walk)
    · exact Or.inr detour

/-- The search succeeds exactly when a walk leads from one of the waiting keys to the goal. -/
theorem leadsTo_iff {waiting : List String} :
    leadsTo goal connections waiting = true ↔ ∃ start ∈ waiting, Walk connections start goal := by
  induction connections, waiting using leadsTo.induct goal with
  | case1 => simp [leadsTo_nil]
  | case2 connections key waiting direct =>
    rw [leadsTo, if_pos direct]
    have walk : Walk connections key goal := .single (any_leaving_iff.mp direct)
    exact ⟨fun _ => ⟨key, List.mem_cons_self, walk⟩, fun _ => rfl⟩
  | case3 connections key waiting indirect ih =>
    rw [leadsTo, if_neg indirect, ih]
    have notDirect : (key, goal) ∉ connections := fun member =>
      indirect (any_leaving_iff.mpr member)
    constructor
    · rintro ⟨start, member, walk⟩
      rcases List.mem_append.mp member with earlier | followed
      · exact ⟨start, List.mem_cons_of_mem _ earlier, walk.of_without⟩
      · exact ⟨key, List.mem_cons_self,
          .head (mem_map_snd_leaving.mp followed) walk.of_without⟩
    · rintro ⟨start, member, walk⟩
      have waitingLater : ∀ target, (key, target) ∈ connections →
          target ∈ waiting ++ (leaving key connections).map Prod.snd := fun target stored =>
        List.mem_append_right _ (mem_map_snd_leaving.mpr stored)
      rcases walk.without notDirect with kept | ⟨target, stored, kept⟩
      · rcases List.mem_cons.mp member with rfl | earlier
        -- a walk that starts at a key whose connections are forgotten has lost its first step
        · obtain ⟨next, first, _⟩ := Relation.TransGen.head'_iff.mp kept
          exact absurd rfl (mem_without.mp first).2
        · exact ⟨start, List.mem_append_left _ earlier, kept⟩
      · exact ⟨target, waitingLater target stored, kept⟩

end AgentWorkflow
