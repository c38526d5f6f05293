import AgentWorkflow.Graph.Snapshot

/-!
Whether a walk leads to a given key. The search follows the edges of one key at a time and drops
them once they are followed, so every edge is followed at most once and cycles do no harm.
-/

namespace AgentWorkflow

/-- A connection from one key to another. -/
abbrev Connection := String × String

/-- A walk of at least one connection. -/
def Walk (connections : List Connection) : String → String → Prop :=
  Relation.TransGen fun a b => (a, b) ∈ connections

/-- The connections that leave a key. -/
def leaving (key : String) (connections : List Connection) : List Connection :=
  connections.filter (·.1 == key)

/-- The connections that do not leave a key. -/
def without (key : String) (connections : List Connection) : List Connection :=
  connections.filter (·.1 != key)

theorem without_eq_self {key : String} {connections : List Connection}
    (h : leaving key connections = []) : without key connections = connections := by
  rw [without, List.filter_eq_self]
  intro c hc
  simpa using List.filter_eq_nil_iff.mp h c hc

theorem length_without_lt {key : String} {connections : List Connection}
    (h : leaving key connections ≠ []) :
    (without key connections).length < connections.length := by
  obtain ⟨c, hc⟩ := List.exists_mem_of_ne_nil _ h
  rw [leaving, List.mem_filter] at hc
  exact List.length_filter_lt_length_iff_exists.mpr ⟨c, hc.1, by simpa using hc.2⟩

/-- Whether a walk of at least one connection leads from one of the waiting keys to `goal`. -/
def leadsTo (goal : String) (connections : List Connection) (waiting : List String) : Bool :=
  match waiting with
  | [] => false
  | key :: waiting =>
    if (leaving key connections).any (·.2 == goal) then true
    else leadsTo goal (without key connections) (waiting ++ (leaving key connections).map Prod.snd)
termination_by (connections.length, waiting.length)
decreasing_by
  by_cases followed : leaving key connections = []
  · rw [without_eq_self followed, followed]
    exact Prod.Lex.right _ (by simp)
  · exact Prod.Lex.left _ _ (length_without_lt followed)

theorem leadsTo_nil (goal : String) (connections : List Connection) :
    leadsTo goal connections [] = false := by
  rw [leadsTo]

end AgentWorkflow
