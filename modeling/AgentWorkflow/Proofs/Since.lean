/-!
# What has been so since something happened

A history is a list of what happened, the latest last. Something is open if it was opened and has
not been touched since. This is known of a longer history from the last thing that happened and the
history before it, so a table of what is open can be kept along the way.

## Main definitions

* `Since`: it was opened, and has not been touched since

## Main results

* `since_append_singleton`: what is open after one more thing has happened
-/

namespace AgentWorkflow

variable {α : Type} {opens : List α → α → Prop} {touches : α → Prop} {earlier : List α} {a : α}

/-- It was opened, and has not been touched since. Whether something opens it may depend on what
happened before. -/
def Since (opens : List α → α → Prop) (touches : α → Prop) (earlier : List α) : Prop :=
  ∃ sooner start between, earlier = sooner ++ start :: between ∧ opens sooner start ∧
    ∀ a ∈ between, ¬ touches a

theorem not_since_nil : ¬ Since opens touches [] := by
  rintro ⟨sooner, start, between, split, -⟩
  simp at split

/-- What is open after one more thing has happened was opened by it, or is not touched by it. -/
theorem since_append_singleton :
    Since opens touches (earlier ++ [a]) ↔
      opens earlier a ∨ Since opens touches earlier ∧ ¬ touches a := by
  constructor
  · rintro ⟨sooner, start, between, split, opened, untouched⟩
    -- the last thing that happened opened it, or came after what opened it
    rcases List.eq_nil_or_concat between with rfl | ⟨between, last, rfl⟩
    · obtain ⟨rfl, same⟩ := List.append_inj' split rfl
      cases same
      exact Or.inl opened
    · rw [List.concat_eq_append, ← List.cons_append, ← List.append_assoc] at split
      obtain ⟨rfl, same⟩ := List.append_inj' split rfl
      cases same
      simp only [List.concat_eq_append, List.mem_append, List.mem_singleton] at untouched
      exact Or.inr ⟨⟨sooner, start, between, rfl, opened, fun a' member =>
        untouched a' (Or.inl member)⟩, untouched a (Or.inr rfl)⟩
  · rintro (opened | ⟨⟨sooner, start, between, rfl, opened, untouched⟩, apart⟩)
    · exact ⟨earlier, a, [], rfl, opened, fun _ member => nomatch member⟩
    · refine ⟨sooner, start, between ++ [a], by simp, opened, ?_⟩
      intro a' member
      rcases List.mem_append.mp member with member | member
      · exact untouched a' member
      · rw [List.mem_singleton.mp member]
        exact apart

end AgentWorkflow
