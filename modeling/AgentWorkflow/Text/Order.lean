/-!
Sets of texts as sorted lists. Texts are ordered by the codes of their characters.
-/

namespace AgentWorkflow.Text

/-- Texts in order. -/
def sortTexts (texts : List String) : List String := texts.mergeSort fun a b => !decide (b < a)

/-- Texts in order, each of them once. -/
def sortedSet (texts : List String) : List String := sortTexts texts.eraseDups

theorem mem_sortTexts {texts : List String} {s : String} : s ∈ sortTexts texts ↔ s ∈ texts :=
  List.mem_mergeSort

theorem mem_sortedSet {texts : List String} {s : String} : s ∈ sortedSet texts ↔ s ∈ texts := by
  rw [sortedSet, mem_sortTexts, List.mem_eraseDups]

theorem nodup_eraseDups {α : Type} [BEq α] [LawfulBEq α] (items : List α) :
    items.eraseDups.Nodup := by
  match items with
  | [] => exact List.nodup_nil
  | item :: rest =>
    rw [List.eraseDups_cons, List.nodup_cons]
    refine ⟨fun member => ?_, nodup_eraseDups _⟩
    rw [List.mem_eraseDups] at member
    simpa using (List.mem_filter.mp member).2
termination_by items.length
decreasing_by exact Nat.lt_succ_of_le (List.length_filter_le _ _)

/-- Texts are sorted by a transitive comparison. -/
theorem notAfter_trans (a b c : String) (ab : (!decide (b < a)) = true)
    (bc : (!decide (c < b)) = true) : (!decide (c < a)) = true := by
  simp only [Bool.not_eq_true', decide_eq_false_iff_not] at ab bc ⊢
  exact String.le_trans ab bc

/-- Texts are sorted by a total comparison. -/
theorem notAfter_total (a b : String) : (!decide (b < a) || !decide (a < b)) = true := by
  simp only [Bool.or_eq_true, Bool.not_eq_true', decide_eq_false_iff_not]
  exact String.le_total a b

theorem ordered_sortTexts (texts : List String) :
    (sortTexts texts).Pairwise fun a b => ¬ b < a := by
  have ordered : (sortTexts texts).Pairwise fun a b => (!decide (b < a)) = true :=
    List.pairwise_mergeSort notAfter_trans notAfter_total texts
  refine ordered.imp fun {a b} le => ?_
  simpa only [Bool.not_eq_true', decide_eq_false_iff_not] using le

/-- Texts in order are the sorted set of every list that has each of them once. -/
theorem sortedSet_eq_of_perm {texts sorted : List String} (once : texts.eraseDups = texts)
    (perm : sorted.Perm texts) (ordered : sorted.Pairwise fun a b => ¬ b < a) :
    sortedSet texts = sorted := by
  rw [sortedSet, once]
  exact List.Perm.eq_of_pairwise (fun _ _ _ _ => String.le_antisymm) (ordered_sortTexts texts)
    ordered ((List.mergeSort_perm _ _).trans perm.symm)

theorem sortedSet_singleton (s : String) : sortedSet [s] = [s] :=
  sortedSet_eq_of_perm rfl (.refl _) (List.pairwise_singleton _ _)

theorem nodup_sortedSet (texts : List String) : (sortedSet texts).Nodup :=
  (List.mergeSort_perm _ _).nodup_iff.mpr (nodup_eraseDups texts)

/-- The texts of a sorted set come one after another. -/
theorem pairwise_sortedSet (texts : List String) : (sortedSet texts).Pairwise (· < ·) := by
  have ordered := (ordered_sortTexts texts.eraseDups).and (nodup_sortedSet texts)
  refine ordered.imp fun {a b} apart => ?_
  obtain ⟨le, ne⟩ := apart
  exact Classical.byContradiction fun not_lt => ne (String.le_antisymm le not_lt)

/-- A sorted set depends on nothing but which texts there are. -/
theorem sortedSet_congr {texts others : List String} (same : ∀ s, s ∈ texts ↔ s ∈ others) :
    sortedSet texts = sortedSet others := by
  have perm : (sortedSet texts).Perm (sortedSet others) := by
    refine (List.perm_ext_iff_of_nodup (nodup_sortedSet _) (nodup_sortedSet _)).mpr fun s => ?_
    rw [mem_sortedSet, mem_sortedSet, same]
  exact List.Perm.eq_of_pairwise (fun _ _ _ _ => String.le_antisymm) (ordered_sortTexts _)
    (ordered_sortTexts _) perm

end AgentWorkflow.Text
