import AgentWorkflow.Store.Graphs
import Mathlib.Data.List.Nodup
import Mathlib.Data.List.Pairwise

/-!
# Rows in order

The rows of a table have no order of their own. They are sorted by texts or by pairs of texts, and
looked up by keys. Where no two rows have the same text, pair or key, there is one way only to sort
them and one row to be found, so the order in which they are listed is not told in the result.

## Main definitions

* `Store.Precedes`: the order of pairs of texts

## Main results

* `mergeSort_eq_iff`: what it takes to be the sorted list
* `Store.sortByText_eq_iff`, `Store.sortByPair_eq_iff`: so it is for rows
* `Store.sortByText_congr`, `Store.sortByPair_congr`, `Store.find?_relisted`: the order in which
  rows are listed makes no difference
-/

namespace AgentWorkflow

/-! ### Sorting -/

section Sorting

variable {α : Type} {le : α → α → Bool} {rows others sorted : List α}

/-- If no two items are equivalent, then there is one way only to sort them, and it is strict. -/
theorem mergeSort_eq_iff (trans : ∀ a b c, le a b = true → le b c = true → le a c = true)
    (total : ∀ a b, (le a b || le b a) = true)
    (distinct : rows.Pairwise fun a b => ¬ (le a b = true ∧ le b a = true)) :
    rows.mergeSort le = sorted ↔ sorted.Perm rows ∧ sorted.Pairwise fun a b => le b a = false := by
  have ordered := List.pairwise_mergeSort trans total rows
  have flip : ∀ {a b : α}, ¬ (le a b = true ∧ le b a = true) → ¬ (le b a = true ∧ le a b = true) :=
    fun apart both => apart both.symm
  have symm : Std.Symm fun a b : α => ¬ (le a b = true ∧ le b a = true) := ⟨fun _ _ => flip⟩
  constructor
  · rintro rfl
    have perm := List.mergeSort_perm rows le
    refine ⟨perm, (ordered.and ((perm.pairwise_iff flip).mpr distinct)).imp ?_⟩
    rintro a b ⟨before, apart⟩
    exact Bool.eq_false_iff.mpr fun after => apart ⟨before, after⟩
  · rintro ⟨perm, strict⟩
    have apart := (perm.pairwise_iff flip).mpr distinct
    refine List.Perm.eq_of_pairwise (fun a b here there before after => ?_) ordered
      (strict.imp fun {a b} later => ?_) ((List.mergeSort_perm rows le).trans perm.symm)
    · -- items that are not the same are not equivalent
      by_contra ne
      have member : a ∈ sorted := perm.mem_iff.mpr (List.mem_mergeSort.mp here)
      exact apart.forall member there ne ⟨before, after⟩
    · simpa [later] using total a b

/-- Items that are listed in another order are sorted alike. -/
theorem mergeSort_congr (trans : ∀ a b c, le a b = true → le b c = true → le a c = true)
    (total : ∀ a b, (le a b || le b a) = true)
    (distinct : rows.Pairwise fun a b => ¬ (le a b = true ∧ le b a = true))
    (perm : others.Perm rows) : others.mergeSort le = rows.mergeSort le := by
  have distinct' : others.Pairwise fun a b => ¬ (le a b = true ∧ le b a = true) :=
    (perm.pairwise_iff fun apart both => apart both.symm).mpr distinct
  obtain ⟨perm', strict⟩ := (mergeSort_eq_iff trans total distinct').mp rfl
  exact ((mergeSort_eq_iff trans total distinct).mpr ⟨perm'.trans perm, strict⟩).symm

end Sorting

namespace Store

variable {α β : Type} {rows others sorted : List α}

section Texts

variable {key : α → String}

theorem textLe_trans (a b c : α) :
    (!decide (key b < key a)) = true → (!decide (key c < key b)) = true →
      (!decide (key c < key a)) = true := Text.notAfter_trans _ _ _

theorem textLe_total (a b : α) : (!decide (key b < key a) || !decide (key a < key b)) = true :=
  Text.notAfter_total _ _

theorem textLe_distinct (distinct : (rows.map key).Nodup) :
    rows.Pairwise fun a b =>
      ¬ ((!decide (key b < key a)) = true ∧ (!decide (key a < key b)) = true) := by
  refine (List.pairwise_map.mp distinct).imp fun {a b} ne both => ne ?_
  simp only [Bool.not_eq_true', decide_eq_false_iff_not] at both
  exact String.le_antisymm both.1 both.2

/-- Rows with distinct texts are sorted in one way only. -/
theorem sortByText_eq_iff (distinct : (rows.map key).Nodup) :
    sortByText key rows = sorted ↔
      sorted.Perm rows ∧ sorted.Pairwise fun a b => key a < key b := by
  rw [sortByText, mergeSort_eq_iff textLe_trans textLe_total (textLe_distinct distinct)]
  simp only [Bool.not_eq_false', decide_eq_true_eq]

theorem sortByText_congr (distinct : (rows.map key).Nodup) (perm : others.Perm rows) :
    sortByText key others = sortByText key rows :=
  mergeSort_congr textLe_trans textLe_total (textLe_distinct distinct) perm

end Texts

/-- The order of pairs of texts: the first ones count, and where they agree the second ones. -/
def Precedes (a b : String × String) : Prop := a.1 < b.1 ∨ a.1 = b.1 ∧ a.2 < b.2

instance (a b : String × String) : Decidable (Precedes a b) :=
  inferInstanceAs (Decidable (a.1 < b.1 ∨ a.1 = b.1 ∧ a.2 < b.2))

namespace Precedes

variable {a b c : String × String}

theorem trans (ab : Precedes a b) (bc : Precedes b c) : Precedes a c := by
  rcases ab with ab | ⟨ab, ab'⟩ <;> rcases bc with bc | ⟨bc, bc'⟩
  · exact Or.inl (String.lt_trans ab bc)
  · exact Or.inl (bc ▸ ab)
  · exact Or.inl (ab ▸ bc)
  · exact Or.inr ⟨ab.trans bc, String.lt_trans ab' bc'⟩

theorem asymm (ab : Precedes a b) : ¬ Precedes b a := by
  rcases ab with ab | ⟨ab, ab'⟩ <;> rintro (ba | ⟨ba, ba'⟩)
  · exact String.lt_asymm ab ba
  · exact String.lt_irrefl _ (ba ▸ ab)
  · exact String.lt_irrefl _ (ab ▸ ba)
  · exact String.lt_asymm ab' ba'

theorem eq_of_not (ab : ¬ Precedes a b) (ba : ¬ Precedes b a) : a = b := by
  simp only [Precedes, not_or, not_and] at ab ba
  have first : a.1 = b.1 := String.le_antisymm ba.1 ab.1
  exact Prod.ext first (String.le_antisymm (ba.2 first.symm) (ab.2 first))

end Precedes

/-- How pairs are compared in sorting. -/
def pairLe (a b : String × String) : Bool :=
  if a.1 == b.1 then !decide (b.2 < a.2) else decide (a.1 < b.1)

theorem pairLe_eq_false_iff {a b : String × String} : pairLe b a = false ↔ Precedes a b := by
  rw [pairLe, Precedes]
  by_cases first : b.1 = a.1
  · simp [first]
  · have distinct : ¬ a.1 = b.1 := fun same => first same.symm
    simp only [beq_iff_eq, first, if_false, decide_eq_false_iff_not, distinct, false_and, or_false]
    constructor
    · intro le
      by_contra not_lt
      exact distinct (String.le_antisymm le not_lt)
    · exact String.lt_asymm

theorem pairLe_eq_true_iff {a b : String × String} : pairLe a b = true ↔ ¬ Precedes b a := by
  rw [← pairLe_eq_false_iff, Bool.not_eq_false]

section Pairs

variable {key : α → String × String}

theorem pairLe_trans (a b c : α) (ab : pairLe (key a) (key b) = true)
    (bc : pairLe (key b) (key c) = true) : pairLe (key a) (key c) = true := by
  rw [pairLe_eq_true_iff] at ab bc ⊢
  intro ca
  by_cases between : Precedes (key a) (key b)
  · exact bc (ca.trans between)
  · exact bc (Precedes.eq_of_not between ab ▸ ca)

theorem pairLe_total (a b : α) : (pairLe (key a) (key b) || pairLe (key b) (key a)) = true := by
  rw [Bool.or_eq_true, pairLe_eq_true_iff, pairLe_eq_true_iff, ← not_and_or]
  exact fun both => both.1.asymm both.2

theorem pairLe_distinct (distinct : (rows.map key).Nodup) :
    rows.Pairwise fun a b =>
      ¬ (pairLe (key a) (key b) = true ∧ pairLe (key b) (key a) = true) := by
  refine (List.pairwise_map.mp distinct).imp fun {a b} ne both => ne ?_
  rw [pairLe_eq_true_iff, pairLe_eq_true_iff] at both
  exact Precedes.eq_of_not both.2 both.1

theorem sortByPair_eq_mergeSort (key : α → String × String) (rows : List α) :
    sortByPair key rows = rows.mergeSort fun a b => pairLe (key a) (key b) := rfl

/-- Rows with distinct pairs are sorted in one way only. -/
theorem sortByPair_eq_iff (distinct : (rows.map key).Nodup) :
    sortByPair key rows = sorted ↔
      sorted.Perm rows ∧ sorted.Pairwise fun a b => Precedes (key a) (key b) := by
  rw [sortByPair_eq_mergeSort,
    mergeSort_eq_iff pairLe_trans pairLe_total (pairLe_distinct distinct)]
  simp only [pairLe_eq_false_iff]

theorem sortByPair_congr (distinct : (rows.map key).Nodup) (perm : others.Perm rows) :
    sortByPair key others = sortByPair key rows :=
  mergeSort_congr pairLe_trans pairLe_total (pairLe_distinct distinct) perm

end Pairs

/-! ### Keys -/

section Keys

variable [BEq β] [LawfulBEq β] {key : α → β}

theorem nodup_of_distinctBy (distinct : distinctBy key rows = true) : (rows.map key).Nodup := by
  induction rows with
  | nil => exact List.nodup_nil
  | cons row rows ih =>
    simp only [distinctBy, Bool.and_eq_true, Bool.not_eq_true', List.any_eq_false, beq_iff_eq]
      at distinct
    rw [List.map_cons, List.nodup_cons, List.mem_map]
    exact ⟨fun ⟨other, member, same⟩ => distinct.1 other member same, ih distinct.2⟩

/-- By a key that no two rows share, what is looked up is the row that has it. -/
theorem find?_eq_some_iff_of_nodup (distinct : (rows.map key).Nodup) {k : β} {row : α} :
    rows.find? (fun other => key other == k) = some row ↔ row ∈ rows ∧ key row = k := by
  constructor
  · intro found
    have same := List.find?_some found
    exact ⟨List.mem_of_find?_eq_some found, beq_iff_eq.mp same⟩
  · rintro ⟨member, rfl⟩
    cases found : rows.find? fun other => key other == key row with
    | none => exact absurd (List.find?_eq_none.mp found row member) (by simp)
    | some other =>
      have same := List.find?_some found
      rw [List.inj_on_of_nodup_map distinct (List.mem_of_find?_eq_some found) member
        (beq_iff_eq.mp same)]

theorem find?_relisted (distinct : (rows.map key).Nodup) (perm : others.Perm rows) (k : β) :
    others.find? (fun row => key row == k) = rows.find? fun row => key row == k := by
  ext row
  rw [find?_eq_some_iff_of_nodup ((perm.map key).nodup_iff.mpr distinct),
    find?_eq_some_iff_of_nodup distinct, perm.mem_iff]

end Keys

end Store

end AgentWorkflow
