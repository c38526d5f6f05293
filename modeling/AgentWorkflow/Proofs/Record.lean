import AgentWorkflow.Value.Basic
import Mathlib.Data.List.Induction
import Mathlib.Data.List.Nodup

/-!
# Looking up keys in records

A record is a list of pairs and is looked up from its front, so a look-up finds a member, and finds
every member when the keys are distinct. Writing several keys in turn leaves each with the value
that was written last.
-/

namespace AgentWorkflow.Record

variable {α β : Type} {r : Record α} {key : String} {value : α}

theorem mem_of_find? (found : r.find? key = some value) : (key, value) ∈ r := by
  induction r with
  | nil => simp at found
  | cons pair r ih =>
    obtain ⟨k, v⟩ := pair
    rw [find?_cons] at found
    split_ifs at found with same
    · cases found
      rw [beq_iff_eq.mp same]
      exact List.mem_cons_self
    · exact List.mem_cons_of_mem _ (ih found)

theorem find?_of_mem (nodup : r.keys.Nodup) (member : (key, value) ∈ r) :
    r.find? key = some value := by
  induction r with
  | nil => cases member
  | cons pair r ih =>
    obtain ⟨k, v⟩ := pair
    rw [keys, List.map_cons, List.nodup_cons] at nodup
    rw [find?_cons]
    rcases List.mem_cons.mp member with same | later
    · cases same
      rw [if_pos (beq_self_eq_true _)]
    · have here : key ∈ r.map Prod.fst := List.mem_map.mpr ⟨_, later, rfl⟩
      have other : key ≠ k := fun same => nodup.1 (same ▸ here)
      rw [if_neg (by simpa using other)]
      exact ih nodup.2 later

theorem find?_eq_none_iff : r.find? key = none ↔ key ∉ r.keys := by
  induction r with
  | nil => simp [keys]
  | cons pair r ih =>
    obtain ⟨k, v⟩ := pair
    rw [find?_cons, keys, List.map_cons, List.mem_cons, not_or]
    split_ifs with same
    · simp [beq_iff_eq.mp same]
    · rw [ih, keys]
      simp only [beq_iff_eq] at same
      simp [same]

/-- When the keys are distinct, their order does not tell in what is found. -/
theorem find?_eq_of_perm {r' : Record α} (nodup : r.keys.Nodup) (perm : r'.Perm r)
    (key : String) : r'.find? key = r.find? key := by
  have keys_perm : r'.keys.Perm r.keys := perm.map _
  cases found : r.find? key with
  | some value =>
    exact find?_of_mem (keys_perm.nodup_iff.mpr nodup) (perm.mem_iff.mpr (mem_of_find? found))
  | none =>
    rw [find?_eq_none_iff] at found ⊢
    exact fun member => found (keys_perm.mem_iff.mp member)

theorem has_iff : r.has key = true ↔ key ∈ r.keys := by
  rw [has, ← not_iff_not, ← find?_eq_none_iff, Bool.not_eq_true, Option.isSome_eq_false_iff,
    Option.isNone_iff_eq_none]

theorem has_eq_of_perm {r' : Record α} (perm : r'.Perm r) (key : String) :
    r'.has key = r.has key := by
  have keys_perm : r'.keys.Perm r.keys := perm.map _
  rw [Bool.eq_iff_iff, has_iff, has_iff, keys_perm.mem_iff]

theorem find?_map (f : α → β) (r : Record α) (key : String) :
    find? (r.map fun pair => (pair.1, f pair.2)) key = (r.find? key).map f := by
  induction r with
  | nil => rfl
  | cons pair r ih =>
    obtain ⟨k, v⟩ := pair
    rw [List.map_cons, find?_cons, find?_cons]
    split_ifs
    · rfl
    · exact ih

/-- What is made of the values may be made of them before they are written. -/
theorem put_map (f : α → β) (r : Record α) (key : String) (value : α) :
    put (r.map fun pair => (pair.1, f pair.2)) key (f value) =
      (r.put key value).map fun pair => (pair.1, f pair.2) := by
  induction r with
  | nil => rfl
  | cons pair r ih =>
    obtain ⟨k, v⟩ := pair
    simp only [List.map_cons, put]
    split_ifs
    · rfl
    · rw [ih, List.map_cons]

/-- A pair behind all others is written last. -/
theorem ofPairs_concat (pairs : List (String × α)) (pair : String × α) :
    ofPairs (pairs ++ [pair]) = (ofPairs pairs).put pair.1 pair.2 := by
  rw [ofPairs, List.foldl_append]
  rfl

theorem ofPairs_map (f : α → β) (pairs : List (String × α)) :
    ofPairs (pairs.map fun pair => (pair.1, f pair.2)) =
      (ofPairs pairs).map fun pair => (pair.1, f pair.2) := by
  induction pairs using List.reverseRecOn with
  | nil => rfl
  | append_singleton pairs pair ih =>
    rw [List.map_append, List.map_cons, List.map_nil, ofPairs_concat, ofPairs_concat, ih, put_map]

theorem find?_put (r : Record α) (key other : String) (value : α) :
    (r.put key value).find? other = if other = key then some value else r.find? other := by
  split_ifs with same
  · rw [same, find?_put_self]
  · exact find?_put_of_ne r value same

/-- Keys that are written one after another with the same value. -/
theorem find?_foldl_put_same (keys : List String) (value : α) (r : Record α) (key : String) :
    (keys.foldl (fun r k => put r k value) r).find? key =
      if key ∈ keys then some value else r.find? key := by
  induction keys generalizing r with
  | nil => simp
  | cons k keys ih =>
    rw [List.foldl_cons, ih, find?_put]
    by_cases later : key ∈ keys
    · simp [later]
    · by_cases here : key = k <;> simp [later, here]

/-- Pairs that are written one after another on top of a record. -/
theorem find?_foldl_put (pairs : List (String × α)) (r : Record α) (key : String) :
    (pairs.foldl (fun r pair => put r pair.1 pair.2) r).find? key =
      ((ofPairs pairs).find? key).or (r.find? key) := by
  rw [ofPairs]
  induction pairs using List.reverseRecOn with
  | nil => rfl
  | append_singleton pairs pair ih =>
    rw [List.foldl_append, List.foldl_append]
    simp only [List.foldl_cons, List.foldl_nil]
    rw [find?_put, find?_put]
    split_ifs
    · rfl
    · exact ih

theorem mem_keys_foldl_put {pairs : List (String × α)} {r : Record α} {key : String} :
    key ∈ keys (pairs.foldl (fun r pair => put r pair.1 pair.2) r) ↔
      key ∈ pairs.map Prod.fst ∨ key ∈ r.keys := by
  induction pairs generalizing r with
  | nil => simp
  | cons pair pairs ih =>
    rw [List.foldl_cons, ih, mem_keys_put, List.map_cons, List.mem_cons, ← or_assoc,
      @or_comm (key ∈ pairs.map Prod.fst)]

theorem mem_keys_ofPairs {pairs : List (String × α)} {key : String} :
    key ∈ (ofPairs pairs).keys ↔ key ∈ pairs.map Prod.fst := by
  rw [ofPairs, mem_keys_foldl_put]
  simp [keys]

/-- Of several pairs with one key, the last one is found. -/
theorem find?_ofPairs (pairs : List (String × α)) (key : String) :
    (ofPairs pairs).find? key = find? pairs.reverse key := by
  induction pairs using List.reverseRecOn with
  | nil => rfl
  | append_singleton pairs pair ih =>
    rw [ofPairs_concat, find?_put, List.reverse_concat, find?_cons, ih]
    simp only [beq_iff_eq]

/-- What is found in a record of pairs is one of them. -/
theorem mem_of_find?_ofPairs {pairs : List (String × α)} {key : String} {value : α}
    (found : (ofPairs pairs).find? key = some value) : (key, value) ∈ pairs := by
  rw [find?_ofPairs] at found
  exact List.mem_reverse.mp (mem_of_find? found)

/-- Pairs that agree on a key give it the value they agree on. -/
theorem find?_ofPairs_of_forall {pairs : List (String × α)} {key : String} {value : α}
    (agree : ∀ v, (key, v) ∈ pairs → v = value) (present : key ∈ pairs.map Prod.fst) :
    (ofPairs pairs).find? key = some value := by
  cases found : (ofPairs pairs).find? key with
  | none => exact absurd (mem_keys_ofPairs.mpr present) (find?_eq_none_iff.mp found)
  | some v => rw [agree v (mem_of_find?_ofPairs found)]

theorem put_of_notMem (absent : key ∉ r.keys) : r.put key value = r ++ [(key, value)] := by
  induction r with
  | nil => rfl
  | cons pair r ih =>
    obtain ⟨k, v⟩ := pair
    rw [keys, List.map_cons, List.mem_cons, not_or] at absent
    have other : (k == key) = false := by simpa using Ne.symm absent.1
    rw [put, other, if_neg Bool.false_ne_true, ih absent.2, List.cons_append]

/-- Pairs with distinct keys are a record as they stand. -/
theorem ofPairs_of_nodup (nodup : r.keys.Nodup) : ofPairs r = r := by
  induction r using List.reverseRecOn with
  | nil => rfl
  | append_singleton r pair ih =>
    rw [keys, List.map_append, List.nodup_append] at nodup
    obtain ⟨sooner, -, apart⟩ := nodup
    have absent : pair.1 ∉ keys r := fun member =>
      apart pair.1 member pair.1 (List.mem_singleton_self _) rfl
    rw [ofPairs_concat, ih sooner, put_of_notMem absent]

/-- Distinct keys are found in a record of pairs as they are in the list. -/
theorem find?_ofPairs_of_nodup (nodup : r.keys.Nodup) (key : String) :
    (ofPairs r).find? key = r.find? key := by
  rw [ofPairs_of_nodup nodup]

theorem find?_ofPairs_cons (key other : String) (value : α) (r : Record α) :
    (ofPairs ((key, value) :: r)).find? other =
      ((ofPairs r).find? other).or (if other == key then some value else none) := by
  have first : ofPairs ((key, value) :: r) =
      r.foldl (fun r pair => put r pair.1 pair.2) [(key, value)] := rfl
  rw [first, find?_foldl_put, find?_cons, find?_nil]

/-- Of several pairs with one key, the last one counts. -/
theorem find?_ofPairs_eq_some_iff {pairs : List (String × α)} :
    (ofPairs pairs).find? key = some value ↔
      ∃ earlier later, pairs = earlier ++ (key, value) :: later ∧ key ∉ later.map Prod.fst := by
  induction pairs with
  | nil => simp [ofPairs]
  | cons pair pairs ih =>
    obtain ⟨k, v⟩ := pair
    rw [find?_ofPairs_cons, Option.or_eq_some_iff, ih, find?_eq_none_iff, mem_keys_ofPairs]
    constructor
    · rintro (⟨earlier, later, rfl, last⟩ | ⟨last, here⟩)
      · exact ⟨(k, v) :: earlier, later, rfl, last⟩
      · split_ifs at here with same
        cases here
        cases beq_iff_eq.mp same
        exact ⟨[], pairs, rfl, last⟩
    · rintro ⟨_ | ⟨_, earlier⟩, later, split, last⟩
      · cases split
        exact Or.inr ⟨last, by rw [if_pos (beq_self_eq_true _)]⟩
      · cases split
        exact Or.inl ⟨earlier, later, rfl, last⟩

theorem find?_ofPairs_put_of_ne {other : String} (ne : other ≠ key) :
    (ofPairs (r.put key value)).find? other = (ofPairs r).find? other := by
  induction r with
  | nil =>
    rw [put, find?_ofPairs_cons, if_neg (by simpa using ne)]
    rfl
  | cons pair r ih =>
    obtain ⟨k, v⟩ := pair
    rw [put]
    split_ifs with same
    · have ne' : (other == k) = false := by simpa [beq_iff_eq.mp same] using ne
      rw [find?_ofPairs_cons, find?_ofPairs_cons, ne']
      rfl
    · rw [find?_ofPairs_cons, find?_ofPairs_cons, ih]

theorem keys_put_nodup (nodup : r.keys.Nodup) : (r.put key value).keys.Nodup := by
  induction r with
  | nil => simp [put, keys]
  | cons pair r ih =>
    obtain ⟨k, v⟩ := pair
    rw [keys, List.map_cons, List.nodup_cons] at nodup
    rw [put]
    split_ifs with same
    · rw [keys, List.map_cons, List.nodup_cons]
      exact nodup
    · rw [keys, List.map_cons, List.nodup_cons]
      refine ⟨fun member => ?_, ih nodup.2⟩
      rcases mem_keys_put.mp member with here | old
      · exact same (beq_iff_eq.mpr here)
      · exact nodup.1 old

/-- A record of pairs has distinct keys, even if the pairs do not. -/
theorem keys_ofPairs_nodup (pairs : List (String × α)) : (ofPairs pairs).keys.Nodup := by
  induction pairs using List.reverseRecOn with
  | nil => exact List.nodup_nil
  | append_singleton pairs pair ih =>
    rw [ofPairs_concat]
    exact keys_put_nodup ih

end AgentWorkflow.Record
