import AgentWorkflow.Proofs.State.Schema

/-!
# What a key holds after many writes

The first value of a key is stored as it is and every later one is merged with what is there, so
what a key holds depends on the values written under it alone, in their order. A key that is
appended to holds the items of all of them one after another. A key that is overwritten holds the
last of them.

## Main definitions

* `Record.valuesUnder`: the values that are written under a key
* `Reducer.gather`: what a key holds after further values

## Main results

* `Schema.find?_apply`: what a key holds after a delta
* `Reducer.asItems_gather_append`, `Reducer.gather_overwrite`: the two ways of merging in full
-/

namespace AgentWorkflow

/-! ### The values under a key -/

namespace Record

variable {α : Type} {r s : Record α} {key : String} {value : α}

/-- The values that a record holds under a key, in order. -/
def valuesUnder (r : Record α) (key : String) : List α :=
  (r.filter fun pair => pair.1 == key).map Prod.snd

@[simp] theorem valuesUnder_nil (key : String) : valuesUnder ([] : Record α) key = [] := rfl

theorem valuesUnder_cons (k : String) (v : α) (r : Record α) (key : String) :
    valuesUnder ((k, v) :: r) key =
      if k = key then v :: r.valuesUnder key else r.valuesUnder key := by
  by_cases same : k = key <;> simp [valuesUnder, same]

theorem valuesUnder_append (r s : Record α) (key : String) :
    valuesUnder (r ++ s) key = r.valuesUnder key ++ s.valuesUnder key := by
  simp [valuesUnder]

theorem mem_valuesUnder : value ∈ r.valuesUnder key ↔ (key, value) ∈ r := by
  rw [valuesUnder, List.mem_map]
  constructor
  · rintro ⟨⟨k, v⟩, member, rfl⟩
    obtain ⟨member, same⟩ := List.mem_filter.mp member
    rw [← beq_iff_eq.mp same]
    exact member
  · intro member
    exact ⟨(key, value), List.mem_filter.mpr ⟨member, beq_self_eq_true key⟩, rfl⟩

theorem valuesUnder_eq_nil_iff : r.valuesUnder key = [] ↔ key ∉ r.keys := by
  rw [List.eq_nil_iff_forall_not_mem, keys, List.mem_map]
  constructor
  · rintro none_held ⟨⟨k, v⟩, member, rfl⟩
    exact none_held v (mem_valuesUnder.mpr member)
  · intro free value held
    exact free ⟨(key, value), mem_valuesUnder.mp held, rfl⟩

/-- A record with distinct keys holds at most one value under a key. -/
theorem valuesUnder_of_nodup (nodup : r.keys.Nodup) (key : String) :
    r.valuesUnder key = (r.find? key).toList := by
  induction r with
  | nil => rfl
  | cons pair r ih =>
    obtain ⟨k, v⟩ := pair
    rw [keys, List.map_cons, List.nodup_cons] at nodup
    rw [valuesUnder_cons, find?_cons]
    by_cases same : k = key
    · subst same
      rw [if_pos rfl, if_pos (beq_self_eq_true _), valuesUnder_eq_nil_iff.mpr nodup.1]
      rfl
    · rw [if_neg same, if_neg (by simpa using Ne.symm same), ih nodup.2]

end Record

/-! ### Merging values one after another -/

namespace Reducer

variable {r : Reducer} {held : Option Value} {values : List Value}

/-- What a key holds after further values. The first value of all is kept as it is. -/
def gather (r : Reducer) (held : Option Value) (values : List Value) : Option Value :=
  values.foldl (fun held value => some (held.elim value fun existing => r.merge existing value))
    held

@[simp] theorem gather_nil : r.gather held [] = held := rfl

theorem gather_cons (value : Value) (values : List Value) :
    r.gather held (value :: values) =
      r.gather (some (held.elim value fun existing => r.merge existing value)) values := rfl

theorem gather_append (held : Option Value) (first rest : List Value) :
    r.gather held (first ++ rest) = r.gather (r.gather held first) rest := List.foldl_append

theorem gather_eq_none_iff : r.gather held values = none ↔ held = none ∧ values = [] := by
  induction values generalizing held with
  | nil => simp
  | cons value values ih => simp [gather_cons, ih]

/-- A key that is overwritten holds the last value. -/
theorem gather_overwrite (held : Option Value) (values : List Value) :
    gather .overwrite held values = values.getLast?.or held := by
  induction values generalizing held with
  | nil => rfl
  | cons value values ih =>
    have replaced : held.elim value (fun existing => merge .overwrite existing value) = value := by
      cases held <;> rfl
    rw [gather_cons, replaced, ih, List.getLast?_cons]
    cases values.getLast? <;> rfl

/-- A key that is appended to holds the items of all values. -/
theorem asItems_gather_append (held : Option Value) (values : List Value) :
    ((gather .append held values).getD .null).asItems =
      (held.getD .null).asItems ++ values.flatMap Value.asItems := by
  induction values generalizing held with
  | nil => simp
  | cons value values ih =>
    rw [gather_cons, ih, List.flatMap_cons, ← List.append_assoc, Option.getD_some]
    -- the first value of all is not turned into a list, but it has the same items
    cases held with
    | none => rfl
    | some existing => rw [Option.elim_some, asItems_merge_append, Option.getD_some]

end Reducer

namespace Schema

variable {schema : Schema} {state : State} {delta : Delta} {key : String}

/-- What a key holds after a delta depends on what it held before and on what is written under it
alone. -/
theorem find?_apply (schema : Schema) (state : State) (delta : Delta) (key : String) :
    (schema.apply state delta).find? key =
      match Record.find? schema key with
      | none => state.find? key
      | some r => r.gather (state.find? key) (delta.valuesUnder key) := by
  induction delta generalizing state with
  | nil => cases Record.find? schema key <;> rfl
  | cons pair delta ih =>
    obtain ⟨other, value⟩ := pair
    rw [apply_cons, ih, Record.valuesUnder_cons]
    by_cases same : other = key
    · subst same
      rw [find?_write_self]
      cases Record.find? schema other with
      | none => rfl
      | some r =>
        dsimp only
        rw [if_pos rfl, Reducer.gather_cons]
        cases state.find? other <;> rfl
    · rw [find?_write_of_ne (Ne.symm same), if_neg same]

/-- What a declared key holds after a delta, once the state is in the order of its schema. -/
theorem find?_arrange_apply {r : Reducer} (declared : Record.find? schema key = some r)
    (state : State) (delta : Delta) :
    (schema.arrange (schema.apply state delta)).find? key =
      r.gather (state.find? key) (delta.valuesUnder key) := by
  rw [find?_arrange, declared, Option.bind_some, find?_apply, declared]

end Schema

end AgentWorkflow
