import AgentWorkflow.Proofs.Record
import AgentWorkflow.State.Schema

/-!
# What a state holds after writing

A key is merged as its declaration says, and keys that are not declared are dropped. A key that is
overwritten holds the last value that was written, or what it held before if none was.

## Main results

* `Schema.find?_build`: how the keys of a schema are merged
* `Schema.find?_apply_of_overwrite`: what a key that is overwritten holds after a delta
* `Schema.find?_apply_of_not_mem`: a delta leaves the keys alone that it does not name
* `Schema.arrange_apply_arrange`: merging does not depend on the order of a state
-/

namespace AgentWorkflow.Schema

variable {schema : Schema} {state : State} {delta : Delta} {key other : String} {value : Value}

/-- A declared key is merged as declared, by the last declaration of it; every further key is
overwritten. -/
theorem find?_build (declared : Record Reducer) (further : List String) (key : String) :
    Record.find? (build declared further) key =
      ((Record.ofPairs declared).find? key).or
        (if key ∈ further then some .overwrite else none) := by
  rw [build, Record.find?_foldl_put, Record.find?_foldl_put_same, Record.find?_nil]

theorem mem_keys_build {declared : Record Reducer} {further : List String} :
    key ∈ Record.keys (build declared further) ↔ key ∈ Record.keys declared ∨ key ∈ further := by
  have found : Record.find? (build declared further) key = none ↔
      key ∉ Record.keys declared ∧ key ∉ further := by
    rw [find?_build, Option.or_eq_none_iff, Record.find?_eq_none_iff, Record.mem_keys_ofPairs]
    by_cases listed : key ∈ further <;> simp [listed, Record.keys]
  rw [Record.find?_eq_none_iff, ← not_or] at found
  exact not_iff_not.mp found

/-! ### One key -/

theorem find?_write_of_ne (ne : key ≠ other) :
    (schema.write state other value).find? key = state.find? key := by
  rw [write]
  split
  · rfl
  · split <;> exact Record.find?_put_of_ne _ _ ne

/-- What a key holds after it is written depends on what it held alone. -/
theorem find?_write_self (schema : Schema) (state : State) (key : String) (value : Value) :
    (schema.write state key value).find? key =
      match Record.find? schema key, state.find? key with
      | none, held => held
      | some _, none => some value
      | some r, some existing => some (r.merge existing value) := by
  rw [write]
  cases Record.find? schema key with
  | none => rfl
  | some r => cases state.find? key <;> exact Record.find?_put_self _ _ _

theorem find?_write_of_overwrite (declared : Record.find? schema key = some .overwrite) :
    (schema.write state key value).find? key = some value := by
  rw [find?_write_self, declared]
  cases state.find? key <;> rfl

/-! ### A delta -/

theorem apply_nil : schema.apply state [] = state := rfl

theorem apply_cons : schema.apply state ((key, value) :: delta) =
    schema.apply (schema.write state key value) delta := rfl

theorem apply_append (first second : Delta) :
    schema.apply state (first ++ second) = schema.apply (schema.apply state first) second := by
  rw [apply, apply, apply, List.foldl_append]

/-- Deltas that are applied one after another are one delta. -/
theorem foldl_apply (deltas : List Delta) (state : State) :
    deltas.foldl schema.apply state = schema.apply state deltas.flatten := by
  induction deltas generalizing state with
  | nil => rfl
  | cons delta deltas ih => rw [List.foldl_cons, ih, List.flatten_cons, apply_append]

theorem find?_apply_of_not_mem (free : key ∉ Record.keys delta) :
    (schema.apply state delta).find? key = state.find? key := by
  induction delta generalizing state with
  | nil => rfl
  | cons pair delta ih =>
    obtain ⟨other, value⟩ := pair
    rw [Record.keys, List.map_cons, List.mem_cons, not_or] at free
    rw [apply_cons, ih free.2, find?_write_of_ne free.1]

/-- A key that is overwritten holds the last value that was written. -/
theorem find?_apply_of_overwrite (declared : Record.find? schema key = some .overwrite)
    (state : State) (delta : Delta) :
    (schema.apply state delta).find? key =
      ((Record.ofPairs delta).find? key).or (state.find? key) := by
  induction delta using List.reverseRecOn with
  | nil => rfl
  | append_singleton delta pair ih =>
    obtain ⟨other, value⟩ := pair
    rw [apply_append, apply_cons, apply_nil, Record.ofPairs_concat, Record.find?_put]
    split_ifs with same
    · rw [same] at declared ⊢
      exact find?_write_of_overwrite declared
    · rw [find?_write_of_ne same, ih]

/-- The first value of a key is kept as it is, however the key is merged. -/
theorem find?_apply_of_missing {r : Reducer} (declared : Record.find? schema key = some r)
    (nodup : (Record.keys delta).Nodup) (missing : state.find? key = none) :
    (schema.apply state delta).find? key = delta.find? key := by
  induction delta generalizing state with
  | nil => exact missing
  | cons pair delta ih =>
    obtain ⟨other, value⟩ := pair
    rw [Record.keys, List.map_cons, List.nodup_cons] at nodup
    rw [apply_cons, Record.find?_cons]
    by_cases same : key = other
    · subst same
      rw [find?_apply_of_not_mem nodup.1, find?_write_self, declared, missing, if_pos (by simp)]
    · rw [if_neg (by simpa using same)]
      have untouched : (schema.write state other value).find? key = state.find? key :=
        find?_write_of_ne same
      exact ih nodup.2 (untouched.trans missing)

/-! ### A state in the order of its schema -/

/-- Arranging a state keeps the declared keys and drops the others. -/
theorem find?_arrange (schema : Schema) (state : State) (key : String) :
    (schema.arrange state).find? key =
      (Record.find? schema key).bind fun _ => state.find? key := by
  rw [arrange]
  induction schema with
  | nil => rfl
  | cons entry schema ih =>
    obtain ⟨k, reducer⟩ := entry
    rw [Record.find?_cons]
    cases found : state.find? k with
    | none =>
      rw [List.filterMap_cons_none (by simp [found]), ih]
      split_ifs with same
      · rw [beq_iff_eq.mp same, found, Option.bind_some, Option.bind_fun_none]
      · rfl
    | some value =>
      rw [List.filterMap_cons_some (by simp [found]; rfl), Record.find?_cons, ih]
      split_ifs with same
      · rw [beq_iff_eq.mp same, found, Option.bind_some]
      · rfl

/-- States that agree on a key agree on it after a delta. -/
theorem find?_apply_congr {other : State} (same : state.find? key = other.find? key)
    (delta : Delta) :
    (schema.apply state delta).find? key = (schema.apply other delta).find? key := by
  induction delta generalizing state other with
  | nil => exact same
  | cons pair delta ih =>
    obtain ⟨written, value⟩ := pair
    rw [apply_cons, apply_cons]
    refine ih ?_
    by_cases here : key = written
    · subst here
      rw [find?_write_self, find?_write_self, same]
    · rw [find?_write_of_ne here, find?_write_of_ne here, same]

/-- States that agree on the declared keys are arranged alike. -/
theorem arrange_congr {other : State}
    (same : ∀ key ∈ Record.keys schema, state.find? key = other.find? key) :
    schema.arrange state = schema.arrange other := by
  refine List.filterMap_congr fun entry member => ?_
  dsimp only
  rw [same entry.1 (List.mem_map_of_mem member)]

/-- What is merged into a state does not depend on its order. -/
theorem arrange_apply_arrange (schema : Schema) (state : State) (delta : Delta) :
    schema.arrange (schema.apply (schema.arrange state) delta) =
      schema.arrange (schema.apply state delta) := by
  refine arrange_congr fun key declared => find?_apply_congr ?_ delta
  rw [find?_arrange]
  cases found : Record.find? schema key with
  | none => exact absurd declared (Record.find?_eq_none_iff.mp found)
  | some r => rfl

end AgentWorkflow.Schema
