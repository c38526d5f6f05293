import AgentWorkflow.State.Reducer
import Mathlib.Data.List.Basic

/-!
# Appending one update after another

A key that is appended to holds a list, and an update puts its items behind those that are there.
What is there and what is new are read as lists in the same way: null is empty, lists and tuples are
their items, anything else is one item. So updates can be put together before they are applied, all
of them or some that follow one another, and the order of the items is the same.

Only one level is opened. An item of an update is one item of what the key holds, also when it is a
list itself.

## Main definitions

* `Reducer.concatenated`: updates put together

## Main results

* `Reducer.merge_append_assoc`: appending is associative
* `Reducer.foldl_merge_append`: what is held after some updates
* `Reducer.append_batches`: updates may be put together
-/

namespace AgentWorkflow

namespace Reducer

variable {existing : Value} {updates : List Value}

theorem merge_append_assoc (a b c : Value) :
    merge .append (merge .append a b) c = merge .append a (merge .append b c) := by
  simp only [merge_append_eq, Value.asItems_list, List.append_assoc]

theorem merge_append_null (items : List Value) :
    merge .append (.list items) .null = .list items := rfl

theorem null_merge_append (items : List Value) :
    merge .append .null (.list items) = .list items := rfl

/-- Updates put together, in their order. -/
def concatenated (updates : List Value) : Value := .list (updates.flatMap Value.asItems)

/-- A list that updates are applied to, one after another, holds its own items and then theirs. -/
theorem foldl_merge_append_list (items : List Value) (updates : List Value) :
    updates.foldl (merge .append) (.list items) =
      .list (items ++ updates.flatMap Value.asItems) := by
  induction updates generalizing items with
  | nil => simp
  | cons update updates ih =>
    rw [List.foldl_cons, merge_append_eq, Value.asItems_list, ih, List.flatMap_cons,
      List.append_assoc]

/-- The first update makes a list of any value. -/
theorem foldl_merge_append (existing update : Value) (updates : List Value) :
    (update :: updates).foldl (merge .append) existing =
      .list (existing.asItems ++ (update :: updates).flatMap Value.asItems) := by
  rw [List.foldl_cons, merge_append_eq, foldl_merge_append_list, List.flatMap_cons,
    List.append_assoc]

theorem asItems_concatenated (updates : List Value) :
    (concatenated updates).asItems = updates.flatMap Value.asItems := rfl

/-- Some updates have the same effect as all of them put together. -/
theorem foldl_merge_append_eq_once (existing update : Value) (updates : List Value) :
    (update :: updates).foldl (merge .append) existing =
      merge .append existing (concatenated (update :: updates)) := by
  rw [foldl_merge_append, merge_append_eq, asItems_concatenated]

/-- Updates of a list may be put together in any groups, empty ones among them. -/
theorem foldl_merge_append_batches (items : List Value) (batches : List (List Value)) :
    batches.flatten.foldl (merge .append) (.list items) =
      (batches.map concatenated).foldl (merge .append) (.list items) := by
  rw [foldl_merge_append_list, foldl_merge_append_list, List.flatMap_map]
  simp only [asItems_concatenated, List.flatten_eq_flatMap, List.flatMap_assoc, id_eq]

/-- What is held in the end holds the items of an update one by one, wherever the update comes. -/
theorem foldl_merge_append_around (existing update : Value) (sooner later : List Value) :
    (sooner ++ update :: later).foldl (merge .append) existing =
      .list (existing.asItems ++ sooner.flatMap Value.asItems ++
        (update.asItems ++ later.flatMap Value.asItems)) := by
  cases sooner with
  | nil => rw [List.nil_append, foldl_merge_append, List.flatMap_nil, List.append_nil,
      List.flatMap_cons]
  | cons first sooner => rw [List.cons_append, foldl_merge_append, ← List.cons_append,
      List.flatMap_append, List.flatMap_cons (x := update), List.append_assoc]

/-- Appending is associative, and null changes no list on either side. So one update after another
has the effect of all of them at once: on any value if there is an update at all, and on a list in
any case and in any groups. An item of an update, be it a list or not, is one item of what is held
then, between those before it and those behind it; and a tuple is as good an update as a list. -/
theorem append_batches :
    (∀ a b c, merge .append (merge .append a b) c = merge .append a (merge .append b c)) ∧
    (∀ items, merge .append .null (.list items) = .list items ∧
      merge .append (.list items) .null = .list items) ∧
    (∀ existing update updates, (update :: updates).foldl (merge .append) existing =
      merge .append existing (concatenated (update :: updates))) ∧
    (∀ items updates, updates.foldl (merge .append) (.list items) =
      merge .append (.list items) (concatenated updates)) ∧
    (∀ items (batches : List (List Value)), batches.flatten.foldl (merge .append) (.list items) =
      (batches.map concatenated).foldl (merge .append) (.list items)) ∧
    (∀ existing sooner before item after later,
      (sooner ++ .list (before ++ item :: after) :: later).foldl (merge .append) existing =
        .list (existing.asItems ++ sooner.flatMap Value.asItems ++
          (before ++ item :: after ++ later.flatMap Value.asItems))) ∧
    ∀ existing items,
      merge .append existing (.tuple items) = merge .append existing (.list items) := by
  refine ⟨merge_append_assoc, fun items => ⟨null_merge_append items, merge_append_null items⟩,
    foldl_merge_append_eq_once, fun items updates => ?_, foldl_merge_append_batches, ?_,
    fun existing items => rfl⟩
  · rw [foldl_merge_append_list, merge_append_eq, asItems_concatenated, Value.asItems_list]
  · intro existing sooner before item after later
    exact foldl_merge_append_around existing (.list (before ++ item :: after)) sooner later

/-- A list inside an update stays a list. -/
example : [Value.tuple [.int 1], .null, .list [.list [.int 2], .str "a"]].foldl (merge .append)
    (.str "held") = .list [.str "held", .int 1, .list [.int 2], .str "a"] := rfl

end Reducer

end AgentWorkflow
