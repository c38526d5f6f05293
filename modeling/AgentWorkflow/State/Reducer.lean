import AgentWorkflow.Value.Basic

/-!
How a new value of a state key is merged with the value that is there. Overwriting keeps the new
value; appending joins the two as lists.

As a list, null is empty, a list or a tuple is its items, and anything else is a single item.
-/

namespace AgentWorkflow

/-- A way of merging values. -/
inductive Reducer
  | append
  | overwrite
  deriving DecidableEq, Repr, Inhabited

/-- The items of a value seen as a list. -/
def Value.asItems : Value → List Value
  | .null => []
  | .list items => items
  | .tuple items => items
  | v => [v]

@[simp] theorem Value.asItems_list (items : List Value) : (Value.list items).asItems = items := rfl

/-- A list with what an update adds to it: nothing, the items of a list or a tuple, or one item. -/
def Value.extend (held : List Value) : Value → List Value
  | .null => held
  | .list items => held ++ items
  | .tuple items => held ++ items
  | v => held ++ [v]

/-- What is new is read as a list in the same way as what is there. -/
theorem Value.extend_eq_append_asItems (held : List Value) (new : Value) :
    new.extend held = held ++ new.asItems := by
  cases new with
  | null => exact (List.append_nil held).symm
  | _ => rfl

namespace Reducer

/-- The word that declares a way of merging. -/
def word : Reducer → String
  | .append => "append"
  | .overwrite => "overwrite"

/-- The way of merging that a word declares. -/
def ofWord? (s : String) : Option Reducer :=
  if s == "append" then some .append else if s == "overwrite" then some .overwrite else none

/-- The value of a key after an update. -/
def merge : Reducer → (existing new : Value) → Value
  | .append, existing, new => .list (new.extend existing.asItems)
  | .overwrite, _, new => new

theorem merge_append_eq (existing new : Value) :
    merge .append existing new = .list (existing.asItems ++ new.asItems) := by
  rw [merge, Value.extend_eq_append_asItems]

@[simp] theorem asItems_merge_append (existing new : Value) :
    (merge .append existing new).asItems = existing.asItems ++ new.asItems := by
  rw [merge_append_eq, Value.asItems_list]

end Reducer

end AgentWorkflow
