import AgentWorkflow.Act
import AgentWorkflow.State.Schema

/-!
Steps: what the nodes of a workflow do to its state.
-/

namespace AgentWorkflow.Node

variable {σ : Type}

/-- What a node does: from the state it reads to what it writes. -/
abbrev Step (σ : Type) := State → Act σ Delta

/-- A node that has been built. -/
structure Built (σ : Type) where
  key : String
  description : String
  step : Step σ

/-- Whether a deadline has passed before anything is done. A deadline that is no number has not. -/
def isPast (seconds : Float) : Bool := seconds ≤ 0.0

/-- Nothing comes of a step that never ends but a report on its deadline. -/
def timeOut (key : String) (seconds : Float) : Failure → Failure
  | .unanswered => .error (.execution (.timedOut key seconds))
  | failure => failure

/-- A step that has to end within a time. A step whose deadline has passed is not begun. -/
def withDeadline (key : String) (seconds : Float) (step : Step σ) : Step σ := fun state =>
  if isPast seconds then .fail (.execution (.timedOut key seconds))
  else (step state).describe (timeOut key seconds)

end AgentWorkflow.Node
