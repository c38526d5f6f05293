import AgentWorkflow.Node.Step

/-!
Workflows: nodes that can run, and the edges between them.

An edge fires when the node that it leaves has run. The edges that leave a supervisor are routes:
which of them fires depends on the state.
-/

namespace AgentWorkflow

/-- Where an edge leads. -/
inductive Target
  | node (key : String)
  | finish
  deriving DecidableEq, Repr

/-- An edge that fires whenever the node it leaves has run. -/
structure Edge where
  source : String
  target : Target
  deriving DecidableEq, Repr

/-- A node of a workflow with the seconds that it may take. -/
structure Task (σ : Type) where
  node : Node.Built σ
  seconds : Float

/-- The key of a node. -/
abbrev Task.key {σ : Type} (task : Task σ) : String := task.node.key

/-- A workflow. -/
structure Workflow (σ : Type) where
  entry : String
  tasks : List (Task σ)
  edges : List Edge
  /-- The members of each supervisor. -/
  routes : Record (List String)
  schema : Schema

namespace Workflow

variable {σ : Type}

/-- The node with a key. -/
def task? (workflow : Workflow σ) (key : String) : Option (Task σ) :=
  workflow.tasks.find? fun task => task.key == key

/-- The targets of the edges that leave a node. -/
def targets (workflow : Workflow σ) (key : String) : List Target :=
  (workflow.edges.filter fun edge => edge.source == key).map Edge.target

end Workflow

end AgentWorkflow
