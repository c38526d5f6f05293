import AgentWorkflow.Config.Node
import AgentWorkflow.Graph.Validation
import AgentWorkflow.Node.Step
import AgentWorkflow.Tool.Transport

/-!
Tool nodes: nodes that call exactly one tool, without a model in between.

The arguments are the fields of the input schema. Each is read from the state under the key it is
mapped to, or under its own name, or is a constant of the configuration; a field whose key is
missing is left out. The declared fields of the result are written in the same way.
-/

namespace AgentWorkflow

open Text

/-- How a mapping to a constant begins. -/
def ToolConfig.constantMark : String := "_const:"

/-- Where an argument comes from. -/
inductive ToolConfig.Source
  | constant (text : String)
  | key (name : String)
  deriving DecidableEq, Repr

/-- Where the argument of a field comes from. -/
def ToolConfig.source (config : ToolConfig) (field : String) : Source :=
  match config.inputMapping.find? field with
  | none => .key field
  | some mapped =>
    match dropFront? constantMark.toList mapped.toList with
    | some text => .constant (String.ofList text)
    | none => .key mapped

/-- The state key that a field of the result is written under. -/
def ToolConfig.target (config : ToolConfig) (field : String) : String :=
  (config.outputMapping.find? field).getD field

/-- Whether a text begins like a mapping to a constant. -/
def ToolConfig.marksConstant (text : String) : Bool :=
  (dropFront? constantMark.toList text.toList).isSome

/-- The state key that is noted for a field of the input: the one that it is mapped to, or its own
name. A text that begins like a constant is not noted, even where it is the name of the field. -/
def ToolConfig.inputKey? (config : ToolConfig) (field : String) : Option String :=
  let key := (config.inputMapping.find? field).getD field
  if marksConstant key then none else some key

namespace Node

variable {σ : Type}

/-- What a tool node needs to know to call its tool. -/
structure ToolPlan where
  key : String
  tool : String
  config : ToolConfig
  inputs : List String
  outputs : List String

/-- The label of a tool node in errors. -/
def toolLabel (key : String) : String := "tool node " ++ quote key

/-- The argument of a field, if there is one. -/
def ToolPlan.argument? (plan : ToolPlan) (state : State) (field : String) : Option Value :=
  match plan.config.source field with
  | .constant text => some (.str text)
  | .key name => state.find? name

/-- The arguments of a call. -/
def ToolPlan.arguments (plan : ToolPlan) (state : State) : Record Value :=
  plan.inputs.filterMap fun field => (plan.argument? state field).map fun value => (field, value)

/-- What is written for a decoded result. Of two fields with one state key the later one counts. -/
def ToolPlan.delta (plan : ToolPlan) (output : Record Value) : Delta :=
  Record.ofPairs <| plan.outputs.filterMap fun field =>
    (output.find? field).map fun value => (plan.config.target field, value)

/-- Calls the tool and decodes the result. -/
def ToolPlan.call (plan : ToolPlan) (transport : Tool.Transport σ) (arguments : Record Value) :
    Act σ (Record Value) := do
  let result ← transport.call plan.tool arguments
  Act.ofExcept (Tool.decode result plan.outputs)

/-- What a tool node does. -/
def toolStep (plan : ToolPlan) (transport : Tool.Transport σ) : Step σ := fun state => do
  let output ← (plan.call transport (plan.arguments state)).describe
    (Failure.causing fun cause => .execution (.during (toolLabel plan.key) cause))
  return plan.delta output

/-- What is read from a schema, with an issue reported by the node. -/
def within (label : String) {α : Type} : Except Failure α → Except Failure α :=
  Except.mapError (Failure.configCausing (.within label))

/-- Builds a tool node. -/
def buildTool (node : PlanNode) (transport : Option (Tool.Transport σ)) : Act σ (Built σ) := do
  let label := toolLabel node.key
  match node.tools with
  | [tool] =>
    match transport with
    | none => .fail (.build (.transportMissing label))
    | some transport => do
      let config ← Act.ofExcept (ToolConfig.parse node.node.config label)
      let inputs ← Act.ofExcept (within label (Tool.fieldNames tool.inputSchema tool.name))
      let outputs ← Act.ofExcept (within label (Tool.fieldNames tool.outputSchema tool.name))
      let plan : ToolPlan := { key := node.key, tool := tool.name, config, inputs, outputs }
      return { key := node.key, description := node.key, step := toolStep plan transport }
  | tools => .fail (.build (.toolCount label tools.length))

/-- The state keys that are noted for a tool node. A node without exactly one tool has none. -/
def toolStateKeys (node : PlanNode) : Except Failure (List String) :=
  match node.tools with
  | [tool] => do
    let config ← ToolConfig.parse node.node.config (toolLabel node.key)
    let inputs ← Tool.fieldNames tool.inputSchema tool.name
    let outputs ← Tool.fieldNames tool.outputSchema tool.name
    return inputs.filterMap config.inputKey? ++ outputs.map config.target
  | _ => .ok []

end Node

end AgentWorkflow
