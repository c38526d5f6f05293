import AgentWorkflow.Agent.Reasoning
import AgentWorkflow.Conversation
import AgentWorkflow.Graph.Validation
import AgentWorkflow.Node.HumanTurn
import AgentWorkflow.Node.Step
import AgentWorkflow.Value.Plain

/-!
Workers: nodes that let an agent answer.

A plain worker sends one turn of the human and writes the last text of the model under its output
key. A member of a supervisor continues the shared conversation and writes what the agent added to
it. An answer that says that the agent was cut off is an error in both.
-/

namespace AgentWorkflow.Node

variable {σ : Type}

/-- The prompt that goes with an image when a worker has none of its own. -/
def defaultWorkerPrompt : String := "Analyze this image and provide a detailed description."

/-- The label of a worker in errors. -/
def workerLabel (key : String) : String := "worker node " ++ Text.quote key

/-- The label of a member in errors. -/
def memberLabel (key : String) : String := "member worker " ++ Text.quote key

/-- The chat model of a node. -/
def chatModel (label : String) : Option (Chat.Client σ) → Except BuildIssue (Chat.Model σ)
  | some (.chat model) => .ok model
  | _ => .error (.notChatModel label)

/-- Ends a computation with an issue of building. -/
def ofBuild {α : Type} : Except BuildIssue α → Act σ α
  | .ok a => pure a
  | .error issue => .fail (.build issue)

/-- Builds the agent of a worker. A fault in building it is an error of the build. -/
def buildAgent (settings : Settings) (builder : Agent.Builder σ) (label : String) (node : PlanNode)
    (client : Option (Chat.Client σ)) (transport : Option (Tool.Transport σ)) :
    Act σ (WorkerConfig × Agent.Reasoner σ) := do
  let model ← ofBuild (chatModel label client)
  if transport.isNone && !node.tools.isEmpty then .fail (.build (.transportRequired label))
  let config ← Act.ofExcept (WorkerConfig.parse node.node.config label)
  let tools ← Act.ofExcept (Tool.offeredAll transport node.tools)
  let turns := config.effectiveMaxIterations settings
  let agent ← (builder model tools turns config.systemMessage).describe
    (Failure.faultCausing fun cause => .build (.agentFailed label cause))
  return (config, agent)

/-- Runs an agent. A fault is an error of the node. -/
def runAgent (label : String) (agent : Agent.Reasoner σ) (conversation : List Value) :
    Act σ (List Value) :=
  (agent.run conversation).describe
    (Failure.faultCausing fun cause => .execution (.during label cause))

/-- The last text of the model in a conversation, unless it says that the agent was cut off. -/
def finalText (label : String) (conversation : List Value) : Act σ Value := do
  let output ← Act.ofFault (Conversation.lastModelText conversation false)
  if ← Act.ofFault (Conversation.isCutOff output) then
    .fail (.execution (.iterationLimit label output.displayed))
  else return output

/-- What a worker does. -/
def workerStep (prepare : ImagePreparer σ) (node : GraphNode) (config : WorkerConfig)
    (agent : Agent.Reasoner σ) : Step σ := fun state => do
  let label := workerLabel node.key
  let turn ← humanTurn prepare config.input defaultWorkerPrompt (inputText node.inputKey state)
  let conversation ← runAgent label agent [.message turn]
  let output ← finalText label conversation
  match node.outputKey with
  | none => return []
  | some key => return if key == "" then [] else [(key, output)]

/-- Builds a worker. -/
def buildWorker (settings : Settings) (builder : Agent.Builder σ) (prepare : ImagePreparer σ)
    (node : PlanNode) (client : Option (Chat.Client σ)) (transport : Option (Tool.Transport σ)) :
    Act σ (Built σ) := do
  let (config, agent) ←
    buildAgent settings builder (workerLabel node.key) node client transport
  return {
    key := node.key
    description := node.key
    step := workerStep prepare node.node config agent }

/-- The items that a value gives when it is gone through: the characters of a text, the items of a
sequence, the keys of an object and the fields of a record. -/
def itemsOf? : Value → Option (List Value)
  | .str s => some (s.toList.map fun c => .str (String.singleton c))
  | .list items => some items
  | .tuple items => some items
  | .set items => some items
  | .object fields => some (fields.map fun pair => .str pair.1)
  | .edge source target =>
    some [.tuple [.str "from_node", .str source], .tuple [.str "to_node", .str target]]
  | .message m =>
    some (((Value.plain (.message m)).asObject?.getD []).map fun (key, value) =>
      .tuple [.str key, value])
  | _ => none

/-- The shared conversation in a state. Nothing, and whatever counts as nothing, is an empty one. -/
def history (state : State) : Except Fault (List Value) :=
  let messages := (state.find? messagesKey).getD .null
  if messages.isTruthy then
    match itemsOf? messages with
    | some items => .ok items
    | none => .error .wrongType
  else .ok []

/-- What a member does. -/
def memberStep (key : String) (agent : Agent.Reasoner σ) : Step σ := fun state => do
  let label := memberLabel key
  let conversation ← Act.ofFault (history state)
  let result ← runAgent label agent conversation
  let added := result.drop conversation.length
  if added.isEmpty then return []
  let _ ← finalText label added
  return [(messagesKey, .list added)]

/-- Builds a member. -/
def buildMember (settings : Settings) (builder : Agent.Builder σ) (node : PlanNode)
    (client : Option (Chat.Client σ)) (transport : Option (Tool.Transport σ)) :
    Act σ (Built σ) := do
  let (_, agent) ←
    buildAgent settings builder (memberLabel node.key) node client transport
  return {
    key := node.key
    description := "Supervisor member worker: " ++ node.key
    step := memberStep node.key agent }

end AgentWorkflow.Node
