import AgentWorkflow.Chat.Prompt
import AgentWorkflow.Decimal.Binary
import AgentWorkflow.Node.Worker

/-!
Supervisors: nodes that ask a model which member acts next.

The model has to call the route tool, whose argument is a member or the word for the end. The
decision is stored in the state and read back by the edges that leave the supervisor. The shared
conversation grows by a marker for every decision, and by the turn of the human with the first one.
-/

namespace AgentWorkflow.Node

variable {σ : Type}

/-- The decision that ends a conversation. -/
def finish : String := "FINISH"

/-- The name of the tool by which a model decides. -/
def routeTool : String := "route"

/-- What a supervisor asks for when it has no prompt of its own. -/
def defaultSupervisorPrompt : String :=
  "Route this to the most appropriate specialist, then FINISH after the specialist responds."

/-- What the model of a supervisor is told first. -/
def supervisorSystemMessage (members : List String) : String :=
  "You are a supervisor tasked with managing a conversation between the following workers: " ++
    Text.joined ", " members ++
    ". Given the conversation so far, respond with the worker to act next or FINISH when the " ++
    "task is complete. Use the 'route' tool to make your selection."

/-- The tool by which a model decides. -/
def routeOffer (members : List String) : Chat.ToolOffer :=
  { name := routeTool
    description := "Select the next worker to act, or FINISH if the task is complete."
    parameters := .object [
      ("type", .str "object"),
      ("properties", .object [("next", .object [
        ("type", .str "string"),
        ("enum", .list ((members ++ [finish]).map .str))])]),
      ("required", .list [.str "next"])] }

/-- How many decisions a state has seen. Numbers are rounded toward zero; anything that is not a
number counts as none. -/
def readIteration (state : State) : Except Fault Int :=
  match (state.find? iterationKey).getD .null with
  | .int n => .ok n
  | .float x =>
    let binary := Decimal.Binary.ofFloat x
    match binary.truncate? with
    | some n => .ok n
    | none => .error (if binary == .nan then .badValue else .overflow)
  | _ => .ok 0

/-- Where the edges of a supervisor lead: to the end when there is no decision or the decision to
finish, and otherwise to what has been decided. -/
inductive Direction
  | finished
  | toward (decision : Value)

/-- The direction in which a state sends a supervisor. -/
def direction (state : State) : Direction :=
  let decision := (state.find? decisionKey).getD .null
  if !decision.isTruthy || Conversation.isText finish decision then .finished else .toward decision

/-- An answer that gives no legal decision. -/
def unrouted {α : Type} (issue : RoutingIssue) : Except Failure α :=
  .error (.error (.routing issue))

/-- The text of a decision, without blanks at its ends. Whatever counts as nothing is empty. -/
def decisionText (next : Value) : Except Fault String :=
  if next.isTruthy then (next.written Value.displayed).map Text.strip else .ok ""

/-- The decision in the answer of a model. Without a call of a tool there is none. -/
def decision (label : String) (reply : Message) : Except Failure String :=
  match reply.calls with
  | [] => unrouted (.noDecision label)
  | call :: _ =>
    match call.args with
    | .object args => (decisionText ((Record.find? args "next").getD .null)).mapError .fault
    | _ => unrouted (.unreadableArguments label)

/-- A decision that is legal: a member, or to finish. -/
def legalDecision (label : String) (members : List String) (reply : Message) :
    Except Failure String := do
  let next ← decision label reply
  if next == finish || members.contains next then return next
  else unrouted (.unknownMember label next members)

/-- What a supervisor writes for a decision. -/
def decisionDelta (iteration : Int) (next : String) (turn : Option Message) : Delta :=
  [(decisionKey, .str next), (iterationKey, .int iteration),
    (messagesKey, .list ((turn.toList ++ [Conversation.marker next]).map .message))]

/-- Adds the answer of a finished conversation under the output key: the latest text of the model
that is not a marker, unless it is empty. -/
def addAnswer (outputKey : Option String) (next : String) (conversation : List Value)
    (delta : Delta) : Except Fault Delta :=
  match outputKey with
  | none => .ok delta
  | some key =>
    if next == finish && key != "" then do
      let output ← Conversation.lastModelText conversation true
      return if output.isTruthy then delta.put key output else delta
    else .ok delta

/-- What a supervisor does. -/
def supervisorStep (prepare : ImagePreparer σ) (node : GraphNode) (config : SupervisorConfig)
    (respond : Chat.Responder σ) : Step σ := fun state => do
  let label := SupervisorConfig.label node.key
  let iteration := (← Act.ofFault (readIteration state)) + 1
  if config.maxIterations < iteration then
    .fail (.routing (.iterationLimit label config.maxIterations))
  let conversation ← Act.ofFault (history state)
  let turn ←
    if iteration == 1 then do
      pure (some (← humanTurn prepare config.input defaultSupervisorPrompt
        (inputText node.inputKey state)))
    else pure none
  let system : Message :=
    { role := .system, content := .str (supervisorSystemMessage config.members) }
  let call : Act σ Message := do
    let rest ←
      match turn with
      | some turn => pure [turn]
      | none => Act.ofFault (Chat.prompt conversation)
    respond (system :: rest)
  let reply ← call.describe
    (Failure.faultCausing fun cause => .execution (.modelCallFailed label cause))
  let next ← Act.ofExcept (legalDecision label config.members reply)
  Act.ofFault (addAnswer node.outputKey next conversation (decisionDelta iteration next turn))

/-- A supervisor that has been built: its node, and what its edges and its deadline need. -/
structure BuiltSupervisor (σ : Type) where
  node : Built σ
  config : SupervisorConfig

/-- The configuration of a supervisor: the given one, or the one that is stored. -/
def supervisorConfig (settings : Settings) (node : PlanNode) :
    Option SupervisorConfig → Except Failure SupervisorConfig
  | some config => .ok config
  | none => SupervisorConfig.parse settings node.key node.node.config

/-- Builds a supervisor. The route tool is put on offer once. -/
def buildSupervisor (settings : Settings) (prepare : ImagePreparer σ) (node : PlanNode)
    (client : Option (Chat.Client σ)) (given : Option SupervisorConfig) :
    Act σ (BuiltSupervisor σ) := do
  let label := SupervisorConfig.label node.key
  let model ← ofBuild (chatModel label client)
  let config ← Act.ofExcept (supervisorConfig settings node given)
  let respond ← (model.offer [routeOffer config.members] (some routeTool)).describe
    (Failure.causing fun cause => .build (.forcedCallsUnsupported label cause))
  return {
    node := {
      key := node.key
      description := "Supervisor routing node: " ++ node.key
      step := supervisorStep prepare node.node config respond }
    config }

end AgentWorkflow.Node
