import AgentWorkflow.Agent.Reasoning
import AgentWorkflow.Node.HumanTurn

/-!
A rehearsed world: collaborators that follow a script and remember what was asked of them.

A script is a list of replies, used up one after the other. A request is remembered before it is
answered, whether the answer is a failure or not.
-/

namespace AgentWorkflow.Rehearsal

/-- What a script answers. -/
abbrev Reply (α : Type) := Except Failure α

/-- The tools that were put on offer to a model at once. -/
structure Binding where
  tools : List String
  forced : Option String
  deriving DecidableEq, Repr

/-- A chat model: its script, and what was asked of it. -/
structure ScriptedModel where
  replies : List (Reply Message) := []
  /-- Why tools cannot be put on offer, if they cannot. -/
  refusal : Option Failure := none
  prompts : List (List Message) := []
  bindings : List Binding := []

/-- What the request for a client gives. -/
inductive ScriptedClient
  | chat (model : ScriptedModel)
  | other
  | failure (failure : Failure)

/-- What a scripted agent makes of a conversation. -/
inductive Continuation
  /-- Messages are added at the end. -/
  | append (messages : List Value)
  /-- The result is the given conversation. -/
  | whole (conversation : List Value)
  | failure (failure : Failure)

/-- A scripted agent that was built. -/
structure BuiltAgent where
  tools : List String
  maxIterations : Int
  systemMessage : String
  deriving DecidableEq, Repr

/-- A call of a tool. -/
structure Call where
  tool : String
  arguments : Record Value

/-- An image by its bytes and its type. -/
structure Picture where
  data : ByteArray
  mime : String

/-- Everything that collaborators have left to say, and all that was asked of them. -/
structure World where
  /-- What requests for clients give. A model that is not listed has nothing to say. -/
  clients : Record ScriptedClient := []
  requests : List (String × String) := []
  /-- The models of the clients that have been made. -/
  models : Record ScriptedModel := []
  results : Record (List (Reply (Option Tool.Result))) := []
  calls : List Call := []
  /-- Why the tool server cannot be reached, if it cannot. -/
  serverFailure : Option Failure := none
  opened : Nat := 0
  closed : Nat := 0
  images : Record (Reply Picture) := []
  continuations : List Continuation := []
  /-- Why no agent can be built, if none can. -/
  builderFailure : Option Failure := none
  agents : List BuiltAgent := []
  conversations : List (List Value) := []

/-- A failure with a text. -/
def failing (text : String) : Failure := .fault (.collaborator text)

/-- Answers with a reply. -/
def answer {α : Type} : Reply α → Act World α
  | .ok a => pure a
  | .error failure => throw failure

/-- Fails when there is a reason to. -/
def failIf : Option Failure → Act World Unit
  | none => pure ()
  | some failure => throw failure

/-- The name of a model in a script. -/
def modelKey (provider name : String) : String := provider ++ "/" ++ name

/-- Answers a prompt with the next reply of a model. -/
def respond (key : String) : Chat.Responder World := fun prompt => do
  let world ← get
  let model := (world.models.find? key).getD {}
  let asked := { model with prompts := model.prompts ++ [prompt], replies := model.replies.drop 1 }
  set { world with models := world.models.put key asked }
  answer (model.replies.headD (.error (failing "model script exhausted")))

/-- Puts tools on offer to a model. What is refused is not remembered. -/
def offer (key : String) (tools : List Chat.ToolOffer) (forced : Option String) :
    Act World (Chat.Responder World) := do
  let world ← get
  let model := (world.models.find? key).getD {}
  failIf model.refusal
  let binding : Binding := { tools := tools.map fun tool => tool.name, forced }
  let bound := { model with bindings := model.bindings ++ [binding] }
  set { world with models := world.models.put key bound }
  return respond key

/-- The model with a name. -/
def model (key : String) : Chat.Model World := { respond := respond key, offer := offer key }

/-- Makes the client of a model. -/
def makeClient : Chat.ClientFactory World := fun provider name => do
  let key := modelKey provider name
  modify fun world => { world with requests := world.requests ++ [(provider, name)] }
  match ((← get).clients.find? key).getD (.chat {}) with
  | .failure failure => throw failure
  | .other => return .other
  | .chat script =>
    modify fun world => { world with models := world.models.put key script }
    return .chat (model key)

/-- Calls a tool. -/
def callTool (tool : String) (arguments : Record Value) : Act World (Option Tool.Result) := do
  let world ← get
  let left := (world.results.find? tool).getD []
  let call : Call := { tool, arguments }
  set { world with
    calls := world.calls ++ [call]
    results := world.results.put tool (left.drop 1) }
  answer (left.headD (.error (failing "no scripted result")))

/-- The transport to the tool server. -/
def transport : Tool.Transport World := { call := callTool }

/-- Opens the connection to the tool server. -/
def openServer : Act World (Tool.Transport World) := do
  modify fun world => { world with opened := world.opened + 1 }
  failIf (← get).serverFailure
  return transport

/-- Closes the connection to the tool server. -/
def closeServer : Act World Unit :=
  modify fun world => { world with closed := world.closed + 1 }

/-- Prepares an image. An image that is not listed consists of its own address. -/
def prepareImage : Node.ImagePreparer World := fun address => do
  let own : Picture := { data := address.toUTF8, mime := "image/png" }
  let picture ← answer (((← get).images.find? address).getD (.ok own))
  return {
    data := picture.data
    mime := picture.mime
    sourceBytes := picture.data.size
    bytes := picture.data.size
    sourceSize := ⟨0, 0⟩
    size := ⟨0, 0⟩ }

/-- Continues a conversation as the script says. -/
def continueConversation (conversation : List Value) : Act World (List Value) := do
  let world ← get
  set { world with
    conversations := world.conversations ++ [conversation]
    continuations := world.continuations.drop 1 }
  match world.continuations.headD (.failure (failing "agent script exhausted")) with
  | .append messages => return conversation ++ messages
  | .whole result => return result
  | .failure failure => throw failure

/-- Builds a scripted agent. -/
def buildAgent : Agent.Builder World := fun _ tools maxIterations systemMessage => do
  let agent : BuiltAgent :=
    { tools := tools.map fun tool => tool.offer.name, maxIterations, systemMessage }
  modify fun world => { world with agents := world.agents ++ [agent] }
  failIf (← get).builderFailure
  return { run := continueConversation }

end AgentWorkflow.Rehearsal
