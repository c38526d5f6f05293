import AgentWorkflow.Agent.Reasoning
import AgentWorkflow.Chat.Prompt

/-!
An agent whose turns are limited. A turn is a call of the model, and a round in which the tools that
it asked for are called. When the model asks for no tools its answer ends the conversation.

The engine counts model calls and tool rounds alike and gives up once its limit is reached, even
when nothing is left to do. With a limit of `n` turns an answer therefore ends the conversation only
if it is among the first `n`: the model is called once more after the last round, and whatever it
answers then is dropped.
-/

namespace AgentWorkflow.Agent

open Chat

variable {σ : Type}

/-- The tools of an agent by name. Of two tools with one name the last is kept. -/
def byName (tools : List (Tool.Offered σ)) : Record (Tool.Offered σ) :=
  Record.ofPairs (tools.map fun tool => (tool.offer.name, tool))

/-- What an agent is told when it calls a tool that it does not have. -/
def unknownTool (name : String) (names : List String) : Tool.Report :=
  { text :=
      "Error: " ++ name ++ " is not a valid tool, try one of [" ++ Text.joined ", " names ++ "]."
    failed := true }

/-- The arguments of a call. -/
def arguments : Value → Except Fault (Record Value)
  | .object fields => .ok fields
  | _ => .error .wrongType

/-- Answers one call of a tool. -/
def answer (tools : Record (Tool.Offered σ)) (call : ToolCall) : Act σ Message := do
  let report ←
    match tools.find? call.name with
    | none => pure (unknownTool call.name tools.keys)
    | some tool => do tool.call (← Act.ofFault (arguments call.args))
  return {
    role := .tool
    content := .str report.text
    callId := call.id
    name := some call.name
    failed := report.failed }

/-- The calls of a conversation that no message answers. -/
def unansweredCalls (conversation : List Message) : List ToolCall :=
  let answered := conversation.filterMap fun m => if m.role == .tool then m.callId else none
  (conversation.flatMap fun m => if m.role == .ai then m.calls else []).filter fun call =>
    match call.id with
    | some id => !answered.contains id
    | none => true

/-- Asks the model. A conversation with unanswered calls is not sent. -/
def ask (respond : Responder σ) (systemMessage : String) (conversation : List Message) :
    Act σ Message := do
  if !(unansweredCalls conversation).isEmpty then throw (.fault .badValue)
  let system : List Message :=
    if systemMessage == "" then [] else [{ role := .system, content := .str systemMessage }]
  respond (system ++ conversation)

/-- Continues a conversation for a number of turns. Nothing is given back when the agent is cut
off. -/
def converse (respond : Responder σ) (tools : Record (Tool.Offered σ)) (systemMessage : String) :
    (turns : Nat) → List Message → Act σ (Option (List Message))
  | 0, conversation => do
    let _ ← ask respond systemMessage conversation
    return none
  | turns + 1, conversation => do
    let reply ← ask respond systemMessage conversation
    if reply.calls.isEmpty then return some (conversation ++ [reply])
    else
      let answers ← reply.calls.mapM (answer tools)
      converse respond tools systemMessage turns (conversation ++ reply :: answers)

/-- The number of steps that the engine may take for a limit on the turns. -/
def stepLimit (maxIterations : Int) : Int := 2 * maxIterations + 1

/-- Runs an agent on a conversation. An agent that is cut off leaves the conversation as it was and
says so. -/
def runBounded (respond : Responder σ) (tools : Record (Tool.Offered σ)) (maxIterations : Int)
    (systemMessage : String) (conversation : List Value) : Act σ (List Value) := do
  if stepLimit maxIterations < 1 then throw (.fault .badValue)
  let messages ← Act.ofFault (prompt conversation)
  match ← converse respond tools systemMessage maxIterations.toNat messages with
  | some result => return result.map .message
  | none => return conversation ++ [.message (cutOffMessage maxIterations)]

/-- Builds an agent whose turns are limited. Tools are put on offer once, if there are any. -/
def bounded : Builder σ := fun model tools maxIterations systemMessage => do
  let respond ←
    if tools.isEmpty then pure model.respond
    else model.offer (tools.map fun tool => tool.offer) none
  return { run := runBounded respond (byName tools) maxIterations systemMessage }

end AgentWorkflow.Agent
