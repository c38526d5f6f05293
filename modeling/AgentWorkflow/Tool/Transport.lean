import AgentWorkflow.Chat.Model
import AgentWorkflow.Graph.Snapshot
import AgentWorkflow.Text.Quoted
import AgentWorkflow.Tool.Result
import AgentWorkflow.Tool.Schema

/-!
Tools on a tool server, and tools as an agent is given them.
-/

namespace AgentWorkflow.Tool

variable {σ : Type}

/-- What calls a tool by its name. A call may give no result at all. -/
structure Transport (σ : Type) where
  call : (tool : String) → (arguments : Record Value) → Act σ (Option Result)

/-- What an agent is told about the outcome of a call. -/
structure Report where
  text : String
  failed : Bool := false
  deriving DecidableEq, Repr

/-- A tool as an agent is given it. -/
structure Offered (σ : Type) where
  offer : Chat.ToolOffer
  call : Record Value → Act σ Report

/-- A result as an agent is told it. A failure that the tool reports is told, not raised. -/
def Report.ofResult (tool : String) : Option Result → Report
  | none => { text := "MCP tool " ++ Text.quote tool ++ " returned no result", failed := true }
  | some result =>
    let text := result.firstText
    if result.failed then
      { text := if text == "" then "MCP tool " ++ Text.quote tool ++ " returned an error" else text
        failed := true }
    else { text }

/-- A stored tool as an agent is given it. -/
def offered (transport : Transport σ) (tool : ToolRef) : Except Failure (Offered σ) := do
  let parameters ← argumentSchema tool.inputSchema tool.name
  return {
    offer := {
      name := tool.name
      description := if tool.description == "" then tool.name else tool.description
      parameters := .object parameters }
    call := fun arguments => do
      return Report.ofResult tool.name (← transport.call tool.name arguments) }

/-- The tools of a node as an agent is given them. Without a transport there are none. -/
def offeredAll (transport : Option (Transport σ)) (tools : List ToolRef) :
    Except Failure (List (Offered σ)) :=
  match transport with
  | none => .ok []
  | some transport => tools.mapM (offered transport)

end AgentWorkflow.Tool
