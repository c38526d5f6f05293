import AgentWorkflow.Tool.Transport

/-!
Reasoning agents: what continues a conversation, calling a model and tools as often as it needs to.
-/

namespace AgentWorkflow.Agent

/-- What continues a conversation and gives the whole of it back. -/
structure Reasoner (σ : Type) where
  run : List Value → Act σ (List Value)

/-- What builds an agent from a model, tools, a limit on its turns and a system message. -/
abbrev Builder (σ : Type) :=
  Chat.Model σ → List (Tool.Offered σ) → (maxIterations : Int) → (systemMessage : String) →
    Act σ (Reasoner σ)

/-- What an agent answers when it was cut off. -/
def cutOffText (maxIterations : Int) : String :=
  "Agent stopped: maximum iterations reached (" ++ toString maxIterations ++ ")."

/-- The answer of an agent that was cut off as a message. -/
def cutOffMessage (maxIterations : Int) : Message :=
  { role := .ai, content := .str (cutOffText maxIterations) }

end AgentWorkflow.Agent
