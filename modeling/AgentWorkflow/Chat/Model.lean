import AgentWorkflow.Act
import AgentWorkflow.Value.Basic

/-!
Chat models: what answers a conversation, with tools on offer or without.
-/

namespace AgentWorkflow.Chat

/-- A tool as it is described to a model. -/
structure ToolOffer where
  name : String
  description : String
  /-- The schema of the arguments. -/
  parameters : Value

/-- What answers a prompt. -/
abbrev Responder (σ : Type) := List Message → Act σ Message

/-- A chat model. -/
structure Model (σ : Type) where
  /-- Answers without any tools. -/
  respond : Responder σ
  /-- Puts tools on offer; `forced` is the tool that every answer has to call. -/
  offer : List ToolOffer → (forced : Option String) → Act σ (Responder σ)

/-- A model client. What a factory gives need not be a chat model. -/
inductive Client (σ : Type)
  | chat (model : Model σ)
  | other

/-- What makes model clients from a provider and a model name. -/
abbrev ClientFactory (σ : Type) := (provider name : String) → Act σ (Client σ)

end AgentWorkflow.Chat
