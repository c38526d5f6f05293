import AgentWorkflow.Error
import AgentWorkflow.Settings
import AgentWorkflow.Text.Lower

/-!
Providers of chat models, and what it takes to reach a model of theirs.
-/

namespace AgentWorkflow.Chat

/-- Where a model is served. -/
inductive Service
  /-- A server that speaks the OpenAI protocol; without a base URL it is the provider's own. -/
  | openai (model : String) (baseUrl : Option String)
  /-- A deployment on Azure. -/
  | azure (deployment endpoint apiVersion : String)
  deriving DecidableEq, Repr

/-- All that a client is made from. -/
structure Connection where
  service : Service
  key : String
  temperature : Float
  maxTokens : Int
  timeoutSeconds : Float

/-- The providers that are supported. -/
def providers : List String := ["openai", "openrouter", "azure", "ollama"]

/-- A provider and a model name as they are compared: blanks at their ends do not count, nor does
the case of the provider. -/
def normalized (provider name : String) : String × String :=
  (Text.lower (Text.strip provider), Text.strip name)

/-- A key that must be there; `name` says where it is looked for. -/
def requireKey (name : String) : Option String → Except ConfigIssue String
  | some key => if key == "" then .error (.apiKeyMissing name) else .ok key
  | none => .error (.apiKeyMissing name)

/-- An address that is not empty. -/
def nonEmpty : Option String → Option String
  | some s => if s == "" then none else some s
  | none => none

/-- What it takes to reach a model: where it is served, and the key. -/
def service (settings : ModelSettings) (provider name : String) :
    Except ConfigIssue (Service × String) :=
  if name == "" then .error .modelNameMissing
  else if provider == "openai" then do
    let key ← requireKey "OPENAI_API_KEY" settings.openaiApiKey
    return (.openai name (nonEmpty settings.openaiBaseUrl), key)
  else if provider == "openrouter" then do
    let key ← requireKey "OPENROUTER_API_KEY" settings.openrouterApiKey
    return (.openai name (nonEmpty (some settings.openrouterBaseUrl)), key)
  else if provider == "azure" then
    match nonEmpty settings.azureEndpoint with
    | none => .error .endpointMissing
    | some endpoint => do
      let key ← requireKey "AZURE_OPENAI_API_KEY" settings.azureApiKey
      return (.azure name endpoint settings.azureApiVersion, key)
  else if provider == "ollama" then
    .ok (.openai name (nonEmpty (some settings.ollamaBaseUrl)), "ollama")
  else .error (.providerUnsupported provider providers)

/-- The connection to a model. -/
def connection (settings : ModelSettings) (provider name : String) :
    Except ConfigIssue Connection := do
  let (provider, name) := normalized provider name
  let (service, key) ← service settings provider name
  return {
    service
    key
    temperature := settings.temperature
    maxTokens := settings.maxTokens
    timeoutSeconds := settings.requestTimeoutSeconds }

end AgentWorkflow.Chat
