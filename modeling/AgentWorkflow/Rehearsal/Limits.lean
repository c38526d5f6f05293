import AgentWorkflow.Config.Field
import AgentWorkflow.Decimal.Reading
import AgentWorkflow.Rehearsal.Reader
import AgentWorkflow.Settings

/-!
Settings read from plain data, where whatever is left out keeps its default.
-/

namespace AgentWorkflow.Rehearsal

/-- A whole number, if a value is one. -/
def whole? : Value → Option Int
  | .int n => some n
  | .bool b => some (if b then 1 else 0)
  | .float x => (Decimal.Binary.ofFloat x).toInt?
  | _ => none

/-- A number, if a value is one. -/
def number? : Value → Option Float
  | .int n => some (Field.ofWhole n)
  | .float x => some x
  | .str s => Decimal.readFloat s
  | _ => none

/-- A whole number under a key. -/
def wholeUnder (v : Value) (key : String) (default : Int) : Int :=
  (whole? (fieldOf v key)).getD default

/-- A number under a key. -/
def numberUnder (v : Value) (key : String) (default : Float) : Float :=
  (number? (valueOf (fieldOf v key))).getD default

/-- The settings that plain data describes. -/
def settingsOf (v : Value) : Settings :=
  let plain : Settings := {}
  { plain with
    logLevel := (textUnder? v "log_level").getD plain.logLevel
    nodeTimeoutSeconds := numberUnder v "default_node_timeout_seconds" plain.nodeTimeoutSeconds
    memberTimeoutSeconds :=
      numberUnder v "member_worker_timeout_seconds" plain.memberTimeoutSeconds
    supervisorMaxIterations :=
      wholeUnder v "supervisor_max_iterations" plain.supervisorMaxIterations
    supervisorTimeoutSeconds :=
      numberUnder v "supervisor_timeout_seconds" plain.supervisorTimeoutSeconds
    workerMaxIterations := wholeUnder v "worker_max_iterations" plain.workerMaxIterations
    recursionLimit := wholeUnder v "graph_recursion_limit" plain.recursionLimit
    toolTimeoutSeconds := numberUnder v "mcp_timeout_seconds" plain.toolTimeoutSeconds
    toolServerUrl := (textUnder? v "mcp_server_url").filter (· != "") }

/-- The limits on images that plain data describes. -/
def limitsOf (v : Value) : ImageLimits :=
  let plain : ImageLimits := {}
  { maxBytes := wholeUnder v "max_bytes" plain.maxBytes
    maxDimension := wholeUnder v "max_dimension" plain.maxDimension
    maxDownloadBytes := wholeUnder v "max_download_bytes" plain.maxDownloadBytes
    minDimension := wholeUnder v "min_dimension" plain.minDimension
    scaleStep := numberUnder v "scale_step" plain.scaleStep
    qualities :=
      match fieldOf v "jpeg_qualities" with
      | .list qualities => qualities.filterMap whole?
      | _ => plain.qualities
    maxResizePasses := wholeUnder v "max_resize_passes" plain.maxResizePasses
    downloadTimeoutSeconds :=
      numberUnder v "download_timeout_seconds" plain.downloadTimeoutSeconds }

/-- The settings of model clients that plain data describes. -/
def modelSettingsOf (v : Value) : ModelSettings :=
  let plain : ModelSettings := {}
  { openaiApiKey := textUnder? v "openai_api_key"
    openaiBaseUrl := textUnder? v "openai_base_url"
    openrouterApiKey := textUnder? v "openrouter_api_key"
    openrouterBaseUrl := (textUnder? v "openrouter_base_url").getD plain.openrouterBaseUrl
    azureApiKey := textUnder? v "azure_openai_api_key"
    azureEndpoint := textUnder? v "azure_openai_endpoint"
    azureApiVersion := (textUnder? v "azure_openai_api_version").getD plain.azureApiVersion
    ollamaBaseUrl := (textUnder? v "ollama_base_url").getD plain.ollamaBaseUrl
    temperature := numberUnder v "default_temperature" plain.temperature
    maxTokens := wholeUnder v "default_max_tokens" plain.maxTokens
    requestTimeoutSeconds := numberUnder v "request_timeout_seconds" plain.requestTimeoutSeconds }

end AgentWorkflow.Rehearsal
