import AgentWorkflow.Decimal.Digits
import AgentWorkflow.Fault
import AgentWorkflow.Text.Search

/-!
The errors of the library, by cause. Each family is one inductive type; `message` is the only place
where a cause is put into words.

A `Failure` is whatever ends a computation early: an error of the library, a fault from outside, a
cancellation, or a collaborator that never answers. The last two are not errors and no step handles
them.
-/

namespace AgentWorkflow

open Text

/-- What is wrong with a graph snapshot. -/
inductive SnapshotIssue
  | missing
  | graphMissing
  | entryEmpty
  | entryPadded
  | nodeMissing (index : Nat)
  | nodeKeyEmpty (index : Nat)
  | nodeKeyPadded (key : String)
  | nodeKeyRepeated (key : String) (index : Nat)
  | entryUnknown (key : String)
  | edgeMissing (index : Nat)
  | edgeEndMissing (index : Nat)
  | edgePadded (source target : String)
  | edgeLoop (key : String)
  | sourceUnknown (source target : String)
  | targetUnknown (source target : String)
  | edgeRepeated (source target : String)
  /-- There is no way from the entry node to the end. -/
  | endUnreachable (entry : String)
  | graphNotFound (id : String)
  | reported (text : String)
  deriving DecidableEq, Repr

/-- What is wrong with a stored configuration. -/
inductive ConfigIssue
  | malformedJson (what : String)
  | notObject (what : String)
  | invalidFields (what : String) (issues : List FieldIssue)
  | stateSchema (cause : ConfigIssue)
  /-- A state key declares a way of merging that does not exist; `shown` is its text. -/
  | unknownReducer (shown key : String)
  | toolSchemaMalformed (tool : String)
  | toolSchemaNotObject (tool : String)
  | toolPropertiesNotObject (tool : String)
  | within (label : String) (cause : ConfigIssue)
  | ownMember (supervisor : String)
  | modelNameMissing
  | endpointMissing
  | apiKeyMissing (name : String)
  | providerUnsupported (provider : String) (supported : List String)
  | reported (text : String)
  deriving Repr

/-- Why a supervisor has no legal decision. -/
inductive RoutingIssue
  | iterationLimit (label : String) (limit : Int)
  | unreadableArguments (label : String)
  | noDecision (label : String)
  | unknownMember (label decision : String) (members : List String)
  | reported (text : String)
  deriving DecidableEq, Repr

/-- What is wrong with an image. -/
inductive ImageIssue
  | addressEmpty
  | unsupportedScheme (scheme : String)
  | badStatus (status : Int)
  | downloadTooLarge (limit : Int)
  | downloadFailed (text : String)
  | dataEmpty
  | undecodable (limit : Int) (size : Nat)
  | invalidDimensions (width height : Int)
  | irreducible (limit : Int) (smallest : Nat) (quality width height : Int) (size : Nat)
      (sourceWidth sourceHeight : Int)
  | emptyDataUrl
  deriving DecidableEq, Repr

/-- What is wrong with the answer of a tool. -/
inductive ToolIssue
  | reported (texts : List String)
  | noResult
  | structureNotObject
  | unreadable (text : String)
  | noText
  deriving DecidableEq, Repr

mutual

/-- Whatever ends a computation early. -/
inductive Failure
  | error (e : GraphError)
  | fault (f : Fault)
  /-- The computation was cancelled from outside. -/
  | cancelled
  /-- A collaborator never answers, so only a deadline ends the computation. -/
  | unanswered

/-- An error of the library. -/
inductive GraphError
  | snapshot (issue : SnapshotIssue)
  | config (issue : ConfigIssue)
  | build (issue : BuildIssue)
  | routing (issue : RoutingIssue)
  | execution (issue : ExecutionIssue)
  | persistence (issue : PersistenceIssue)
  | other (text : String)

/-- Why a node or an edge cannot be built. -/
inductive BuildIssue
  /-- A node has a type that does not exist, or none. -/
  | unknownNodeType (key : String) (type : Option String)
  | clientFailed (provider model : String) (cause : Failure)
  | notChatModel (label : String)
  | transportRequired (label : String)
  | agentFailed (label : String) (cause : Failure)
  | toolCount (label : String) (count : Nat)
  | transportMissing (label : String)
  | forcedCallsUnsupported (label : String) (cause : Failure)
  | unknownMember (supervisor member : String)
  | supervisorMember (supervisor member : String)
  | sharedMember (member first second : String)
  | nodeRefused (key : String)
  | graphRefused
  | reported (text : String)

/-- Why a step or a run failed. -/
inductive ExecutionIssue
  | timedOut (node : String) (seconds : Float)
  | during (label : String) (cause : Failure)
  | iterationLimit (label output : String)
  | modelCallFailed (label : String) (cause : Failure)
  | tool (issue : ToolIssue)
  | image (issue : ImageIssue)
  | imageNotOptimized (cause : Failure)
  | serverUrlMissing
  | connectFailed (url : String) (cause : Failure)
  | notConnected
  | toolCallFailed (tool : String) (cause : Failure)
  | runFailed (run : String) (cause : Failure)
  | reported (text : String)

/-- Why a run is not recorded. -/
inductive PersistenceIssue
  | createRunFailed (cause : Failure)
  | notStarted
  | reported (text : String)

end

/-- The issue in words. -/
def SnapshotIssue.message : SnapshotIssue → String
  | .missing => "graph snapshot is missing"
  | .graphMissing => "agent graph is missing from snapshot"
  | .entryEmpty => "agent graph entry node is empty"
  | .entryPadded => "agent graph entry node cannot include leading or trailing spaces"
  | .nodeMissing index => "graph node at index " ++ toString index ++ " is missing"
  | .nodeKeyEmpty index => "graph node at index " ++ toString index ++ " has an empty node key"
  | .nodeKeyPadded key => "graph node " ++ quote key ++ " has leading or trailing spaces"
  | .nodeKeyRepeated key index =>
    "duplicate graph node key " ++ quote key ++ " at index " ++ toString index
  | .entryUnknown key => "entry node " ++ quote key ++ " was not found in graph nodes"
  | .edgeMissing index => "graph edge at index " ++ toString index ++ " is missing"
  | .edgeEndMissing index =>
    "graph edge at index " ++ toString index ++ " must include from_node and to_node"
  | .edgePadded source target =>
    "graph edge " ++ quote source ++ " -> " ++ quote target ++ " has leading or trailing spaces"
  | .edgeLoop key => "graph edge " ++ quote key ++ " cannot point to itself"
  | .sourceUnknown source target =>
    "graph edge " ++ quote source ++ " -> " ++ quote target ++ " references unknown source node"
  | .targetUnknown source target =>
    "graph edge " ++ quote source ++ " -> " ++ quote target ++ " references unknown target node"
  | .edgeRepeated source target =>
    "duplicate graph edge " ++ quote source ++ " -> " ++ quote target
  | .endUnreachable entry => "entry node " ++ quote entry ++ " must have a path to END"
  | .graphNotFound id => "agent graph " ++ id ++ " not found"
  | .reported text => text

/-- The issue in words. -/
def ConfigIssue.message : ConfigIssue → String
  | .malformedJson what => what ++ ": invalid config json: " ++ Fault.malformedJson.text
  | .notObject what => what ++ ": config json must be an object"
  | .invalidFields what issues => what ++ ": invalid config: " ++ (Fault.invalidFields issues).text
  | .stateSchema cause => "failed to parse state_schema: " ++ cause.message
  | .unknownReducer shown key => "unknown reducer type " ++ shown ++ " for key " ++ quote key
  | .toolSchemaMalformed tool =>
    "tool " ++ quote tool ++ ": invalid schema json: " ++ Fault.malformedJson.text
  | .toolSchemaNotObject tool => "tool " ++ quote tool ++ ": schema must be a JSON object"
  | .toolPropertiesNotObject tool =>
    "tool " ++ quote tool ++ ": schema properties must be an object"
  | .within label cause => label ++ ": " ++ cause.message
  | .ownMember supervisor =>
    "supervisor node " ++ quote supervisor ++ " cannot list itself as a member"
  | .modelNameMissing => "model name is required"
  | .endpointMissing => "AZURE_OPENAI_ENDPOINT is required for provider 'azure'"
  | .apiKeyMissing name => "API key not found in environment variable: " ++ name
  | .providerUnsupported provider supported =>
    "Provider '" ++ provider ++ "' not supported. Supported: " ++ joined ", " supported
  | .reported text => text

/-- A list of texts in brackets, each one quoted. -/
def quotedList (texts : List String) : String := "[" ++ joined ", " (texts.map quote) ++ "]"

/-- The issue in words. -/
def RoutingIssue.message : RoutingIssue → String
  | .iterationLimit label limit => label ++ " hit max iterations (" ++ toString limit ++ ")"
  | .unreadableArguments label => label ++ ": failed to parse route arguments"
  | .noDecision label => label ++ ": llm did not return a route tool call"
  | .unknownMember label decision members =>
    label ++ ": routed to unknown member " ++ quote decision ++ ", valid members: " ++
      quotedList members
  | .reported text => text

/-- A width and a height. -/
def dimensions (width height : Int) : String := toString width ++ "x" ++ toString height

/-- The issue in words. -/
def ImageIssue.message : ImageIssue → String
  | .addressEmpty => "image url is empty"
  | .unsupportedScheme scheme => "unsupported image url scheme " ++ quote scheme
  | .badStatus status => "failed to download image: status=" ++ toString status
  | .downloadTooLarge limit =>
    "downloaded image exceeded max download bytes (" ++ toString limit ++ ")"
  | .downloadFailed text => "failed to download image: " ++ text
  | .dataEmpty => "image data is empty"
  | .undecodable limit size =>
    "image exceeds max_bytes=" ++ toString limit ++ " (got " ++ toString size ++
      " bytes) and decode failed"
  | .invalidDimensions width height => "image has invalid dimensions " ++ dimensions width height
  | .irreducible limit smallest quality width height size sourceWidth sourceHeight =>
    "unable to optimize image below max_bytes=" ++ toString limit ++ " (smallest=" ++
      toString smallest ++ ", quality=" ++ toString quality ++ ", size=" ++
      dimensions width height ++ ", original_bytes=" ++ toString size ++ ", original_size=" ++
      dimensions sourceWidth sourceHeight ++ ")"
  | .emptyDataUrl => "optimized image data url is empty"

/-- At most `limit` characters of a text, with dots when some are left out. -/
def trimmedText (limit : Nat) (s : String) : String :=
  if s.length ≤ limit then s else String.ofList (s.toList.take limit) ++ "..."

/-- The issue in words. Of a text that cannot be read 160 characters are quoted. -/
def ToolIssue.message : ToolIssue → String
  | .reported texts =>
    let text := joined "; " texts
    "tool returned error: " ++ if text == "" then "unknown tool error" else text
  | .noResult => "tool returned no result"
  | .structureNotObject => "invalid structured tool output: expected a JSON object"
  | .unreadable text =>
    "failed to parse tool output json from text content: " ++ quote (trimmedText 160 text)
  | .noText => "tool returned no text output"

mutual

/-- The text of a failure. A cancellation has none. -/
def Failure.text : Failure → String
  | .error e => e.message
  | .fault f => f.text
  | .cancelled => ""
  | .unanswered => ""

/-- The error in words. -/
def GraphError.message : GraphError → String
  | .snapshot issue => issue.message
  | .config issue => issue.message
  | .build issue => issue.message
  | .routing issue => issue.message
  | .execution issue => issue.message
  | .persistence issue => issue.message
  | .other text => text

/-- The issue in words. -/
def BuildIssue.message : BuildIssue → String
  | .unknownNodeType key type =>
    "node " ++ quote key ++ ": unknown node type " ++ (type.map quote).getD "None"
  | .clientFailed provider model cause =>
    "failed to create model client " ++ provider ++ "/" ++ model ++ ": " ++ cause.text
  | .notChatModel label => label ++ ": model client does not implement a chat model"
  | .transportRequired label => label ++ ": tool transport is required when tools are assigned"
  | .agentFailed label cause => label ++ ": failed to create agent: " ++ cause.text
  | .toolCount label count => label ++ " requires exactly 1 tool, got " ++ toString count
  | .transportMissing label => label ++ ": tool transport is not configured"
  | .forcedCallsUnsupported label cause =>
    label ++ ": model does not support forced tool calls: " ++ cause.text
  | .unknownMember supervisor member =>
    "supervisor node " ++ quote supervisor ++ ": unknown member " ++ quote member
  | .supervisorMember supervisor member =>
    "supervisor node " ++ quote supervisor ++ ": member " ++ quote member ++
      " is itself a supervisor"
  | .sharedMember member first second =>
    "worker " ++ quote member ++ " is a member of multiple supervisors: " ++ quote first ++
      " and " ++
      quote second
  | .nodeRefused key => "failed to add node " ++ quote key ++ ": " ++ Fault.badValue.text
  | .graphRefused => "failed to compile graph: " ++ Fault.badValue.text
  | .reported text => text

/-- The issue in words. -/
def ExecutionIssue.message : ExecutionIssue → String
  | .timedOut node seconds =>
    "node " ++ quote node ++ " timed out after " ++ Decimal.briefText seconds ++ "s"
  | .during label cause => label ++ ": " ++ cause.text
  | .iterationLimit label output => label ++ " hit max iterations: " ++ output
  | .modelCallFailed label cause => label ++ ": llm call failed: " ++ cause.text
  | .tool issue => issue.message
  | .image issue => issue.message
  | .imageNotOptimized cause => "failed to optimize image input: " ++ cause.text
  | .serverUrlMissing => "MCP server URL is not configured (set MCP_SERVER_URL)"
  | .connectFailed url cause => "failed to connect to MCP server " ++ url ++ ": " ++ cause.text
  | .notConnected => "MCP client is not connected"
  | .toolCallFailed tool cause => "mcp call_tool " ++ quote tool ++ " failed: " ++ cause.text
  | .runFailed run cause => "graph run " ++ run ++ " failed: " ++ cause.text
  | .reported text => text

/-- The issue in words. -/
def PersistenceIssue.message : PersistenceIssue → String
  | .createRunFailed cause => "failed to create run record: " ++ cause.text
  | .notStarted => "run tracker was not started"
  | .reported text => text

end

/-- The kinds of errors that callers tell apart. An unreachable end is a kind of validation error,
and a timeout a kind of execution error. -/
inductive ErrorKind
  | graphBackend
  | validation
  | unreachableEnd
  | config
  | build
  | routing
  | execution
  | nodeTimeout
  | persistence
  deriving DecidableEq, Repr

/-- The name of a kind in reports. -/
def ErrorKind.name : ErrorKind → String
  | .graphBackend => "GraphBackendError"
  | .validation => "ValidationError"
  | .unreachableEnd => "UnreachableEndError"
  | .config => "ConfigError"
  | .build => "BuildError"
  | .routing => "RoutingError"
  | .execution => "ExecutionError"
  | .nodeTimeout => "NodeTimeoutError"
  | .persistence => "PersistenceError"

/-- The kinds of errors. -/
def ErrorKind.all : List ErrorKind :=
  [.graphBackend, .validation, .unreachableEnd, .config, .build, .routing, .execution, .nodeTimeout,
    .persistence]

/-- The kind with a name. -/
def ErrorKind.ofName? (name : String) : Option ErrorKind :=
  ErrorKind.all.find? fun kind => kind.name == name

/-- The kind of an error. -/
def GraphError.kind : GraphError → ErrorKind
  | .snapshot (.endUnreachable _) => .unreachableEnd
  | .snapshot _ => .validation
  | .config _ => .config
  | .build _ => .build
  | .routing _ => .routing
  | .execution (.timedOut _ _) => .nodeTimeout
  | .execution _ => .execution
  | .persistence _ => .persistence
  | .other _ => .graphBackend

/-- The kind that a kind is a special case of. -/
def ErrorKind.parent? : ErrorKind → Option ErrorKind
  | .graphBackend => none
  | .unreachableEnd => some .validation
  | .nodeTimeout => some .execution
  | _ => some .graphBackend

/-- A kind followed by the more general ones. -/
def ErrorKind.lineage (kind : ErrorKind) : List ErrorKind :=
  match kind.parent? with
  | none => [kind]
  | some parent =>
    match parent.parent? with
    | none => [kind, parent]
    | some root => [kind, parent, root]

/-- Whether the caller may try again. Every error of the library is final for the run. -/
def GraphError.retryable (_ : GraphError) : Bool := false

/-- An error of a given kind whose text comes from outside. -/
def GraphError.reported : ErrorKind → String → GraphError
  | .graphBackend, text => .other text
  | .validation, text => .snapshot (.reported text)
  | .unreachableEnd, entry => .snapshot (.endUnreachable entry)
  | .config, text => .config (.reported text)
  | .build, text => .build (.reported text)
  | .routing, text => .routing (.reported text)
  | .execution, text => .execution (.reported text)
  | .nodeTimeout, text => .execution (.reported text)
  | .persistence, text => .persistence (.reported text)

/-- Whether a failure is an error or a fault, which a step may handle. -/
def Failure.isHandled : Failure → Bool
  | .error _ => true
  | .fault _ => true
  | .cancelled => false
  | .unanswered => false

/-- The failure as the cause of an error, when a step handles it. -/
def Failure.causing (error : Failure → GraphError) (failure : Failure) : Failure :=
  if failure.isHandled then .error (error failure) else failure

/-- A fault as the cause of an error; errors of the library stay what they are. -/
def Failure.faultCausing (error : Failure → GraphError) : Failure → Failure
  | .fault f => .error (error (.fault f))
  | failure => failure

/-- An error of the library as the cause of another one; faults stay what they are. -/
def Failure.errorCausing (error : Failure → GraphError) : Failure → Failure
  | .error e => .error (error (.error e))
  | failure => failure

/-- An issue of a configuration as the cause of another one; all other failures stay what they
are. -/
def Failure.configCausing (issue : ConfigIssue → ConfigIssue) : Failure → Failure
  | .error (.config cause) => .error (.config (issue cause))
  | failure => failure

end AgentWorkflow
