import AgentWorkflow.Config.Document
import AgentWorkflow.Config.Field
import AgentWorkflow.Settings

/-!
The configurations of nodes, and how they are read from stored documents.

A field that is null counts as left out. A supervisor must list its members, in distinct keys that
are not blank; limits that are left out or not above zero take the values of the settings.
`peekMembers` reads a member list leniently, for use before a configuration has been checked.
-/

namespace AgentWorkflow

/-- What a node sends to its model besides its input text. -/
structure InputConfig where
  mode : String := ""
  prompt : String := ""
  deriving DecidableEq, Repr, Inhabited

/-- The configuration of a worker. -/
structure WorkerConfig where
  input : InputConfig := {}
  systemMessage : String := ""
  maxIterations : Int := 0
  deriving DecidableEq, Repr, Inhabited

/-- The configuration of a tool node: from argument fields to state keys, and from result fields to
state keys. -/
structure ToolConfig where
  inputMapping : Record String := []
  outputMapping : Record String := []
  deriving DecidableEq, Repr, Inhabited

/-- The configuration of a supervisor. -/
structure SupervisorConfig where
  input : InputConfig := {}
  members : List String
  maxIterations : Int
  timeoutSeconds : Float
  deriving Inhabited

/-- How often a worker may call its model: a limit of its own, or that of the settings. -/
def WorkerConfig.effectiveMaxIterations (config : WorkerConfig) (settings : Settings) : Int :=
  if 0 < config.maxIterations then config.maxIterations else settings.workerMaxIterations

/-- Reads a document with a reader of its fields. -/
def Stored.parse {α : Type} (document : Stored) (what : String)
    (read : Record Value → Checked α) : Except Failure α := do
  let fields ← document.fields what
  match read fields with
  | .ok config => .ok config
  | .error issues => .error (.error (.config (.invalidFields what issues)))

/-- A text that is empty when it is left out or null. -/
def optionalText (fields : Record Value) (key : String) : Checked String :=
  Field.optional fields key "" (Field.orNull "" Field.text)

namespace InputConfig

/-- Reads the fields that say what a node sends to its model. -/
def read (fields : Record Value) : Checked InputConfig :=
  (Checked.both (optionalText fields "input_mode") (optionalText fields "input_prompt")).map
    fun (mode, prompt) => { mode, prompt }

/-- Reads a stored input configuration. -/
def parse (document : Stored) (what : String) : Except Failure InputConfig :=
  document.parse what read

end InputConfig

namespace WorkerConfig

/-- Reads the fields of a worker. -/
def read (fields : Record Value) : Checked WorkerConfig :=
  (Checked.both (InputConfig.read fields)
    (Checked.both (optionalText fields "system_message")
      (Field.optional fields "max_iterations" 0 (Field.orNull 0 Field.whole)))).map
    fun (input, systemMessage, maxIterations) => { input, systemMessage, maxIterations }

/-- Reads a stored worker configuration. -/
def parse (document : Stored) (what : String) : Except Failure WorkerConfig :=
  document.parse what read

end WorkerConfig

namespace ToolConfig

/-- Reads the fields of a tool node. -/
def read (fields : Record Value) : Checked ToolConfig :=
  (Checked.both
    (Field.optional fields "input_mapping" [] (Field.orNull [] Field.textRecord))
    (Field.optional fields "output_mapping" [] (Field.orNull [] Field.textRecord))).map
    fun (inputMapping, outputMapping) => { inputMapping, outputMapping }

/-- Reads a stored tool configuration. -/
def parse (document : Stored) (what : String) : Except Failure ToolConfig :=
  document.parse what read

end ToolConfig

namespace SupervisorConfig

/-- The first thing wrong with a list of members, after the members in `seen`. -/
def memberIssue? (seen : List String) : List String → Option String
  | [] => none
  | member :: rest =>
    if Text.isBlankText member then some "members cannot contain empty node keys"
    else if seen.contains member then some ("duplicate member " ++ Text.quote member)
    else memberIssue? (member :: seen) rest

/-- Reads a member list: there is at least one member, none is blank and none occurs twice. -/
def readMembers (value : Value) : Checked (List String) :=
  if !value.isTruthy then .problem (.rejected "config must specify \"members\"")
  else
    match Field.texts value with
    | .error issues => .error issues
    | .ok members =>
      match memberIssue? [] members with
      | some reason => .problem (.rejected reason)
      | none => .ok members

/-- A field that is read as another value when it is left out, null or not above zero. -/
def limit {α : Type} (fields : Record Value) (key : String) (substitute : Value)
    (read : Value → Checked α) : Checked α :=
  (Field.positiveOr substitute read ((fields.find? key).getD .null)).under (.key key)

/-- Reads the fields of a supervisor. -/
def read (settings : Settings) (fields : Record Value) : Checked SupervisorConfig :=
  (Checked.both (InputConfig.read fields)
    (Checked.both (Field.required fields "members" readMembers)
      (Checked.both
        (limit fields "max_iterations" (.int settings.supervisorMaxIterations) Field.whole)
        (limit fields "timeout_seconds" (.float settings.supervisorTimeoutSeconds)
          Field.number)))).map
    fun (input, members, maxIterations, timeoutSeconds) =>
      { input, members, maxIterations, timeoutSeconds }

/-- The label of a supervisor in errors. -/
def label (key : String) : String := "supervisor node " ++ Text.quote key

/-- Reads the stored configuration of the supervisor with the given key. -/
def parse (settings : Settings) (key : String) (document : Stored) :
    Except Failure SupervisorConfig :=
  document.parse (label key) (read settings)

end SupervisorConfig

/-- The texts of a list that holds nothing else. -/
def allTexts? (items : List Value) : Option (List String) := items.mapM Value.asText?

/-- The members that the fields of a supervisor name: a list of texts, or none at all. -/
def listedMembers? (fields : Record Value) : Option (List String) :=
  match fields.find? "members" with
  | none => some []
  | some .null => some []
  | some (.list items) => allTexts? items
  | some _ => none

/-- The members that a stored supervisor configuration names, read leniently: a document with an
issue, or a member list that is not a list of texts, gives none; no member list is an empty one.
Only issues of the configuration are handled. -/
def peekMembers (document : Stored) : Except Failure (Option (List String)) :=
  match document.fields "supervisor" with
  | .ok fields => .ok (listedMembers? fields)
  | .error (.error (.config _)) => .ok none
  | .error failure => .error failure

end AgentWorkflow
