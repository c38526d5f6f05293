import AgentWorkflow.Act
import AgentWorkflow.Json.Reader
import AgentWorkflow.Json.Writer
import AgentWorkflow.State.Schema
import AgentWorkflow.Text.Digit
import AgentWorkflow.Value.Plain

/-!
The command line: runs one stored graph and prints its final state.

Long options may be cut short as long as only one of them begins that way, and may hold their value
behind an equals sign. A run that fails is reported with the kind of its error.
-/

namespace AgentWorkflow.CommandLine

open Text

/-- The options by what they give. -/
inductive Flag
  | graphId
  | state
  | logLevel
  | help
  deriving DecidableEq, Repr

/-- The spellings of the options. -/
def spellings : List (String × Flag) :=
  [("-h", .help), ("--help", .help), ("--graph-id", .graphId), ("--state", .state),
    ("--log-level", .logLevel)]

/-- What an argument looks like. -/
inductive Shape
  /-- A value, or an argument that nothing asks for. -/
  | value
  /-- The mark behind which there are no options. -/
  | separator
  /-- An option, with the value that is attached to it. -/
  | option (name : Flag) (attached : Option String)
  /-- The short option for help, with the letters behind it. -/
  | letters (rest : List Char)
  | unknown
  deriving DecidableEq, Repr

/-- Whether a text is a negative number. A line may end behind it. -/
def isNegativeNumber (cs : List Char) : Bool :=
  match cs with
  | '-' :: rest =>
    let rest := if rest.getLast? == some '\n' then rest.dropLast else rest
    let digits (cs : List Char) : Bool := cs.all fun c => (digit? c).isSome
    (!rest.isEmpty && digits rest) ||
      match splitFirst? ['.'] rest with
      | some (whole, fraction) => digits whole && digits fraction && !fraction.isEmpty
      | none => false
  | _ => false

/-- The options whose long spelling begins with a text. -/
def completions (start : List Char) : List Flag :=
  spellings.filterMap fun (spelling, name) =>
    if (dropFront? start spelling.toList).isSome then some name else none

/-- An argument that is no spelling of an option and no beginning of one. -/
def otherShape (cs : List Char) : Shape :=
  if isNegativeNumber cs || cs.contains ' ' then .value else .unknown

/-- An option by its name up to an equals sign, and the value behind it. -/
def splitValue (cs : List Char) : List Char × Option String :=
  match splitFirst? ['='] cs with
  | some (name, value) => (name, some (String.ofList value))
  | none => (cs, none)

/-- The shape of an argument. An argument that begins several options is refused. -/
def shapeOf? (argument : String) : Option Shape :=
  let cs := argument.toList
  let (name, attached) := splitValue cs
  match cs with
  | [] | ['-'] => some .value
  | '-' :: second :: rest =>
    match spellings.lookup argument with
    | some option => some (.option option none)
    | none =>
      match attached, spellings.lookup (String.ofList name) with
      | some value, some option => some (.option option (some value))
      | _, _ =>
        if second == '-' then
          match completions name with
          | [option] => some (.option option attached)
          | [] => some (otherShape cs)
          | _ => none
        else if second == 'h' then some (.letters rest)
        else some (otherShape cs)
  | _ => some .value

/-- The shapes of arguments. Behind a separator every argument is a value. -/
def shapes? : List String → Option (List (String × Shape))
  | [] => some []
  | argument :: rest =>
    if argument == "--" then
      some ((argument, .separator) :: rest.map fun argument => (argument, .value))
    else do
      let shape ← shapeOf? argument
      let shapes ← shapes? rest
      some ((argument, shape) :: shapes)

/-- What is asked for. -/
structure Request where
  graphId : Option String := none
  state : String := "\x7b\x7d"
  logLevel : Option String := none
  deriving DecidableEq, Repr

/-- Puts the value of an option into a request. -/
def Request.give (request : Request) (value : String) : Flag → Request
  | .graphId => { request with graphId := some value }
  | .state => { request with state := value }
  | .logLevel => { request with logLevel := some value }
  | .help => request

/-- What becomes of the arguments. -/
inductive Parsed
  | help
  | refused
  | request (graphId state : String) (logLevel : Option String)
  deriving DecidableEq, Repr

/-- Whether the letters behind the short option for help are passed over. They may ask for help
again; a hyphen or a value is refused. -/
def arePassedOver : List Char → Bool
  | 'h' :: '=' :: _ => false
  | 'h' :: rest => arePassedOver rest
  | '-' :: _ => false
  | _ => true

/-- Reads the arguments one after the other. `extra` says whether there was one that nothing asks
for; it is refused in the end. -/
def readFrom (extra : Bool) (request : Request) : List (String × Shape) → Parsed
  | [] =>
    match extra, request.graphId with
    | false, some graphId => .request graphId request.state request.logLevel
    | _, _ => .refused
  | (_, .value) :: rest | (_, .separator) :: rest | (_, .unknown) :: rest =>
    readFrom true request rest
  | (_, .letters letters) :: _ => if arePassedOver letters then .help else .refused
  | (_, .option .help attached) :: _ => if attached.isNone then .help else .refused
  | (_, .option name (some value)) :: rest => readFrom extra (request.give value name) rest
  | (_, .option name none) :: (value, .value) :: rest =>
    readFrom extra (request.give value name) rest
  | (_, .option _ none) :: _ => .refused

/-- Reads the arguments. -/
def parse (arguments : List String) : Parsed :=
  match shapes? arguments with
  | none => .refused
  | some shapes => readFrom false {} shapes

/-- The levels of a log. -/
def logLevels : List String :=
  ["CRITICAL", "FATAL", "ERROR", "WARN", "WARNING", "INFO", "DEBUG", "NOTSET"]

/-- A character in upper case, as far as the names of levels go. A small dotless i and a long s have
plain capitals. -/
def capital (c : Char) : Char :=
  if c.toNat == 0x131 then 'I' else if c.toNat == 0x17f then 'S' else c.toUpper

/-- Checks the level of the log. An empty level counts as none. -/
def checkLevel (default : String) (level : Option String) : Except Fault Unit :=
  let name := (level.filter (· != "")).getD default
  if logLevels.contains (String.ofList (name.toList.map capital)) then .ok () else .error .badValue

/-- How a command ends. -/
inductive Ending
  /-- The arguments decide it: help, or a refusal. -/
  | stopped (code : Nat)
  /-- The run succeeds, with its final state and the text of it. -/
  | printed (state : Value) (text : String)
  /-- Something is wrong, and reported. -/
  | reported (code : Nat) (text : String)

/-- The report on a run that failed. -/
def failureText (error : GraphError) : String :=
  "Run failed (" ++ error.kind.name ++ "): " ++ error.message ++ "\n"

/-- The report on a state that is no JSON. -/
def malformedText : String := "--state is not valid JSON: " ++ Fault.malformedJson.text ++ "\n"

/-- The report on a state that is no object. -/
def notObjectText : String := "--state must be a JSON object\n"

/-- The text of a state as it is printed. -/
def stateText (state : Value) : Except Fault String :=
  (Json.write { indent := some 2 } state).map (· ++ "\n")

/-- Runs a command. Failures other than errors of the library are left to the caller. -/
def run {ω : Type} (defaultLevel : String) (execute : String → State → Act ω State)
    (arguments : List String) : Act ω Ending := do
  match parse arguments with
  | .help => return .stopped 0
  | .refused => return .stopped 2
  | .request graphId state logLevel =>
    Act.ofFault (checkLevel defaultLevel logLevel)
    match Json.parse state with
    | .error .malformed => return .reported 2 malformedText
    | .error .wholeTooLong => throw (.fault .badValue)
    | .ok (.object initial) =>
      let outcome : Except Failure State ← (execute graphId initial).run
      match outcome with
      | .ok final =>
        let state := Value.plain (.object final)
        return .printed state (← Act.ofFault (stateText state))
      | .error (.error error) => return .reported 1 (failureText error)
      | .error failure => throw failure
    | .ok _ => return .reported 2 notObjectText

end AgentWorkflow.CommandLine
