import AgentWorkflow.Config.Document
import AgentWorkflow.State.Reducer

/-!
The schema of a workflow state: the keys that are carried and how each is merged.

Keys that are not declared are dropped when they are written. The first value of a key is stored as
it is; every later one is merged with the value that is there.
-/

namespace AgentWorkflow

/-- The shared conversation of supervisors and their members. -/
def messagesKey : String := "messages"

/-- The latest decision of a supervisor. -/
def decisionKey : String := "__supervisor_next"

/-- How many decisions supervisors have made. -/
def iterationKey : String := "__supervisor_iteration"

/-- A workflow state: the keys that have been written, with their values. -/
abbrev State := Record Value

/-- What a step writes. -/
abbrev Delta := Record Value

/-- The declared keys of a state, in order. -/
abbrev Schema := Record Reducer

namespace Schema

/-- Reads one declaration. A list or an object cannot name a way of merging at all. -/
def readReducer (key : String) : Value → Except Failure Reducer
  | .str s =>
    match Reducer.ofWord? s with
    | some r => .ok r
    | none => .error (.error (.config (.unknownReducer (Text.quote s) key)))
  | .list _ => .error (.fault .wrongType)
  | .object _ => .error (.fault .wrongType)
  | value =>
    match value.written Value.shown with
    | .ok text => .error (.error (.config (.unknownReducer text key)))
    | .error fault => .error (.fault fault)

/-- Reads a stored schema: state keys with the words for how they are merged. -/
def parse (document : Stored) : Except Failure Schema := do
  let fields ←
    (document.fields "state_schema").mapError (Failure.configCausing .stateSchema)
  let declared ← fields.mapM fun (key, value) => (readReducer key value).map fun r => (key, r)
  return Record.ofPairs declared

/-- The schema in which the declared keys are merged as declared and all further keys are
overwritten. -/
def build (declared : Record Reducer) (further : List String) : Schema :=
  declared.foldl (fun schema (key, r) => schema.put key r)
    (further.foldl (fun schema key => schema.put key .overwrite) [])

/-- A declaration in words; a word that declares nothing is a missing entry. -/
def ofWord (declared : String × String) : Except Fault (String × Reducer) :=
  match Reducer.ofWord? declared.2 with
  | some r => .ok (declared.1, r)
  | none => .error .missingKey

/-- Builds a schema from declarations in words. -/
def ofWords (declared : Record String) (further : List String) : Except Fault Schema :=
  (declared.mapM ofWord).map fun declared => build declared further

/-- Writes one key. -/
def write (schema : Schema) (state : State) (key : String) (value : Value) : State :=
  match schema.find? key with
  | none => state
  | some r =>
    match state.find? key with
    | none => state.put key value
    | some existing => state.put key (r.merge existing value)

/-- Writes the keys of a delta in order. -/
def apply (schema : Schema) (state : State) (delta : Delta) : State :=
  delta.foldl (fun state (key, value) => schema.write state key value) state

/-- The state with its keys in the order of the schema. -/
def arrange (schema : Schema) (state : State) : State :=
  schema.filterMap fun (key, _) => (state.find? key).map fun value => (key, value)

end Schema

end AgentWorkflow
