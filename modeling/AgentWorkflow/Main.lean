import AgentWorkflow.CommandLine
import AgentWorkflow.Rehearsal.Runtime

/-!
The program. It rehearses a run: stored graphs and scripted collaborators are read from the file
that the environment names, and without such a file the store is empty.
-/

namespace AgentWorkflow.Program

/-- The variable that names the file of the rehearsal. -/
def rehearsalVariable : String := "AGENT_WORKFLOW_REHEARSAL"

/-- What is printed for arguments that are not understood, and for help. -/
def usage : String :=
  "usage: agent-workflow [-h] --graph-id GRAPH_ID [--state STATE] [--log-level LOG_LEVEL]\n"

/-- The rehearsal: plain data with graphs, models and a tool server. -/
def readRehearsal : IO Value := do
  match ← IO.getEnv rehearsalVariable with
  | none => return .object []
  | some file =>
    match Json.parse (← IO.FS.readFile file) with
    | .ok rehearsal => return rehearsal
    | .error _ => throw (IO.userError (file ++ " cannot be read as JSON"))

/-- A store that holds the graphs of a rehearsal, as far as it accepts them. -/
def storeOf (rehearsal : Value) : Store.Database :=
  (Rehearsal.itemsUnder rehearsal "graphs").foldl
    (fun db graph => ((Rehearsal.writeGraph graph).run.run db).2) {}

/-- The ending of a command in a rehearsal. -/
def rehearse (settings : Settings) (rehearsal : Value) (arguments : List String) :
    Except Failure CommandLine.Ending :=
  let runtime := Rehearsal.runtime settings (Rehearsal.hasServer rehearsal) Store.load []
  let world := Rehearsal.World.ofValue .unanswered rehearsal
  let command := CommandLine.run settings.logLevel (Run.execute runtime) arguments
  (command.run.run (world, storeOf rehearsal)).1

/-- Prints the ending of a command, and gives its exit code. -/
def conclude : Except Failure CommandLine.Ending → IO UInt32
  | .ok (.stopped code) => do
    if code == 0 then IO.print usage else IO.eprint usage
    return UInt32.ofNat code
  | .ok (.printed _ text) => do
    IO.print text
    return 0
  | .ok (.reported code text) => do
    IO.eprint text
    return UInt32.ofNat code
  | .error failure => do
    IO.eprintln failure.text
    return 1

/-- The names of the environment variables that are read. -/
def settingNames : List String :=
  ["LOG_LEVEL", "GRAPH_NODE_TIMEOUT_SECONDS", "GRAPH_MEMBER_WORKER_TIMEOUT_SECONDS",
    "GRAPH_RECURSION_LIMIT", "MCP_SERVER_URL", "MCP_TIMEOUT_SECONDS"]

/-- The settings in the environment of the program. -/
def readSettings : IO (Except Fault Settings) := do
  let values ← settingNames.mapM fun name => return (name, ← IO.getEnv name)
  return Settings.read fun name => (values.lookup name).join

end AgentWorkflow.Program

open AgentWorkflow Program

/-- Runs the command that the arguments describe. -/
def main (arguments : List String) : IO UInt32 := do
  match ← readSettings with
  | .error fault => conclude (.error (.fault fault))
  | .ok settings => conclude (rehearse settings (← readRehearsal) arguments)
