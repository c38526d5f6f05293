import AgentWorkflow.Json.Writer
import AgentWorkflow.Rehearsal.World
import AgentWorkflow.Tool.Client

/-!
A tool server that only lists what is opened and closed, and answers a call by repeating it.
-/

namespace AgentWorkflow.Rehearsal

/-- Something that was opened. -/
inductive Opening
  | channel (url : String) (timeout : Float)
  | session (client version : String) (timeout : Float)

/-- What was opened and closed, and what goes wrong. -/
structure Sockets where
  connectFailure : Option Failure := none
  handshakeFailure : Option Failure := none
  callFailure : Option Failure := none
  /-- Why no session can be closed. -/
  closingFailure : Option Failure := none
  opened : List Opening := []
  closed : List String := []

namespace Sockets

/-- Fails when there is a reason to. -/
def failIf (reason : Sockets → Option Failure) : Act Sockets Unit := do
  match reason (← get) with
  | some failure => throw failure
  | none => pure ()

/-- Notes that something is opened. -/
def note (opening : Opening) : Act Sockets Unit :=
  modify fun sockets => { sockets with opened := sockets.opened ++ [opening] }

/-- Notes that something is closed, by its name. -/
def close (name : String) : Act Sockets Unit :=
  modify fun sockets => { sockets with closed := sockets.closed ++ [name] }

/-- Repeats a call. -/
def call (tool : String) (arguments : Record Value) : Act Sockets (Option Tool.Result) := do
  failIf callFailure
  let text := tool ++ " " ++ Json.valueText { sorted := true } 0 (.object arguments)
  return some { parts := [.text text] }

/-- Opens channels. -/
def connector : Tool.Connector Sockets := fun url timeout => do
  failIf connectFailure
  note (.channel url timeout)
  return {
    openSession := fun timeout client version => do
      note (.session client version timeout)
      return {
        handshake := failIf handshakeFailure
        call := call
        close := do
          close "session"
          failIf closingFailure }
    close := close "http" }

end Sockets

end AgentWorkflow.Rehearsal
