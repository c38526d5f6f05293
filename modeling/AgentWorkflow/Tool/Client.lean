import AgentWorkflow.Settings
import AgentWorkflow.Tool.Transport

/-!
Clients of a tool server. A client opens a channel to its server and a session on that channel; what
has been opened is closed in the opposite order. A client whose connection fails has closed
everything that was opened for it, unless it was cancelled.
-/

namespace AgentWorkflow.Tool

variable {σ : Type}

/-- A session with a tool server. -/
structure Session (σ : Type) where
  handshake : Act σ Unit
  call : (tool : String) → (arguments : Record Value) → Act σ (Option Result)
  close : Act σ Unit

/-- A channel to a tool server. -/
structure Channel (σ : Type) where
  openSession : (timeout : Float) → (name version : String) → Act σ (Session σ)
  close : Act σ Unit

/-- What opens channels. -/
abbrev Connector (σ : Type) := (url : String) → (timeout : Float) → Act σ (Channel σ)

/-- A client: where its server is, the session that it holds, and how to close what it has open, the
latest first. -/
structure Client (σ : Type) where
  url : String
  timeoutSeconds : Float
  session : Option (Session σ) := none
  opened : Option (List (Act σ Unit)) := none

/-- A computation on a client and the world around it. -/
abbrev ClientAct (σ : Type) := Act (σ × Client σ)

namespace Client

/-- Whether a client holds a session. -/
def isConnected (client : Client σ) : Bool := client.session.isSome

/-- A client of a server. What is not given, empty or zero is taken from the settings. -/
def create (settings : Settings) (url : Option String) (timeout : Option Float) :
    Except GraphError (Client σ) :=
  match (url.filter (· != "")).orElse fun _ => settings.toolServerUrl.filter (· != "") with
  | none => .error (.execution .serverUrlMissing)
  | some url =>
    let timeoutSeconds :=
      match timeout with
      | some seconds => if seconds == 0.0 then settings.toolTimeoutSeconds else seconds
      | none => settings.toolTimeoutSeconds
    .ok { url, timeoutSeconds }

/-- The client of the server that the settings name, if they name one. -/
def configured (settings : Settings) : Option (Client σ) :=
  if settings.toolServerUrl.all (· == "") then none
  else (create settings settings.toolServerUrl none).toOption

/-- Closes everything in order. Whatever fails does not keep the rest from being closed, and the
last failure counts. -/
def closeAll : List (Act σ Unit) → Act σ Unit
  | [] => pure ()
  | close :: rest => do
    let outcome : Except Failure Unit ← close.run
    closeAll rest
    Act.ofExcept outcome

/-- Closes what has been opened, and then fails. What is cancelled is not cleaned up. -/
def abandon {α : Type} (opened : List (Act σ Unit)) (describe : Failure → Failure)
    (failure : Failure) : Act σ α := do
  if failure.isHandled then closeAll opened
  throw (describe failure)

/-- The longest timeout, in seconds. -/
def longestTimeout : Float := 86400.0 * 1000000000.0

/-- A timeout has to be a number of less than a billion days. -/
def checkTimeout (seconds : Float) : Except Fault Unit :=
  if seconds.isNaN then .error .badValue
  else if longestTimeout ≤ seconds || seconds ≤ -longestTimeout then .error .overflow
  else .ok ()

/-- Opens a channel and a session. What has been opened is closed when the rest fails. -/
def establish (settings : Settings) (connector : Connector σ) (url : String) (timeout : Float) :
    Act σ (Session σ × List (Act σ Unit)) := do
  let failing (failure : Failure) : Failure :=
    failure.causing fun cause => .execution (.connectFailed url cause)
  let channel ← (do Act.ofFault (checkTimeout timeout); connector url timeout : Act σ _).describe
    failing
  let session : Except Failure (Session σ) ←
    (channel.openSession timeout settings.toolClientName settings.toolClientVersion).run
  match session with
  | .error failure => abandon [channel.close] failing failure
  | .ok session =>
    let ready : Except Failure Unit ← session.handshake.run
    match ready with
    | .error failure => abandon [session.close, channel.close] failing failure
    | .ok () => return (session, [session.close, channel.close])

/-- Connects a client. A client that holds a session already is left alone. -/
def connect (settings : Settings) (connector : Connector σ) : ClientAct σ Unit := do
  let (_, client) ← get
  if client.isConnected then return
  let (session, opened) ←
    Act.onFirst (establish settings connector client.url client.timeoutSeconds)
  modify fun (world, client) =>
    (world, { client with session := some session, opened := some opened })

/-- Closes what a client has open. -/
def close : ClientAct σ Unit := do
  let (_, client) ← get
  match client.opened with
  | none => pure ()
  | some opened =>
    modify fun (world, client) => (world, { client with opened := some [] })
    Act.onFirst (closeAll opened)
  modify fun (world, client) => (world, { client with session := none, opened := none })

/-- Calls a tool. -/
def call (tool : String) (arguments : Record Value) : ClientAct σ (Option Result) := do
  let (_, client) ← get
  match client.session with
  | none => .fail (.execution .notConnected)
  | some session =>
    (Act.onFirst (session.call tool arguments)).describe
      (Failure.causing fun cause => .execution (.toolCallFailed tool cause))

/-- Does something while connected. The client is closed whatever comes of it. -/
def whileConnected {α : Type} (settings : Settings) (connector : Connector σ)
    (act : ClientAct σ α) : ClientAct σ α := do
  connect settings connector
  let outcome : Except Failure α ← act.run
  close
  Act.ofExcept outcome

end Client

end AgentWorkflow.Tool
