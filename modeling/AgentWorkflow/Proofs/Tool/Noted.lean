import AgentWorkflow.Proofs.Failure
import AgentWorkflow.Tool.Client

/-!
# What a client does with its channels

The channels that a client opens are numbered, and it is noted when a channel is opened, when a
session begins on it and ends, when a call reaches the session, and when the channel is closed. The
notes are made beside the world by a connector that does the same as before, so that a client cannot
tell the difference.

What a client can do at all depends on its status alone: it is apart from its server, or connected,
or it still holds a session that has been ended. This is said once, as a relation between the status
before an operation, what is answered, what is noted, and the status after it.

## Main definitions

* `Note`, `Connector.noted`: what is noted of a connector
* `Operation`: what is asked of a client
* `Moves`: what an operation answers and notes, and the status that it leads to
* `Stands`: the status of a client, and of the one whose channels are noted
* `Performs`: an operation does the same to both, and moves them as their status allows

## Main results

* `performs_of_stands`: every operation does so
-/

namespace AgentWorkflow

variable {σ α : Type}

/-! ### Notes -/

/-- What is done with a channel. To close something is noted with what comes of it. -/
inductive Tool.Note
  | opened (channel : Nat)
  | began (channel : Nat)
  | called (channel : Nat)
  | ended (channel : Nat) (outcome : Except Failure Unit)
  | closed (channel : Nat) (outcome : Except Failure Unit)

open Tool (Note)

/-- The act, with notes of what comes of it. -/
def Act.noting (act : Act σ α) (notes : Except Failure α → List Note) : Act (σ × List Note) α :=
  ExceptT.mk fun (world, earlier) =>
    let (outcome, world) := act.run world
    (outcome, (world, earlier ++ notes outcome))

theorem Act.outcome_noting (act : Act σ α) (notes : Except Failure α → List Note) (world : σ)
    (earlier : List Note) :
    (act.noting notes).outcome (world, earlier) =
      ((act.outcome world).1, (act.outcome world).2, earlier ++ notes (act.outcome world).1) := rfl

namespace Tool

/-- Whether a channel is opened. -/
@[simp]
def Note.opens : Note → Bool
  | .opened _ => true
  | _ => false

/-- The number of the channel that is opened next. -/
def nextNumber (notes : List Note) : Nat := notes.countP Note.opens

theorem nextNumber_append (notes made : List Note) :
    nextNumber (notes ++ made) = nextNumber notes + nextNumber made := List.countP_append

@[simp] theorem nextNumber_nil : nextNumber [] = 0 := rfl

@[simp] theorem nextNumber_cons (note : Note) (notes : List Note) :
    nextNumber (note :: notes) = nextNumber notes + if note.opens then 1 else 0 := List.countP_cons

/-- A note of something that is not noted when it fails. -/
def ifDone (note : Note) : Except Failure α → List Note
  | .ok _ => [note]
  | .error _ => []

/-- A session that notes the calls that reach it, and its end. -/
def Session.noted (number : Nat) (session : Session σ) : Session (σ × List Note) where
  handshake := session.handshake.noting fun _ => []
  call tool arguments := (session.call tool arguments).noting fun _ => [.called number]
  close := session.close.noting fun outcome => [.ended number outcome]

/-- A channel that notes the sessions that begin on it, and that it is closed. -/
def Channel.noted (number : Nat) (channel : Channel σ) : Channel (σ × List Note) where
  openSession timeout name version := do
    let session ← (channel.openSession timeout name version).noting (ifDone (.began number))
    return session.noted number
  close := channel.close.noting fun outcome => [.closed number outcome]

/-- A connector that notes the channels that it opens. -/
def Connector.noted (connector : Connector σ) : Connector (σ × List Note) := fun url timeout => do
  let (_, notes) ← get
  let channel ← (connector url timeout).noting (ifDone (.opened (nextNumber notes)))
  return channel.noted (nextNumber notes)

/-! ### Operations -/

/-- What is asked of a client. -/
inductive Operation
  | connect
  | close
  | call (tool : String) (arguments : Record Value)

/-- An operation on a client. Only a call has a result. -/
def Operation.perform (settings : Settings) (connector : Connector σ) :
    Operation → ClientAct σ (Option Result)
  | .connect => do
    Client.connect settings connector
    return none
  | .close => do
    Client.close
    return none
  | .call tool arguments => Client.call tool arguments

/-- The status of a client, with the number of the channel that its session belongs to. -/
inductive Status
  /-- It holds nothing. -/
  | apart
  /-- It holds a session. -/
  | connected (channel : Nat)
  /-- It holds a session that has been ended, on a channel that has been closed. -/
  | stale (channel : Nat)

/-- The channel to which the session belongs that a client holds. -/
def Status.channel? : Status → Option Nat
  | .apart => none
  | .connected channel => some channel
  | .stale channel => some channel

/-- What comes of ending a session and closing its channel then: both are done in any case, and the
last failure counts. -/
def bothClosed (ending closing : Except Failure Unit) : Except Failure Unit :=
  closing.bind fun _ => ending

/-- A failure to connect, as it is reported. -/
def connectFailure (url : String) : Failure → Failure :=
  Failure.causing fun cause => .execution (.connectFailed url cause)

/-- A failed call, as it is reported. -/
def callFailure (tool : String) : Failure → Failure :=
  Failure.causing fun cause => .execution (.toolCallFailed tool cause)

/-- What is noted when a connection fails and what was opened is closed again, and what comes of
closing it. -/
inductive Cleanup (number : Nat) : List Note → Except Failure Unit → Prop
  | channel (closing : Except Failure Unit) :
    Cleanup number [.opened number, .closed number closing] closing
  | session (ending closing : Except Failure Unit) :
    Cleanup number [.opened number, .began number, .ended number ending, .closed number closing]
      (bothClosed ending closing)

/-- What is noted when a connection is broken off after a channel was opened. -/
inductive Leftover (number : Nat) : List Note → Prop
  | channel : Leftover number [.opened number]
  | session : Leftover number [.opened number, .began number]

/-- What an operation on a client answers and notes, and the status to which it leads; `number` is
that of the channel that is opened next. -/
inductive Moves (url : String) (number : Nat) :
    Status → Operation → Except Failure (Option Result) → List Note → Status → Prop
  | connected : Moves url number .apart .connect (.ok none) [.opened number, .began number]
      (.connected number)
  | holding {status : Status} {channel : Nat} (holds : status.channel? = some channel) :
    Moves url number status .connect (.ok none) [] status
  /-- No channel is opened. -/
  | unreached (cause : Failure) :
    Moves url number .apart .connect (.error (connectFailure url cause)) [] .apart
  /-- A session does not begin, or it is not ready. All that was opened is closed. -/
  | abandoned {cause : Failure} {notes : List Note} {cleanup : Except Failure Unit}
    (handled : cause.isHandled = true) (cleans : Cleanup number notes cleanup) :
    Moves url number .apart .connect
      (cleanup.bind fun _ => .error (connectFailure url cause)) notes .apart
  /-- Nobody waits for a session any more. What was opened is left as it is. -/
  | brokenOff {cause : Failure} {notes : List Note} (unhandled : cause.isHandled = false)
    (leaves : Leftover number notes) :
    Moves url number .apart .connect (.error cause) notes .apart
  | closed {channel : Nat} {ending closing : Except Failure Unit}
    (done : bothClosed ending closing = .ok ()) :
    Moves url number (.connected channel) .close (.ok none)
      [.ended channel ending, .closed channel closing] .apart
  | unclosed {channel : Nat} {ending closing : Except Failure Unit} {failure : Failure}
    (fails : bothClosed ending closing = .error failure) :
    Moves url number (.connected channel) .close (.error failure)
      [.ended channel ending, .closed channel closing] (.stale channel)
  | closedAlready {status : Status} (not_connected : ∀ channel, status ≠ .connected channel) :
    Moves url number status .close (.ok none) [] .apart
  | called {status : Status} {channel : Nat} (holds : status.channel? = some channel)
    (tool : String) (arguments : Record Value) (outcome : Except Failure (Option Result)) :
    Moves url number status (.call tool arguments) (outcome.mapError (callFailure tool))
      [.called channel] status
  | unconnected (tool : String) (arguments : Record Value) :
    Moves url number .apart (.call tool arguments) (.error (.error (.execution .notConnected))) []
      .apart

/-- The status of a client, and of the one of which the same is noted. -/
inductive Stands (url : String) (timeout : Float) :
    Client σ → Client (σ × List Note) → Status → Prop
  | apart : Stands url timeout ⟨url, timeout, none, none⟩ ⟨url, timeout, none, none⟩ .apart
  | connected (number : Nat) (session : Session σ) (channel : Channel σ) :
    Stands url timeout ⟨url, timeout, some session, some [session.close, channel.close]⟩
      ⟨url, timeout, some (session.noted number),
        some [(session.noted number).close, (channel.noted number).close]⟩ (.connected number)
  | stale (number : Nat) (session : Session σ) :
    Stands url timeout ⟨url, timeout, some session, some []⟩
      ⟨url, timeout, some (session.noted number), some []⟩ (.stale number)

/-! ### What the operations do -/

namespace Client

variable {settings : Settings} {connector : Connector σ} {url : String} {timeout : Float}
  {channel : Channel σ} {session : Session σ} {cause : Failure} {before reached begun after : σ}

theorem outcome_closeAll_cons (close : Act σ Unit) (rest : List (Act σ Unit)) (world : σ) :
    (closeAll (close :: rest)).outcome world =
      (((closeAll rest).outcome (close.outcome world).2).1.bind fun _ => (close.outcome world).1,
        ((closeAll rest).outcome (close.outcome world).2).2) := by
  rw [closeAll, Act.outcome_run_bind, Act.outcome_bind]
  rcases (closeAll rest).outcome (close.outcome world).2 with ⟨failure | ⟨⟩, closed⟩
  · rfl
  · exact Act.outcome_ofExcept _ _

/-- What has been opened is closed before a failure is reported. -/
theorem outcome_abandon_of_handled (opened : List (Act σ Unit)) (describe : Failure → Failure)
    (handled : cause.isHandled = true) (world : σ) :
    (abandon opened describe cause : Act σ α).outcome world =
      (((closeAll opened).outcome world).1.bind fun _ => .error (describe cause),
        ((closeAll opened).outcome world).2) := by
  rw [abandon, if_pos handled, Act.outcome_bind]
  rcases (closeAll opened).outcome world with ⟨failure | ⟨⟩, closed⟩ <;> rfl

/-- What is cancelled is not cleaned up. -/
theorem outcome_abandon_of_unhandled (opened : List (Act σ Unit)) (describe : Failure → Failure)
    (unhandled : cause.isHandled = false) (world : σ) :
    (abandon opened describe cause : Act σ α).outcome world = (.error (describe cause), world) := by
  rw [abandon, if_neg (by simp [unhandled])]
  rfl

/-- Opens a channel, if the timeout can be used. -/
def reach (connector : Connector σ) (url : String) (timeout : Float) : Act σ (Channel σ) := do
  Act.ofFault (checkTimeout timeout)
  connector url timeout

theorem reach_gives (usable : checkTimeout timeout = .ok ())
    (opens : (connector url timeout).Gives before channel reached) :
    (reach connector url timeout).Gives before channel reached := by
  rw [reach, Act.gives_bind_iff]
  exact ⟨(), before, Act.gives_ofFault_iff.mpr ⟨usable, rfl⟩, opens⟩

theorem outcome_establish_of_unreached
    (fails : (reach connector url timeout).Fails before cause after) :
    (establish settings connector url timeout).outcome before =
      (.error (connectFailure url cause), after) := by
  change Act.outcome ((reach connector url timeout).describe (connectFailure url) >>= _) before = _
  rw [Act.outcome_bind, Act.outcome_describe, fails]

theorem outcome_establish_of_refused
    (reaches : (reach connector url timeout).Gives before channel reached)
    (fails : (channel.openSession timeout settings.toolClientName settings.toolClientVersion).Fails
      reached cause after) :
    (establish settings connector url timeout).outcome before =
      (abandon [channel.close] (connectFailure url) cause).outcome after := by
  change Act.outcome ((reach connector url timeout).describe (connectFailure url) >>= _) before = _
  rw [Act.outcome_bind, Act.outcome_describe, reaches]
  dsimp only
  rw [Act.outcome_run_bind, fails]
  rfl

theorem outcome_establish_of_unready
    (reaches : (reach connector url timeout).Gives before channel reached)
    (begins : (channel.openSession timeout settings.toolClientName settings.toolClientVersion).Gives
      reached session begun)
    (fails : session.handshake.Fails begun cause after) :
    (establish settings connector url timeout).outcome before =
      (abandon [session.close, channel.close] (connectFailure url) cause).outcome after := by
  change Act.outcome ((reach connector url timeout).describe (connectFailure url) >>= _) before = _
  rw [Act.outcome_bind, Act.outcome_describe, reaches]
  dsimp only
  rw [Act.outcome_run_bind, begins]
  dsimp only
  rw [Act.outcome_run_bind, fails]
  rfl

theorem outcome_establish_of_ready
    (reaches : (reach connector url timeout).Gives before channel reached)
    (begins : (channel.openSession timeout settings.toolClientName settings.toolClientVersion).Gives
      reached session begun)
    (ready : session.handshake.Gives begun () after) :
    (establish settings connector url timeout).outcome before =
      (.ok (session, [session.close, channel.close]), after) := by
  change Act.outcome ((reach connector url timeout).describe (connectFailure url) >>= _) before = _
  rw [Act.outcome_bind, Act.outcome_describe, reaches]
  dsimp only
  rw [Act.outcome_run_bind, begins]
  dsimp only
  rw [Act.outcome_run_bind, ready]
  rfl

theorem outcome_connect_of_holding {client : Client σ} (holds : client.session = some session)
    (world : σ) :
    (connect settings connector).outcome (world, client) = (.ok (), world, client) := by
  have connected : client.isConnected = true := by rw [isConnected, holds, Option.isSome_some]
  change Act.outcome (if client.isConnected then pure () else _) (world, client) = _
  rw [if_pos connected]
  rfl

theorem outcome_connect_of_apart {client : Client σ} (apart : client.session = none) (world : σ) :
    (connect settings connector).outcome (world, client) =
      match (establish settings connector client.url client.timeoutSeconds).outcome world with
      | (.ok (session, opened), after) =>
        (.ok (), after, { client with session := some session, opened := some opened })
      | (.error failure, after) => (.error failure, after, client) := by
  have disconnected : ¬ client.isConnected = true := by simp [isConnected, apart]
  change Act.outcome (if client.isConnected then pure () else _) (world, client) = _
  rw [if_neg disconnected, Act.outcome_bind, Act.outcome_onFirst]
  rcases (establish settings connector client.url client.timeoutSeconds).outcome world with
    ⟨failure | ⟨session, opened⟩, after⟩ <;> rfl

theorem outcome_close_of_none {client : Client σ} (nothing : client.opened = none) (world : σ) :
    close.outcome (world, client) =
      (.ok (), world, { client with session := none, opened := none }) := by
  obtain ⟨url, timeout, session, _⟩ := client
  cases nothing
  rfl

/-- Only what succeeds in closing a client makes it forget its session. -/
theorem outcome_close_of_some {client : Client σ} {opened : List (Act σ Unit)}
    (something : client.opened = some opened) (world : σ) :
    close.outcome (world, client) =
      match (closeAll opened).outcome world with
      | (.ok (), after) => (.ok (), after, { client with session := none, opened := none })
      | (.error failure, after) => (.error failure, after, { client with opened := some [] }) := by
  obtain ⟨url, timeout, session, _⟩ := client
  cases something
  change Act.outcome ((closeAll opened).onFirst >>= _)
    (world, (⟨url, timeout, session, some []⟩ : Client σ)) = _
  rw [Act.outcome_bind, Act.outcome_onFirst]
  rcases (closeAll opened).outcome world with ⟨failure | ⟨⟩, after⟩ <;> rfl

theorem outcome_call_of_apart {client : Client σ} (apart : client.session = none) (tool : String)
    (arguments : Record Value) (world : σ) :
    (call tool arguments).outcome (world, client) =
      (.error (.error (.execution .notConnected)), world, client) := by
  obtain ⟨url, timeout, _, opened⟩ := client
  cases apart
  rfl

theorem outcome_call_of_holding {client : Client σ} (holds : client.session = some session)
    (tool : String) (arguments : Record Value) (world : σ) :
    (call tool arguments).outcome (world, client) =
      (((session.call tool arguments).outcome world).1.mapError (callFailure tool),
        ((session.call tool arguments).outcome world).2, client) := by
  obtain ⟨url, timeout, _, opened⟩ := client
  cases holds
  change ((session.call tool arguments).onFirst.describe (callFailure tool)).outcome
    (world, (⟨url, timeout, some session, opened⟩ : Client σ)) = _
  rw [Act.outcome_describe, Act.outcome_onFirst]
  rcases (session.call tool arguments).outcome world with ⟨failure | result, after⟩ <;> rfl

/-! ### Nothing changes when it is noted -/

section Noted

variable {number : Nat} {notes : List Note}

theorem outcome_connector_noted (connector : Connector σ) (world : σ) :
    (connector.noted url timeout).outcome (world, notes) =
      match (connector url timeout).outcome world with
      | (.ok channel, reached) => (.ok (channel.noted (nextNumber notes)),
          reached, notes ++ [.opened (nextNumber notes)])
      | (.error cause, reached) => (.error cause, reached, notes) := by
  rw [Connector.noted, Act.outcome_bind]
  change Act.outcome ((connector url timeout).noting (ifDone (.opened (nextNumber notes))) >>=
    fun channel => pure (channel.noted (nextNumber notes))) (world, notes) = _
  rw [Act.outcome_bind, Act.outcome_noting]
  rcases (connector url timeout).outcome world with ⟨cause | channel, reached⟩
  · simp only [ifDone, List.append_nil]
  · rfl

theorem outcome_reach_noted (connector : Connector σ) (world : σ) :
    (reach connector.noted url timeout).outcome (world, notes) =
      match (reach connector url timeout).outcome world with
      | (.ok channel, reached) => (.ok (channel.noted (nextNumber notes)),
          reached, notes ++ [.opened (nextNumber notes)])
      | (.error cause, reached) => (.error cause, reached, notes) := by
  rw [reach, reach, Act.outcome_bind, Act.outcome_bind]
  cases checkTimeout timeout with
  | error fault => rfl
  | ok usable => exact outcome_connector_noted connector world

theorem outcome_openSession_noted (channel : Channel σ) (name version : String) (world : σ) :
    ((channel.noted number).openSession timeout name version).outcome (world, notes) =
      match (channel.openSession timeout name version).outcome world with
      | (.ok session, begun) => (.ok (session.noted number), begun, notes ++ [.began number])
      | (.error cause, begun) => (.error cause, begun, notes) := by
  change Act.outcome ((channel.openSession timeout name version).noting
    (ifDone (.began number)) >>= _) (world, notes) = _
  rw [Act.outcome_bind, Act.outcome_noting]
  rcases (channel.openSession timeout name version).outcome world with ⟨cause | session, begun⟩
  · simp only [ifDone, List.append_nil]
  · rfl

theorem outcome_handshake_noted (number : Nat) (session : Session σ) (world : σ)
    (notes : List Note) :
    (session.noted number).handshake.outcome (world, notes) =
      ((session.handshake.outcome world).1, (session.handshake.outcome world).2, notes) := by
  change (session.handshake.noting fun _ => []).outcome (world, notes) = _
  rw [Act.outcome_noting, List.append_nil]

/-- What is noted when a channel without a session is closed. -/
theorem outcome_closeChannel_noted (number : Nat) (channel : Channel σ) (world : σ)
    (notes : List Note) :
    ∃ closing after,
      (closeAll [channel.close]).outcome world = (closing, after) ∧
      (closeAll [(channel.noted number).close]).outcome (world, notes) =
        (closing, after, notes ++ [.closed number closing]) :=
  ⟨_, _, outcome_closeAll_cons _ _ _, outcome_closeAll_cons _ _ _⟩

/-- What is noted when a session is ended and its channel is closed. -/
theorem outcome_closeSession_noted (number : Nat) (session : Session σ) (channel : Channel σ)
    (world : σ) (notes : List Note) :
    ∃ ending closing after,
      (closeAll [session.close, channel.close]).outcome world =
        (bothClosed ending closing, after) ∧
      (closeAll [(session.noted number).close, (channel.noted number).close]).outcome
          (world, notes) =
        (bothClosed ending closing,
          after, notes ++ [.ended number ending, .closed number closing]) := by
  let ended := (session.close.outcome world).2
  refine ⟨(session.close.outcome world).1, (channel.close.outcome ended).1,
    (channel.close.outcome ended).2, ?_, ?_⟩
  · simp only [outcome_closeAll_cons]
    rfl
  · simp only [outcome_closeAll_cons, Session.noted, Channel.noted, Act.outcome_noting,
      List.append_assoc]
    rfl

end Noted

end Client

/-! ### How an operation moves a client -/

section Performing

variable {settings : Settings} {connector : Connector σ} {operation : Operation} {world : σ}
  {notes : List Note} {url : String} {timeout : Float}

theorem outcome_perform_connect (scene : σ × Client σ) :
    (Operation.connect.perform settings connector).outcome scene =
      (((Client.connect settings connector).outcome scene).1.map fun _ => none,
        ((Client.connect settings connector).outcome scene).2) := by
  rw [Operation.perform, Act.outcome_bind]
  rcases (Client.connect settings connector).outcome scene with ⟨failure | _, after⟩ <;> rfl

/-- A client that connects holds the session that was begun, and what was opened for it. -/
theorem outcome_perform_connect_of_gives {session : Session σ} {opened : List (Act σ Unit)}
    {after : σ} (gives : (Client.establish settings connector url timeout).Gives world
      (session, opened) after) :
    (Operation.connect.perform settings connector).outcome (world, ⟨url, timeout, none, none⟩) =
      (.ok none, after, ⟨url, timeout, some session, some opened⟩) := by
  rw [outcome_perform_connect, Client.outcome_connect_of_apart rfl, gives]
  rfl

theorem outcome_perform_connect_of_fails {failure : Failure} {after : σ}
    (fails : (Client.establish settings connector url timeout).Fails world failure after) :
    (Operation.connect.perform settings connector).outcome (world, ⟨url, timeout, none, none⟩) =
      (.error failure, after, ⟨url, timeout, none, none⟩) := by
  rw [outcome_perform_connect, Client.outcome_connect_of_apart rfl, fails]
  rfl

theorem outcome_perform_close (settings : Settings) (connector : Connector σ)
    (scene : σ × Client σ) :
    (Operation.close.perform settings connector).outcome scene =
      ((Client.close.outcome scene).1.map fun _ => none, (Client.close.outcome scene).2) := by
  rw [Operation.perform, Act.outcome_bind]
  rcases Client.close.outcome scene with ⟨failure | _, after⟩ <;> rfl

/-- An operation does the same to a client and to the one of which notes are made, and it moves both
as their status allows. -/
inductive Performs (settings : Settings) (connector : Connector σ) (url : String) (timeout : Float)
    (operation : Operation) (world : σ) (notes : List Note) (plain : Client σ)
    (noted : Client (σ × List Note)) (status : Status) : Prop
  | intro {outcome : Except Failure (Option Result)} {after : σ} {made : List Note}
    {plain' : Client σ} {noted' : Client (σ × List Note)} {status' : Status}
    (performs : (operation.perform settings connector).outcome (world, plain) =
      (outcome, after, plain'))
    (performs_noted : (operation.perform settings connector.noted).outcome ((world, notes), noted) =
      (outcome, (after, notes ++ made), noted'))
    (stands : Stands url timeout plain' noted' status')
    (moves : Moves url (nextNumber notes) status operation outcome made status')

/-- A client that fails to connect stays apart. -/
theorem performs_connect_of_fails {failure : Failure} {after : σ} {made : List Note}
    (fails : (Client.establish settings connector url timeout).Fails world failure after)
    (fails_noted : (Client.establish settings connector.noted url timeout).Fails (world, notes)
      failure (after, notes ++ made))
    (moves : Moves url (nextNumber notes) .apart .connect (.error failure) made .apart) :
    Performs settings connector url timeout .connect world notes ⟨url, timeout, none, none⟩
      ⟨url, timeout, none, none⟩ .apart :=
  .intro (outcome_perform_connect_of_fails fails) (outcome_perform_connect_of_fails fails_noted)
    .apart moves

/-- What was opened for a connection that fails is closed, unless nobody waits for it any more. -/
theorem performs_connect_of_abandoned {cause : Failure} {cleanup : Except Failure Unit}
    {opened : List (Act σ Unit)} {opened_noted : List (Act (σ × List Note) Unit)}
    {failed closed : σ} {made closings : List Note}
    (fails : (Client.establish settings connector url timeout).outcome world =
      (Client.abandon opened (connectFailure url) cause).outcome failed)
    (fails_noted : (Client.establish settings connector.noted url timeout).outcome (world, notes) =
      (Client.abandon opened_noted (connectFailure url) cause).outcome (failed, notes ++ made))
    (closes : (Client.closeAll opened).outcome failed = (cleanup, closed))
    (closes_noted : (Client.closeAll opened_noted).outcome (failed, notes ++ made) =
      (cleanup, closed, notes ++ made ++ closings))
    (leaves : Leftover (nextNumber notes) made)
    (cleans : Cleanup (nextNumber notes) (made ++ closings) cleanup) :
    Performs settings connector url timeout .connect world notes ⟨url, timeout, none, none⟩
      ⟨url, timeout, none, none⟩ .apart := by
  cases handled : cause.isHandled with
  | false =>
    -- such a failure passes every step as it is
    rw [Client.outcome_abandon_of_unhandled _ _ handled] at fails fails_noted
    have unchanged : connectFailure url cause = cause := by
      simp [connectFailure, Failure.causing, handled]
    rw [unchanged] at fails fails_noted
    exact performs_connect_of_fails fails fails_noted (.brokenOff handled leaves)
  | true =>
    rw [Client.outcome_abandon_of_handled _ _ handled, closes] at fails
    rw [Client.outcome_abandon_of_handled _ _ handled, closes_noted, List.append_assoc]
      at fails_noted
    have moves : Moves url (nextNumber notes) .apart .connect
        (cleanup.bind fun _ => .error (connectFailure url cause)) (made ++ closings) .apart :=
      .abandoned handled cleans
    cases cleanup <;> exact performs_connect_of_fails fails fails_noted moves

theorem performs_connect_of_apart (settings : Settings) (connector : Connector σ) (world : σ)
    (notes : List Note) (url : String) (timeout : Float) :
    Performs settings connector url timeout .connect world notes ⟨url, timeout, none, none⟩
      ⟨url, timeout, none, none⟩ .apart := by
  let number := nextNumber notes
  rcases reaching : (Client.reach connector url timeout).outcome world with
    ⟨cause | channel, reached⟩
  · -- no channel is opened
    have reaching_noted : (Client.reach connector.noted url timeout).Fails (world, notes) cause
        (reached, notes ++ []) := by
      rw [Act.Fails, Client.outcome_reach_noted, reaching, List.append_nil]
    exact performs_connect_of_fails (Client.outcome_establish_of_unreached reaching)
      (Client.outcome_establish_of_unreached reaching_noted) (.unreached cause)
  have reaching_noted : (Client.reach connector.noted url timeout).Gives (world, notes)
      (channel.noted number) (reached, notes ++ [.opened number]) := by
    rw [Act.Gives, Client.outcome_reach_noted, reaching]
  rcases beginning : (channel.openSession timeout settings.toolClientName
    settings.toolClientVersion).outcome reached with ⟨cause | session, begun⟩
  · -- no session begins, and the channel alone is closed
    have beginning_noted : ((channel.noted number).openSession timeout settings.toolClientName
        settings.toolClientVersion).Fails (reached, notes ++ [.opened number]) cause
          (begun, notes ++ [.opened number]) := by
      rw [Act.Fails, Client.outcome_openSession_noted, beginning]
    obtain ⟨closing, closed, closes, closes_noted⟩ :=
      Client.outcome_closeChannel_noted number channel begun (notes ++ [.opened number])
    exact performs_connect_of_abandoned (Client.outcome_establish_of_refused reaching beginning)
      (Client.outcome_establish_of_refused reaching_noted beginning_noted) closes closes_noted
      .channel (.channel closing)
  have beginning_noted : ((channel.noted number).openSession timeout settings.toolClientName
      settings.toolClientVersion).Gives (reached, notes ++ [.opened number])
        (session.noted number) (begun, notes ++ [.opened number, .began number]) := by
    rw [Act.Gives, Client.outcome_openSession_noted, beginning]
    simp
  have handshake_noted := Client.outcome_handshake_noted number session begun
    (notes ++ [.opened number, .began number])
  rcases greeting : session.handshake.outcome begun with ⟨cause | _, ready⟩
  · -- the session is not ready, and both are closed
    rw [greeting] at handshake_noted
    obtain ⟨ending, closing, closed, closes, closes_noted⟩ :=
      Client.outcome_closeSession_noted number session channel ready
        (notes ++ [.opened number, .began number])
    exact performs_connect_of_abandoned
      (Client.outcome_establish_of_unready reaching beginning greeting)
      (Client.outcome_establish_of_unready reaching_noted beginning_noted handshake_noted)
      closes closes_noted .session (.session ending closing)
  · rw [greeting] at handshake_noted
    have gives := Client.outcome_establish_of_ready reaching beginning greeting
    have gives_noted :=
      Client.outcome_establish_of_ready reaching_noted beginning_noted handshake_noted
    exact .intro (outcome_perform_connect_of_gives gives)
      (outcome_perform_connect_of_gives gives_noted) (.connected number session channel) .connected

variable {plain : Client σ} {noted : Client (σ × List Note)} {status : Status} {number : Nat}

theorem Stands.exists_session (stands : Stands url timeout plain noted status)
    (holds : status.channel? = some number) :
    ∃ session, plain.session = some session ∧ noted.session = some (session.noted number) := by
  cases stands <;> cases holds <;> exact ⟨_, rfl, rfl⟩

theorem performs_connect_of_holding (stands : Stands url timeout plain noted status)
    (holds : status.channel? = some number) :
    Performs settings connector url timeout .connect world notes plain noted status := by
  obtain ⟨session, held, held_noted⟩ := stands.exists_session holds
  have performs : (Operation.connect.perform settings connector).outcome (world, plain) =
      (.ok none, world, plain) := by
    rw [outcome_perform_connect, Client.outcome_connect_of_holding held]
    rfl
  have performs_noted : (Operation.connect.perform settings connector.noted).outcome
      ((world, notes), noted) = (.ok none, (world, notes ++ []), noted) := by
    rw [outcome_perform_connect, Client.outcome_connect_of_holding held_noted, List.append_nil]
    rfl
  exact .intro performs performs_noted stands (.holding holds)

theorem performs_call_of_holding (stands : Stands url timeout plain noted status)
    (holds : status.channel? = some number) (tool : String) (arguments : Record Value) :
    Performs settings connector url timeout (.call tool arguments) world notes plain noted
      status := by
  obtain ⟨session, held, held_noted⟩ := stands.exists_session holds
  exact .intro (Client.outcome_call_of_holding held tool arguments world)
    (Client.outcome_call_of_holding held_noted tool arguments (world, notes)) stands
    (.called holds tool arguments _)

theorem performs_close_of_connected (number : Nat) (session : Session σ) (channel : Channel σ) :
    Performs settings connector url timeout .close world notes
      ⟨url, timeout, some session, some [session.close, channel.close]⟩
      ⟨url, timeout, some (session.noted number),
        some [(session.noted number).close, (channel.noted number).close]⟩
      (.connected number) := by
  obtain ⟨ending, closing, after, closes, closes_noted⟩ :=
    Client.outcome_closeSession_noted number session channel world notes
  have performs := outcome_perform_close settings connector
    (world, ⟨url, timeout, some session, some [session.close, channel.close]⟩)
  have performs_noted := outcome_perform_close settings connector.noted
    ((world, notes), ⟨url, timeout, some (session.noted number),
      some [(session.noted number).close, (channel.noted number).close]⟩)
  rw [Client.outcome_close_of_some rfl, closes] at performs
  rw [Client.outcome_close_of_some rfl, closes_noted] at performs_noted
  rcases both : bothClosed ending closing with failure | _
  · rw [both] at performs performs_noted
    exact .intro performs performs_noted (.stale number session) (.unclosed both)
  · rw [both] at performs performs_noted
    exact .intro performs performs_noted .apart (.closed both)

/-- Every operation moves a client as its status allows, and the notes do not matter for it. -/
theorem performs_of_stands (settings : Settings) (connector : Connector σ)
    (stands : Stands url timeout plain noted status) (operation : Operation) (world : σ)
    (notes : List Note) :
    Performs settings connector url timeout operation world notes plain noted status := by
  cases operation with
  | connect =>
    cases stands with
    | apart => exact performs_connect_of_apart settings connector world notes url timeout
    | connected => exact performs_connect_of_holding (.connected ..) rfl
    | stale => exact performs_connect_of_holding (.stale ..) rfl
  | close =>
    cases stands with
    | apart =>
      have performs_noted : (Operation.close.perform settings connector.noted).outcome
          ((world, notes), ⟨url, timeout, none, none⟩) =
            (.ok none, (world, notes ++ []), ⟨url, timeout, none, none⟩) := by
        rw [outcome_perform_close, Client.outcome_close_of_none rfl, List.append_nil]
        rfl
      exact .intro (outcome_perform_close ..) performs_noted .apart (.closedAlready nofun)
    | connected number session channel => exact performs_close_of_connected number session channel
    | stale number session =>
      have performs_noted : (Operation.close.perform settings connector.noted).outcome
          ((world, notes), ⟨url, timeout, some (session.noted number), some []⟩) =
            (.ok none, (world, notes ++ []), ⟨url, timeout, none, none⟩) := by
        rw [outcome_perform_close, Client.outcome_close_of_some rfl, List.append_nil]
        rfl
      exact .intro (outcome_perform_close ..) performs_noted .apart (.closedAlready nofun)
  | call tool arguments =>
    cases stands with
    | apart =>
      have performs_noted : ((Operation.call tool arguments).perform settings
          connector.noted).outcome ((world, notes), ⟨url, timeout, none, none⟩) =
            (.error (.error (.execution .notConnected)), (world, notes ++ []),
              ⟨url, timeout, none, none⟩) := by
        rw [List.append_nil]
        exact Client.outcome_call_of_apart rfl tool arguments (world, notes)
      exact .intro (Client.outcome_call_of_apart rfl tool arguments world) performs_noted .apart
        (.unconnected tool arguments)
    | connected => exact performs_call_of_holding (.connected ..) rfl tool arguments
    | stale => exact performs_call_of_holding (.stale ..) rfl tool arguments

end Performing

end Tool

end AgentWorkflow
