import AgentWorkflow.Proofs.Tool.Noted

/-!
# Sessions begin and end in order

The notes that are made of the channels of a client are entered into books, one after another. The
books refuse a note of a channel that is opened before the last one is closed, of a session that
begins on anything but an open channel, and of a session or a channel that is closed and is not
open; and they count the calls that go astray, to a session that has been ended. So books that can
be kept say that there is never more than one channel open, that nothing is closed twice, and that
nothing is let go without being closed.

Whatever fails, the books can be kept, as long as nobody breaks off a connection that is being made.
They agree with what the client holds exactly as long as no closing fails. A client whose closing
fails goes on holding the session that it has ended: the next connection opens nothing, and calls
go astray until the client is closed once more.

## Main definitions

* `Books`: what the notes come to
* `Sound`: what each operation does where a run has led
* `Kept`, `InOrder`: the books can be kept, and they agree with what the client holds

## Main results

* `Sound.of_stands`: what each operation does, by the status of the client
* `Moves.tallies`: the books after an operation
* `sessions_in_order`: what holds throughout a run, and when the client and the books agree
-/

namespace AgentWorkflow.Tool

variable {σ : Type}

/-! ### Books -/

/-- What is open: nothing, a channel without a session, or a session on its channel. -/
inductive Standing
  | nothing
  | channel (number : Nat)
  | session (number : Nat)
  deriving DecidableEq

/-- What notes come to: how many channels have been opened, what is open, and how many calls have
gone astray. -/
structure Books where
  opened : Nat := 0
  standing : Standing := .nothing
  strays : Nat := 0

/-- The books with one more note, unless it is out of order. -/
@[simp]
def Books.enter? (books : Books) : Note → Option Books
  | .opened number =>
    if books.standing = .nothing ∧ number = books.opened then
      some { books with opened := number + 1, standing := .channel number }
    else none
  | .began number =>
    if books.standing = .channel number then some { books with standing := .session number }
    else none
  | .called number =>
    if books.standing = .session number then some books
    else some { books with strays := books.strays + 1 }
  | .ended number _ =>
    if books.standing = .session number then some { books with standing := .channel number }
    else none
  | .closed number _ =>
    if books.standing = .channel number then some { books with standing := .nothing }
    else none

/-- The books of some notes, unless one of them is out of order. -/
def Books.ofNotes? (notes : List Note) : Option Books := notes.foldlM Books.enter? {}

theorem Books.ofNotes?_append (notes made : List Note) :
    ofNotes? (notes ++ made) = (ofNotes? notes).bind fun books => made.foldlM enter? books :=
  List.foldlM_append

/-! ### Runs -/

section Runs

variable (settings : Settings) (connector : Connector σ)

/-- Where some operations lead. -/
def afterwards (operations : List Operation) (scene : σ × Client σ) : σ × Client σ :=
  operations.foldl (fun scene operation =>
    ((operation.perform settings connector).outcome scene).2) scene

/-- Some operations, each with what is answered. -/
def transcript : List Operation → σ × Client σ →
    List (Operation × Except Failure (Option Result))
  | [], _ => []
  | operation :: operations, scene =>
    let (answer, after) := (operation.perform settings connector).outcome scene
    (operation, answer) :: transcript operations after

end Runs

/-- A world with the notes that were made, and a client in it. -/
abbrev Scene (σ : Type) := (σ × List Note) × Client (σ × List Note)

/-! ### What holds of every step -/

/-- The failure that comes of something. -/
def failure? {α : Type} : Except Failure α → Option Failure
  | .ok _ => none
  | .error failure => some failure

/-- The failure to close something. -/
def Note.failure? : Note → Option Failure
  | .ended _ outcome => Tool.failure? outcome
  | .closed _ outcome => Tool.failure? outcome
  | _ => none

/-- The last failure to close something. -/
def lastFailure? (notes : List Note) : Option Failure := (notes.filterMap Note.failure?).getLast?

/-- All that was opened was closed again. -/
structure Settled (notes : List Note) : Prop where
  closes {number : Nat} : .opened number ∈ notes → ∃ outcome, .closed number outcome ∈ notes
  ends {number : Nat} : .began number ∈ notes → ∃ outcome, .ended number outcome ∈ notes

/-- What each operation does to a client. Only failures that a step handles are promised to be
described: what is cancelled ends as it is, and what was opened for it is left as it is. -/
structure Sound (settings : Settings) (connector : Connector σ) (scene : Scene σ) : Prop where
  /-- A client holds a session exactly while it has something to close. -/
  holds : scene.2.session.isSome = scene.2.opened.isSome
  /-- Connecting a connected client changes nothing. -/
  connect_again : scene.2.isConnected = true →
    (Operation.connect.perform settings connector.noted).outcome scene = (.ok none, scene)
  /-- A client that is not connected is connected if its server lets it: if there is a channel, a
  session on it, and an answer to the handshake. -/
  connects {channel : Channel σ} {session : Session σ} {reached begun ready : σ} :
    scene.2.isConnected = false → Client.checkTimeout scene.2.timeoutSeconds = .ok () →
    (connector scene.2.url scene.2.timeoutSeconds).Gives scene.1.1 channel reached →
    (channel.openSession scene.2.timeoutSeconds settings.toolClientName
      settings.toolClientVersion).Gives reached session begun →
    session.handshake.Gives begun () ready →
      ∃ after, (Operation.connect.perform settings connector.noted).Gives scene none after ∧
        after.1.1 = ready
  /-- A client that connects has a session of its own on a channel of its own. -/
  connect_ok {result : Option Result} {after : Scene σ} : scene.2.isConnected = false →
    (Operation.connect.perform settings connector.noted).Gives scene result after →
      after.2.isConnected = true ∧
        after.1.2 = scene.1.2 ++ [.opened (nextNumber scene.1.2), .began (nextNumber scene.1.2)]
  /-- A client that fails to connect holds nothing, and what it opened is closed. -/
  connect_error {failure : Failure} {after : Scene σ} :
    (Operation.connect.perform settings connector.noted).Fails scene failure after →
      after.2.session = none ∧ after.2.opened = none ∧
        ∃ made, after.1.2 = scene.1.2 ++ made ∧
          (failure.isHandled = true → Settled made ∧
            match lastFailure? made with
            | some closing => failure = closing
            | none => ∃ cause, failure = .error (.execution (.connectFailed scene.2.url cause)))
  /-- A client that is closed holds nothing, and nothing has failed to be closed. -/
  close_ok {result : Option Result} {after : Scene σ} :
    (Operation.close.perform settings connector.noted).Gives scene result after →
      after.2.session = none ∧ after.2.opened = none ∧
        ∃ made, after.1.2 = scene.1.2 ++ made ∧ lastFailure? made = none
  /-- A client that cannot be closed goes on holding its session. -/
  close_error {failure : Failure} {after : Scene σ} :
    (Operation.close.perform settings connector.noted).Fails scene failure after →
      after.2.isConnected = true ∧
        ∃ made, after.1.2 = scene.1.2 ++ made ∧ lastFailure? made = some failure
  /-- Whatever comes of it, a call of a connected client goes to a session. -/
  calls (tool : String) (arguments : Record Value) : scene.2.isConnected = true →
    ∃ number, (((Operation.call tool arguments).perform settings connector.noted).outcome
      scene).2.1.2 = scene.1.2 ++ [.called number]
  /-- A failed call is described, and it fails in another way without a session. -/
  call_error {tool : String} {arguments : Record Value} {failure : Failure} {after : Scene σ} :
    ((Operation.call tool arguments).perform settings connector.noted).Fails scene failure after →
      failure.isHandled = true →
        if scene.2.isConnected then
          ∃ cause, failure = .error (.execution (.toolCallFailed tool cause))
        else failure = .error (.execution .notConnected)

section Stands

variable {settings : Settings} {connector : Connector σ} {url : String} {timeout : Float}
  {plain : Client σ} {noted : Client (σ × List Note)} {status : Status} {number : Nat}
  {notes made : List Note} {cleanup : Except Failure Unit} {failure : Failure}

theorem Stands.isConnected_eq (stands : Stands url timeout plain noted status) :
    noted.isConnected = status.channel?.isSome := by
  cases stands <;> rfl

theorem Stands.url_eq (stands : Stands url timeout plain noted status) : noted.url = url := by
  cases stands <;> rfl

theorem Cleanup.settled (cleans : Cleanup number made cleanup) : Settled made := by
  cases cleans <;> exact ⟨by simp, by simp⟩

theorem lastFailure?_of_closed (ending closing : Except Failure Unit) :
    lastFailure? [.ended number ending, .closed number closing] =
      failure? (bothClosed ending closing) := by
  cases ending <;> cases closing <;> rfl

/-- Cleaning up ends with the last failure to close something. -/
theorem Cleanup.lastFailure?_eq (cleans : Cleanup number made cleanup) :
    lastFailure? made = failure? cleanup := by
  cases cleans with
  | channel => cases cleanup <;> rfl
  | session ending closing => exact lastFailure?_of_closed ending closing

/-- A client that connects has opened a channel, unless it holds a session already. -/
theorem Moves.of_connect_ok {result : Option Result} {status' : Status}
    (moves : Moves url number status .connect (.ok result) made status')
    (apart : status.channel? = none) :
    made = [.opened number, .began number] ∧ status' = .connected number := by
  generalize answered : Except.ok result = answer at moves
  cases moves with
  | connected => exact ⟨rfl, rfl⟩
  | holding holds =>
    rw [apart] at holds
    cases holds
  | unreached => cases answered
  | @abandoned _ _ cleanup => cases cleanup <;> cases answered
  | brokenOff => cases answered

/-- A client that fails to connect is apart. -/
theorem Moves.of_connect_error {status' : Status}
    (moves : Moves url number status .connect (.error failure) made status') :
    status' = .apart ∧
      (failure.isHandled = true → Settled made ∧
        match lastFailure? made with
        | some closing => failure = closing
        | none => ∃ cause, failure = .error (.execution (.connectFailed url cause))) := by
  generalize answered : Except.error failure = answer at moves
  cases moves with
  | connected => cases answered
  | holding => cases answered
  | unreached cause =>
    cases answered
    exact ⟨rfl, fun handled => ⟨⟨nofun, nofun⟩, cause, Failure.causing_of_isHandled handled⟩⟩
  | @abandoned cause _ cleanup _ cleans =>
    refine ⟨rfl, fun handled => ⟨cleans.settled, ?_⟩⟩
    rw [cleans.lastFailure?_eq]
    rcases cleanup with closing | _
    · cases answered
      rfl
    · cases answered
      exact ⟨cause, Failure.causing_of_isHandled handled⟩
  | brokenOff unhandled leaves =>
    cases answered
    refine ⟨rfl, fun handled => ?_⟩
    rw [unhandled] at handled
    cases handled

theorem Moves.of_close_ok {result : Option Result} {status' : Status}
    (moves : Moves url number status .close (.ok result) made status') :
    status' = .apart ∧ lastFailure? made = none := by
  cases moves with
  | closed done =>
    rw [lastFailure?_of_closed, done]
    exact ⟨rfl, rfl⟩
  | closedAlready => exact ⟨rfl, rfl⟩

theorem Moves.of_close_error {status' : Status}
    (moves : Moves url number status .close (.error failure) made status') :
    ∃ channel, status' = .stale channel ∧ lastFailure? made = some failure := by
  cases moves with
  | unclosed fails =>
    rw [lastFailure?_of_closed, fails]
    exact ⟨_, rfl, rfl⟩

theorem Moves.of_call {tool : String} {arguments : Record Value}
    {answer : Except Failure (Option Result)} {status' : Status}
    (moves : Moves url number status (.call tool arguments) answer made status')
    (connected : status.channel?.isSome = true) : ∃ channel, made = [.called channel] := by
  cases moves with
  | called => exact ⟨_, rfl⟩
  | unconnected => cases connected

theorem Moves.of_call_error {tool : String} {arguments : Record Value} {status' : Status}
    (moves : Moves url number status (.call tool arguments) (.error failure) made status')
    (handled : failure.isHandled = true) :
    if status.channel?.isSome then
      ∃ cause, failure = .error (.execution (.toolCallFailed tool cause))
    else failure = .error (.execution .notConnected) := by
  generalize answered : Except.error failure = answer at moves
  cases moves with
  | called holds _ _ outcome =>
    rw [holds, Option.isSome_some, if_pos rfl]
    rcases outcome with cause | result
    · cases answered
      exact ⟨cause, Failure.causing_of_isHandled handled⟩
    · cases answered
  | unconnected =>
    cases answered
    simp [Status.channel?]

/-! ### Wherever a run leads -/

/-- What each operation does, by the status of the client. -/
theorem Sound.of_stands (stands : Stands url timeout plain noted status) (world : σ)
    (notes : List Note) : Sound settings connector ((world, notes), noted) where
  holds := by cases stands <;> rfl
  connect_again connected := by
    obtain ⟨session, held⟩ := Option.isSome_iff_exists.mp connected
    rw [outcome_perform_connect, Client.outcome_connect_of_holding held]
    rfl
  connects apart usable reaches begins ready := by
    cases stands with
    | connected => cases apart
    | stale => cases apart
    | apart =>
      have establishes :=
        Client.outcome_establish_of_ready (Client.reach_gives usable reaches) begins ready
      obtain ⟨performs, performs_noted, -, -⟩ :=
        performs_connect_of_apart settings connector world notes url timeout
      cases performs.symm.trans (outcome_perform_connect_of_gives establishes)
      exact ⟨_, performs_noted, rfl⟩
  -- what an operation has done is computed for every status; the move that it made says the rest
  connect_ok apart gives := by
    obtain ⟨-, performs, stands', moves⟩ :=
      performs_of_stands settings connector stands .connect world notes
    cases performs.symm.trans gives
    rw [stands.isConnected_eq, Option.isSome_eq_false_iff, Option.isNone_iff_eq_none] at apart
    obtain ⟨rfl, rfl⟩ := moves.of_connect_ok apart
    exact ⟨stands'.isConnected_eq, rfl⟩
  connect_error fails := by
    obtain ⟨-, performs, stands', moves⟩ :=
      performs_of_stands settings connector stands .connect world notes
    cases performs.symm.trans fails
    rw [stands.url_eq]
    obtain ⟨rfl, ends⟩ := moves.of_connect_error
    cases stands'
    exact ⟨rfl, rfl, _, rfl, ends⟩
  close_ok gives := by
    obtain ⟨-, performs, stands', moves⟩ :=
      performs_of_stands settings connector stands .close world notes
    cases performs.symm.trans gives
    obtain ⟨rfl, closing⟩ := moves.of_close_ok
    cases stands'
    exact ⟨rfl, rfl, _, rfl, closing⟩
  close_error fails := by
    obtain ⟨-, performs, stands', moves⟩ :=
      performs_of_stands settings connector stands .close world notes
    cases performs.symm.trans fails
    obtain ⟨channel, rfl, closing⟩ := moves.of_close_error
    exact ⟨stands'.isConnected_eq, _, rfl, closing⟩
  calls tool arguments connected := by
    obtain ⟨-, performs, -, moves⟩ :=
      performs_of_stands settings connector stands (.call tool arguments) world notes
    rw [stands.isConnected_eq] at connected
    obtain ⟨channel, rfl⟩ := moves.of_call connected
    exact ⟨channel, by rw [performs]⟩
  call_error {tool arguments _ _} fails handled := by
    obtain ⟨-, performs, stands', moves⟩ :=
      performs_of_stands settings connector stands (.call tool arguments) world notes
    cases performs.symm.trans fails
    rw [stands.isConnected_eq]
    exact moves.of_call_error handled

/-! ### The books after an operation -/

/-- What is open according to the status of a client. -/
@[simp]
def Status.standing : Status → Standing
  | .apart => .nothing
  | .connected number => .session number
  | .stale _ => .nothing

/-- Whether a client holds a session that has been ended. -/
@[simp]
def Status.isStale : Status → Bool
  | .stale _ => true
  | _ => false

/-- The books can be kept, and they agree with the status of the client on what is open. -/
def Tallies (notes : List Note) (status : Status) (strays : Nat) : Prop :=
  Books.ofNotes? notes = some ⟨nextNumber notes, status.standing, strays⟩

/-- An operation keeps the books in order, unless a connection is broken off. Calls go astray in a
session that has been ended, and in no other. -/
theorem Moves.tallies {operation : Operation} {answer : Except Failure (Option Result)}
    {status' : Status} {strays : Nat}
    (moves : Moves url (nextNumber notes) status operation answer made status')
    (finished : operation = .connect → ∀ failure, answer = .error failure →
      failure.isHandled = true)
    (tallies : Tallies notes status strays) :
    ∃ strays', Tallies (notes ++ made) status' strays' ∧
      (status.isStale = false → strays' = strays) := by
  rw [Tallies] at tallies
  simp only [Tallies, Books.ofNotes?_append, tallies, Option.bind_some, nextNumber_append]
  cases moves with
  | connected => exact ⟨strays, by simp, fun _ => rfl⟩
  | holding => exact ⟨strays, rfl, fun _ => rfl⟩
  | unreached cause => exact ⟨strays, rfl, fun _ => rfl⟩
  | abandoned _ cleans =>
    cases cleans <;> exact ⟨strays, by simp, fun _ => rfl⟩
  | brokenOff unhandled leaves =>
    -- what is left open here could never be entered as closed
    rw [finished rfl _ rfl] at unhandled
    cases unhandled
  | closed => exact ⟨strays, by simp, fun _ => rfl⟩
  | unclosed => exact ⟨strays, by simp, fun _ => rfl⟩
  | closedAlready not_connected =>
    cases status with
    | connected number => exact absurd rfl (not_connected number)
    | _ => exact ⟨strays, rfl, fun _ => rfl⟩
  | called holds =>
    cases status with
    | apart => cases holds
    | connected number =>
      cases holds
      exact ⟨strays, by simp, fun _ => rfl⟩
    | stale number =>
      -- the one place where a call goes astray
      exact ⟨strays + 1, by simp, nofun⟩
  | unconnected => exact ⟨strays, rfl, fun _ => rfl⟩

/-- Only a closing that fails makes a client hold a session that has been ended. -/
theorem Moves.isStale_iff {operation : Operation} {answer : Except Failure (Option Result)}
    {status' : Status} (moves : Moves url number status operation answer made status')
    (fresh : status.isStale = false) :
    status'.isStale = true ↔ operation = .close ∧ ∃ failure, answer = .error failure := by
  cases moves with
  | closedAlready => simp
  | _ => simp_all

/-! ### The books along a run -/

/-- The books can be kept, and a client that holds nothing has let go of nothing. -/
def Kept (scene : Scene σ) : Prop :=
  ∃ books, Books.ofNotes? scene.1.2 = some books ∧
    (scene.2.session = none → books.standing = .nothing)

/-- The books can be kept, no call has gone astray, and the client holds a session exactly while one
is open. -/
def InOrder (scene : Scene σ) : Prop :=
  ∃ books, Books.ofNotes? scene.1.2 = some books ∧ books.strays = 0 ∧
    if scene.2.isConnected then ∃ number, books.standing = .session number
    else books.standing = .nothing

section Along

variable {world : σ} {strays : Nat}

theorem Tallies.kept (tallies : Tallies notes status strays)
    (stands : Stands url timeout plain noted status) : Kept ((world, notes), noted) := by
  refine ⟨_, tallies, fun nothing => ?_⟩
  cases stands with
  | apart => rfl
  | connected => cases nothing
  | stale => cases nothing

/-- The books agree with what a client holds, unless it holds a session that has been ended. -/
theorem Tallies.inOrder_iff (tallies : Tallies notes status strays)
    (stands : Stands url timeout plain noted status) :
    InOrder ((world, notes), noted) ↔ strays = 0 ∧ status.isStale = false := by
  constructor
  · rintro ⟨books, here, no_strays, agree⟩
    cases tallies.symm.trans here
    refine ⟨no_strays, ?_⟩
    cases stands with
    | apart => rfl
    | connected => rfl
    | stale =>
      obtain ⟨number, open_session⟩ := agree
      cases open_session
  · rintro ⟨no_strays, fresh⟩
    refine ⟨_, tallies, no_strays, ?_⟩
    cases stands with
    | apart => rfl
    | connected number => exact ⟨number, rfl⟩
    | stale => cases fresh

theorem transcript_cons {σ : Type} {connector : Connector σ} {operation : Operation}
    {scene after : σ × Client σ} {answer : Except Failure (Option Result)}
    (performs : (operation.perform settings connector).outcome scene = (answer, after))
    (operations : List Operation) :
    transcript settings connector (operation :: operations) scene =
      (operation, answer) :: transcript settings connector operations after := by
  rw [transcript, performs]

theorem afterwards_cons {σ : Type} {connector : Connector σ} {operation : Operation}
    {scene after : σ × Client σ} {answer : Except Failure (Option Result)}
    (performs : (operation.perform settings connector).outcome scene = (answer, after))
    (operations : List Operation) :
    afterwards settings connector (operation :: operations) scene =
      afterwards settings connector operations after := by
  rw [afterwards, List.foldl_cons, performs, afterwards]

/-- Nothing is answered in another way when notes are made. -/
theorem transcript_noted (stands : Stands url timeout plain noted status)
    (operations : List Operation) :
    transcript settings connector.noted operations ((world, notes), noted) =
      transcript settings connector operations (world, plain) := by
  induction operations generalizing world notes plain noted status with
  | nil => rfl
  | cons operation operations ih =>
    obtain ⟨performs, performs_noted, stands', -⟩ :=
      performs_of_stands settings connector stands operation world notes
    rw [transcript_cons performs, transcript_cons performs_noted, ih stands']

theorem sound_afterwards (stands : Stands url timeout plain noted status)
    (operations : List Operation) :
    Sound settings connector
      (afterwards settings connector.noted operations ((world, notes), noted)) := by
  induction operations generalizing world notes plain noted status with
  | nil => exact .of_stands stands world notes
  | cons operation operations ih =>
    obtain ⟨-, performs, stands', -⟩ :=
      performs_of_stands settings connector stands operation world notes
    rw [afterwards_cons performs]
    exact ih stands'

/-- No connection is broken off. -/
def Uninterrupted (run : List (Operation × Except Failure (Option Result))) : Prop :=
  ∀ failure, (.connect, .error failure) ∈ run → failure.isHandled = true

/-- No closing fails. -/
def ClosesAll (run : List (Operation × Except Failure (Option Result))) : Prop :=
  ∀ failure, (.close, .error failure) ∉ run

theorem kept_afterwards (stands : Stands url timeout plain noted status)
    (tallies : Tallies notes status strays) (operations : List Operation)
    (uninterrupted : Uninterrupted
      (transcript settings connector.noted operations ((world, notes), noted))) :
    Kept (afterwards settings connector.noted operations ((world, notes), noted)) := by
  induction operations generalizing world notes plain noted status strays with
  | nil => exact tallies.kept stands
  | cons operation operations ih =>
    obtain ⟨-, performs, stands', moves⟩ :=
      performs_of_stands settings connector stands operation world notes
    rw [transcript_cons performs] at uninterrupted
    rw [afterwards_cons performs]
    obtain ⟨strays', tallies', -⟩ := moves.tallies
      (fun connects failure fails => uninterrupted failure (by simp [connects, fails])) tallies
    exact ih stands' tallies' fun failure later =>
      uninterrupted failure (List.mem_cons_of_mem _ later)

/-- What holds all along a run that is not empty holds at its start and all along the rest. -/
theorem forall_afterwards_cons {σ : Type} {connector : Connector σ} {operation : Operation}
    {scene after : σ × Client σ} {answer : Except Failure (Option Result)}
    (performs : (operation.perform settings connector).outcome scene = (answer, after))
    (operations : List Operation) (holds : σ × Client σ → Prop) :
    (∀ earlier, earlier <+: operation :: operations →
      holds (afterwards settings connector earlier scene)) ↔
      holds scene ∧ ∀ earlier, earlier <+: operations →
        holds (afterwards settings connector earlier after) := by
  constructor
  · intro along
    refine ⟨along [] List.nil_prefix, fun earlier starts => ?_⟩
    rw [← afterwards_cons performs]
    exact along _ (List.prefix_cons_inj operation |>.mpr starts)
  · rintro ⟨first, along⟩ earlier starts
    rcases List.prefix_cons_iff.mp starts with rfl | ⟨rest, rfl, rest_starts⟩
    · exact first
    · rw [afterwards_cons performs]
      exact along rest rest_starts

/-- The books agree with the client throughout a run exactly when no closing fails. -/
theorem inOrder_throughout_iff (stands : Stands url timeout plain noted status)
    (tallies : Tallies notes status 0) (fresh : status.isStale = false)
    (operations : List Operation)
    (uninterrupted : Uninterrupted
      (transcript settings connector.noted operations ((world, notes), noted))) :
    (∀ earlier, earlier <+: operations →
      InOrder (afterwards settings connector.noted earlier ((world, notes), noted))) ↔
      ClosesAll (transcript settings connector.noted operations ((world, notes), noted)) := by
  -- along the run: while no closing has failed, the status is not stale and no call went astray
  induction operations generalizing world notes plain noted status with
  | nil =>
    refine iff_of_true (fun earlier starts => ?_) nofun
    rw [List.prefix_nil.mp starts]
    exact (tallies.inOrder_iff stands).mpr ⟨rfl, fresh⟩
  | cons operation operations ih =>
    obtain @⟨answer, after, made, plain', noted', status', -, performs, stands', moves⟩ :=
      performs_of_stands settings connector stands operation world notes
    rw [transcript_cons performs] at uninterrupted ⊢
    obtain ⟨strays', tallies', no_strays⟩ := moves.tallies
      (fun connects failure fails => uninterrupted failure (by simp [connects, fails])) tallies
    obtain rfl := no_strays fresh
    rw [forall_afterwards_cons performs]
    have stale_iff := moves.isStale_iff fresh
    cases stale : status'.isStale with
    | true =>
      -- the first closing that fails: the books have nothing open, and the client holds a session
      obtain ⟨rfl, failure, rfl⟩ := stale_iff.mp stale
      refine iff_of_false ?_ fun closes => closes failure List.mem_cons_self
      rintro ⟨-, along⟩
      have here := (tallies'.inOrder_iff stands').mp (along [] List.nil_prefix)
      rw [stale] at here
      cases here.2
    | false =>
      have later_uninterrupted := fun failure later =>
        uninterrupted failure (List.mem_cons_of_mem _ later)
      rw [and_iff_right ((tallies.inOrder_iff stands).mpr ⟨rfl, fresh⟩),
        ih stands' tallies' stale later_uninterrupted]
      constructor
      · intro closes failure fails
        rcases List.mem_cons.mp fails with here | later
        · cases here
          rw [stale_iff.mpr ⟨rfl, failure, rfl⟩] at stale
          cases stale
        · exact closes failure later
      · exact fun closes failure later => closes failure (List.mem_cons_of_mem _ later)

end Along

end Stands

/-- Whatever is asked of a client, and whatever fails: notes make no difference; every operation
does what `Sound` says of it; if no connection is broken off, the books can be kept; and then the
client and the books agree throughout exactly when no closing fails. -/
theorem sessions_in_order (settings : Settings) (connector : Connector σ) (url : String)
    (timeout : Float) (world : σ) (operations : List Operation) :
    let start : Scene σ := ((world, []), { url, timeoutSeconds := timeout })
    let run := transcript settings connector operations (world, { url, timeoutSeconds := timeout })
    transcript settings connector.noted operations start = run ∧
      Sound settings connector (afterwards settings connector.noted operations start) ∧
      (Uninterrupted run →
        Kept (afterwards settings connector.noted operations start) ∧
        ((∀ earlier, earlier <+: operations →
          InOrder (afterwards settings connector.noted earlier start)) ↔ ClosesAll run)) := by
  have stands : Stands url timeout (⟨url, timeout, none, none⟩ : Client σ)
      ⟨url, timeout, none, none⟩ .apart := .apart
  have tallies : Tallies [] .apart 0 := rfl
  have unnoticed : transcript settings connector.noted operations
      ((world, []), ⟨url, timeout, none, none⟩) =
        transcript settings connector operations (world, ⟨url, timeout, none, none⟩) :=
    transcript_noted stands operations
  refine ⟨unnoticed, sound_afterwards stands operations, fun uninterrupted => ?_⟩
  rw [← unnoticed] at uninterrupted
  refine ⟨kept_afterwards stands tallies operations uninterrupted, ?_⟩
  rw [← unnoticed]
  exact inOrder_throughout_iff stands tallies rfl operations uninterrupted

/-! ### A server that does not let go -/

namespace Switchboard

/-- A server that answers nothing. It greets, and ends a session, in the way that is given. -/
def connector (greeting ending : Except Failure Unit) : Connector Unit := fun _ _ => pure {
  openSession := fun _ _ _ => pure {
    handshake := Act.ofExcept greeting
    call := fun _ _ => pure none
    close := Act.ofExcept ending }
  close := pure () }

/-- Why a session cannot be ended. -/
def jam : Failure := .fault (.collaborator "jammed")

/-- A client that is new to the switchboard. -/
def caller {τ : Type} : Client τ := { url := "http://mcp", timeoutSeconds := 60.0 }

/-- Where some operations of a new client lead. -/
def after (greeting ending : Except Failure Unit) (operations : List Operation) : Scene Unit :=
  afterwards {} (connector greeting ending).noted operations (((), []), caller)

/-- One session after the other is in order. -/
theorem connects_in_order :
    InOrder (after (.ok ()) (.ok ()) [.connect, .call "t" [], .close, .connect, .close]) := by
  have run : transcript {} (connector (.ok ()) (.ok ()))
      [.connect, .call "t" [], .close, .connect, .close] ((), caller) =
        [(.connect, .ok none), (.call "t" [], .ok none), (.close, .ok none), (.connect, .ok none),
          (.close, .ok none)] := rfl
  obtain ⟨-, -, agree⟩ := sessions_in_order {} (connector (.ok ()) (.ok ())) "http://mcp" 60.0 ()
    [.connect, .call "t" [], .close, .connect, .close]
  have uninterrupted : Uninterrupted (transcript {} (connector (.ok ()) (.ok ()))
      [.connect, .call "t" [], .close, .connect, .close] ((), caller)) := by
    rw [run]
    intro failure fails
    simp at fails
  have closes : ClosesAll (transcript {} (connector (.ok ()) (.ok ()))
      [.connect, .call "t" [], .close, .connect, .close] ((), caller)) := by
    rw [run]
    intro failure fails
    simp at fails
  exact (agree uninterrupted).2.mpr closes _ (List.prefix_refl _)

/-- A client that cannot be closed goes on holding the session that it has ended: connecting opens
nothing, and a call goes to the session that has been ended. And when what was opened for a
connection cannot be closed, this is how the connection fails. -/
theorem keeps_ended_session :
    (after (.ok ()) (.error jam) [.connect, .close]).2.isConnected = true ∧
      ¬ InOrder (after (.ok ()) (.error jam) [.connect, .close]) ∧
      (after (.ok ()) (.error jam) [.connect, .close, .connect, .call "t" []]).1.2 =
        [.opened 0, .began 0, .ended 0 (.error jam), .closed 0 (.ok ()), .called 0] ∧
      (Operation.connect.perform {} (connector (.error (.fault .badValue)) (.error jam))).Fails
        ((), caller) jam ((), caller) := by
  refine ⟨rfl, ?_, rfl, rfl⟩
  rintro ⟨books, here, -, number, standing⟩
  cases here
  cases standing

end Switchboard

end AgentWorkflow.Tool
