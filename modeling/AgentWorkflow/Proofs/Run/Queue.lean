import AgentWorkflow.Proofs.Run.Decision
import AgentWorkflow.Proofs.Run.Execution
import AgentWorkflow.Proofs.Store.Sessions
import AgentWorkflow.Proofs.Workflow.Assembly
import Mathlib.Logic.Relation

/-!
# Events that are handled while a run goes on

The events of a run are put on a queue as they happen, and a tracker takes them from it one after
another, so telling and handling are interleaved in some way. Whichever way that is, it comes to an
end, and leaves what handling all events after the run leaves. In particular events may be handled
after the run, as an execution does it here.

Nothing that a recorder does has an effect on this: no write that fails stops the tracker, so it
goes on up to the end of all events. And so two executions that differ in nothing but how runs are
recorded come out in the same way.

## Main definitions

* `Intake`, `Intake.Step`: a queue between those who tell events and the tracker that handles them
* `Drains`: all events are handled, in whatever way telling and handling are interleaved
* `Runtime.recordedBy`: a runtime whose runs are recorded elsewhere

## Main results

* `Intake.rest_eq_of_step`: a step does not change what is left in the end
* `exists_drains_notices`: the events of a run that is over are drained
* `execute_ignores_recording`: how an execution comes out does not depend on the recorder
-/

namespace AgentWorkflow.Run

section Draining

variable {σ τ τ' : Type} {recorder : Recorder τ} {tracker : Tracker} {run : String} {event : Event}
  {now : Timestamp}

/-- The time at which an event is handled makes no difference: a start has a time of its own, and an
end says when it was. -/
def Event.Stamped (event : Event) : Prop := event.kind = .nodeStart ∨ event.endedAt ≠ none

/-- A queue between those who tell events and the tracker that handles them. -/
structure Intake (τ : Type) where
  /-- What has not been told yet. -/
  coming : List (Option Event)
  queued : List (Option Event)
  tracker : Tracker
  world : τ
  /-- How the handling of events came to an end, once it has. -/
  stopped : Option (Except Failure Unit) := none

namespace Intake

/-- One event is told, or handled at some time, or the handling comes to an end. -/
inductive Step (recorder : Recorder τ) : Intake τ → Intake τ → Prop
  | tell {s : Intake τ} {item : Option Event} {coming : List (Option Event)} :
      s.coming = item :: coming → Step recorder s { s with coming, queued := s.queued ++ [item] }
  | handle {s : Intake τ} {event : Event} {queued : List (Option Event)} {now : Timestamp}
      {tracker : Tracker} {world : τ} : s.stopped = none → s.queued = some event :: queued →
      (s.tracker.handle recorder now event).outcome s.world = (.ok tracker, world) →
      Step recorder s { s with queued, tracker, world }
  | fail {s : Intake τ} {event : Event} {queued : List (Option Event)} {now : Timestamp}
      {failure : Failure} {world : τ} : s.stopped = none → s.queued = some event :: queued →
      (s.tracker.handle recorder now event).outcome s.world = (.error failure, world) →
      Step recorder s { s with queued, world, stopped := some (.error failure) }
  | stop {s : Intake τ} {queued : List (Option Event)} : s.stopped = none →
      s.queued = none :: queued → Step recorder s { s with queued, stopped := some (.ok ()) }

/-- What has not been handled yet, in its order. -/
def pending (s : Intake τ) : List (Option Event) := s.queued ++ s.coming

/-- What is left in the end if all of it is handled in one go. -/
def rest (recorder : Recorder τ) (now : Timestamp) (s : Intake τ) : Tracker.Rest × τ :=
  match s.stopped with
  | none => ((s.tracker.consume recorder now s.pending).run s.world).run
  | some outcome => (⟨outcome, s.tracker, s.pending⟩, s.world)

/-- How much telling and handling there is left to do. -/
def work (s : Intake τ) : Nat := 2 * s.coming.length + s.queued.length

/-- All events that are not handled yet say when they were, and the end of all events is among them
until it has been reached. -/
structure Awaits (s : Intake τ) : Prop where
  stamped : ∀ event, some event ∈ s.pending → event.Stamped
  sentinel : s.stopped = none → none ∈ s.pending

end Intake

/-- All events are handled, in whatever way telling and handling are interleaved. -/
structure Drains (recorder : Recorder τ) (tracker : Tracker) (events : List (Option Event))
    (before after : τ) : Prop where
  /-- The end of all events is told once, after all of them. -/
  sentinel : ∃ told : List Event, events = told.map some ++ [none]
  ends : Acc (fun s' s => Intake.Step recorder s s') ⟨events, [], tracker, before, none⟩
  /-- When nothing is left to do, everything has been told and handled up to the end of all events,
  and the store is as if all of it had been handled in one go. -/
  drained : ∀ s,
    Relation.ReflTransGen (Intake.Step recorder) ⟨events, [], tracker, before, none⟩ s →
    (∀ s', ¬ Intake.Step recorder s s') →
      s.stopped = some (.ok ()) ∧ s.coming = [] ∧ s.queued = [] ∧ s.world = after

/-- A runtime whose runs are recorded elsewhere. -/
def Runtime.recordedBy (runtime : Runtime σ τ) (load : String → Act τ' (Option Snapshot))
    (recorder : Recorder τ') : Runtime σ τ' :=
  { runtime with load, recorder }

/-! ### Time -/

theorem Tracker.handle_eq_of_stamped (stamped : event.Stamped) (now now' : Timestamp) :
    tracker.handle recorder now event = tracker.handle recorder now' event := by
  have same : ∀ run, tracker.record recorder now run event =
      tracker.record recorder now' run event := by
    intro run
    simp only [record, finish, conclude]
    rcases stamped with kind | timed
    · rw [kind]
    · obtain ⟨time, timed⟩ := Option.ne_none_iff_exists'.mp timed
      simp only [timed, Option.getD_some]
  rw [handle, handle]
  cases tracker.run with
  | none => rfl
  | some run =>
    dsimp only
    rw [same run]

/-- One event is handled, and the others after it unless it fails. -/
theorem Tracker.run_consume_some (tracker : Tracker) (recorder : Recorder τ) (now : Timestamp)
    (event : Event) (left : List (Option Event)) (before : τ) :
    ((tracker.consume recorder now (some event :: left)).run before).run =
      match (tracker.handle recorder now event).outcome before with
      | (.ok next, after) => ((next.consume recorder now left).run after).run
      | (.error failure, after) => (⟨.error failure, tracker, left⟩, after) := by
  rw [consume]
  simp only [StateT.run_bind, Id.run_bind, Act.outcome]
  rcases ((tracker.handle recorder now event).run.run before).run with ⟨failure | next, after⟩
  · rfl
  · rfl

namespace Publisher

theorem stamped_tell {publisher : Publisher} {told : Option Event}
    (stamped : ∀ event, told = some event → event.Stamped) :
    ∀ event, some event ∈ publisher.tell told → event.Stamped := by
  intro event member
  rw [tell] at member
  split_ifs at member
  · cases member
  · exact stamped event (List.mem_singleton.mp member).symm

theorem stamped_finish {publisher : Publisher} {id : String} {make : Running → Event}
    (stamped : ∀ node, (make node).Stamped) :
    ∀ event, some event ∈ (publisher.finish id make).2 → event.Stamped := by
  rw [finish]
  cases publisher.running.find? id with
  | none => exact fun _ member => absurd member List.not_mem_nil
  | some node =>
    refine stamped_tell fun event same => ?_
    cases same
    exact stamped node

/-- What is told says when it was. -/
theorem stamped_step (now : Timestamp) (publisher : Publisher) (notice : Notice) :
    ∀ event, some event ∈ (publisher.step now notice).2 → event.Stamped := by
  cases notice with
  | started id parent node name input =>
    cases parent with
    | none => exact fun _ member => absurd member List.not_mem_nil
    | some parent =>
      rw [step]
      split_ifs
      · refine stamped_tell fun event same => ?_
        cases same
        exact Or.inl rfl
      · exact fun _ member => absurd member List.not_mem_nil
  | ended id output => exact stamped_finish fun _ => Or.inr (Option.some_ne_none now)
  | failed id error => exact stamped_finish fun _ => Or.inr (Option.some_ne_none now)
  | finished state error =>
    refine stamped_tell fun event same => ?_
    cases same
    exact Or.inr (Option.some_ne_none now)
  | closed => exact stamped_tell fun event same => absurd same.symm (Option.some_ne_none event)

theorem stamped_events (clock : Nat → Timestamp) (place : Nat) (publisher : Publisher)
    (notices : List Notice) :
    ∀ event, some event ∈ events clock place publisher notices → event.Stamped := by
  induction notices generalizing place publisher with
  | nil => exact fun _ member => absurd member List.not_mem_nil
  | cons notice notices ih =>
    intro event member
    rcases List.mem_append.mp member with now | later
    · exact stamped_step (clock place) publisher notice event now
    · exact ih (place + 1) _ event later

end Publisher

/-! ### Steps -/

namespace Intake

variable {s s' : Intake τ}

theorem work_lt_of_step (step : Step recorder s s') : s'.work < s.work := by
  cases step with
  | tell told =>
    simp only [work, told, List.length_cons, List.length_append, List.length_nil]
    omega
  | handle _ queued _ => simp [work, queued]
  | fail _ queued _ => simp [work, queued]
  | stop _ queued => simp [work, queued]

/-- Telling and handling come to an end. -/
theorem acc_step (recorder : Recorder τ) (s : Intake τ) :
    Acc (fun s' s => Step recorder s s') s :=
  Subrelation.accessible work_lt_of_step (InvImage.accessible work (Nat.lt_wfRel.wf.apply s.work))

/-- What is told is pending at its place before and after. -/
theorem pending_tell {item : Option Event} {coming : List (Option Event)}
    (told : s.coming = item :: coming) :
    ({ s with coming, queued := s.queued ++ [item] } : Intake τ).pending = s.pending := by
  simp [pending, told]

theorem pending_of_queued {item : Option Event} {queued : List (Option Event)}
    (first : s.queued = item :: queued) : s.pending = item :: (queued ++ s.coming) := by
  rw [pending, first, List.cons_append]

theorem Awaits.step (awaits : s.Awaits) (step : Step recorder s s') : s'.Awaits := by
  cases step with
  | tell told =>
    have same := pending_tell told
    exact ⟨fun event member => awaits.stamped event (same ▸ member), fun going =>
      same.symm ▸ awaits.sentinel going⟩
  | handle going first _ =>
    have pending := pending_of_queued first
    refine ⟨fun event member => awaits.stamped event ?_, fun _ => ?_⟩
    · rw [pending]
      exact List.mem_cons_of_mem _ member
    · have sentinel := awaits.sentinel going
      rw [pending] at sentinel
      exact (List.mem_cons.mp sentinel).resolve_left (Option.some_ne_none _).symm
  | fail _ first _ =>
    refine ⟨fun event member => awaits.stamped event ?_, fun going => nomatch going⟩
    rw [pending_of_queued first]
    exact List.mem_cons_of_mem _ member
  | stop _ first =>
    refine ⟨fun event member => awaits.stamped event ?_, fun going => nomatch going⟩
    rw [pending_of_queued first]
    exact List.mem_cons_of_mem _ member

/-- A step does not change what is left in the end. -/
theorem rest_eq_of_step (awaits : s.Awaits) (step : Step recorder s s') :
    s'.rest recorder now = s.rest recorder now := by
  cases step with
  | tell told =>
    rw [rest, rest, pending_tell told]
  -- an event is handled at another time than in one go, which makes no difference
  | handle going first handled =>
    have pending := pending_of_queued first
    have stamped : Event.Stamped _ := awaits.stamped _ (by rw [pending]; exact List.mem_cons_self)
    rw [Tracker.handle_eq_of_stamped stamped _ now] at handled
    rw [rest, rest, going, pending]
    dsimp only
    rw [Tracker.run_consume_some, handled]
    rfl
  | fail going first handled =>
    have pending := pending_of_queued first
    have stamped : Event.Stamped _ := awaits.stamped _ (by rw [pending]; exact List.mem_cons_self)
    rw [Tracker.handle_eq_of_stamped stamped _ now] at handled
    rw [rest, rest, going, pending]
    dsimp only
    rw [Tracker.run_consume_some, handled]
    rfl
  | stop going first =>
    rw [rest, rest, going, pending_of_queued first]
    rfl

/-- As long as the end of all events has not been reached there is something to do. -/
theorem exists_step (awaits : s.Awaits) (going : s.stopped = none) :
    ∃ s', Step recorder s s' := by
  -- if the queue is empty, the end of all events is still to be told
  cases first : s.queued with
  | nil =>
    have sentinel := awaits.sentinel going
    rw [pending, first, List.nil_append] at sentinel
    obtain ⟨item, coming, told⟩ := List.exists_cons_of_ne_nil (List.ne_nil_of_mem sentinel)
    exact ⟨_, .tell told⟩
  | cons item queued =>
    cases item with
    | none => exact ⟨_, .stop going first⟩
    | some event =>
      rcases handled : (s.tracker.handle recorder event.startedAt event).outcome s.world with
        ⟨failure | next, after⟩
      · exact ⟨_, .fail going first handled⟩
      · exact ⟨_, .handle going first handled⟩

/-- What holds at first holds whenever something has been told or handled. -/
theorem awaits_and_rest_eq (awaits : s.Awaits)
    (steps : Relation.ReflTransGen (Step recorder) s s') (now : Timestamp) :
    s'.Awaits ∧ s'.rest recorder now = s.rest recorder now := by
  induction steps with
  | refl => exact ⟨awaits, rfl⟩
  | tail _ step ih => exact ⟨ih.1.step step, (rest_eq_of_step ih.1 step).trans ih.2⟩

end Intake

/-- Events that are consumed in one go are drained in any way. -/
theorem drains_of_consume {told : List Event} {before after : τ} {last : Tracker}
    (stamped : ∀ event ∈ told, event.Stamped)
    (consumed : ((tracker.consume recorder now (told.map some ++ [none])).run before).run =
      (⟨.ok (), last, []⟩, after)) :
    Drains recorder tracker (told.map some ++ [none]) before after where
  sentinel := ⟨told, rfl⟩
  ends := Intake.acc_step recorder _
  drained s steps final := by
    have first : Intake.Awaits ⟨told.map some ++ [none], [], tracker, before, none⟩ :=
      ⟨fun event member => stamped event (by simpa [Intake.pending] using member),
        fun _ => by simp [Intake.pending]⟩
    obtain ⟨awaits, same⟩ := Intake.awaits_and_rest_eq first steps now
    -- what is left does not change on the way, so at the end it is what one go would have left
    rw [show Intake.rest recorder now ⟨told.map some ++ [none], [], tracker, before, none⟩ = _ from
      consumed, Intake.rest] at same
    -- the tracker has stopped, as otherwise there would be something to do
    cases stopped : s.stopped with
    | none => exact absurd (Intake.exists_step awaits stopped) (not_exists.mpr final)
    | some outcome =>
      rw [stopped] at same
      obtain ⟨rest, rfl⟩ := Prod.mk.inj same
      obtain ⟨rfl, -, nothing⟩ := Tracker.Rest.mk.inj rest
      exact ⟨rfl, (List.append_eq_nil_iff.mp nothing).2, (List.append_eq_nil_iff.mp nothing).1, rfl⟩

/-! ### Runs -/

theorem exists_map_some_of_ofNodes {told : List (Option Event)}
    (of_nodes : Publisher.OfNodes told) : ∃ events : List Event, told = events.map some := by
  induction told with
  | nil => exact ⟨[], rfl⟩
  | cons item told ih =>
    obtain ⟨event, rfl, -⟩ := of_nodes item List.mem_cons_self
    obtain ⟨events, rfl⟩ := ih fun item member => of_nodes item (.tail _ member)
    exact ⟨event :: events, rfl⟩

/-- The end of all events is told once, when a run is over. -/
theorem exists_events_notices (clock : Nat → Timestamp) {course : Course}
    (settled : Workflow.isWaiting course.outcome = false) :
    ∃ told : List Event,
      Publisher.events clock 0 {} (notices course) = told.map some ++ [none] := by
  obtain ⟨told, place, publisher, of_nodes, opened, told_first⟩ :=
    exists_events_courseNotices clock course.supersteps
  obtain ⟨events, rfl⟩ := exists_map_some_of_ofNodes of_nodes
  obtain ⟨state, error, concludes⟩ := Tracker.exists_conclusion_eq course.outcome
  obtain ⟨event, ended⟩ : ∃ event : Event,
      Publisher.events clock place publisher [.finished state error, .closed] =
        [some event, none] :=
    ⟨_, Publisher.events_finished place opened state error⟩
  refine ⟨events ++ [event], ?_⟩
  rw [notices, settled, if_neg Bool.false_ne_true, told_first, concludes, ended, List.map_append,
    List.append_assoc]
  rfl

/-- However a run is recorded, its record is written, and its events are drained if it is over. -/
theorem exists_drains_notices (runtime : Runtime σ τ) (course : Course) (run : String)
    (before : τ) :
    ∃ after, (recordCourse runtime { run := some run } course).outcome before = (.ok (), after) ∧
      (Workflow.isWaiting course.outcome = false →
        Drains runtime.recorder { run := some run }
          (Publisher.events runtime.clock 0 {} (notices course)) before after) := by
  obtain ⟨last, writes, time, -, consumed⟩ :
      ∃ (last : Tracker) (writes : List Write) (time : Timestamp),
        (∀ write ∈ writes, write.AboutStep) ∧
          ((Tracker.consume runtime.recorder
            (runtime.clock (Publisher.events runtime.clock 0 {} (notices course)).length)
            { run := some run } (Publisher.events runtime.clock 0 {} (notices course))).run
              before).run = _ :=
    run_consume_notices rfl runtime.recorder _ runtime.clock course before
  refine ⟨(writes ++ conclusions run time course).foldl (Write.leaves runtime.recorder) before, ?_,
    fun settled => ?_⟩
  · rw [recordCourse, Act.outcome_bind, Act.outcome_lift, consumed]
    rfl
  · have stamped := Publisher.stamped_events runtime.clock 0 {} (notices course)
    obtain ⟨told, same⟩ := exists_events_notices runtime.clock settled
    rw [same] at consumed stamped ⊢
    exact drains_of_consume (fun event member => stamped event (by simpa using member)) consumed

/-- How an execution comes out does not depend on how runs are recorded, once the row of the run is
there. Let two executions begin in the same world, with the same graph, and be recorded in two ways:
by recorders that fail at different writes, say. The same is done in both, and both give the same
final state or the same error, up to the name of the run in it. In both of them all events are
handled, up to the end of all events, in whatever way telling and handling are interleaved. -/
theorem execute_ignores_recording {runtime : Runtime σ τ} {recorder' : Recorder τ'}
    {load' : String → Act τ' (Option Snapshot)} {graphId run run' : String} {initial : State}
    {snapshot : Snapshot} {world : σ} {store loaded created : τ} {store' loaded' created' : τ'}
    (loads : (runtime.load graphId).Gives store (some snapshot) loaded)
    (loads' : (load' graphId).Gives store' (some snapshot) loaded')
    (creates : (runtime.recorder.createRun graphId (Value.object initial).plain).Gives loaded run
      created)
    (creates' : (recorder'.createRun graphId (Value.object initial).plain).Gives loaded' run'
      created') :
    ∃ (course : Course) (world' : σ) (after : τ) (after' : τ'),
      (execute runtime graphId initial).outcome (world, store) =
        (course.outcome.mapError (outward run), world', after) ∧
      (execute (runtime.recordedBy load' recorder') graphId initial).outcome (world, store') =
        (course.outcome.mapError (outward run'), world', after') ∧
      (conduct runtime snapshot initial).run world = (course, world') ∧
      (Workflow.isWaiting course.outcome = false →
        Drains runtime.recorder { run := some run }
          (Publisher.events runtime.clock 0 {} (notices course)) created after ∧
        Drains recorder' { run := some run' }
          (Publisher.events runtime.clock 0 {} (notices course)) created' after') := by
  rcases conducts : (conduct runtime snapshot initial).run world with ⟨course, world'⟩
  have conducts' : (conduct (runtime.recordedBy load' recorder') snapshot initial).run world =
      (course, world') := conducts
  obtain ⟨after, recorded, drains⟩ := exists_drains_notices runtime course run created
  obtain ⟨after', recorded', drains'⟩ :=
    exists_drains_notices (runtime.recordedBy load' recorder') course run' created'
  exact ⟨course, world', after, after',
    outcome_execute_of_recorded loads creates conducts recorded,
    outcome_execute_of_recorded loads' creates' conducts' recorded', rfl,
    fun settled => ⟨drains settled, drains' settled⟩⟩

end Draining

/-! ### A newsroom without a record

The newsroom is run once with a store in which everything is written, and once with one in which
nothing is written after the row of the run. -/

namespace Unrecorded

def load (τ : Type) (_ : String) : Act τ (Option Snapshot) :=
  pure (some (Newsroom.plan .absent).toSnapshot)

def runtime : Runtime (List Message) Store.Database where
  settings := {}
  services := Newsroom.services
  server := none
  load := load Store.Database
  recorder := Rehearsal.recorder []
  clock _ := Rehearsal.now

/-- No session can be committed after the first one. -/
def plan (number : Nat) : Option Store.Interruption :=
  if number = 0 then none else some (.ofFault .committing .brokenConstraint)

def recorder : Recorder (Store.Database × Nat) :=
  Store.interrupted Rehearsal.naming Rehearsal.now plan

/-- The store with the row of the run. -/
def created : Store.Database := { Draft.store with runs := [Draft.row] }

/-- The first supervisor is done at once. -/
def script : List Message := [.naming Node.finish]

theorem gives_load {τ : Type} (before : τ) :
    (load τ Draft.graphId).Gives before (some (Newsroom.plan .absent).toSnapshot) before := rfl

theorem gives_createRun :
    (runtime.recorder.createRun Draft.graphId (Value.object []).plain).Gives Draft.store "<run1>"
      created := rfl

theorem gives_createRun_once :
    (recorder.createRun Draft.graphId (Value.object []).plain).Gives (Draft.store, 0) "<run1>"
      (created, 1) := rfl

end Unrecorded

/-- The newsroom comes out in the same way with a record and without. -/
theorem newsroom_ignores_recording :
    ∃ (course : Course) (world' : List Message) (after : Store.Database)
      (after' : Store.Database × Nat),
      (execute Unrecorded.runtime Draft.graphId []).outcome (Unrecorded.script, Draft.store) =
        (course.outcome.mapError (outward "<run1>"), world', after) ∧
      (execute (Unrecorded.runtime.recordedBy (Unrecorded.load _) Unrecorded.recorder)
          Draft.graphId []).outcome (Unrecorded.script, Draft.store, 0) =
        (course.outcome.mapError (outward "<run1>"), world', after') ∧
      (conduct Unrecorded.runtime (Newsroom.plan .absent).toSnapshot []).run Unrecorded.script =
        (course, world') ∧
      (Workflow.isWaiting course.outcome = false →
        Drains Unrecorded.runtime.recorder { run := some "<run1>" }
          (Publisher.events Unrecorded.runtime.clock 0 {} (notices course)) Unrecorded.created
          after ∧
        Drains Unrecorded.recorder { run := some "<run1>" }
          (Publisher.events Unrecorded.runtime.clock 0 {} (notices course)) (Unrecorded.created, 1)
          after') :=
  execute_ignores_recording (Unrecorded.gives_load Draft.store)
    (Unrecorded.gives_load (Draft.store, 0)) Unrecorded.gives_createRun
    Unrecorded.gives_createRun_once

end AgentWorkflow.Run
