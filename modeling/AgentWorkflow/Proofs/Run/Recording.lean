import AgentWorkflow.Proofs.Outcome
import AgentWorkflow.Run.Execution
import Mathlib.Tactic.SplitIfs

/-!
# What is written for a run

After the row of a run there is a list of writes, each of which is attempted once in its turn. A
publisher tells only of nodes until the run is over, and the tracker writes steps for them; then it
tells that the run is over, once, and nothing after that. So the writes are those of steps, and the
one that concludes the run after all of them.

## Main definitions

* `Write`: the writes that follow the start of a run
* `Write.leaves`: what a write leaves, whether it succeeds or not
* `concluding`, `conclusions`: the write that concludes a run

## Main results

* `Publisher.exists_events`: what is told before a run is over
* `Tracker.run_consume`: what is written for events of nodes
* `run_consume_notices`, `exists_outcome_recordCourse`: what is written for a run
-/

namespace AgentWorkflow.Run

variable {σ τ : Type} {recorder : Recorder τ} {tracker : Tracker} {run : String} {event : Event}
  {now : Timestamp} {before : τ}

/-- A write that follows the start of a run. -/
inductive Write
  | createStep (run node : String) (order : Nat) (startedAt : Timestamp)
  | finishStep (step : String) (delta : Value) (finishedAt : Timestamp)
  | finishRun (run : String) (status : Status) (final : Value) (error : Option String)
      (finishedAt : Timestamp)

namespace Write

/-- What a write leaves, whether it succeeds or not. -/
def leaves (recorder : Recorder τ) (before : τ) : Write → τ
  | createStep run node order startedAt =>
    ((recorder.createStep run node order startedAt).outcome before).2
  | finishStep step delta finishedAt =>
    ((recorder.finishStep step delta finishedAt).outcome before).2
  | finishRun run status final error finishedAt =>
    ((recorder.finishRun run status final error finishedAt).outcome before).2

/-- A write succeeds. -/
def Succeeds (recorder : Recorder τ) (before : τ) : Write → Prop
  | createStep run node order startedAt =>
    ∃ step after, (recorder.createStep run node order startedAt).Gives before step after
  | finishStep step delta finishedAt =>
    ∃ after, (recorder.finishStep step delta finishedAt).Gives before () after
  | finishRun run status final error finishedAt =>
    ∃ after, (recorder.finishRun run status final error finishedAt).Gives before () after

/-- A write is about a step, and not about the run as a whole. -/
def AboutStep : Write → Prop
  | createStep .. => True
  | finishStep .. => True
  | finishRun .. => False

end Write

/-- The text that is kept of a failure. -/
def reason : Failure → String
  | .cancelled => "run cancelled"
  | failure => failure.text

/-- The write that concludes a run. -/
def concluding (run : String) (time : Timestamp) : Except Failure State → Write
  | .ok state => .finishRun run .completed (Value.object state).plain none time
  | .error failure => .finishRun run .failed .null (some (reason failure)) time

/-- What concludes a run: one write, or none while it waits for an answer. -/
def conclusions (run : String) (time : Timestamp) (course : Course) : List Write :=
  if Workflow.isWaiting course.outcome then [] else [concluding run time course.outcome]

/-! ### What is told -/

namespace Publisher

variable {publisher : Publisher} {notice : Notice} {clock : Nat → Timestamp}

/-- The notices of what begins and ends in a run, which is not over yet. -/
inductive Inner : Notice → Prop
  | started (id : String) (parent node name : Option String) (input : Value) :
      Inner (.started id parent node name input)
  | ended (id : String) (output : Value) : Inner (.ended id output)
  | failed (id error : String) : Inner (.failed id error)

/-- What is told is about nodes alone. -/
def OfNodes (told : List (Option Event)) : Prop :=
  ∀ item ∈ told, ∃ event, item = some event ∧ event.kind ≠ .graphEnd

theorem OfNodes.nil : OfNodes [] := fun _ member => nomatch member

theorem OfNodes.tell (kind_ne : event.kind ≠ .graphEnd) :
    OfNodes (publisher.tell (some event)) := by
  intro item member
  rw [Publisher.tell] at member
  split_ifs at member
  · cases member
  · exact ⟨event, List.mem_singleton.mp member, kind_ne⟩

theorem ofNodes_finish {id : String} {make : Running → Event}
    (kind_ne : ∀ node, (make node).kind ≠ .graphEnd) (opened : publisher.closed = false) :
    (publisher.finish id make).1.closed = false ∧ OfNodes (publisher.finish id make).2 := by
  rw [Publisher.finish]
  cases publisher.running.find? id with
  | none => exact ⟨opened, .nil⟩
  | some node => exact ⟨opened, .tell (kind_ne node)⟩

/-- Such a notice tells of nodes, and leaves a publisher open. -/
theorem Inner.step (inner : Inner notice) (opened : publisher.closed = false) :
    (publisher.step now notice).1.closed = false ∧ OfNodes (publisher.step now notice).2 := by
  cases inner with
  | started id parent node name input =>
    cases parent with
    | none => exact ⟨opened, .nil⟩
    | some parent =>
      rw [Publisher.step]
      split_ifs
      · exact ⟨opened, .tell EventKind.noConfusion⟩
      · exact ⟨opened, .nil⟩
  | ended id output => exact ofNodes_finish (fun _ => EventKind.noConfusion) opened
  | failed id error => exact ofNodes_finish (fun _ => EventKind.noConfusion) opened

/-- Until a run is over, a publisher tells of nodes alone. -/
theorem exists_events {notices : List Notice} (inner : ∀ notice ∈ notices, Inner notice)
    (place : Nat) (opened : publisher.closed = false) :
    ∃ told next, OfNodes told ∧ next.closed = false ∧ ∀ rest,
      events clock place publisher (notices ++ rest) =
        told ++ events clock (place + notices.length) next rest := by
  -- nothing that is told here closes the publisher, so the next one is still open
  induction notices generalizing place publisher with
  | nil => exact ⟨[], publisher, .nil, opened, fun _ => rfl⟩
  | cons notice notices ih =>
    obtain ⟨still_open, of_nodes⟩ := (inner notice List.mem_cons_self).step opened
    obtain ⟨told, next, of_nodes', open', same⟩ :=
      ih (fun notice member => inner notice (.tail _ member)) (place + 1) still_open
    refine ⟨(publisher.step (clock place) notice).2 ++ told, next,
      List.forall_mem_append.mpr ⟨of_nodes, of_nodes'⟩, open', fun rest => ?_⟩
    have first : events clock place publisher (notice :: notices ++ rest) =
        (publisher.step (clock place) notice).2 ++
          events clock (place + 1) (publisher.step (clock place) notice).1 (notices ++ rest) :=
      rfl
    rw [first, same rest, List.length_cons, List.append_assoc, Nat.add_right_comm, Nat.add_assoc]

/-- The event that a run is over, and the end of all events. -/
theorem events_finished (place : Nat) (opened : publisher.closed = false) (state : Value)
    (error : Option String) :
    events clock place publisher [.finished state error, .closed] =
      [some { kind := .graphEnd, startedAt := clock place, endedAt := some (clock place),
              state := state, error := error }, none] := by
  simp [events, Publisher.step, Publisher.tell, opened]

end Publisher

/-- The notices of supersteps are about what begins and ends in them. -/
theorem inner_of_mem_courseNotices {supersteps : List Superstep} {notice : Notice}
    (member : notice ∈ courseNotices supersteps) : Publisher.Inner notice := by
  rw [courseNotices, List.mem_cons, List.mem_flatMap] at member
  rcases member with rfl | ⟨⟨superstep, place⟩, -, member⟩
  · exact .started _ _ _ _ _
  · simp only [superstepNotices, List.mem_append, List.mem_map] at member
    rcases member with ⟨⟨invocation, i⟩, -, rfl⟩ | ⟨⟨invocation, i⟩, -, rfl⟩
    · exact .started _ _ _ _ _
    · rw [ending]
      split
      · exact .ended _ _
      · exact .failed _ _

/-! ### What is written -/

namespace Tracker

theorem run_attempt {α : Type} (write : Act τ α) (before : τ) :
    ((attempt write).run before).run =
      ((write.outcome before).1.toOption, (write.outcome before).2) := rfl

/-- The row of a node that begins is written in one attempt. -/
theorem run_begin (tracker : Tracker) (recorder : Recorder τ) (run : String) (event : Event)
    (before : τ) :
    ∃ next : Tracker, next.run = tracker.run ∧
      ((tracker.begin recorder run event).run before).run =
        (next, (Write.createStep run event.node tracker.nextOrder event.startedAt).leaves recorder
          before) := by
  simp only [begin, takeOrder, StateT.run_bind, Id.run_bind, run_attempt, Write.leaves]
  cases ((recorder.createStep run event.node tracker.nextOrder event.startedAt).outcome
    before).1.toOption with
  | none =>
    refine ⟨_, ?_, rfl⟩
    rfl
  | some step =>
    refine ⟨_, ?_, rfl⟩
    rfl

/-- The row of a node that ends is completed in one attempt, if there is one. -/
theorem run_finish (tracker : Tracker) (recorder : Recorder τ) (event : Event) (delta : Value)
    (before : τ) :
    ∃ (next : Tracker) (writes : List Write), (∀ write ∈ writes, write.AboutStep) ∧
      next.run = tracker.run ∧ ((tracker.finish recorder event delta now).run before).run =
        (next, writes.foldl (Write.leaves recorder) before) := by
  rw [finish]
  cases tracker.inFlight.find? event.id with
  | none => exact ⟨tracker, [], by simp, rfl, rfl⟩
  | some step =>
    have about : ∀ write ∈ [Write.finishStep step delta (event.endedAt.getD now)],
        write.AboutStep :=
      List.forall_mem_singleton.mpr trivial
    refine ⟨_, [.finishStep step delta (event.endedAt.getD now)], about, ?_, rfl⟩
    rfl

/-- Events of nodes are recorded by writes about steps. -/
theorem run_record (kind_ne : event.kind ≠ .graphEnd) (before : τ) :
    ∃ (next : Tracker) (writes : List Write), (∀ write ∈ writes, write.AboutStep) ∧
      next.run = tracker.run ∧ ((tracker.record recorder now run event).run before).run =
        (next, writes.foldl (Write.leaves recorder) before) := by
  cases kind : event.kind with
  | graphEnd => exact absurd kind kind_ne
  | nodeStart =>
    obtain ⟨next, same, ran⟩ := run_begin tracker recorder run event before
    refine ⟨next, [.createStep run event.node tracker.nextOrder event.startedAt],
      List.forall_mem_singleton.mpr trivial, same, ?_⟩
    rw [record, kind]
    exact ran
  | nodeEnd =>
    rw [record, kind]
    exact run_finish tracker recorder event _ before
  | nodeError =>
    rw [record, kind]
    exact run_finish tracker recorder event _ before

/-- One event is recorded, and the others after it. -/
theorem run_consume_cons (started : tracker.run = some run) (left : List (Option Event))
    (before : τ) :
    ((tracker.consume recorder now (some event :: left)).run before).run =
      (((((tracker.record recorder now run event).run before).run.1).consume recorder now left).run
        ((tracker.record recorder now run event).run before).run.2).run := by
  have handled : tracker.handle recorder now event =
      ExceptT.lift (tracker.record recorder now run event) := by
    rw [handle, started]
  rw [consume, handled]
  rfl

/-- Events of nodes are consumed by writes about steps. -/
theorem run_consume {told : List (Option Event)} (started : tracker.run = some run)
    (of_nodes : Publisher.OfNodes told) (rest : List (Option Event)) (before : τ) :
    ∃ (next : Tracker) (writes : List Write), (∀ write ∈ writes, write.AboutStep) ∧
      next.run = some run ∧ ((tracker.consume recorder now (told ++ rest)).run before).run =
        ((next.consume recorder now rest).run
          (writes.foldl (Write.leaves recorder) before)).run := by
  -- the tracker changes with every event, but not the run that it records
  induction told generalizing tracker before with
  | nil => exact ⟨tracker, [], by simp, started, rfl⟩
  | cons item told ih =>
    obtain ⟨event, rfl, kind_ne⟩ := of_nodes item List.mem_cons_self
    obtain ⟨next, writes, about, same, recorded⟩ :
        ∃ (next : Tracker) (writes : List Write), (∀ write ∈ writes, write.AboutStep) ∧
          next.run = tracker.run ∧ ((tracker.record recorder now run event).run before).run =
            (next, writes.foldl (Write.leaves recorder) before) :=
      run_record kind_ne before
    obtain ⟨last, more, about', started', consumed⟩ := ih (same.trans started)
      (fun item member => of_nodes item (.tail _ member))
      (writes.foldl (Write.leaves recorder) before)
    refine ⟨last, writes ++ more, List.forall_mem_append.mpr ⟨about, about'⟩, started', ?_⟩
    rw [List.cons_append, run_consume_cons started, recorded, consumed, List.foldl_append]

theorem exists_conclusion_eq (outcome : Except Failure State) :
    ∃ state error, conclusion outcome = .finished state error := by
  cases outcome with
  | ok state => exact ⟨_, _, rfl⟩
  | error failure => cases failure <;> exact ⟨_, _, rfl⟩

/-- The event that a run is over is recorded by the write that concludes it. -/
theorem run_record_graphEnd (outcome : Except Failure State) (startedAt time : Timestamp)
    (state : Value) (error : Option String) (concludes : conclusion outcome = .finished state error)
    (before : τ) :
    ((tracker.record recorder now run
        { kind := .graphEnd, startedAt, endedAt := some time, state := state, error := error }).run
          before).run =
      (tracker, (concluding run time outcome).leaves recorder before) := by
  -- a cancellation has a text of its own here, so the kinds of failure are told apart
  cases outcome with
  | ok final =>
    cases concludes
    rfl
  | error failure =>
    cases failure <;>
    · cases concludes
      rfl

end Tracker

/-- Of a run its nodes are told first, and then what is told by whatever comes after them. -/
theorem exists_events_courseNotices (clock : Nat → Timestamp) (supersteps : List Superstep) :
    ∃ told place next, Publisher.OfNodes told ∧ next.closed = false ∧ ∀ rest,
      Publisher.events clock 0 {} (courseNotices supersteps ++ rest) =
        told ++ Publisher.events clock place next rest := by
  obtain ⟨told, next, of_nodes, opened, told_first⟩ :
      ∃ told next, Publisher.OfNodes told ∧ next.closed = false ∧ ∀ rest,
        Publisher.events clock 0 {} (courseNotices supersteps ++ rest) =
          told ++ Publisher.events clock (0 + (courseNotices supersteps).length) next rest :=
    Publisher.exists_events (fun _ => inner_of_mem_courseNotices) 0 rfl
  exact ⟨told, _, next, of_nodes, opened, told_first⟩

/-- The events of a run are consumed by writes about its steps, and by the one that concludes it. -/
theorem run_consume_notices (started : tracker.run = some run) (recorder : Recorder τ)
    (now : Timestamp) (clock : Nat → Timestamp) (course : Course) (before : τ) :
    ∃ (last : Tracker) (steps : List Write) (time : Timestamp), (∀ write ∈ steps, write.AboutStep) ∧
      ((tracker.consume recorder now (Publisher.events clock 0 {} (notices course))).run
          before).run =
        (⟨.ok (), last, []⟩, (steps ++ conclusions run time course).foldl
          (Write.leaves recorder) before) := by
  obtain ⟨told, place, publisher, of_nodes, opened, told_first⟩ :=
    exists_events_courseNotices clock course.supersteps
  obtain ⟨last, steps, about, still_started, consumed⟩ :
      ∃ (last : Tracker) (writes : List Write), (∀ write ∈ writes, write.AboutStep) ∧
        last.run = some run ∧
        ((tracker.consume recorder now (Publisher.events clock 0 {} (notices course))).run
          before).run = _ := by
    rw [notices, told_first]
    exact Tracker.run_consume started of_nodes _ before
  refine ⟨last, steps, clock place, about, consumed.trans ?_⟩
  rw [conclusions, List.foldl_append]
  -- a run that waits ends with the events of its nodes; otherwise one more event is consumed
  cases Workflow.isWaiting course.outcome with
  | true => rfl
  | false =>
    obtain ⟨state, error, concludes⟩ := Tracker.exists_conclusion_eq course.outcome
    have ending : Publisher.events clock place publisher [.finished state error, .closed] = _ :=
      Publisher.events_finished place opened state error
    simp only [Bool.false_eq_true, if_false]
    rw [concludes, ending, Tracker.run_consume_cons still_started,
      Tracker.run_record_graphEnd course.outcome _ _ state error concludes]
    rfl

/-- A run is recorded by writes about its steps, and by the one that concludes it. -/
theorem exists_outcome_recordCourse (runtime : Runtime σ τ) (course : Course)
    (started : tracker.run = some run) (before : τ) :
    ∃ (steps : List Write) (time : Timestamp), (∀ write ∈ steps, write.AboutStep) ∧
      (recordCourse runtime tracker course).outcome before =
        (.ok (), (steps ++ conclusions run time course).foldl (Write.leaves runtime.recorder)
          before) := by
  obtain ⟨last, steps, time, about, consumed⟩ :=
    run_consume_notices started runtime.recorder
      (runtime.clock (Publisher.events runtime.clock 0 {} (notices course)).length) runtime.clock
      course before
  refine ⟨steps, time, about, ?_⟩
  rw [recordCourse, Act.outcome_bind, Act.outcome_lift, consumed]
  rfl

end AgentWorkflow.Run
