import AgentWorkflow.Proofs.Run.Execution
import AgentWorkflow.Proofs.Run.Handling

/-!
# What a tracker remembers

A tracker remembers the number of the next step and which rows are in flight. Both follow from what
it has done before, so the write that it attempts for an event does, too. No write that fails stops
it: a number is used up in any case, a row that could not be added is not in flight, and a row is in
flight no more once it was attempted to complete it.

## Main definitions

* `Tracker.handleAll`: the handling of events by a tracker
* `Tracker.Remembers`: what a tracker remembers of what it has done
* `Tracker.Advances`: how that changes with an event

## Main results

* `Tracker.advances_left`: what is remembered after an event
* `Tracker.Remembers.follows`: what is done about an event follows from what was done before
* `Tracker.Remembers.exists_handles`: events are handled, whatever they are, and whichever writes
  fail
-/

namespace AgentWorkflow.Run

variable {τ : Type} {recorder : Recorder τ} {tracker : Tracker} {run id step : String}
  {event : Event} {now : Timestamp} {before : τ} {delta : Value} {input : Event × Timestamp}

namespace Tracker

/-- The write that is due for an event. -/
def due (tracker : Tracker) (run : String) (now : Timestamp) (event : Event) : Option Write :=
  match event.kind with
  | .nodeStart => some (.createStep run event.node tracker.nextOrder event.startedAt)
  | .nodeEnd => (tracker.inFlight.find? event.id).map fun step =>
      .finishStep step event.state.plain (event.endedAt.getD now)
  | .nodeError => (tracker.inFlight.find? event.id).map fun step =>
      .finishStep step (failureDelta event) (event.endedAt.getD now)
  | .graphEnd => some <|
      match event.error with
      | some error => .finishRun run .failed .null (some error) (event.endedAt.getD now)
      | none => .finishRun run .completed event.state.plain none (event.endedAt.getD now)

/-- What is left when an event has been recorded. -/
def left (recorder : Recorder τ) (run : String) (tracker : Tracker) (before : τ)
    (input : Event × Timestamp) : Tracker × τ :=
  ((tracker.record recorder input.2 run input.1).run before).run

/-- What is done about an event. -/
def handling (recorder : Recorder τ) (run : String) (tracker : Tracker) (before : τ)
    (input : Event × Timestamp) : Handling τ where
  event := input.1
  now := input.2
  write := tracker.due run input.2 input.1
  row := (tracker.due run input.2 input.1).bind (Write.row? recorder before)
  before := before
  after := (tracker.left recorder run before input).2

/-- Handles events, each at its time. -/
def handleAll (recorder : Recorder τ) (tracker : Tracker) (inputs : List (Event × Timestamp)) :
    Act τ Tracker :=
  inputs.foldlM (fun tracker input => tracker.handle recorder input.2 input.1) tracker

/-- What a tracker remembers follows from what it has done. -/
structure Remembers (run : String) (earlier : List (Handling τ)) (tracker : Tracker) : Prop where
  run_eq : tracker.run = some run
  order_eq : tracker.nextOrder = begun earlier + 1
  inFlight_iff : ∀ id step, tracker.inFlight.find? id = some step ↔ InFlight earlier id step

/-- How what a tracker remembers changes with an event. -/
structure Advances (h : Handling τ) (tracker next : Tracker) : Prop where
  run_eq : next.run = tracker.run
  /-- The number of a node that begins is used up. -/
  order_eq : next.nextOrder = if h.begins then tracker.nextOrder + 1 else tracker.nextOrder
  /-- What the event concerns is in flight if it was added just now. -/
  touched : ∀ id, h.Touches id → next.inFlight.find? id = h.added?
  untouched : ∀ id, ¬ h.Touches id → next.inFlight.find? id = tracker.inFlight.find? id

end Tracker

/-! ### One event -/

namespace Tracker

/-- The row of a node that begins is in flight if it could be added. -/
theorem run_begin_eq (tracker : Tracker) (recorder : Recorder τ) (run : String) (event : Event)
    (before : τ) :
    let write := Write.createStep run event.node tracker.nextOrder event.startedAt
    ((tracker.begin recorder run event).run before).run =
      ({ tracker with
          nextOrder := tracker.nextOrder + 1
          inFlight := (write.row? recorder before).elim tracker.inFlight
            (tracker.inFlight.put event.id) }, write.leaves recorder before) := by
  simp only [begin, takeOrder, StateT.run_bind, Id.run_bind, run_attempt, Write.leaves, Write.row?]
  cases ((recorder.createStep run event.node tracker.nextOrder event.startedAt).outcome
    before).1.toOption <;> rfl

/-- The row of a node that ends is in flight no more, whether it could be completed or not. -/
theorem run_finish_eq (tracker : Tracker) (recorder : Recorder τ) (event : Event) (delta : Value)
    (now : Timestamp) (before : τ) :
    ((tracker.finish recorder event delta now).run before).run =
      match tracker.inFlight.find? event.id with
      | none => (tracker, before)
      | some step => ({ tracker with inFlight := tracker.inFlight.remove event.id },
          (Write.finishStep step delta (event.endedAt.getD now)).leaves recorder before) := by
  rw [finish]
  cases tracker.inFlight.find? event.id <;> rfl

theorem left_of_ends (recorder : Recorder τ) (run : String) (tracker : Tracker) (before : τ)
    (now : Timestamp) (ends : event.delta? = some delta) :
    tracker.left recorder run before (event, now) =
      ((tracker.finish recorder event delta now).run before).run := by
  rw [left, record]
  rw [Event.delta?] at ends
  cases kind : event.kind <;> rw [kind] at ends <;> cases ends <;> rfl

/-- What is due for an event about an end is the completion of the row in flight. -/
theorem due_of_ends (tracker : Tracker) (run : String) (now : Timestamp)
    (ends : event.delta? = some delta) :
    tracker.due run now event = (tracker.inFlight.find? event.id).map fun step =>
      .finishStep step delta (event.endedAt.getD now) := by
  rw [due]
  rw [Event.delta?] at ends
  cases kind : event.kind <;> rw [kind] at ends <;> cases ends <;> rfl

/-- An event is recorded by the write that is due, and by nothing else. -/
theorem left_snd (recorder : Recorder τ) (run : String) (tracker : Tracker) (before : τ)
    (input : Event × Timestamp) :
    (tracker.left recorder run before input).2 =
      (tracker.due run input.2 input.1).elim before (Write.leaves recorder before) := by
  obtain ⟨event, now⟩ := input
  cases ends : event.delta? with
  | some delta =>
    rw [left_of_ends recorder run tracker before now ends, run_finish_eq,
      due_of_ends tracker run now ends]
    cases tracker.inFlight.find? event.id <;> rfl
  | none =>
    rw [left, record, due]
    rcases Event.delta?_eq_none_iff.mp ends with kind | kind
    · rw [kind]
      exact congrArg Prod.snd (run_begin_eq tracker recorder run event before)
    · rw [kind]
      dsimp only [conclude]
      cases event.error <;> rfl

theorem advances_of_ends (recorder : Recorder τ) (run : String) (tracker : Tracker) (before : τ)
    (now : Timestamp) (ends : event.delta? = some delta) :
    Advances (tracker.handling recorder run before (event, now)) tracker
      (tracker.left recorder run before (event, now)).1 := by
  have added : (tracker.handling recorder run before (event, now)).added? = none :=
    Handling.added?_eq_none_of_delta? ends
  have begins : (tracker.handling recorder run before (event, now)).begins = false := by
    rw [← Bool.not_eq_true, Handling.begins_iff]
    intro kind
    cases ends.symm.trans (Event.delta?_eq_none_iff.mpr (Or.inl kind))
  have apart : ∀ id, ¬ (tracker.handling recorder run before (event, now)).Touches id →
      id ≠ event.id := by
    rintro id untouched rfl
    exact untouched ⟨rfl, Or.inl (by simp [handling, ends])⟩
  rw [left_of_ends recorder run tracker before now ends, run_finish_eq]
  cases found : tracker.inFlight.find? event.id with
  | none =>
    -- an end without a row in flight is passed, and leaves none in flight
    refine ⟨rfl, by rw [begins]; rfl, ?_, fun _ _ => rfl⟩
    rintro id ⟨rfl, -⟩
    exact found.trans added.symm
  | some step =>
    refine ⟨rfl, by rw [begins]; rfl, ?_, fun id untouched =>
      Record.find?_remove_of_ne _ (apart id untouched)⟩
    rintro id ⟨rfl, -⟩
    exact (Record.find?_remove_self _ _).trans added.symm

theorem advances_of_nodeStart (recorder : Recorder τ) (run : String) (tracker : Tracker)
    (before : τ) (now : Timestamp) (kind : event.kind = .nodeStart) :
    Advances (tracker.handling recorder run before (event, now)) tracker
      (tracker.left recorder run before (event, now)).1 := by
  have begins : (tracker.handling recorder run before (event, now)).begins = true :=
    Handling.begins_iff.mpr kind
  have write : tracker.due run now event =
      some (.createStep run event.node tracker.nextOrder event.startedAt) := by rw [due, kind]
  have row : (tracker.handling recorder run before (event, now)).row = (Write.createStep run
      event.node tracker.nextOrder event.startedAt).row? recorder before := by
    rw [handling, write, Option.bind_some]
  have after : (tracker.left recorder run before (event, now)).1 = { tracker with
      nextOrder := tracker.nextOrder + 1
      inFlight := (tracker.handling recorder run before (event, now)).row.elim tracker.inFlight
        (tracker.inFlight.put event.id) } := by
    rw [row, left, record, kind]
    exact congrArg Prod.fst (run_begin_eq tracker recorder run event before)
  rw [after]
  refine ⟨rfl, by rw [begins]; rfl, ?_, ?_⟩
  -- a start concerns its identifier only if its row was added; else an older row stays in flight
  · rintro id ⟨rfl, ends | written⟩
    · exact absurd (Event.delta?_eq_none_iff.mpr (Or.inl kind)) ends
    · obtain ⟨step, wrote⟩ := Option.ne_none_iff_exists'.mp written
      rw [Handling.added?, if_pos begins, wrote]
      exact Record.find?_put_self _ _ _
  · intro id untouched
    cases wrote : (tracker.handling recorder run before (event, now)).row with
    | none => rfl
    | some step =>
      refine Record.find?_put_of_ne _ _ ?_
      rintro rfl
      exact untouched ⟨rfl, Or.inr (by simp [wrote])⟩

theorem advances_of_graphEnd (recorder : Recorder τ) (run : String) (tracker : Tracker)
    (before : τ) (now : Timestamp) (kind : event.kind = .graphEnd) :
    Advances (tracker.handling recorder run before (event, now)) tracker
      (tracker.left recorder run before (event, now)).1 := by
  have after : (tracker.left recorder run before (event, now)).1 = tracker := by
    rw [left, record, kind]
    rfl
  have row : (tracker.handling recorder run before (event, now)).row = none := by
    rw [handling, due, kind]
    cases event.error <;> rfl
  have begins : (tracker.handling recorder run before (event, now)).begins = false := by
    rw [← Bool.not_eq_true, Handling.begins_iff]
    exact fun start => EventKind.noConfusion (start.symm.trans kind)
  rw [after]
  refine ⟨rfl, by rw [begins]; rfl, ?_, fun _ _ => rfl⟩
  rintro id ⟨-, ends | written⟩
  · exact absurd (Event.delta?_eq_none_iff.mpr (Or.inr kind)) ends
  · exact absurd row written

/-- What is remembered after an event: a number is used up for a node that begins, and what is in
flight changes where the event concerns it. -/
theorem advances_left (recorder : Recorder τ) (run : String) (tracker : Tracker) (before : τ)
    (input : Event × Timestamp) :
    Advances (tracker.handling recorder run before input) tracker
      (tracker.left recorder run before input).1 := by
  cases ends : input.1.delta? with
  | some delta => exact advances_of_ends recorder run tracker before input.2 ends
  | none =>
    rcases Event.delta?_eq_none_iff.mp ends with kind | kind
    · exact advances_of_nodeStart recorder run tracker before input.2 kind
    · exact advances_of_graphEnd recorder run tracker before input.2 kind

end Tracker

namespace Tracker.Remembers

variable {earlier : List (Handling τ)}

/-- What is done about the next event follows from what was done before. -/
theorem follows (remembers : tracker.Remembers run earlier) (recorder : Recorder τ) (before : τ)
    (input : Event × Timestamp) :
    (tracker.handling recorder run before input).Follows recorder run earlier where
  begins kind := by
    change input.1.kind = .nodeStart at kind
    change tracker.due run input.2 input.1 = _
    rw [due, kind, ← remembers.order_eq]
    rfl
  completes {delta step} ends inFlight := by
    have found : tracker.inFlight.find? input.1.id = some step :=
      (remembers.inFlight_iff _ _).mpr inFlight
    exact (due_of_ends tracker run input.2 ends).trans (congrArg (Option.map _) found)
  passes ends idle := by
    obtain ⟨delta, ends⟩ := Option.ne_none_iff_exists'.mp ends
    have nothing : tracker.inFlight.find? input.1.id = none :=
      Option.eq_none_iff_forall_ne_some.mpr fun step found =>
        idle step ((remembers.inFlight_iff _ _).mp found)
    exact (due_of_ends tracker run input.2 ends).trans (congrArg (Option.map _) nothing)
  concludes kind := by
    change input.1.kind = .graphEnd at kind
    change tracker.due run input.2 input.1 = _
    rw [due, kind]
    rfl
  row_eq := rfl
  after_eq := left_snd recorder run tracker before input

/-- What is remembered after an event follows from what was done before, and about it. -/
theorem left (remembers : tracker.Remembers run earlier) (recorder : Recorder τ) (before : τ)
    (input : Event × Timestamp) :
    (tracker.left recorder run before input).1.Remembers run
      (earlier ++ [tracker.handling recorder run before input]) := by
  have advances := advances_left recorder run tracker before input
  refine ⟨advances.run_eq.trans remembers.run_eq, ?_, fun id step => ?_⟩
  · rw [advances.order_eq, begun_append_singleton, remembers.order_eq]
    split_ifs <;> rfl
  · rw [inFlight_append_singleton]
    -- what an event concerns it adds or takes out, and all else stays in flight
    by_cases touches : (tracker.handling recorder run before input).Touches id
    · simp [advances.touched id touches, touches, touches.1]
    · have unadded : ¬ ((tracker.handling recorder run before input).event.id = id ∧
          (tracker.handling recorder run before input).added? = some step) := by
        rintro ⟨rfl, added⟩
        exact touches (Handling.touches_of_added added)
      rw [advances.untouched id touches, remembers.inFlight_iff]
      simp [touches, unadded]

end Tracker.Remembers

/-! ### All events -/

/-- Events are handled, whatever they are, and whichever writes fail. -/
theorem Tracker.Remembers.exists_handles {earlier : List (Handling τ)}
    (remembers : tracker.Remembers run earlier) (recorder : Recorder τ)
    (inputs : List (Event × Timestamp)) (before : τ) :
    ∃ later last after, (tracker.handleAll recorder inputs).Gives before last after ∧
      Handles recorder run earlier before inputs later after ∧
      last.Remembers run (earlier ++ later) := by
  -- on the events; what the tracker remembers is carried along, so the next one is handled, too
  induction inputs generalizing tracker earlier before with
  | nil => exact ⟨[], tracker, before, rfl, .nil earlier before, by simpa using remembers⟩
  | cons input inputs ih =>
    obtain ⟨later, last, after, gives, handles, still⟩ :=
      ih (remembers.left recorder before input) (tracker.left recorder run before input).2
    have handled : (tracker.handle recorder input.2 input.1).Gives before
        (tracker.left recorder run before input).1 (tracker.left recorder run before input).2 := by
      rw [handle, remembers.run_eq]
      rfl
    refine ⟨tracker.handling recorder run before input :: later, last, after, ?_, ?_, ?_⟩
    · rw [handleAll, List.foldlM_cons]
      exact Act.gives_bind_iff.mpr ⟨_, _, handled, gives⟩
    · exact .cons (remembers.follows recorder before input) handles
    · rw [List.append_cons]
      exact still

theorem Tracker.remembers_start (run : String) :
    ({ run := some run } : Tracker).Remembers run ([] : List (Handling τ)) where
  run_eq := rfl
  order_eq := rfl
  inFlight_iff id step := by
    constructor
    · intro found
      cases found
    · exact fun inFlight => absurd inFlight not_since_nil

/-- A tracker that has been started has written the row of its run. -/
theorem Tracker.gives_start_iff {started : Tracker} :
    (Tracker.start recorder tracker graphId initial).Gives before started created ↔
      ∃ run, (recorder.createRun graphId (Value.object initial).plain).Gives before run created ∧
        { tracker with run := some run } = started := by
  rw [Act.Gives, outcome_start]
  rcases came : (recorder.createRun graphId (Value.object initial).plain).outcome before with
    ⟨failure | run, after⟩
  · simp [Act.Gives, came]
  · simp [Act.Gives, came, Prod.ext_iff, and_comm]

end AgentWorkflow.Run
