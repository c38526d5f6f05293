import AgentWorkflow.Proofs.Run.Tracking
import AgentWorkflow.Proofs.Store.Sessions
import AgentWorkflow.Proofs.Store.Steps

/-!
# The steps of a run in the store

What a tracker does about events is known from the events and from which of its writes succeeded.
So are the steps in the store: those that were there are followed by those that can be read off. The
row of a step is added with the number of its node among those that began, and completed once at
most. This holds for every recorder that writes to the store as far as it writes at all, such as one
whose sessions are interrupted now and then.

## Main definitions

* `Kept`: the steps in the store are those that can be read off

## Main results

* `Kept.snoc`: one event keeps the store
* `Handles.kept`: events that are handled keep the store
* `Tracker.handles_any_events`: a tracker handles any events, whichever writes fail
-/

namespace AgentWorkflow.Run

section Keeping

variable {τ : Type} {recorder : Recorder τ} {run step : String} {before : τ} {naming : Store.Naming}
  {view : τ → Store.Database} {delta : Value}

/-- What is in the store follows from what was done: the steps that were there are followed by those
that can be read off. -/
structure Kept (run : String) (base : List Store.StepRow) (view : τ → Store.Database)
    (earlier : List (Handling τ)) (world : τ) : Prop where
  steps_eq : (view world).steps = base ++ rowsOf run 1 earlier
  /-- A row that was added is none of those that were there. -/
  apart : ∀ row ∈ base, row.id ∉ earlier.filterMap Handling.added?
  added : (earlier.filterMap Handling.added?).Nodup
  /-- It was attempted once at most to complete a row. -/
  completing : (earlier.filterMap Handling.completing?).Nodup
  completing_added : ∀ step ∈ earlier.filterMap Handling.completing?,
    step ∈ earlier.filterMap Handling.added?
  /-- It was not attempted to complete a row that is in flight. -/
  inFlight_open : ∀ id step, InFlight earlier id step →
    step ∉ earlier.filterMap Handling.completing?

/-! ### Single writes -/

namespace Write

/-- A write that does not succeed leaves the store as it is. -/
theorem view_leaves_of_refused (stores : recorder.Stores naming view) {write : Write}
    (refused : ¬ write.Succeeds recorder before) :
    view (write.leaves recorder before) = view before := by
  cases write with
  | createStep run node order startedAt =>
    rcases came : (recorder.createStep run node order startedAt).outcome before with
      ⟨failure | step, after⟩
    · rw [leaves, came]
      exact (stores.createStep run node order startedAt).of_fails came
    · exact absurd ⟨step, after, came⟩ refused
  | finishStep step delta finishedAt =>
    rcases came : (recorder.finishStep step delta finishedAt).outcome before with
      ⟨failure | _, after⟩
    · rw [leaves, came]
      exact (stores.finishStep step delta finishedAt).of_fails came
    · exact absurd ⟨after, came⟩ refused
  | finishRun run status final error finishedAt =>
    rcases came : (recorder.finishRun run status final error finishedAt).outcome before with
      ⟨failure | _, after⟩
    · rw [leaves, came]
      exact (stores.finishRun run status final error finishedAt).of_fails came
    · exact absurd ⟨after, came⟩ refused

/-- A write that writes no row of a step leaves those that are there. -/
theorem steps_leaves_of_unwritten (stores : recorder.Stores naming view) {write : Write}
    (unwritten : write.row? recorder before = none) :
    (view (write.leaves recorder before)).steps = (view before).steps := by
  cases write with
  | createStep run node order startedAt =>
    refine congrArg Store.Database.steps (view_leaves_of_refused stores ?_)
    rintro ⟨step, after, gives⟩
    rw [row?, gives] at unwritten
    cases unwritten
  | finishStep step delta finishedAt =>
    refine congrArg Store.Database.steps (view_leaves_of_refused stores ?_)
    rintro ⟨after, gives⟩
    rw [row?, gives] at unwritten
    cases unwritten
  | finishRun run status final error finishedAt =>
    refine (stores.finishRun run status final error finishedAt).keeps ?_ before
    rintro db - next ⟨known, made⟩
    exact Store.steps_of_finishRun made

/-- The row of a node that begins comes after those that are there, and is not one of them. -/
theorem steps_leaves_createStep (stores : recorder.Stores naming view) {node : String} {order : Nat}
    {startedAt : Timestamp}
    (wrote : (createStep run node order startedAt).row? recorder before = some step) :
    (view ((createStep run node order startedAt).leaves recorder before)).steps =
        (view before).steps ++ [{ id := step, run, node, order, startedAt }] ∧
      ∀ other ∈ (view before).steps, other.id ≠ step := by
  rw [row?] at wrote
  rcases came : (recorder.createStep run node order startedAt).outcome before with
    ⟨failure | step', after⟩ <;> rw [came] at wrote <;> cases wrote
  obtain ⟨row, made, rfl⟩ := (stores.createStep run node order startedAt).of_gives came
  obtain ⟨last, row_eq, fresh⟩ := Store.createStep_eq_ok made
  rw [leaves, came, last, ← row_eq]
  exact ⟨rfl, fresh⟩

/-- The row of a node that ends is completed. -/
theorem steps_leaves_finishStep (stores : recorder.Stores naming view) {step' : String}
    {time : Timestamp}
    (wrote : (finishStep step delta time).row? recorder before = some step') :
    step' = step ∧ (view ((finishStep step delta time).leaves recorder before)).steps =
      Store.finishedSteps step delta time (view before).steps := by
  rw [row?] at wrote
  rcases came : (recorder.finishStep step delta time).outcome before with
    ⟨failure | _, after⟩ <;> rw [came] at wrote <;> cases wrote
  obtain ⟨known, made⟩ := (stores.finishStep step delta time).of_gives came
  rw [leaves, came]
  exact ⟨rfl, Store.finishStep_eq_ok made⟩

end Write

/-! ### One event -/

theorem mem_filterMap_append_singleton {f : Handling τ → Option String}
    {earlier : List (Handling τ)} {h : Handling τ} :
    step ∈ (earlier ++ [h]).filterMap f ↔ step ∈ earlier.filterMap f ∨ f h = some step := by
  simp

theorem nodup_filterMap_append_singleton {f : Handling τ → Option String}
    {earlier : List (Handling τ)} {h : Handling τ} (distinct : (earlier.filterMap f).Nodup)
    (new : ∀ step, f h = some step → step ∉ earlier.filterMap f) :
    ((earlier ++ [h]).filterMap f).Nodup := by
  rw [List.filterMap_append]
  cases found : f h with
  | none => simpa [found] using distinct
  | some step =>
    rw [List.filterMap_cons_some found, List.filterMap_nil, ← List.concat_eq_append]
    exact distinct.concat (new step found)

namespace Kept

variable {base : List Store.StepRow} {earlier : List (Handling τ)} {h : Handling τ}

/-- A row that is added was not there before. -/
theorem fresh (kept : Kept run base view earlier h.before) (stores : recorder.Stores naming view)
    (follows : h.Follows recorder run earlier) (added : h.added? = some step) :
    (view h.after).steps = (view h.before).steps ++
        [{ id := step, run, node := h.event.node, order := (begun earlier + 1 : Nat),
           startedAt := h.event.startedAt }] ∧
      (∀ row ∈ base, row.id ≠ step) ∧ step ∉ earlier.filterMap Handling.added? := by
  have write := follows.begins (Handling.begins_iff.mp (Handling.begins_of_added added))
  have wrote := (follows.row?_eq write).trans (Handling.row_of_added added)
  obtain ⟨last, others⟩ := Write.steps_leaves_createStep stores wrote
  rw [follows.leaves_eq write] at last
  refine ⟨last, fun row member => others row ?_, fun member => ?_⟩
  · rw [kept.steps_eq]
    exact List.mem_append_left _ member
  · rw [← map_id_rowsOf run 1] at member
    obtain ⟨row, member, same⟩ := List.mem_map.mp member
    exact others row (by rw [kept.steps_eq]; exact List.mem_append_right _ member) same

/-- The steps in the store change with an event as those that are read off. -/
theorem steps_after (kept : Kept run base view earlier h.before)
    (stores : recorder.Stores naming view) (follows : h.Follows recorder run earlier) :
    (view h.after).steps = base ++ rowsOf run 1 (earlier ++ [h]) := by
  -- either nothing is written, or a row is added at the end, or the row in flight is completed
  cases wrote : h.row with
  | none =>
    have same : (view h.after).steps = (view h.before).steps := by
      cases due : h.write with
      | none => rw [follows.after_eq, due, Option.elim_none]
      | some write =>
        rw [← follows.leaves_eq due]
        exact Write.steps_leaves_of_unwritten stores ((follows.row?_eq due).trans wrote)
    rw [same, kept.steps_eq, rowsOf_append_of_unwritten wrote]
  | some step =>
    rcases follows.added_or_completed wrote with added | ⟨delta, -, completing⟩
    · rw [(kept.fresh stores follows added).1, kept.steps_eq, List.append_assoc,
        rowsOf_append_of_added added, Nat.add_comm 1]
    · obtain ⟨inFlight, delta, ends, write⟩ := follows.inFlight_of_completing completing
      have finished := (Write.steps_leaves_finishStep stores
        ((follows.row?_eq write).trans wrote)).2
      rw [follows.leaves_eq write] at finished
      -- the rows from before the run are not its own, so none of them is completed
      have others : ∀ row ∈ base, row.id ≠ step := fun row member same =>
        kept.apart row member (same ▸ inFlight.mem_added)
      rw [finished, kept.steps_eq, Store.finishedSteps_append, Store.finishedSteps_eq_self others,
        rowsOf_append_of_completed ends wrote fun _ _ _ _ split added =>
          inFlight.identified kept.added split added]

/-- It is attempted but once to complete a row: after the first attempt it is in flight no more. -/
theorem uncompleted (kept : Kept run base view earlier h.before)
    (stores : recorder.Stores naming view) (follows : h.Follows recorder run earlier) {id : String}
    (inFlight : InFlight (earlier ++ [h]) id step) :
    step ∉ earlier.filterMap Handling.completing? ∧ h.completing? ≠ some step := by
  -- a row that was just added is a new one, and any other was in flight before
  rcases inFlight_append_singleton.mp inFlight with ⟨rfl, added⟩ | ⟨inFlight, apart⟩
  · have new : step ∉ earlier.filterMap Handling.added? := (kept.fresh stores follows added).2.2
    refine ⟨fun member => new (kept.completing_added step member), fun completing => ?_⟩
    exact new (follows.inFlight_of_completing completing).1.mem_added
  · refine ⟨kept.inFlight_open id step inFlight, fun completing => apart ?_⟩
    -- what is completed is in flight under the identifier of the event, so that is the same one
    obtain ⟨inFlight', delta, ends, -⟩ := follows.inFlight_of_completing completing
    obtain ⟨sooner, start, between, split, ⟨named, added⟩, -⟩ := inFlight
    have same : start.event.id = h.event.id :=
      ((inFlight'.identified kept.added split added).mp rfl).1
    exact ⟨same.symm.trans named, Or.inl (by simp [ends])⟩

/-- What an event leaves is kept. -/
theorem snoc (kept : Kept run base view earlier h.before) (stores : recorder.Stores naming view)
    (follows : h.Follows recorder run earlier) :
    Kept run base view (earlier ++ [h]) h.after where
  steps_eq := kept.steps_after stores follows
  apart row member again := by
    rcases mem_filterMap_append_singleton.mp again with before | added
    · exact kept.apart row member before
    · exact (kept.fresh stores follows added).2.1 row member rfl
  added := nodup_filterMap_append_singleton kept.added fun _ added =>
    (kept.fresh stores follows added).2.2
  completing := nodup_filterMap_append_singleton kept.completing fun step completing =>
    kept.inFlight_open _ step (follows.inFlight_of_completing completing).1
  completing_added step member := by
    refine mem_filterMap_append_singleton.mpr (Or.inl ?_)
    rcases mem_filterMap_append_singleton.mp member with before | completing
    · exact kept.completing_added step before
    · exact (follows.inFlight_of_completing completing).1.mem_added
  inFlight_open id step inFlight member := by
    obtain ⟨unattempted, other⟩ := kept.uncompleted stores follows inFlight
    rcases mem_filterMap_append_singleton.mp member with before | completing
    · exact unattempted before
    · exact other completing

end Kept

/-! ### All events -/

/-- Events that are handled keep the store. -/
theorem Handles.kept {base : List Store.StepRow} {earlier later : List (Handling τ)}
    {inputs : List (Event × Timestamp)} {after : τ}
    (handles : Handles recorder run earlier before inputs later after)
    (stores : recorder.Stores naming view) (kept : Kept run base view earlier before) :
    Kept run base view (earlier ++ later) after := by
  induction handles with
  | nil earlier world =>
    rw [List.append_nil]
    exact kept
  | cons follows _ ih =>
    have next := ih (kept.snoc stores follows)
    rw [List.append_assoc] at next
    exact next

theorem kept_start {base : List Store.StepRow} (there : (view before).steps = base) :
    Kept run base view [] before where
  steps_eq := by rw [there, rowsOf, List.append_nil]
  apart := by simp
  added := List.nodup_nil
  completing := List.nodup_nil
  completing_added := by simp
  inFlight_open := by simp

/-- The steps of a run that had none before are those that can be read off. -/
theorem Kept.stepsOf_eq {base : List Store.StepRow} {earlier : List (Handling τ)}
    (kept : Kept run base view earlier before) (others : ∀ row ∈ base, row.run ≠ run) :
    Store.stepsOf (view before) run = rowsOf run 1 earlier :=
  Store.stepsOf_of_append kept.steps_eq others (fun _ member => run_eq_of_mem_rowsOf member)
    (pairwise_order_rowsOf run 1 earlier)

end Keeping

/-! ### A run from its start -/

/-- A tracker handles any events. The nodes that begin are numbered in their order, and a row has
the number of its node, whichever rows before it could not be added. A row is completed once at
most, by the first event about an end under its identifier, while it is in flight. An end without a
row in flight writes nothing, and what cannot be written leaves the store as it was. -/
theorem Tracker.handles_any_events {naming : Store.Naming} {now : Timestamp} {graphId : String}
    {initial : State} {tracker : Tracker} {plan : Nat → Option Store.Interruption}
    {before created : Store.Database × Nat} (consistent : before.1.isConsistent = true)
    (started : (Tracker.start (Store.interrupted naming now plan) {} graphId initial).Gives before
      tracker created) (inputs : List (Event × Timestamp)) :
    ∃ run hs last after, tracker.run = some run ∧
      (tracker.handleAll (Store.interrupted naming now plan) inputs).Gives created last after ∧
      Handles (Store.interrupted naming now plan) run [] created inputs hs after ∧
      after.1.steps = before.1.steps ++ rowsOf run 1 hs ∧
      Store.stepsOf after.1 run = rowsOf run 1 hs ∧
      (rowsOf run 1 hs).Pairwise (fun row later => row.order < later.order) ∧
      (hs.filterMap Handling.completing?).Nodup ∧
      ∀ h ∈ hs, ∀ write, h.write = some write →
        ¬ write.Succeeds (Store.interrupted naming now plan) h.before → h.after.1 = h.before.1 := by
  have stores : (Store.interrupted naming now plan).Stores naming Prod.fst :=
    Store.interrupted_stores naming now plan
  obtain ⟨run, creates, rfl⟩ := Tracker.gives_start_iff.mp started
  obtain ⟨time, row, made, rfl⟩ :=
    (stores.createRun graphId (Value.object initial).plain).of_gives creates
  obtain ⟨hs, last, after, gives, handles, -⟩ :=
    (remembers_start row.id).exists_handles (Store.interrupted naming now plan) inputs created
  have kept : Kept row.id before.1.steps Prod.fst hs after := by
    simpa using handles.kept stores (kept_start (Store.steps_of_createRun made))
  refine ⟨row.id, hs, last, after, rfl, gives, handles, kept.steps_eq,
    kept.stepsOf_eq (Store.run_ne_of_createRun consistent made),
    pairwise_order_rowsOf row.id 1 hs, kept.completing, ?_⟩
  intro h member write due refused
  obtain ⟨sooner, rest, split⟩ := List.append_of_mem member
  have follows := handles.follows split
  rw [← follows.leaves_eq due]
  exact Write.view_leaves_of_refused stores refused

/-! ### A lost step

Three nodes begin. The session in which the row of the second one is added cannot be committed, so
the others have rows with the numbers one and three. -/

namespace LostStep

def plan (number : Nat) : Option Store.Interruption :=
  if number = 2 then some (.ofFault .committing .brokenConstraint) else none

def recorder : Recorder (Store.Database × Nat) :=
  Store.interrupted Rehearsal.naming Rehearsal.now plan

def event (kind : EventKind) (id : String) : Event :=
  { kind, id, node := id, startedAt := Rehearsal.now, state := .str id }

/-- The third node ends before the first one does, and the second one cannot end in its row. -/
def inputs : List (Event × Timestamp) :=
  [event .nodeStart "a", event .nodeStart "b", event .nodeStart "c", event .nodeEnd "b",
    event .nodeError "c", event .nodeEnd "a", event .nodeEnd "a"].map fun event =>
      (event, Rehearsal.now)

/-- The store with the row of the run. -/
def created : Store.Database × Nat := ({ Draft.store with runs := [Draft.row] }, 1)

theorem gives_start :
    (Tracker.start recorder {} Draft.graphId []).Gives (Draft.store, 0) { run := some "<run1>" }
      created := rfl

theorem consistent : Draft.store.isConsistent = true := by decide

end LostStep

/-- The tracker of the lost step handles its events. -/
theorem Tracker.handles_lostStep :
    Draft.store.isConsistent = true ∧
      (Tracker.start LostStep.recorder {} Draft.graphId []).Gives (Draft.store, 0)
        { run := some "<run1>" } LostStep.created ∧
      ∃ run hs last after, some "<run1>" = some run ∧
        (Tracker.handleAll LostStep.recorder { run := some "<run1>" } LostStep.inputs).Gives
          LostStep.created last after ∧
        Handles LostStep.recorder run [] LostStep.created LostStep.inputs hs after ∧
        after.1.steps = [] ++ rowsOf run 1 hs ∧ Store.stepsOf after.1 run = rowsOf run 1 hs ∧
        (rowsOf run 1 hs).Pairwise (fun row later => row.order < later.order) ∧
        (hs.filterMap Handling.completing?).Nodup ∧
        ∀ h ∈ hs, ∀ write, h.write = some write →
          ¬ write.Succeeds LostStep.recorder h.before → h.after.1 = h.before.1 :=
  ⟨LostStep.consistent, LostStep.gives_start,
    Tracker.handles_any_events LostStep.consistent LostStep.gives_start LostStep.inputs⟩

/-- Two of the three nodes have rows, and both rows are completed. -/
example : ((Tracker.handleAll LostStep.recorder { run := some "<run1>" } LostStep.inputs).outcome
    LostStep.created).2.1.steps.map (fun row => (row.node, row.order, row.finishedAt.isSome)) =
      [("a", 1, true), ("c", 3, true)] := rfl

end AgentWorkflow.Run
