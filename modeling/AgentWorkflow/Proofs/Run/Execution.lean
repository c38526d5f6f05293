import AgentWorkflow.Proofs.Run.History
import AgentWorkflow.Proofs.Run.Recording
import AgentWorkflow.Proofs.Store.Runs

/-!
# The record of an execution

An execution begins with loading its graph and writing the row of the run. If either comes to
nothing, the execution is over: no row is there, and no collaborator has been asked. Otherwise
whatever happens in the run, the row says in the end how it came out. The writes in between are all
about steps, so they leave the row alone, and the one that completes it comes after them.

## Main definitions

* `Runtime.KeepsStore`: a runtime that loads from a store and records runs in it
* `Store.RunRow.conclude`: the row of a run that is over
* `Account`, `Account.Holds`: what has been written for a run

## Main results

* `Write.runs_foldl_leaves`: writes about steps leave the rows of runs alone
* `exists_outcome_execute_of_created`: an execution as a run and the writes for it
* `execute_keeps_record`: what is in the store when an execution ends
* `Rehearsal.runtime_keepsStore`: rehearsals are executed with such a runtime
-/

namespace AgentWorkflow

/-- The row of a run that is over. It has the final state in plain form, or else the text of what
went wrong. -/
def Store.RunRow.conclude (row : Store.RunRow) (time : Timestamp) :
    Except Failure State → Store.RunRow
  | .ok state => row.finish .completed (Value.object state).plain none time
  | .error failure => row.finish .failed .null (some (Run.reason failure)) time

namespace Run

variable {σ τ : Type} {recorder : Recorder τ} {runtime : Runtime σ τ} {naming : Store.Naming}
  {view : τ → Store.Database} {graphId run : String} {initial : State} {time : Timestamp}
  {world world' : σ} {store loaded created store' : τ} {outcome : Except Failure State}

/-- A runtime loads from a store without changing it, and records runs in it, as far as it writes at
all. -/
structure Runtime.KeepsStore (naming : Store.Naming) (view : τ → Store.Database)
    (runtime : Runtime σ τ) : Prop where
  reads : ∀ graphId, (runtime.load graphId).Makes view fun db _ next => next = db
  writes : runtime.recorder.Stores naming view

namespace Write

/-- A write about a step leaves the rows of runs as they are. -/
theorem AboutStep.runs_leaves {write : Write} (about : write.AboutStep)
    (stores : recorder.Stores naming view) (before : τ) :
    (view (write.leaves recorder before)).runs = (view before).runs := by
  cases write with
  | createStep run node order startedAt =>
    refine (stores.createStep run node order startedAt).keeps ?_ before
    rintro db step next ⟨row, made, -⟩
    exact Store.runs_of_createStep made
  | finishStep step delta finishedAt =>
    refine (stores.finishStep step delta finishedAt).keeps ?_ before
    rintro db - next ⟨known, made⟩
    exact Store.runs_of_finishStep made
  | finishRun run status final error finishedAt => exact about.elim

/-- Writes about steps leave the rows of runs as they are. -/
theorem runs_foldl_leaves {steps : List Write} (about : ∀ write ∈ steps, write.AboutStep)
    (stores : recorder.Stores naming view) (before : τ) :
    (view (steps.foldl (leaves recorder) before)).runs = (view before).runs := by
  induction steps generalizing before with
  | nil => rfl
  | cons write steps ih =>
    rw [List.foldl_cons, ih fun write member => about write (.tail _ member)]
    exact (about write List.mem_cons_self).runs_leaves stores before

/-- A write that completes the row of a run completes just that row. -/
theorem runs_leaves_finishRun {status : Status} {final : Value} {error : Option String}
    {before : τ} (succeeds : (finishRun run status final error time).Succeeds recorder before)
    (stores : recorder.Stores naming view) :
    (view ((finishRun run status final error time).leaves recorder before)).runs =
      Store.finishedRuns run status final error time (view before).runs := by
  obtain ⟨after, gives⟩ := succeeds
  obtain ⟨known, made⟩ := (stores.finishRun run status final error time).of_gives gives
  rw [leaves, gives]
  exact Store.finishRun_eq_ok made

/-- The write that concludes a run says in its row how the run came out. -/
theorem runs_leaves_concluding {before : τ} {rows : List Store.RunRow} {row : Store.RunRow}
    (succeeds : (concluding row.id time outcome).Succeeds recorder before)
    (stores : recorder.Stores naming view) (present : (view before).runs = rows ++ [row])
    (fresh : ∀ other ∈ rows, other.id ≠ row.id) :
    (view ((concluding row.id time outcome).leaves recorder before)).runs =
      rows ++ [row.conclude time outcome] := by
  cases outcome with
  | ok state =>
    rw [concluding, runs_leaves_finishRun succeeds stores, present,
      Store.finishedRuns_append_self fresh]
    rfl
  | error failure =>
    rw [concluding, runs_leaves_finishRun succeeds stores, present,
      Store.finishedRuns_append_self fresh]
    rfl

end Write

theorem Tracker.outcome_start (tracker : Tracker) (before : τ) :
    (Tracker.start recorder tracker graphId initial).outcome before =
      match (recorder.createRun graphId (Value.object initial).plain).outcome before with
      | (.ok run, after) => (.ok { tracker with run := some run }, after)
      | (.error failure, after) =>
        (.error (failure.causing fun cause => .persistence (.createRunFailed cause)), after) := by
  rw [Tracker.start, Act.outcome_bind, Act.outcome_describe]
  rcases (recorder.createRun graphId (Value.object initial).plain).outcome before with
    ⟨failure | run, after⟩
  · rfl
  · rfl

/-- A graph that is not there is not executed. -/
theorem outcome_execute_of_missing (loads : (runtime.load graphId).Gives store none loaded) :
    (execute runtime graphId initial).outcome (world, store) =
      (.error (.error (.snapshot (.graphNotFound graphId))), world, loaded) := by
  rw [execute, Act.outcome_bind, Act.outcome_onSecond, loads]
  rfl

/-- A run that has no row is not begun. -/
theorem outcome_execute_of_refused {snapshot : Snapshot} {failure : Failure} {refused : τ}
    (loads : (runtime.load graphId).Gives store (some snapshot) loaded)
    (fails : (runtime.recorder.createRun graphId (Value.object initial).plain).outcome loaded =
      (.error failure, refused)) :
    (execute runtime graphId initial).outcome (world, store) =
      (.error (failure.causing fun cause => .persistence (.createRunFailed cause)), world,
        refused) := by
  rw [execute, Act.outcome_bind, Act.outcome_onSecond, loads]
  simp only
  rw [Act.outcome_bind, Act.outcome_onSecond, Tracker.outcome_start, fails]

/-- A run that has a row is carried out, and then it is recorded. -/
theorem outcome_execute_of_recorded {snapshot : Snapshot} {course : Course} {after : τ}
    (loads : (runtime.load graphId).Gives store (some snapshot) loaded)
    (creates : (runtime.recorder.createRun graphId (Value.object initial).plain).Gives loaded run
      created)
    (conducts : (conduct runtime snapshot initial).run world = (course, world'))
    (recorded : (recordCourse runtime { run := some run } course).outcome created =
      (.ok (), after)) :
    (execute runtime graphId initial).outcome (world, store) =
      (course.outcome.mapError (outward run), world', after) := by
  rw [execute, Act.outcome_bind, Act.outcome_onSecond, loads]
  simp only
  rw [Act.outcome_bind, Act.outcome_onSecond, Tracker.outcome_start, creates]
  simp only
  rw [Act.outcome_bind, Act.outcome_onFirst, Act.outcome_lift, conducts]
  simp only [Id.run]
  rw [Act.outcome_bind, Act.outcome_onSecond, recorded]
  exact Act.outcome_ofExcept _ _

/-- A run that has a row is carried out, and recorded by writes about its steps and by the one that
concludes it. -/
theorem exists_outcome_execute_of_created {snapshot : Snapshot} {course : Course}
    (loads : (runtime.load graphId).Gives store (some snapshot) loaded)
    (creates : (runtime.recorder.createRun graphId (Value.object initial).plain).Gives loaded run
      created)
    (conducts : (conduct runtime snapshot initial).run world = (course, world')) :
    ∃ (steps : List Write) (time : Timestamp), (∀ write ∈ steps, write.AboutStep) ∧
      (execute runtime graphId initial).outcome (world, store) =
        (course.outcome.mapError (outward run), world',
          (steps ++ conclusions run time course).foldl (Write.leaves runtime.recorder)
            created) := by
  obtain ⟨steps, time, about, recorded⟩ :
      ∃ (steps : List Write) (time : Timestamp), (∀ write ∈ steps, write.AboutStep) ∧
        (recordCourse runtime { run := some run } course).outcome created = _ :=
    exists_outcome_recordCourse runtime course rfl created
  exact ⟨steps, time, about, outcome_execute_of_recorded loads creates conducts recorded⟩

/-- An execution waits for an answer exactly when the run does. -/
theorem isWaiting_mapError_outward (outcome : Except Failure State) :
    Workflow.isWaiting (outcome.mapError (outward run)) = Workflow.isWaiting outcome := by
  cases outcome with
  | ok state => rfl
  | error failure => cases failure <;> rfl

/-- The account of a run that is over: the writes about its steps, and its row as it was begun. -/
structure Account where
  steps : List Write
  row : Store.RunRow
  /-- When the run was concluded. -/
  time : Timestamp

/-- The account is what a recorder has done for a run since its row was written. -/
structure Account.Holds (account : Account) (recorder : Recorder τ) (view : τ → Store.Database)
    (rows : List Store.RunRow) (outcome : Except Failure State) (created store' : τ) : Prop where
  about_steps : ∀ write ∈ account.steps, write.AboutStep
  /-- One write concludes the run, and it comes last. -/
  concluded : store' = (concluding account.row.id account.time outcome).leaves recorder
    (account.steps.foldl (Write.leaves recorder) created)
  fresh : ∀ other ∈ rows, other.id ≠ account.row.id
  begun : (view created).runs = rows ++ [account.row] ∧ account.row.status = .running
  /-- If that write succeeds, the row says how the run came out. -/
  tells : (concluding account.row.id account.time outcome).Succeeds recorder
      (account.steps.foldl (Write.leaves recorder) created) →
    (view store').runs = rows ++ [account.row.conclude account.time outcome]

/-- The account of a run that has got its row holds, once the run has been concluded. -/
theorem Account.holds_of_createRun {rows : List Store.RunRow} {row : Store.RunRow}
    {steps : List Write} (stores : recorder.Stores naming view)
    (about : ∀ write ∈ steps, write.AboutStep) (fresh : ∀ other ∈ rows, other.id ≠ row.id)
    (begun : (view created).runs = rows ++ [row]) (running : row.status = .running)
    (outcome : Except Failure State) (time : Timestamp) :
    Account.Holds ⟨steps, row, time⟩ recorder view rows outcome created
      ((concluding row.id time outcome).leaves recorder
        (steps.foldl (Write.leaves recorder) created)) where
  about_steps := about
  concluded := rfl
  fresh := fresh
  begun := ⟨begun, running⟩
  tells succeeds := by
    have present : (view (steps.foldl (Write.leaves recorder) created)).runs = rows ++ [row] :=
      (Write.runs_foldl_leaves about stores created).trans begun
    exact Write.runs_leaves_concluding succeeds stores present fresh

/-- When an execution ends, the record of its run agrees with how it came out. If the graph is
missing or the row of the run cannot be written, then there is no row, no collaborator of the run
has been asked, and an error says so. Otherwise the run has been carried out, and one write has
concluded it, after all writes about its steps; unless that one fails, the row has the final state
in plain form, or the text of what went wrong. -/
theorem execute_keeps_record {found : Option Snapshot} (keeps : runtime.KeepsStore naming view)
    (loads : (runtime.load graphId).Gives store found loaded)
    (ended : (execute runtime graphId initial).outcome (world, store) = (outcome, world', store'))
    (answered : outcome ≠ .error .unanswered) :
    (found = none → outcome = .error (.error (.snapshot (.graphNotFound graphId))) ∧
      world' = world ∧ (view store').runs = (view store).runs) ∧
    ∀ snapshot, found = some snapshot →
      (∀ failure refused,
        (runtime.recorder.createRun graphId (Value.object initial).plain).outcome loaded =
          (.error failure, refused) →
        outcome = .error (if failure.isHandled then
          .error (.persistence (.createRunFailed failure)) else failure) ∧
        world' = world ∧ (view store').runs = (view store).runs) ∧
      ∀ run created,
        (runtime.recorder.createRun graphId (Value.object initial).plain).Gives loaded run created →
        ∃ (course : Course) (account : Account),
          (conduct runtime snapshot initial).run world = (course, world') ∧
          outcome = course.outcome.mapError (outward run) ∧
          account.row.id = run ∧ Uuid.ofText? graphId = some account.row.graph ∧
          account.row.initial = (Value.object initial).plain ∧
          account.Holds runtime.recorder view (view store).runs course.outcome created store' := by
  have read : view loaded = view store := (keeps.reads graphId).of_gives loads
  refine ⟨?_, ?_⟩
  · rintro rfl
    rw [outcome_execute_of_missing loads] at ended
    cases ended
    exact ⟨rfl, rfl, congrArg Store.Database.runs read⟩
  rintro snapshot rfl
  refine ⟨?_, ?_⟩
  · intro failure refused fails
    rw [outcome_execute_of_refused loads fails] at ended
    cases ended
    -- what the recorder refuses is not done in the store
    have unwritten : view store' = view loaded :=
      (keeps.writes.createRun graphId (Value.object initial).plain).of_fails fails
    exact ⟨rfl, rfl, congrArg Store.Database.runs (unwritten.trans read)⟩
  · intro run created creates
    obtain ⟨now, row, written, rfl⟩ :=
      (keeps.writes.createRun graphId (Value.object initial).plain).of_gives creates
    rw [read] at written
    obtain ⟨last, running, begun, named, fresh⟩ := Store.createRun_eq_ok written
    -- the run is carried out in any case; that it is over is known from what the execution gave
    rcases conducts : (conduct runtime snapshot initial).run world with ⟨course, world''⟩
    obtain ⟨steps, time, about, executed⟩ :=
      exists_outcome_execute_of_created loads creates conducts
    rw [executed] at ended
    obtain ⟨rfl, rfl, rfl⟩ : course.outcome.mapError (outward row.id) = outcome ∧ world'' = world' ∧
        (steps ++ conclusions row.id time course).foldl (Write.leaves runtime.recorder) created =
          store' := by
      simpa using ended
    have settled : Workflow.isWaiting course.outcome = false := by
      rw [← isWaiting_mapError_outward, ← Bool.not_eq_true, Workflow.isWaiting_iff]
      exact answered
    refine ⟨course, ⟨steps, row, time⟩, rfl, rfl, rfl, named, begun, ?_⟩
    rw [conclusions, settled, List.foldl_append]
    exact Account.holds_of_createRun keeps.writes about fresh last running course.outcome time

end Run

/-- A rehearsal keeps its store, whatever graphs it gives and whatever operations are down. -/
theorem Rehearsal.runtime_keepsStore {load : String → Act Store.Database (Option Snapshot)}
    (reads : ∀ graphId, (load graphId).Makes id fun db _ next => next = db) (settings : Settings)
    (served : Bool) (down : List String) :
    (runtime settings served load down).KeepsStore naming id where
  reads := reads
  writes := recorder_stores down

/-! ### A draft

A graph that has no nodes yet. It is refused after its run has got its row. -/

namespace Draft

def graph : Store.GraphRow where
  id := ⟨170⟩
  name := "draft"
  entry := "desk"

def store : Store.Database where
  graphs := [graph]

def graphId : String := "000000000000000000000000000000aa"

def snapshot : Snapshot where
  graph := some { id := graph.id.text, name := "draft", entry := "desk", stateSchema := .absent }

def runtime : Run.Runtime Rehearsal.World Store.Database :=
  Rehearsal.runtime {} false Store.load []

theorem keepsStore : runtime.KeepsStore Rehearsal.naming id :=
  Rehearsal.runtime_keepsStore Store.makes_load {} false []

theorem snapshotOf_graph : Store.snapshotOf store graph = .ok snapshot := by
  have nodes : Store.nodesOf store graph.id = [] := by
    simp [Store.nodesOf, Store.sortByText, store]
  have edges : Store.edgesOf store graph.id = [] := by
    simp [Store.edgesOf, Store.sortByPair, store]
  rw [Store.snapshotOf, nodes, edges]
  rfl

theorem gives_load : (runtime.load graphId).Gives store (some snapshot) store := by
  have found : ((Uuid.ofText? graphId).bind fun id =>
      store.graphs.find? fun graph => graph.id == id) = some graph := rfl
  refine Store.gives_transaction_iff.mpr ?_
  rw [Store.loadSnapshot, found]
  dsimp only
  rw [snapshotOf_graph]
  rfl

/-- The row of the run that begins. -/
def row : Store.RunRow where
  id := "<run1>"
  graph := ⟨170⟩
  initial := .object []
  startedAt := Rehearsal.now

theorem gives_createRun :
    (runtime.recorder.createRun graphId (Value.object []).plain).Gives store "<run1>"
      { store with runs := [row] } := by
  rw [Act.Gives]
  rfl

theorem conduct_eq (world : Rehearsal.World) :
    (Run.conduct runtime snapshot []).run world =
      (⟨[], .error (.error (.snapshot (.entryUnknown "desk")))⟩, world) := rfl

end Draft

namespace Run

/-- The draft is refused, and the record of its run says so. -/
theorem draft_keeps_record :
    ∃ outcome world' store',
      (execute Draft.runtime Draft.graphId []).outcome ({}, Draft.store) =
        (outcome, world', store') ∧
      outcome ≠ .error .unanswered ∧
      ∃ (course : Course) (account : Account),
        (conduct Draft.runtime Draft.snapshot []).run {} = (course, world') ∧
        outcome = course.outcome.mapError (outward "<run1>") ∧
        account.row.id = "<run1>" ∧ Uuid.ofText? Draft.graphId = some account.row.graph ∧
        account.row.initial = (Value.object []).plain ∧
        account.Holds Draft.runtime.recorder id [] course.outcome
          { Draft.store with runs := [Draft.row] } store' := by
  obtain ⟨steps, time, -, executed⟩ :=
    exists_outcome_execute_of_created Draft.gives_load Draft.gives_createRun (Draft.conduct_eq {})
  have answered : ¬ (Except.error (Failure.error (.snapshot (.entryUnknown "desk"))) :
      Except Failure State).mapError (outward "<run1>") = .error .unanswered := nofun
  refine ⟨_, _, _, executed, answered, ?_⟩
  exact ((execute_keeps_record Draft.keepsStore Draft.gives_load executed answered).2 _ rfl).2 _ _
    Draft.gives_createRun

end Run

end AgentWorkflow
