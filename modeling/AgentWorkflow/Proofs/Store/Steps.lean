import AgentWorkflow.Proofs.Store.Runs
import Mathlib.Data.List.Sort

/-!
# The rows of steps

The row of a step is added when its node begins, with an identifier that no row has yet, and
completed when the node ends. Both leave the rows of runs alone, and what is done to the row of a
run leaves the steps alone. A run that begins has no steps: those that are in the store belong to
runs that are.

## Main results

* `createStep_eq_ok`: a step that begins has a row of its own after those that are there
* `finishStep_eq_ok`: a step that ends has its row completed, and no other row is changed
* `run_ne_of_createRun`: a run that begins has no steps
* `stepsOf_of_append`: the steps of a run that were added in order
-/

namespace AgentWorkflow.Store

variable {naming : Naming} {now time : Timestamp} {db next : Database} {id run node : String}
  {order : Int} {row : StepRow}

theorem Database.distinct_steps (consistent : db.isConsistent = true) :
    distinctBy StepRow.id db.steps = true := by
  simp only [isConsistent, isUnique, Bool.and_eq_true] at consistent
  exact consistent.1.1.1.2

/-- The run of every step is there. -/
theorem Database.exists_run (consistent : db.isConsistent = true) (member : row ∈ db.steps) :
    ∃ run ∈ db.runs, run.id = row.run := by
  simp only [isConsistent, isClosed, Bool.and_eq_true] at consistent
  simpa using List.all_eq_true.mp consistent.1.2.2 row member

/-- A step that begins has a row of its own after those that are there. -/
theorem createStep_eq_ok (created : createStep naming run node order time db = .ok (row, next)) :
    next.steps = db.steps ++ [row] ∧ row = { id := row.id, run, node, order, startedAt := time } ∧
      ∀ other ∈ db.steps, other.id ≠ row.id := by
  obtain ⟨consistent, rfl, rfl⟩ := Database.bind_checked_eq_ok_iff.mp created
  exact ⟨rfl, rfl, fun other member =>
    ne_of_distinctBy_append (Database.distinct_steps consistent) member⟩

/-- The rows of steps when the end of one of them is written. -/
def finishedSteps (id : String) (delta : Value) (time : Timestamp) (steps : List StepRow) :
    List StepRow :=
  steps.map fun row => if row.id == id then row.finish delta time else row

/-- A step that is over has its row completed, if there is one. No other row of a step changes. -/
theorem finishStep_eq_ok {delta : Value} {known : Bool}
    (finished : finishStep id delta time db = .ok (known, next)) :
    next.steps = finishedSteps id delta time db.steps := by
  rw [finishStep] at finished
  split_ifs at finished with present
  · obtain ⟨-, -, rfl⟩ := Database.bind_checked_eq_ok_iff.mp finished
    rfl
  -- without such a row nothing is written, and there is none that could change
  · cases finished
    have others : ∀ row ∈ db.steps, (row.id == id) = false := by
      simpa using present
    rw [finishedSteps, List.map_congr_left fun row member => by rw [others row member]]
    simp

/-- Completing a step leaves all rows as they are that are not its own. -/
theorem finishedSteps_eq_self {delta : Value} {steps : List StepRow}
    (others : ∀ row ∈ steps, row.id ≠ id) : finishedSteps id delta time steps = steps := by
  rw [finishedSteps, List.map_congr_left fun row member => by
    rw [show (row.id == id) = false by simpa using others row member]]
  simp

theorem finishedSteps_append {delta : Value} (steps others : List StepRow) :
    finishedSteps id delta time (steps ++ others) =
      finishedSteps id delta time steps ++ finishedSteps id delta time others :=
  List.map_append

/-- The row of a run that begins leaves the rows of steps as they are. -/
theorem steps_of_createRun {graphId : String} {initial : Value} {row : RunRow}
    (created : createRun naming now graphId initial db = .ok (row, next)) :
    next.steps = db.steps := by
  rw [createRun] at created
  split at created
  · cases created
  · obtain ⟨-, -, rfl⟩ := Database.bind_checked_eq_ok_iff.mp created
    rfl

/-- The row of a run that is over leaves the rows of steps as they are. -/
theorem steps_of_finishRun {status : Run.Status} {final : Value} {error : Option String}
    {known : Bool} (finished : finishRun id status.word final error time db = .ok (known, next)) :
    next.steps = db.steps := by
  rw [finishRun, ofWord?_word] at finished
  cases found : getRun id db with
  | none =>
    rw [found] at finished
    cases finished
    rfl
  | some row =>
    rw [found] at finished
    obtain ⟨-, -, rfl⟩ := Database.bind_checked_eq_ok_iff.mp finished
    rfl

/-- A run that begins has no steps. -/
theorem run_ne_of_createRun {graphId : String} {initial : Value} {run : RunRow}
    (consistent : db.isConsistent = true)
    (created : createRun naming now graphId initial db = .ok (run, next)) :
    ∀ row ∈ db.steps, row.run ≠ run.id := by
  intro row member same
  obtain ⟨other, there, named⟩ := Database.exists_run consistent member
  exact (createRun_eq_ok created).2.2.2.2 other there (named.trans same)

/-- The steps of a run are those that were added for it, if they were added in order. -/
theorem stepsOf_of_append {base rows : List StepRow} (added : db.steps = base ++ rows)
    (others : ∀ row ∈ base, row.run ≠ run) (own : ∀ row ∈ rows, row.run = run)
    (ordered : rows.Pairwise fun a b => a.order < b.order) : stepsOf db run = rows := by
  have none_before : base.filter (fun row => row.run == run) = [] := by
    simpa using others
  have all_after : rows.filter (fun row => row.run == run) = rows := by
    simpa using own
  rw [stepsOf, added, List.filter_append, none_before, all_after, List.nil_append]
  -- what was added in order is sorted already
  refine List.mergeSort_of_pairwise (ordered.imp fun earlier => ?_)
  simpa using earlier.le

end AgentWorkflow.Store
