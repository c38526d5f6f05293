import AgentWorkflow.Proofs.Outcome
import AgentWorkflow.Proofs.Store.Ordering
import AgentWorkflow.Rehearsal.Runtime
import Mathlib.Tactic.SplitIfs

/-!
# The rows of runs

Only two changes of the store are about the rows of runs: a row is added when a run begins, with an
identifier that no row has yet, and completed when the run is over. The rows of steps are added and
completed beside them.

A recorder may be more than the store alone: a connection that is lost, say, is a behaviour of it.
What is asked of it is that whatever it does not refuse is done in the store, and that what it
refuses is not done there.

## Main definitions

* `Act.Makes`: an act makes a change in what is seen of a world, or leaves it as it is
* `Run.Recorder.Stores`: a recorder that writes to the store, as far as it writes at all

## Main results

* `createRun_eq_ok`: a run that begins has a row of its own
* `finishRun_eq_ok`: a run that is over has its row completed, and no other row is changed
* `recorder_stores`: the store itself is such a recorder
-/

namespace AgentWorkflow

namespace Act

variable {τ ν α β : Type}

/-- An act makes a change in what is seen of a world, or fails and leaves that as it is. -/
structure Makes (view : τ → ν) (change : ν → α → ν → Prop) (act : Act τ α) : Prop where
  of_gives : ∀ {before a after}, act.Gives before a after → change (view before) a (view after)
  of_fails : ∀ {before failure after}, act.outcome before = (.error failure, after) →
    view after = view before

theorem makes_pure {view : τ → ν} (a : α) :
    (pure a : Act τ α).Makes view fun before _ after => after = before where
  of_gives gives := congrArg view (gives_pure_iff.mp gives).2.symm
  of_fails fails := by cases fails

theorem Makes.mono {view : τ → ν} {change change' : ν → α → ν → Prop} {act : Act τ α}
    (makes : act.Makes view change)
    (weaker : ∀ {before a after}, change before a after → change' before a after) :
    act.Makes view change' where
  of_gives gives := weaker (makes.of_gives gives)
  of_fails := makes.of_fails

/-- What is made of the result of an act has no effect on the change. -/
theorem Makes.map {view : τ → ν} {change : ν → α → ν → Prop} {act : Act τ α}
    (makes : act.Makes view change) (result : α → β) :
    (act >>= fun a => pure (result a)).Makes view fun before b after =>
      ∃ a, change before a after ∧ result a = b := by
  constructor
  · intro before b after gives
    obtain ⟨a, middle, made, same⟩ := gives_bind_iff.mp gives
    obtain ⟨rfl, rfl⟩ := gives_pure_iff.mp same
    exact ⟨a, makes.of_gives made, rfl⟩
  · intro before failure after fails
    rw [outcome_bind] at fails
    rcases came : act.outcome before with ⟨failure' | a, middle⟩
    · rw [came] at fails
      cases fails
      exact makes.of_fails came
    · rw [came] at fails
      cases fails

/-- What no change affects is kept by the act, whether it fails or not. -/
theorem Makes.keeps {view : τ → ν} {change : ν → α → ν → Prop} {act : Act τ α} {f : ν → β}
    (makes : act.Makes view change) (kept : ∀ {before a after}, change before a after →
      f after = f before) (before : τ) : f (view (act.outcome before).2) = f (view before) := by
  rcases came : act.outcome before with ⟨failure | a, after⟩
  · exact congrArg f (makes.of_fails came)
  · exact kept (makes.of_gives came)

end Act

/-- A recorder writes to the store, as far as it writes at all. -/
structure Run.Recorder.Stores {τ : Type} (naming : Store.Naming) (view : τ → Store.Database)
    (recorder : Run.Recorder τ) : Prop where
  createRun : ∀ graphId initial, (recorder.createRun graphId initial).Makes view
    fun db run next =>
      ∃ now row, Store.createRun naming now graphId initial db = .ok (row, next) ∧ row.id = run
  createStep : ∀ run node order startedAt,
    (recorder.createStep run node order startedAt).Makes view fun db step next =>
      ∃ row, Store.createStep naming run node order startedAt db = .ok (row, next) ∧ row.id = step
  finishStep : ∀ step delta time, (recorder.finishStep step delta time).Makes view
    fun db _ next => ∃ known, Store.finishStep step delta time db = .ok (known, next)
  finishRun : ∀ run status final error time,
    (recorder.finishRun run status final error time).Makes view fun db _ next =>
      ∃ known, Store.finishRun run status.word final error time db = .ok (known, next)

namespace Store

variable {naming : Naming} {now time : Timestamp} {db next : Database}

theorem ofWord?_word (status : Run.Status) : Run.Status.ofWord? status.word = some status := by
  cases status <;> decide

/-- A change with a result is made exactly when the database after it is consistent. -/
theorem Database.bind_checked_eq_ok_iff {α : Type} {a b : α} :
    (do return (a, ← db.checked) : Except Fault (α × Database)) = .ok (b, next) ↔
      db.isConsistent = true ∧ a = b ∧ db = next := by
  rw [checked]
  split_ifs with consistent
  · constructor
    · intro made
      cases made
      exact ⟨consistent, rfl, rfl⟩
    · rintro ⟨-, rfl, rfl⟩
      rfl
  · constructor
    · intro made
      cases made
    · rintro ⟨consistent', -, -⟩
      exact absurd consistent' consistent

/-- A row that comes last in a table differs from all before it. -/
theorem ne_of_distinctBy_append {α β : Type} [BEq β] [LawfulBEq β] {key : α → β} {rows : List α}
    {row other : α} (distinct : distinctBy key (rows ++ [row]) = true) (member : other ∈ rows) :
    key other ≠ key row := by
  have apart := nodup_of_distinctBy distinct
  rw [List.map_append, List.map_singleton, List.nodup_append] at apart
  exact apart.2.2 _ (List.mem_map_of_mem member) _ (List.mem_singleton_self _)

theorem Database.distinct_runs (consistent : db.isConsistent = true) :
    distinctBy RunRow.id db.runs = true := by
  simp only [isConsistent, isUnique, Bool.and_eq_true] at consistent
  exact consistent.1.1.1.1.2

/-- A run that begins has a row of its own after those that are there. -/
theorem createRun_eq_ok {graphId : String} {initial : Value} {row : RunRow}
    (created : createRun naming now graphId initial db = .ok (row, next)) :
    next.runs = db.runs ++ [row] ∧ row.status = .running ∧ row.initial = initial ∧
      Uuid.ofText? graphId = some row.graph ∧ ∀ other ∈ db.runs, other.id ≠ row.id := by
  rw [createRun] at created
  split at created
  · cases created
  · rename_i graph named
    obtain ⟨consistent, rfl, rfl⟩ := Database.bind_checked_eq_ok_iff.mp created
    refine ⟨rfl, rfl, rfl, named, fun other member => ?_⟩
    exact ne_of_distinctBy_append (Database.distinct_runs consistent) member

/-- The rows of runs when the end of one of them is written. -/
def finishedRuns (id : String) (status : Run.Status) (final : Value) (error : Option String)
    (time : Timestamp) (runs : List RunRow) : List RunRow :=
  runs.map fun row => if row.id == id then row.finish status final error time else row

/-- A run that is over has its row completed, if there is one. No other row of a run changes. -/
theorem finishRun_eq_ok {id : String} {status : Run.Status} {final : Value} {error : Option String}
    {known : Bool} (finished : finishRun id status.word final error time db = .ok (known, next)) :
    next.runs = finishedRuns id status final error time db.runs := by
  rw [finishRun, ofWord?_word] at finished
  cases found : getRun id db with
  | none =>
    rw [found] at finished
    cases finished
    have others : ∀ row ∈ db.runs, (row.id == id) = false := by
      simpa [getRun] using found
    rw [finishedRuns, List.map_congr_left fun row member => by rw [others row member]]
    simp
  | some row =>
    rw [found] at finished
    obtain ⟨-, -, rfl⟩ := Database.bind_checked_eq_ok_iff.mp finished
    rfl

/-- Completing the row of the run that began last leaves the rows before it as they are. -/
theorem finishedRuns_append_self {runs : List RunRow} {row : RunRow} {status : Run.Status}
    {final : Value} {error : Option String} (fresh : ∀ other ∈ runs, other.id ≠ row.id) :
    finishedRuns row.id status final error time (runs ++ [row]) =
      runs ++ [row.finish status final error time] := by
  have others : ∀ other ∈ runs, (if other.id == row.id then other.finish status final error time
      else other) = other := by
    intro other member
    simp [fresh other member]
  rw [finishedRuns, List.map_append, List.map_congr_left others]
  simp

/-- The row of a step that begins leaves the rows of runs as they are. -/
theorem runs_of_createStep {run node : String} {order : Int} {row : StepRow}
    (created : createStep naming run node order time db = .ok (row, next)) :
    next.runs = db.runs := by
  obtain ⟨-, -, rfl⟩ := Database.bind_checked_eq_ok_iff.mp created
  rfl

/-- The row of a step that ends leaves the rows of runs as they are. -/
theorem runs_of_finishStep {id : String} {delta : Value} {known : Bool}
    (finished : finishStep id delta time db = .ok (known, next)) : next.runs = db.runs := by
  rw [finishStep] at finished
  split_ifs at finished
  · obtain ⟨-, -, rfl⟩ := Database.bind_checked_eq_ok_iff.mp finished
    rfl
  · cases finished
    rfl

theorem outcome_transaction {β : Type} (change : Database → Except Fault (β × Database))
    (db : Database) :
    (transaction change).outcome db =
      match change db with
      | .ok (b, next) => (.ok b, next)
      | .error fault => (.error (.fault fault), db) := rfl

theorem gives_transaction_iff {β : Type} {change : Database → Except Fault (β × Database)} {b : β} :
    (transaction change).Gives db b next ↔ change db = .ok (b, next) := by
  rw [Act.Gives, outcome_transaction]
  cases change db <;> simp [Prod.ext_iff]

/-- A transaction makes its change, or leaves the store as it is. -/
theorem makes_transaction {α : Type} (change : Database → Except Fault (α × Database)) :
    (transaction change).Makes id fun db a next => change db = .ok (a, next) where
  of_gives gives := gives_transaction_iff.mp gives
  of_fails {db failure after} fails := by
    rw [outcome_transaction] at fails
    cases changed : change db with
    | error fault =>
      rw [changed] at fails
      cases fails
      rfl
    | ok pair =>
      rw [changed] at fails
      cases fails

/-- The store itself is a recorder that writes to it. -/
theorem recorder_stores (naming : Naming) (now : Timestamp) :
    (recorder naming now).Stores naming id where
  createRun graphId initial :=
    ((makes_transaction (createRun naming now graphId initial)).map RunRow.id).mono
      fun ⟨row, created, same⟩ => ⟨now, row, created, same⟩
  createStep run node order startedAt :=
    (makes_transaction (createStep naming run node order startedAt)).map StepRow.id
  finishStep step delta time :=
    ((makes_transaction (finishStep step delta time)).map fun _ => ()).mono
      fun ⟨known, finished, _⟩ => ⟨known, finished⟩
  finishRun run status final error time :=
    ((makes_transaction (finishRun run status.word final error time)).map fun _ => ()).mono
      fun ⟨known, finished, _⟩ => ⟨known, finished⟩

/-- Loading a graph leaves the store as it is. -/
theorem makes_load (graphId : String) : (load graphId).Makes id fun db _ next => next = db where
  of_gives gives := by
    obtain ⟨_, -, same⟩ := map_eq_ok_iff.mp (gives_transaction_iff.mp gives)
    exact (congrArg Prod.snd same).symm
  of_fails {db failure after} fails := by
    rw [load, outcome_transaction] at fails
    cases found : loadSnapshot db graphId with
    | error fault =>
      rw [found] at fails
      cases fails
      rfl
    | ok snapshot =>
      rw [found] at fails
      cases fails

end Store

namespace Rehearsal

open Store

/-- An operation that is down changes nothing, and otherwise the act is done. -/
theorem makes_failWhenDown {α : Type} {change : Database → α → Database → Prop}
    {act : Act Database α} (makes : act.Makes id change) (down : List String) (operation : String) :
    (failWhenDown down operation >>= fun _ => act).Makes id change := by
  rw [failWhenDown]
  split_ifs
  · constructor
    · intro db a next gives
      cases gives
    · intro db failure after fails
      cases fails
      rfl
  · exact makes

/-- A store some of whose operations are down is a recorder that writes to it, too. -/
theorem recorder_stores (down : List String) : (recorder down).Stores naming id where
  createRun graphId initial := makes_failWhenDown
    ((Store.recorder_stores naming now).createRun graphId initial) down "create_run"
  createStep run node order startedAt := makes_failWhenDown
    ((Store.recorder_stores naming now).createStep run node order startedAt) down "create_step"
  finishStep step delta time := makes_failWhenDown
    ((Store.recorder_stores naming now).finishStep step delta time) down "finish_step"
  finishRun run status final error time := makes_failWhenDown
    ((Store.recorder_stores naming now).finishRun run status final error time) down "finish_run"

end Rehearsal

end AgentWorkflow
