import AgentWorkflow.Proofs.Config.Members
import AgentWorkflow.Proofs.Failure
import AgentWorkflow.Proofs.Run.Execution

/-!
# How executions end in faults

Once a graph has been loaded, whatever goes wrong in its execution is told as an error of the
library, and no such error is worth another try. Nothing guards the loading itself: a fault in it
is one of the execution, and the store that loads from its tables ends in one. Its JSON columns may
hold any JSON, but a snapshot has a place for texts and objects only. So the graphs that the store
cannot load are those with a list, a number or a truth value in such a column, and an execution of
one of them ends in a fault before there is a row for it.

## Main definitions

* `Failure.IsFinal`: the failures that may leave an execution
* `Store.IsStored`, `Store.documentsOf`: a graph in the store, and what is in its JSON columns
* `Value.IsDocument`: what a JSON column of a snapshot can hold

## Main results

* `Store.fails_load_iff`, `Store.exists_snapshotOf_iff`: which graphs the store cannot load
* `Run.not_fails_execute_of_load`: nothing after the loading ends in a fault
* `Run.execute_fault_iff`: how executions end in faults
-/

namespace AgentWorkflow

/-- A failure that may leave an execution: an error that is not worth another try, or a
cancellation. As long as an answer is awaited nothing has left it. -/
def Failure.IsFinal : Failure → Prop
  | .error e => e.retryable = false
  | .fault _ => False
  | .cancelled => True
  | .unanswered => True

theorem Failure.isFinal_iff {failure : Failure} :
    failure.IsFinal ↔ ∀ fault, failure ≠ .fault fault := by
  cases failure with
  | fault fault => simp [IsFinal]
  | _ => simp [IsFinal, GraphError.retryable]

/-- A value that a JSON column of a snapshot can hold. -/
def Value.IsDocument (value : Value) : Prop := ∃ document, Stored.ofValue? value = some document

namespace Store

variable {db next : Database} {graphId : String} {graph : GraphRow} {failure : Failure}

/-! ### Loading a graph -/

/-- A text is the identifier of a graph in the store. -/
def IsStored (db : Database) (graphId : String) (graph : GraphRow) : Prop :=
  ((Uuid.ofText? graphId).bind fun id => db.graphs.find? fun graph => graph.id == id) = some graph

/-- The schemas of a tool. -/
def schemasOf (tool : ToolRow) : List Value := [tool.inputSchema, tool.outputSchema]

/-- Everything in the JSON columns of a graph, of its nodes and of their tools. -/
def documentsOf (db : Database) (graph : GraphRow) : List Value :=
  graph.stateSchema ::
    (nodesOf db graph.id).flatMap fun node => node.config :: (toolsOf db node).flatMap schemasOf

theorem exists_column_iff (name : String) {value : Value} :
    (∃ document, column name value = .ok document) ↔ value.IsDocument := by
  simp only [column, Checked.under_eq_ok_iff, Value.IsDocument, Field.stored]
  cases Stored.ofValue? value with
  | none => simp
  | some document => simp

theorem exists_toolRef_iff {tool : ToolRow} :
    (∃ ref, toolRef tool = .ok ref) ↔ ∀ value ∈ schemasOf tool, value.IsDocument := by
  have schemas : (∀ value ∈ schemasOf tool, value.IsDocument) ↔
      tool.inputSchema.IsDocument ∧ tool.outputSchema.IsDocument := by
    simp [schemasOf]
  rw [schemas, ← exists_column_iff "input_schema", ← exists_column_iff "output_schema", toolRef]
  constructor
  · rintro ⟨_, read⟩
    obtain ⟨⟨input, output⟩, both, -⟩ := map_eq_ok_iff.mp read
    obtain ⟨reads, reads'⟩ := Checked.both_eq_ok_iff.mp both
    exact ⟨⟨input, reads⟩, output, reads'⟩
  · rintro ⟨⟨input, reads⟩, output, reads'⟩
    have both := Checked.both_eq_ok_iff.mpr ⟨reads, reads'⟩
    exact ⟨_, map_eq_ok_iff.mpr ⟨_, both, rfl⟩⟩

theorem exists_snapshotNode_iff {node : NodeRow} :
    (∃ part, snapshotNode db node = .ok part) ↔
      node.config.IsDocument ∧
        ∀ value ∈ (toolsOf db node).flatMap schemasOf, value.IsDocument := by
  have tools : (∀ value ∈ (toolsOf db node).flatMap schemasOf, value.IsDocument) ↔
      ∃ refs, (toolsOf db node).mapM toolRef = .ok refs := by
    rw [exists_mapM_iff]
    simp only [exists_toolRef_iff, List.forall_mem_flatMap]
  rw [tools, ← exists_column_iff "config", snapshotNode]
  simp only [bind_eq_ok_iff]
  constructor
  · rintro ⟨_, refs, listed, config, read, -⟩
    exact ⟨⟨config, read⟩, refs, listed⟩
  · rintro ⟨⟨config, read⟩, refs, listed⟩
    exact ⟨_, refs, listed, config, read, rfl⟩

/-- There is a snapshot of a graph exactly when all its JSON columns hold documents. -/
theorem exists_snapshotOf_iff (db : Database) (graph : GraphRow) :
    (∃ snapshot, snapshotOf db graph = .ok snapshot) ↔
      ∀ value ∈ documentsOf db graph, value.IsDocument := by
  have nodes : (∀ value ∈ (nodesOf db graph.id).flatMap fun node =>
        node.config :: (toolsOf db node).flatMap schemasOf, value.IsDocument) ↔
      ∃ parts, (nodesOf db graph.id).mapM (snapshotNode db) = .ok parts := by
    rw [exists_mapM_iff]
    simp only [exists_snapshotNode_iff, List.forall_mem_flatMap, List.forall_mem_cons]
  rw [documentsOf, List.forall_mem_cons, nodes, ← exists_column_iff "state_schema",
    snapshotOf]
  simp only [bind_eq_ok_iff]
  constructor
  · rintro ⟨_, schema, read, parts, listed, -⟩
    exact ⟨⟨schema, read⟩, parts, listed⟩
  · rintro ⟨⟨schema, read⟩, parts, listed⟩
    exact ⟨_, schema, read, parts, listed, rfl⟩

/-- A transaction that fails does so with the fault of its change, and changes nothing. -/
theorem fails_transaction_iff {α : Type} {change : Database → Except Fault (α × Database)} :
    (transaction change).Fails db failure next ↔
      next = db ∧ ∃ fault, change db = .error fault ∧ failure = .fault fault := by
  rw [Act.Fails, outcome_transaction]
  cases changed : change db with
  | ok made => simp
  | error fault => simp [@eq_comm _ failure, @eq_comm _ next, and_comm]

theorem loadSnapshot_eq_error_iff {fault : Fault} :
    loadSnapshot db graphId = .error fault ↔
      ∃ graph issues, IsStored db graphId graph ∧ snapshotOf db graph = .error issues ∧
        fault = .invalidFields issues := by
  rw [loadSnapshot]
  cases named : (Uuid.ofText? graphId).bind fun id =>
      db.graphs.find? fun graph => graph.id == id with
  | none => simp [IsStored, named]
  | some graph =>
    have stored (other : GraphRow) : IsStored db graphId other ↔ other = graph := by
      rw [IsStored, named, Option.some.injEq, eq_comm]
    simp only [stored, exists_eq_left, exists_and_left, mapError_eq_error_iff, map_eq_error_iff,
      @eq_comm _ fault]

/-- Loading fails only for a graph that is stored, and tells what is wrong with its columns. -/
theorem fails_load_iff :
    (load graphId).Fails db failure next ↔
      next = db ∧ ∃ graph issues, IsStored db graphId graph ∧
        snapshotOf db graph = .error issues ∧ failure = .fault (.invalidFields issues) := by
  rw [load, fails_transaction_iff]
  simp only [map_eq_error_iff, loadSnapshot_eq_error_iff]
  constructor
  · rintro ⟨rfl, _, ⟨graph, issues, stored, refused, rfl⟩, rfl⟩
    exact ⟨rfl, graph, issues, stored, refused, rfl⟩
  · rintro ⟨rfl, graph, issues, stored, refused, rfl⟩
    exact ⟨rfl, _, ⟨graph, issues, stored, refused, rfl⟩, rfl⟩

theorem exists_snapshotOf_eq_error_iff (db : Database) (graph : GraphRow) :
    (∃ issues, snapshotOf db graph = .error issues) ↔
      ∃ value ∈ documentsOf db graph, ¬ value.IsDocument := by
  have readable := exists_snapshotOf_iff db graph
  constructor
  · rintro ⟨issues, refused⟩
    by_contra all
    push Not at all
    obtain ⟨snapshot, drawn⟩ := readable.mpr all
    cases refused.symm.trans drawn
  · rintro ⟨value, among, strange⟩
    cases came : snapshotOf db graph with
    | error issues => exact ⟨issues, rfl⟩
    | ok snapshot => exact absurd (readable.mp ⟨snapshot, came⟩ value among) strange

/-- The store ends in a fault exactly over a graph of which some JSON column holds no document. -/
theorem exists_fails_load_iff :
    (∃ fault next, (load graphId).Fails db (.fault fault) next) ↔
      ∃ graph, IsStored db graphId graph ∧
        ∃ value ∈ documentsOf db graph, ¬ value.IsDocument := by
  simp only [← exists_snapshotOf_eq_error_iff, fails_load_iff]
  constructor
  · rintro ⟨fault, next, rfl, graph, issues, stored, refused, -⟩
    exact ⟨graph, stored, issues, refused⟩
  · rintro ⟨graph, stored, issues, refused⟩
    exact ⟨_, db, rfl, graph, issues, stored, refused, rfl⟩

end Store

namespace Run

variable {σ τ : Type} {runtime : Runtime σ τ} {graphId : String} {initial : State} {world : σ}
  {store loaded : τ} {failure : Failure} {fault : Fault}

/-! ### Executions -/

/-- An execution whose graph cannot be loaded fails as the loading does. -/
theorem fails_execute_of_load (fails : (runtime.load graphId).Fails store failure loaded) :
    (execute runtime graphId initial).Fails (world, store) failure (world, loaded) := by
  have unloaded : (Act.onSecond (runtime.load graphId)).Fails (world, store) failure
      (world, loaded) := by
    rw [Act.Fails, Act.outcome_onSecond, fails]
  exact Act.fails_bind_iff.mpr (Or.inl unloaded)

/-- Once the graph has been loaded, whether it is there or not, no execution ends in a fault. -/
theorem not_fails_execute_of_load {found : Option Snapshot} {after : σ × τ}
    (loads : (runtime.load graphId).Gives store found loaded) :
    ¬ (execute runtime graphId initial).Fails (world, store) (.fault fault) after := by
  intro fails
  cases found with
  | none =>
    cases (outcome_execute_of_missing loads).symm.trans fails
  | some snapshot =>
    rcases made : (runtime.recorder.createRun graphId (Value.object initial).plain).outcome loaded
      with ⟨failure | run, created⟩
    · -- a run without a row is not begun, and the error tells why there is none
      have told := (outcome_execute_of_refused loads made).symm.trans fails
      simp at told
    · rcases conducts : (conduct runtime snapshot initial).run world with ⟨course, world'⟩
      obtain ⟨_, _, -, executed⟩ := exists_outcome_execute_of_created loads made conducts
      have told : course.outcome.mapError (outward run) = .error (.fault fault) :=
        congrArg Prod.fst (executed.symm.trans fails)
      -- whatever ended the run has been wrapped on its way out
      obtain ⟨cause, -, wrapped⟩ := mapError_eq_error_iff.mp told
      exact Failure.faultCausing_eq_fault_iff.mp wrapped

/-- An execution ends in a fault exactly when loading its graph does. -/
theorem fails_execute_fault_iff {after : σ × τ} :
    (execute runtime graphId initial).Fails (world, store) (.fault fault) after ↔
      ∃ loaded, (runtime.load graphId).Fails store (.fault fault) loaded ∧
        after = (world, loaded) := by
  constructor
  · intro fails
    rcases came : (runtime.load graphId).outcome store with ⟨failure | found, loaded⟩
    · have same := (fails_execute_of_load came).symm.trans fails
      cases same
      exact ⟨loaded, came, rfl⟩
    · exact absurd fails (not_fails_execute_of_load came)
  · rintro ⟨loaded, fails, rfl⟩
    exact fails_execute_of_load fails

/-- An execution gives a state or fails with what is final, unless its graph cannot be loaded: it
ends in a fault exactly when the loading does, and then nothing has been done in the run. The store
cannot load a graph exactly when one of its JSON columns holds no document. -/
theorem execute_fault_iff (runtime : Runtime σ τ) (graphId : String) (initial : State) (world : σ)
    (store : τ) :
    ((∃ state after, (execute runtime graphId initial).Gives (world, store) state after) ∨
      (∃ failure after, (execute runtime graphId initial).Fails (world, store) failure after ∧
        failure.IsFinal) ∨
      ∃ fault loaded, (runtime.load graphId).Fails store (.fault fault) loaded) ∧
    (∀ fault after, (execute runtime graphId initial).Fails (world, store) (.fault fault) after ↔
      ∃ loaded, (runtime.load graphId).Fails store (.fault fault) loaded ∧
        after = (world, loaded)) ∧
    ∀ db, (∃ fault next, (Store.load graphId).Fails db (.fault fault) next) ↔
      ∃ graph, Store.IsStored db graphId graph ∧
        ∃ value ∈ Store.documentsOf db graph, ¬ value.IsDocument := by
  refine ⟨?_, fun fault after => fails_execute_fault_iff, fun db => Store.exists_fails_load_iff⟩
  rcases came : (execute runtime graphId initial).outcome (world, store) with
    ⟨failure | state, after⟩
  · right
    by_cases final : failure.IsFinal
    · exact Or.inl ⟨failure, after, came, final⟩
    · obtain ⟨fault, rfl⟩ : ∃ fault, failure = .fault fault := by
        simpa [Failure.isFinal_iff] using final
      obtain ⟨loaded, unloaded, -⟩ := fails_execute_fault_iff.mp came
      exact Or.inr ⟨fault, loaded, unloaded⟩
  · exact Or.inl ⟨state, after, came⟩

end Run

/-! ### A draft that declares a list

The draft with a list in the place of its stored schema. -/

namespace Draft

def listingGraph : Store.GraphRow := { graph with stateSchema := .list [] }

def listing : Store.Database where
  graphs := [listingGraph]

/-- What is told about the list. -/
def listIssues : List FieldIssue :=
  [⟨[.key "state_schema", .key "str"], .notText⟩,
    ⟨[.key "state_schema", .key "dict[str,any]"], .notObject⟩]

theorem isStored_listingGraph : Store.IsStored listing graphId listingGraph := by
  rw [Store.IsStored]
  rfl

theorem snapshotOf_listingGraph : Store.snapshotOf listing listingGraph = .error listIssues := by
  have refused : Store.column "state_schema" listingGraph.stateSchema = .error listIssues := rfl
  exact bind_eq_error_iff.mpr (Or.inl refused)

end Draft

/-- The draft that declares a list is not executed, and no error of the library tells so. -/
theorem Run.draft_listing_is_fault :
    (execute Draft.runtime Draft.graphId []).Fails ({}, Draft.listing)
      (.fault (.invalidFields Draft.listIssues)) ({}, Draft.listing) := by
  have unloaded : (Store.load Draft.graphId).Fails Draft.listing
      (.fault (.invalidFields Draft.listIssues)) Draft.listing :=
    Store.fails_load_iff.mpr ⟨rfl, _, _, Draft.isStored_listingGraph, Draft.snapshotOf_listingGraph,
      rfl⟩
  exact fails_execute_of_load unloaded

end AgentWorkflow
