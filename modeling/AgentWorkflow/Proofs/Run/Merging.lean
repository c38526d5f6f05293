import AgentWorkflow.Proofs.Run.History
import AgentWorkflow.Proofs.State.Merging
import AgentWorkflow.Proofs.Workflow.Keys

/-!
# What the states of a run hold

A run begins by writing its initial state, and every superstep writes what its nodes wrote, node by
node. So a state of a run is given by all that has been written before, and a key of it by the
values that have been written under that key. Where they are appended nothing is lost, doubled or
moved, and what a state holds is the beginning of what any later one does.

## Main definitions

* `Course.written`: what the nodes wrote in the first supersteps of a run
* `Course.Merges`: what the states of a run hold under a key

## Main results

* `Workflow.Runs.eq_arrange_written`: a state of a run is given by what has been written
* `Workflow.assemble_merges_writes`: the keys of every run of an assembled workflow
-/

namespace AgentWorkflow

variable {σ : Type} {settings : Settings} {services : Services σ} {snapshot : Option Snapshot}
  {transport : Option (Tool.Transport σ)} {stateKeys : List String} {blueprint : Blueprint}
  {plan : GraphPlan} {workflow : Workflow σ} {initial state : State} {active : List String}
  {limit place later : Nat} {course : Course} {before after : σ} {key : String}

/-- What the nodes wrote in the first supersteps of a run: the supersteps one after another, and in
a superstep the nodes in the order of their keys. -/
def Course.written (course : Course) (place : Nat) : Delta :=
  ((course.supersteps.take place).flatMap Superstep.deltas).flatten

theorem Course.written_cons_succ (superstep : Superstep) (course : Course) (place : Nat) :
    Course.written ⟨superstep :: course.supersteps, course.outcome⟩ (place + 1) =
      superstep.deltas.flatten ++ course.written place := by
  rw [written, written, List.take_succ_cons, List.flatMap_cons, List.flatten_append]

/-- More supersteps write more. -/
theorem Course.written_prefix_written (course : Course) (le : place ≤ later) :
    course.written place <+: course.written later := by
  obtain ⟨rest, same⟩ := List.take_prefix_take_left le (l := course.supersteps)
  refine ⟨(rest.flatMap Superstep.deltas).flatten, ?_⟩
  rw [written, written, ← same, List.flatMap_append, List.flatten_append]

/-- What the states of a run hold under a key. The values are all that were written under it up to
there, beginning with the initial state. -/
structure Course.Merges (course : Course) (plan : GraphPlan) (initial : State) (key : String) :
    Prop where
  /-- A key that is appended to holds the items of all values, and nothing while there are none. -/
  appended : plan.Appends key →
    ∀ (place : Nat) (state : State), course.states[place]? = some state →
      ((state.find? key).getD .null).asItems =
          ((initial ++ course.written place).valuesUnder key).flatMap Value.asItems ∧
        (state.find? key = none ↔ (initial ++ course.written place).valuesUnder key = [])
  /-- What it holds is the beginning of what it holds in any later state. -/
  grows : plan.Appends key → ∀ (place later : Nat) (earlier state : State), place ≤ later →
    course.states[place]? = some earlier → course.states[later]? = some state →
      ((earlier.find? key).getD .null).asItems <+: ((state.find? key).getD .null).asItems
  /-- Any other key holds the last value. -/
  replaced : ¬ plan.Appends key →
    ∀ (place : Nat) (state : State), course.states[place]? = some state →
      state.find? key = ((initial ++ course.written place).valuesUnder key).getLast?

namespace Workflow

/-- A state of a run is the one that it begins in with all that has been written since. -/
theorem Runs.eq_arrange_written (runs : workflow.Runs limit active state before course after)
    {held : State} (here : course.states[place]? = some held) :
    held = workflow.schema.arrange (workflow.schema.apply state (course.written place)) := by
  induction runs generalizing place held with
  | exhausted => cases here
  | finished =>
    cases place with
    | zero =>
      cases here
      rfl
    | succ place => cases here
  | failed _ takes _ =>
    cases place with
    | zero =>
      cases here
      exact takes.input_eq
    | succ place => cases here
  | @continued limit active state before middle after superstep course _ takes _ _ ih =>
    cases place with
    | zero =>
      cases here
      exact takes.input_eq
    | succ place =>
      have rest := ih here
      rw [rest, Course.written_cons_succ, Schema.apply_append, Schema.foldl_apply]

/-- The states of a run from its entry. -/
theorem eq_arrange_of_run {bound : Int}
    (ran : ((workflow.run bound initial).run before).run = (course, after)) {held : State}
    (here : course.states[place]? = some held) :
    held =
      workflow.schema.arrange (workflow.schema.apply [] (initial ++ course.written place)) := by
  rcases run_eq_iff.mp ran with ⟨-, rfl, -⟩ | ⟨-, runs⟩
  · cases here
  · rw [Schema.apply_append]
    exact runs.eq_arrange_written here

/-- What a key that is carried holds in a state of a run. -/
theorem find?_of_run {bound : Int} {r : Reducer}
    (declared : Record.find? workflow.schema key = some r)
    (ran : ((workflow.run bound initial).run before).run = (course, after)) {held : State}
    (here : course.states[place]? = some held) :
    held.find? key = r.gather none ((initial ++ course.written place).valuesUnder key) := by
  rw [eq_arrange_of_run ran here, Schema.find?_arrange_apply declared, Record.find?_nil]

/-- Where nodes write certain keys alone, a run writes no others. -/
theorem allowed_of_mem_written {bound : Int} {allowed : String → Prop}
    (writes : ∀ task ∈ workflow.tasks, Node.WritesOnly task.node.step allowed)
    (ran : ((workflow.run bound initial).run before).run = (course, after))
    (written : key ∈ Record.keys (course.written place)) : allowed key := by
  rcases run_eq_iff.mp ran with ⟨-, rfl, -⟩ | ⟨-, runs⟩
  · simp [Course.written, Record.keys] at written
  · obtain ⟨⟨key, value⟩, member, rfl⟩ := List.mem_map.mp written
    obtain ⟨delta, among, held⟩ := List.mem_flatten.mp member
    obtain ⟨superstep, taken, wrote⟩ := List.mem_flatMap.mp among
    obtain ⟨invocation, invoked, targets, ended⟩ := Superstep.mem_deltas_iff.mp wrote
    have records := runs.records superstep (List.mem_of_mem_take taken)
    obtain ⟨task, world, later, found, gives⟩ := records.exists_gives invoked ended
    exact writes task (mem_of_task? found) gives _ (List.mem_map_of_mem held)

/-- A key of a run merges what is written under it if the schema says so. -/
theorem merges_of_find?_schema {bound : Int}
    (appends : plan.Appends key → Record.find? workflow.schema key = some .append)
    (overwrites : ¬ plan.Appends key → Record.find? workflow.schema key = some .overwrite)
    (ran : ((workflow.run bound initial).run before).run = (course, after)) :
    course.Merges plan initial key := by
  have appended : plan.Appends key →
      ∀ (place : Nat) (state : State), course.states[place]? = some state →
      ((state.find? key).getD .null).asItems =
          ((initial ++ course.written place).valuesUnder key).flatMap Value.asItems ∧
        (state.find? key = none ↔ (initial ++ course.written place).valuesUnder key = []) := by
    intro app place state here
    rw [find?_of_run (appends app) ran here]
    constructor
    · rw [Reducer.asItems_gather_append]
      rfl
    · simp [Reducer.gather_eq_none_iff]
  refine ⟨appended, ?_, ?_⟩
  · intro app place later earlier state le here there
    rw [(appended app place earlier here).1, (appended app later state there).1]
    obtain ⟨rest, same⟩ := course.written_prefix_written le
    rw [← same, ← List.append_assoc, Record.valuesUnder_append _ rest, List.flatMap_append]
    exact List.prefix_append _ _
  · intro other place state here
    rw [find?_of_run (overwrites other) ran here, Reducer.gather_overwrite, Option.or_none]

/-- In a workflow that could be assembled, declarations stand, and all keys that are asked for are
carried. In every run a key that is carried holds what has been written under it, appended where
the stored schema says so or where the key is the conversation and there is a supervisor, and
overwritten otherwise. A key that is not carried is never written by a node, and holds nothing. -/
theorem assemble_merges_writes
    (assembled : (assemble settings services snapshot transport stateKeys).Gives before workflow
      after) :
    ∃ plan, validate snapshot = .ok plan ∧
      (∀ key r, plan.Declares key r → ¬ (key = messagesKey ∧ plan.HasSupervisor) →
        Record.find? workflow.schema key = some r) ∧
      (∀ key ∈ stateKeys, key ∈ Record.keys workflow.schema) ∧
      ∀ limit initial before course after,
        ((workflow.run limit initial).run before).run = (course, after) →
          (∀ key ∈ Record.keys workflow.schema, course.Merges plan initial key) ∧
          ∀ key, key ∉ Record.keys workflow.schema → ∀ place,
            key ∉ Record.keys (course.written place) ∧
              ∀ state, course.states[place]? = some state → state.find? key = none := by
  obtain ⟨blueprint, drawn, built⟩ := gives_assemble_iff.mp assembled
  have faithful := Blueprint.faithful_of_ofSnapshot drawn
  obtain ⟨parts, rfl, writes⟩ := exists_eq_joined_carrying faithful built
  have carried : ∀ {key}, key ∈ furtherKeys blueprint parts stateKeys →
      key ∈ Record.keys (joined blueprint parts stateKeys).schema := fun further =>
    Schema.mem_keys_build.mpr (Or.inr further)
  refine ⟨blueprint.plan, (Blueprint.ofSnapshot_eq_ok_iff.mp drawn).1,
    fun key r declares own => find?_schema_joined_of_declares drawn declares own,
    fun key asked => carried (mem_furtherKeys_of_stateKeys asked), ?_⟩
  intro limit initial before course after ran
  constructor
  · intro key member
    exact merges_of_find?_schema (fun app => find?_schema_joined_of_appends drawn app)
      (fun other => find?_schema_joined_of_not_appends drawn member other) ran
  · intro key missing place
    constructor
    · exact fun written => missing (carried (allowed_of_mem_written writes ran written))
    · intro state here
      rw [eq_arrange_of_run ran here, Schema.find?_arrange, Record.find?_eq_none_iff.mpr missing]
      rfl

/-- The newsroom merges what is written. -/
theorem newsroom_merges_writes :
    ∃ workflow, (assemble {} Newsroom.services (some (Newsroom.plan .absent).toSnapshot) none
        []).Gives [] workflow [] ∧
      ∃ plan, validate (some (Newsroom.plan .absent).toSnapshot) = .ok plan ∧
        (∀ key r, plan.Declares key r → ¬ (key = messagesKey ∧ plan.HasSupervisor) →
          Record.find? workflow.schema key = some r) ∧
        (∀ key ∈ [], key ∈ Record.keys workflow.schema) ∧
        ∀ limit initial before course after,
          ((workflow.run limit initial).run before).run = (course, after) →
            (∀ key ∈ Record.keys workflow.schema, course.Merges plan initial key) ∧
            ∀ key, key ∉ Record.keys workflow.schema → ∀ place,
              key ∉ Record.keys (course.written place) ∧
                ∀ state, course.states[place]? = some state → state.find? key = none := by
  obtain ⟨workflow, assembled⟩ := Newsroom.exists_gives_assemble []
  exact ⟨workflow, assembled, assemble_merges_writes assembled⟩

end Workflow

end AgentWorkflow
