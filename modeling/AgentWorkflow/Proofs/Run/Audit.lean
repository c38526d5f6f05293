import AgentWorkflow.Proofs.Run.Calls
import AgentWorkflow.Proofs.Run.Queue
import AgentWorkflow.Proofs.Run.Steps
import AgentWorkflow.Proofs.Workflow.Tasks

/-!
# The audit of a run

If all writes for a run succeed, its steps in the store account for its calls, one for each: in the
order in which they began, numbered without gaps, and completed with what their nodes wrote, or with
their errors and what they read. But they account for the calls of those nodes only that are told
about. A node whose key begins like the names of the engine's own nodes is run like any other, and
leaves no trace: the audit is complete exactly if no such node was invoked.

## Main definitions

* `AccountsFor`, `Audits`: the steps of a run account for calls
* `Runtime.inputs`: the events of a run as they are handled

## Main results

* `Reports.accounts`: the rows that are read off account for the calls that are reported
* `exists_node_of_mem_calls`: the nodes that are invoked in a run are those of its snapshot
* `execute_audits_calls`: the steps of a run account for the calls of nodes that are told about,
  and for all calls exactly if no node is invoked whose key begins like the engine's own names
-/

namespace AgentWorkflow.Run

section Auditing

variable {σ τ : Type} {recorder : Recorder τ} {runtime : Runtime σ τ} {naming : Store.Naming}
  {view : τ → Store.Database} {graphId run step : String} {snapshot : Snapshot} {initial : State}
  {call : Call} {calls : List Call} {course : Course} {world world' : σ}
  {store loaded created : τ} {delta : Value}

/-- The row of a step accounts for a call: it has the key of its node and its number, and it was
completed with what is to be kept of it. -/
structure AccountsFor (run : String) (row : Store.StepRow) (call : Call) (order : Nat) : Prop where
  run_eq : row.run = run
  node_eq : row.node = call.invocation.key
  order_eq : row.order = order
  delta_eq : row.delta = call.account
  finished : row.finishedAt ≠ none

/-- The rows account for calls, one for each in their order, and are numbered from one on without
gaps. -/
def Audits (run : String) (rows : List Store.StepRow) (calls : List Call) : Prop :=
  List.Forall₂ (fun row numbered => AccountsFor run row numbered.1 numbered.2) rows (calls.zipIdx 1)

/-- The write that was due was successful, if there was one. -/
def Handling.Succeeds (recorder : Recorder τ) (h : Handling τ) : Prop :=
  ∀ write, h.write = some write → write.Succeeds recorder h.before

/-- The events of a run as they are handled, when it is over. -/
def Runtime.inputs (runtime : Runtime σ τ) (course : Course) : List (Event × Timestamp) :=
  let events := Publisher.events runtime.clock 0 {} (notices course)
  (events.filterMap id).map fun event => (event, runtime.clock events.length)

/-! ### Rows that account for calls -/

section Rows

variable {earlier between rest hs : List (Handling τ)} {h s : Handling τ} {order : Nat}

/-- A write about a step that succeeds writes a row. -/
theorem Handling.Follows.row_ne_none (follows : h.Follows recorder run earlier)
    (succeeds : h.Succeeds recorder) {write : Write} (due : h.write = some write)
    (about : write.AboutStep) : h.row ≠ none := by
  have succeeded := succeeds write due
  rw [follows.row_eq, due, Option.bind_some]
  cases write with
  | createStep run node order startedAt =>
    obtain ⟨step, after, gives⟩ := succeeded
    rw [Write.row?, gives]
    exact Option.some_ne_none step
  | finishStep step delta finishedAt =>
    obtain ⟨after, gives⟩ := succeeded
    rw [Write.row?, gives]
    exact Option.some_ne_none step
  | finishRun run status final error finishedAt => exact about.elim

/-- The row of a node that begins is added. -/
theorem Handling.Follows.exists_added (follows : h.Follows recorder run earlier)
    (succeeds : h.Succeeds recorder) (start : h.event.kind = .nodeStart) :
    ∃ step, h.added? = some step := by
  rw [added?, if_pos (begins_iff.mpr start)]
  exact Option.ne_none_iff_exists'.mp
    (follows.row_ne_none succeeds (follows.begins start) trivial)

/-- The row that was added is completed by the next event with its identifier, if that is about an
end. -/
theorem completion?_of_ends (follows : h.Follows recorder run (earlier ++ s :: between))
    (succeeds : h.Succeeds recorder) (added : s.added? = some step)
    (others : ∀ other ∈ between, other.event.id ≠ s.event.id) (named : h.event.id = s.event.id)
    (ends : h.event.delta? = some delta) :
    completion? s.event.id (between ++ h :: rest) = some (delta, h.time) := by
  have untouched : ∀ other ∈ between, ¬ other.Touches s.event.id := fun other member touches =>
    others other member touches.1
  have inFlight : InFlight (earlier ++ s :: between) h.event.id step :=
    ⟨earlier, s, between, rfl, ⟨named.symm, added⟩, named ▸ untouched⟩
  obtain ⟨step', wrote⟩ := Option.ne_none_iff_exists'.mp
    (follows.row_ne_none succeeds (follows.completes ends inFlight) trivial)
  rw [completion?_append_of_untouched untouched, completion?, if_pos named, ends, wrote]

/-- The row of a call that has ended accounts for it. -/
theorem accountsFor_stepRow {time : Timestamp} (node : s.event.node = call.invocation.key)
    (completed : completion? s.event.id rest = some (call.account, time)) :
    AccountsFor run (s.stepRow run order rest step) call order := by
  rw [Handling.stepRow, completed]
  exact ⟨rfl, node, rfl, rfl, Option.some_ne_none time⟩

/-- What follows for the handling of events follows for that of the events after the first. -/
theorem follows_of_cons (follows : ∀ sooner h' later, h :: hs = sooner ++ h' :: later →
      h'.Follows recorder run (earlier ++ sooner)) :
    ∀ sooner h' later, hs = sooner ++ h' :: later →
      h'.Follows recorder run (earlier ++ [h] ++ sooner) := by
  rintro sooner h' later rfl
  rw [← List.append_cons]
  exact follows (h :: sooner) h' later rfl

/-- If all writes succeed, the rows that can be read off account for the calls that the events
report. -/
theorem Reports.accounts {events : List Event} (reports : Reports .ofEvents calls events)
    (handled : hs.map Handling.event = events)
    (follows : ∀ sooner h later, hs = sooner ++ h :: later →
      h.Follows recorder run (earlier ++ sooner))
    (succeed : ∀ h ∈ hs, h.Succeeds recorder) (order : Nat) :
    List.Forall₂ (fun row numbered => AccountsFor run row numbered.1 numbered.2)
      (rowsOf run order hs) (calls.zipIdx order) := by
  -- on how the calls are read off: a start gives the next row, whose completion is found later on
  induction reports generalizing hs earlier order with
  | nil =>
    rw [List.map_eq_nil_iff] at handled
    rw [handled]
    exact .nil
  | @pass calls event events passes _ ih =>
    obtain ⟨h, hs, rfl, rfl, handled'⟩ := List.map_eq_cons_iff.mp handled
    have idle : h.begins = false := by
      rw [← Bool.not_eq_true, Handling.begins_iff]
      exact passes
    rw [rowsOf, Handling.added?, idle]
    exact ih handled' (follows_of_cons follows)
      (fun h' member => succeed h' (List.mem_cons_of_mem _ member)) order
  | @begin call calls start finish events begins found ends _ ih =>
    obtain ⟨s, hs, rfl, rfl, handled'⟩ := List.map_eq_cons_iff.mp handled
    have later := ih handled' (follows_of_cons follows)
      (fun h' member => succeed h' (List.mem_cons_of_mem _ member)) (order + 1)
    have starting : s.Follows recorder run earlier := by simpa using follows [] s hs rfl
    obtain ⟨step, added⟩ := starting.exists_added (succeed s List.mem_cons_self) begins.1
    -- the end of the call is the next event with its identifier
    obtain ⟨named, between, rest, rfl, others⟩ := List.find?_eq_some_iff_append.mp found
    obtain ⟨passed, more, rfl, rfl, ended⟩ := List.map_eq_append_iff.mp handled'
    obtain ⟨h, rest, rfl, rfl, rfl⟩ := List.map_eq_cons_iff.mp ended
    have completed : completion? s.event.id (passed ++ h :: rest) = some (call.account, h.time) :=
      completion?_of_ends (follows (s :: passed) h rest rfl)
        (succeed h (by simp)) added
        (fun other member => by
          simpa [Reading.ofEvents] using others _ (List.mem_map_of_mem member))
        (beq_iff_eq.mp named) ends
    rw [rowsOf, added, if_pos (Handling.begins_of_added added), List.zipIdx_cons]
    exact .cons (accountsFor_stepRow begins.2 completed) later

end Rows

/-! ### The events of a run -/

/-- What is consumed is handled, one event after another. -/
theorem Tracker.run_consume_of_handleAll {tracker last : Tracker} {now : Timestamp}
    {events : List Event} {before after : τ}
    (gives : (tracker.handleAll recorder (events.map fun event => (event, now))).Gives before last
      after) (rest : List (Option Event)) :
    ((tracker.consume recorder now (events.map some ++ rest)).run before).run =
      ((last.consume recorder now rest).run after).run := by
  induction events generalizing tracker before with
  | nil =>
    obtain ⟨rfl, rfl⟩ := Act.gives_pure_iff.mp gives
    rfl
  | cons event events ih =>
    rw [handleAll, List.map_cons, List.foldlM_cons] at gives
    obtain ⟨next, between, handled, later⟩ := Act.gives_bind_iff.mp gives
    rw [List.map_cons, List.cons_append, run_consume_some, handled]
    exact ih later

theorem filterMap_id_map_some (events : List Event) (rest : List (Option Event)) :
    (events.map some ++ rest).filterMap id = events ++ rest.filterMap id := by
  simp [List.filterMap_append, List.filterMap_map]

/-- The events of a run are handled, and its record is left by that. They report the calls of the
nodes that are told about. -/
theorem exists_handles_recordCourse (runtime : Runtime σ τ) (course : Course) (run : String)
    (before : τ) :
    ∃ hs after, (recordCourse runtime { run := some run } course).outcome before = (.ok (), after) ∧
      Handles runtime.recorder run [] before (runtime.inputs course) hs after ∧
      Reports .ofEvents (course.calls.filter Call.isPublic) (hs.map Handling.event) := by
  obtain ⟨events, told, reports⟩ := exists_events_reports runtime.clock course
  have inputs : runtime.inputs course = events.map fun event =>
      (event, runtime.clock (Publisher.events runtime.clock 0 {} (notices course)).length) := by
    have none_left : (if Workflow.isWaiting course.outcome then [] else [none]).filterMap id =
        ([] : List Event) := by
      cases Workflow.isWaiting course.outcome <;> rfl
    rw [Runtime.inputs, told, filterMap_id_map_some, none_left, List.append_nil]
  obtain ⟨hs, last, after, gives, handles, -⟩ :=
    (Tracker.remembers_start run).exists_handles runtime.recorder (runtime.inputs course) before
  refine ⟨hs, after, ?_, handles, ?_⟩
  · rw [inputs] at gives
    have consumed := Tracker.run_consume_of_handleAll gives
      (if Workflow.isWaiting course.outcome then [] else [none])
    rw [← told] at consumed
    rw [recordCourse, Act.outcome_bind, Act.outcome_lift, consumed]
    cases Workflow.isWaiting course.outcome <;> rfl
  · rw [handles.map_event, inputs, List.map_map]
    simpa [Function.comp_def] using reports

/-! ### The nodes of a run -/

theorem run_perform (runtime : Runtime σ τ) (snapshot : Snapshot)
    (transport : Option (Tool.Transport σ)) (initial : State) (world : σ) :
    (perform runtime snapshot transport initial).run world =
      match (Workflow.assemble runtime.settings runtime.services (some snapshot) transport
        (Record.keys initial)).outcome world with
      | (.error failure, after) => (⟨[], .error failure⟩, after)
      | (.ok workflow, after) =>
        (workflow.run runtime.settings.recursionLimit initial).run after := by
  rw [perform, Act.run_run_bind]
  rcases (Workflow.assemble runtime.settings runtime.services (some snapshot) transport
    (Record.keys initial)).outcome world with ⟨failure | workflow, after⟩
  · rfl
  · rfl

/-- A connection is opened and closed around a run. It is left open while the run awaits an answer,
and one that cannot be closed fails the run. -/
theorem run_performWith (runtime : Runtime σ τ) (snapshot : Snapshot) (server : Server σ)
    (initial : State) (world : σ) :
    (performWith runtime snapshot server initial).run world =
      match server.connect.outcome world with
      | (.error failure, after) => (⟨[], .error failure⟩, after)
      | (.ok transport, connected) =>
        let (course, performed) := (perform runtime snapshot (some transport) initial).run connected
        if Workflow.isWaiting course.outcome then (course, performed)
        else match server.disconnect.outcome performed with
          | (.error failure, after) => ({ course with outcome := .error failure }, after)
          | (.ok (), after) => (course, after) := by
  rw [performWith, Act.run_run_bind]
  rcases server.connect.outcome world with ⟨failure | transport, connected⟩
  · rfl
  · simp only
    rw [StateT.run_bind]
    rcases (perform runtime snapshot (some transport) initial).run connected with
      ⟨course, performed⟩
    change (ite (Workflow.isWaiting course.outcome = true) (pure course)
      (server.disconnect.run >>= _) : StateM σ Course).run performed =
        ite (Workflow.isWaiting course.outcome = true) (course, performed) _
    by_cases waiting : Workflow.isWaiting course.outcome = true
    · rw [if_pos waiting, if_pos waiting]
      rfl
    · rw [if_neg waiting, if_neg waiting, Act.run_run_bind]
      rcases server.disconnect.outcome performed with ⟨failure | _, after⟩ <;> rfl

/-- Opening a connection and closing it again adds no calls to those of the run. -/
theorem exists_perform_of_performWith {server : Server σ}
    (performs : (performWith runtime snapshot server initial).run world = (course, world'))
    (member : call ∈ course.calls) :
    ∃ transport before course' after,
      (perform runtime snapshot transport initial).run before = (course', after) ∧
        call ∈ course'.calls := by
  rw [run_performWith] at performs
  rcases connected : server.connect.outcome world with ⟨failure | transport, before⟩
  · rw [connected] at performs
    cases performs
    simp [Course.calls] at member
  · rcases ran : (perform runtime snapshot (some transport) initial).run before with
      ⟨course', after⟩
    refine ⟨some transport, before, course', after, ran, ?_⟩
    simp only [connected, ran] at performs
    -- the connection is closed unless the run is still waiting, and closing it may fail
    split at performs
    · cases performs
      exact member
    · rcases disconnected : server.disconnect.outcome after with ⟨failure | _, closed⟩
      · rw [disconnected] at performs
        cases performs
        exact member
      · rw [disconnected] at performs
        cases performs
        exact member

/-- The nodes that a workflow invokes are nodes of the graph that it was assembled from. -/
theorem exists_node_of_perform {transport : Option (Tool.Transport σ)} {plan : GraphPlan}
    (valid : validate (some snapshot) = .ok plan)
    (performs : (perform runtime snapshot transport initial).run world = (course, world'))
    (member : call ∈ course.calls) : ∃ n ∈ plan.nodes, call.invocation.key = n.key := by
  rw [run_perform] at performs
  rcases assembled : (Workflow.assemble runtime.settings runtime.services (some snapshot) transport
    (Record.keys initial)).outcome world with ⟨failure | workflow, after⟩
  · rw [assembled] at performs
    cases performs
    simp [Course.calls] at member
  · rw [assembled] at performs
    obtain ⟨blueprint, drawn, built⟩ := Workflow.gives_assemble_iff.mp assembled
    have faithful := Blueprint.faithful_of_ofSnapshot drawn
    obtain rfl : blueprint.plan = plan :=
      Except.ok.inj ((Blueprint.ofSnapshot_eq_ok_iff.mp drawn).1.symm.trans valid)
    rcases Workflow.run_eq_iff.mp performs with ⟨-, rfl, -⟩ | ⟨-, runs⟩
    · simp [Course.calls] at member
    · simp only [Course.calls, Superstep.calls, List.mem_flatMap, List.mem_map] at member
      obtain ⟨superstep, taken, invocation, invoked, rfl⟩ := member
      obtain ⟨task, -, found, -⟩ := (runs.records superstep taken).exists_task invocation invoked
      dsimp only
      rw [← Workflow.key_of_task? found]
      cases Workflow.taskOf_of_mem_tasks faithful built (Workflow.mem_of_task? found) with
      | supervisor node supervises => exact ⟨_, node, rfl⟩
      | other node type_ne key_eq writes => exact ⟨_, node, key_eq⟩

/-- The nodes that are invoked in a run are those of its snapshot. -/
theorem exists_node_of_mem_calls
    (conducts : (conduct runtime snapshot initial).run world = (course, world'))
    (member : call ∈ course.calls) :
    ∃ plan, validate (some snapshot) = .ok plan ∧
      ∃ n ∈ plan.nodes, call.invocation.key = n.key := by
  rw [conduct] at conducts
  cases valid : validate (some snapshot) with
  | error issue =>
    rw [valid] at conducts
    cases conducts
    simp [Course.calls] at member
  | ok plan =>
    rw [valid] at conducts
    refine ⟨plan, rfl, ?_⟩
    cases served : runtime.server with
    | none =>
      rw [served] at conducts
      exact exists_node_of_perform valid conducts member
    | some server =>
      rw [served] at conducts
      obtain ⟨transport, before, course', after, performs, member'⟩ :=
        exists_perform_of_performWith conducts member
      exact exists_node_of_perform valid performs member'

/-- A call is told about exactly if the key of its node does not begin like the engine's own names.
-/
theorem isPublic_iff (conducts : (conduct runtime snapshot initial).run world = (course, world'))
    (member : call ∈ course.calls) :
    call.isPublic = true ↔ call.invocation.key.startsWith "__" = false := by
  obtain ⟨plan, valid, n, node, same⟩ := exists_node_of_mem_calls conducts member
  have nonempty : call.invocation.key ≠ "" := by
    rw [same]
    exact ((validate_eq_ok_iff.mp valid).2.1.key_isKey n node).1
  rw [Call.isPublic, Publisher.isPublic, Bool.and_eq_true, bne_iff_ne, Bool.not_eq_true']
  exact and_iff_right nonempty

/-! ### The audit -/

/-- The audit is complete exactly if all calls are told about. -/
theorem Audits.iff_of_filter {rows : List Store.StepRow}
    (audits : Audits run rows (calls.filter Call.isPublic)) :
    Audits run rows calls ↔ ∀ call ∈ calls, call.isPublic = true := by
  constructor
  · intro complete
    -- there are as many rows as calls, so none of the calls was left out
    have same := audits.length_eq.symm.trans complete.length_eq
    rw [List.length_zipIdx, List.length_zipIdx] at same
    exact List.length_filter_eq_length_iff.mp same
  · intro all
    rw [List.filter_eq_self.mpr all] at audits
    exact audits

/-- If all writes for a run succeed, its steps in the store account for its calls, one for each:
those of the nodes whose keys do not begin like the engine's own names, whether they are invoked
again or side by side. The steps are numbered from one on without gaps in the order in which the
calls began, and each is completed with what was written in its call, or with the error of the call
and the state that it read. So the audit is complete exactly if no other node was invoked. -/
theorem execute_audits_calls (keeps : runtime.KeepsStore naming view)
    (consistent : (view store).isConsistent = true)
    (loads : (runtime.load graphId).Gives store (some snapshot) loaded)
    (creates : (runtime.recorder.createRun graphId (Value.object initial).plain).Gives loaded run
      created) (world : σ) :
    ∃ course world' hs after, (conduct runtime snapshot initial).run world = (course, world') ∧
      (execute runtime graphId initial).outcome (world, store) =
        (course.outcome.mapError (outward run), world', after) ∧
      Handles runtime.recorder run [] created (runtime.inputs course) hs after ∧
      ((∀ h ∈ hs, h.Succeeds runtime.recorder) →
        Audits run (Store.stepsOf (view after) run) (course.calls.filter Call.isPublic) ∧
        (Audits run (Store.stepsOf (view after) run) course.calls ↔
          ∀ call ∈ course.calls, call.invocation.key.startsWith "__" = false)) := by
  rcases conducts : (conduct runtime snapshot initial).run world with ⟨course, world'⟩
  obtain ⟨hs, after, recorded, handles, reports⟩ :=
    exists_handles_recordCourse runtime course run created
  refine ⟨course, world', hs, after, rfl,
    outcome_execute_of_recorded loads creates conducts recorded, handles, fun succeed => ?_⟩
  obtain ⟨time, row, made, rfl⟩ :=
    (keeps.writes.createRun graphId (Value.object initial).plain).of_gives creates
  rw [(keeps.reads graphId).of_gives loads] at made
  -- the run has no steps before its first event, so its steps are those that can be read off
  have kept : Kept row.id (view store).steps view hs after := by
    simpa using handles.kept keeps.writes (kept_start (Store.steps_of_createRun made))
  have audits : Audits row.id (rowsOf row.id 1 hs) (course.calls.filter Call.isPublic) :=
    reports.accounts rfl (fun _ _ _ split => handles.follows split) succeed 1
  rw [kept.stepsOf_eq (Store.run_ne_of_createRun consistent made), audits.iff_of_filter]
  exact ⟨audits, forall₂_congr fun call member => isPublic_iff conducts member⟩

end Auditing

/-! ### Backstage

The key of the only node of a graph begins like the engine's own names. The graph is assembled, and
its node is run and ends well, but its run has no steps. -/

namespace Backstage

def plan : GraphPlan where
  graph := { entry := "__desk", stateSchema := .absent }
  nodes := [Newsroom.worker "__desk"]
  edges := [⟨"__desk", endKey⟩]

theorem validate_plan : validate (some plan.toSnapshot) = .ok plan :=
  validate_single rfl (by decide : IsKey "__desk") (by decide) (by decide)

def blueprint : Blueprint where
  plan := plan
  declared := []
  supervision := []

theorem ofSnapshot_plan : Blueprint.ofSnapshot {} (some plan.toSnapshot) = .ok blueprint :=
  Blueprint.ofSnapshot_eq_ok_iff.mpr ⟨validate_plan, rfl, [], rfl, rfl⟩

/-- The task of the node. Its agent leaves a conversation as it is. -/
def desk : Task (List Message) where
  node := {
    key := "__desk"
    description := "__desk"
    step := Node.workerStep Newsroom.services.prepareImage (Newsroom.worker "__desk").node {}
      { run := pure } }
  seconds := ({} : Settings).nodeTimeoutSeconds

def workflow : Workflow (List Message) := Workflow.joined blueprint [⟨desk, []⟩] []

theorem gives_assemble (script : List Message) :
    (Workflow.assemble {} Newsroom.services (some plan.toSnapshot) none []).Gives script workflow
      script :=
  Workflow.gives_assemble_iff.mpr ⟨blueprint, ofSnapshot_plan,
    Workflow.gives_build_iff.mpr ⟨_, _, rfl, [⟨desk, []⟩], _, rfl, [], rfl,
      Workflow.join_eq_ok_of_free (by decide +kernel) (by decide +kernel)⟩⟩

/-- The only call of its run. -/
def call : Call where
  input := workflow.schema.arrange []
  invocation := ⟨"__desk", .ok ([], [.finish])⟩

def superstep : Superstep where
  input := call.input
  invocations := [call.invocation]

def course : Course where
  supersteps := [superstep]
  outcome := .ok (workflow.schema.arrange [])

/-- The turn of the human. -/
def turn : Message where
  role := .human
  content := .list [Node.textPart Node.defaultWorkerPrompt]

theorem gives_step (state : State) (script : List Message) :
    (desk.node.step state).Gives script [] script := by
  have plain : Node.sendsImage {} "" = false := by decide +kernel
  have opens : (Node.humanTurn Newsroom.services.prepareImage {} Node.defaultWorkerPrompt
      "").Gives script turn script := by
    rw [Node.humanTurn, plain]
    rfl
  have answers : (Node.finalText (Node.workerLabel "__desk") [.message turn]).Gives script (.str "")
      script := by
    rfl
  exact Act.gives_bind_iff.mpr ⟨turn, script, opens, Act.gives_bind_iff.mpr
    ⟨[.message turn], script, rfl, Act.gives_bind_iff.mpr ⟨.str "", script, answers, rfl⟩⟩⟩

theorem takes (script : List Message) :
    workflow.Takes ["__desk"] [] script superstep script := by
  have begun : Node.isPast desk.seconds = false := by decide
  have leads : workflow.targets "__desk" = [.finish] := by decide +kernel
  have invoked : (workflow.invoke (workflow.schema.arrange []) desk).outcome script =
      (.ok ([], [.finish]), script) :=
    Workflow.outcome_invoke_of_gives begun (gives_step _ script) (congrArg Except.ok leads)
  exact Workflow.takes_singleton rfl invoked

def runtime : Runtime (List Message) Store.Database where
  settings := {}
  services := Newsroom.services
  server := none
  load _ := pure (some plan.toSnapshot)
  recorder := Rehearsal.recorder []
  clock _ := Rehearsal.now

/-- The store with the row of the run. -/
def created : Store.Database := { Draft.store with runs := [Draft.row] }

theorem conduct_eq (script : List Message) :
    (conduct runtime plan.toSnapshot []).run script = (course, script) := by
  have assembled : (Workflow.assemble runtime.settings runtime.services (some plan.toSnapshot) none
      (Record.keys ([] : State))).outcome script = (.ok workflow, script) :=
    gives_assemble script
  have goes : workflow.Runs 100 ["__desk"] [] script course script :=
    .continued (List.cons_ne_nil _ _) (takes script) rfl .finished
  rw [conduct, validate_plan]
  change (perform runtime plan.toSnapshot none []).run script = _
  rw [run_perform, assembled]
  exact Workflow.run_eq_iff.mpr (Or.inr ⟨by decide, goes⟩)

theorem keepsStore : runtime.KeepsStore Rehearsal.naming id where
  reads _ := Act.makes_pure _
  writes := Rehearsal.recorder_stores []

theorem gives_load :
    (runtime.load Draft.graphId).Gives Draft.store (some plan.toSnapshot) Draft.store := rfl

theorem gives_createRun :
    (runtime.recorder.createRun Draft.graphId (Value.object []).plain).Gives Draft.store "<run1>"
      created := rfl

/-- The only event of the run: it is over. -/
def closing : Event where
  kind := .graphEnd
  startedAt := Rehearsal.now
  endedAt := some Rehearsal.now
  state := .object (workflow.schema.arrange [])

theorem events_eq :
    Publisher.events runtime.clock 0 {} (notices course) = [some closing, none] := by
  have internal : call.isPublic = false := by decide +kernel
  change Publisher.events runtime.clock 1 { root := some rootId }
    (beginning 0 call.input call.invocation 0 :: _) = _
  -- the node has not been told about, so its end is not, either
  rw [Publisher.events,
    Publisher.step_beginning_of_internal (runtime.clock 1) 0 0 internal]
  rfl

/-- What is done about it. -/
def handling : Handling Store.Database :=
  Tracker.handling runtime.recorder "<run1>" { run := some "<run1>" } created
    (closing, Rehearsal.now)

theorem recorded :
    (recordCourse runtime { run := some "<run1>" } course).outcome created =
      (.ok (), handling.after) := by
  rw [recordCourse, events_eq]
  rfl

theorem handles :
    Handles runtime.recorder "<run1>" [] created (runtime.inputs course) [handling]
      handling.after := by
  have follows := (Tracker.remembers_start "<run1>").follows runtime.recorder created
    (closing, Rehearsal.now)
  have inputs : runtime.inputs course = [(closing, Rehearsal.now)] := by
    rw [Runtime.inputs, events_eq]
    rfl
  rw [inputs]
  exact .cons follows (.nil _ _)

theorem consistent : Draft.store.isConsistent = true := by decide

end Backstage

/-- The steps of the run account for its calls as far as those are told about. -/
theorem backstage_audits_calls :
    Backstage.runtime.KeepsStore Rehearsal.naming id ∧ Draft.store.isConsistent = true ∧
      (Backstage.runtime.load Draft.graphId).Gives Draft.store (some Backstage.plan.toSnapshot)
        Draft.store ∧
      (Backstage.runtime.recorder.createRun Draft.graphId (Value.object []).plain).Gives
        Draft.store "<run1>" Backstage.created ∧
      ∃ course world' hs after,
        (conduct Backstage.runtime Backstage.plan.toSnapshot []).run [] = (course, world') ∧
        (execute Backstage.runtime Draft.graphId []).outcome ([], Draft.store) =
          (course.outcome.mapError (outward "<run1>"), world', after) ∧
        Handles Backstage.runtime.recorder "<run1>" [] Backstage.created
          (Backstage.runtime.inputs course) hs after ∧
        ((∀ h ∈ hs, h.Succeeds Backstage.runtime.recorder) →
          Audits "<run1>" (Store.stepsOf after "<run1>") (course.calls.filter Call.isPublic) ∧
          (Audits "<run1>" (Store.stepsOf after "<run1>") course.calls ↔
            ∀ call ∈ course.calls, call.invocation.key.startsWith "__" = false)) :=
  ⟨Backstage.keepsStore, Backstage.consistent, Backstage.gives_load, Backstage.gives_createRun,
    execute_audits_calls Backstage.keepsStore Backstage.consistent Backstage.gives_load
      Backstage.gives_createRun []⟩

/-- All writes for the run succeed, and its node has been invoked, but its steps account for
nothing. -/
theorem backstage_leaves_no_steps :
    ∃ workflow, (Workflow.assemble {} Newsroom.services (some Backstage.plan.toSnapshot) none
        []).Gives [] workflow [] ∧
      ∃ course hs after,
        (conduct Backstage.runtime Backstage.plan.toSnapshot []).run [] = (course, []) ∧
        (execute Backstage.runtime Draft.graphId []).outcome ([], Draft.store) =
          (course.outcome.mapError (outward "<run1>"), [], after) ∧
        Handles Backstage.runtime.recorder "<run1>" [] Backstage.created
          (Backstage.runtime.inputs course) hs after ∧
        (∀ h ∈ hs, h.Succeeds Backstage.runtime.recorder) ∧
        course.calls.map (fun call => call.invocation.key) = ["__desk"] ∧
        Store.stepsOf after "<run1>" = [] ∧
        ¬ Audits "<run1>" (Store.stepsOf after "<run1>") course.calls := by
  have nothing : Store.stepsOf Backstage.handling.after "<run1>" = [] := by
    rw [Store.stepsOf, show Backstage.handling.after.steps = [] from rfl, List.filter_nil,
      List.mergeSort_nil]
  refine ⟨Backstage.workflow, Backstage.gives_assemble [], Backstage.course, [Backstage.handling],
    Backstage.handling.after, Backstage.conduct_eq [],
    outcome_execute_of_recorded Backstage.gives_load Backstage.gives_createRun
      (Backstage.conduct_eq []) Backstage.recorded, Backstage.handles, ?_, rfl, nothing, ?_⟩
  · refine List.forall_mem_singleton.mpr fun write due => ?_
    cases due
    exact ⟨_, rfl⟩
  · rw [nothing]
    exact fun audits => Nat.zero_ne_one audits.length_eq

end AgentWorkflow.Run
