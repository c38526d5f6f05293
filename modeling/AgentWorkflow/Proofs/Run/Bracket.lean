import AgentWorkflow.Proofs.Run.Audit
import AgentWorkflow.Proofs.Run.Faults
import AgentWorkflow.Proofs.Workflow.Columns
import AgentWorkflow.Proofs.Workflow.Keeping

/-!
# When the tool server is open

What is done to a tool server is written into a log: that the connection to it is opened, that a
tool is called, and that the connection is closed. The collaborators of a run do nothing of this by
themselves, they call the tools that they are given. Then every execution opens the connection at
most once, calls tools only while it is open, and closes it once if it has been opened, whatever
comes of the run. It stays open only as long as an answer is awaited.

The connection is opened for every snapshot that passes the check, once the run has its row. That
the snapshot can be assembled is not asked for: a snapshot whose nodes cannot be built has the
connection opened, and closed again.

## Main definitions

* `Mark`, `Runtime.LoggedBy`: the log of what is done to the tool server
* `Bracketed`: what an execution may do to it
* `Runtime.Opens`: when an execution opens it

## Main results

* `run_keeps`: a run keeps what its collaborators and its tools keep
* `execute_brackets_tools`: what an execution does to the tool server
-/

namespace AgentWorkflow

variable {σ τ : Type} {I : σ → Prop}

namespace Workflow

variable {workflow : Workflow σ} {world : σ}

/-! ### Runs -/

theorem invoke_keepsWorld {task : Task σ} (kept : Node.Step.Keeps task.node.step I)
    (input : State) : (workflow.invoke input task).KeepsWorld I := by
  rw [invoke]
  refine .ite (fun _ => ?_) fun _ => ?_
  · rw [Act.throw_bind]
    exact .throw _
  · refine (kept input).bind fun delta _ => ?_
    exact (Act.Keeps.ofFault _).bind fun targets _ => .pure trivial

/-- A superstep keeps what the steps of its nodes keep. -/
theorem Takes.keeps {active : List String} {state : State} {before after : σ}
    {superstep : Superstep} (takes : workflow.Takes active state before superstep after)
    (kept : workflow.Keeps I) (held : I before) : I after := by
  obtain ⟨outcomes, invokes, rfl⟩ := takes_iff.mp takes
  have members : ∀ task ∈ (Text.sortedSet active).filterMap workflow.task?,
      Node.Step.Keeps task.node.step I := by
    intro task member
    obtain ⟨key, -, found⟩ := List.mem_filterMap.mp member
    exact kept task (mem_of_task? found)
  -- which tasks these are makes no difference any more
  clear takes
  generalize (Text.sortedSet active).filterMap workflow.task? = tasks at invokes members
  induction invokes with
  | nil => exact held
  | cons invoked _ ih =>
    obtain ⟨first, rest⟩ := List.forall_mem_cons.mp members
    have invocation : (workflow.invoke (workflow.schema.arrange state) _).KeepsWorld I :=
      invoke_keepsWorld first _
    have middle := invocation.world held
    rw [invoked] at middle
    exact ih middle rest

theorem Runs.keeps {limit : Nat} {active : List String} {state : State} {before after : σ}
    {course : Course} (runs : workflow.Runs limit active state before course after)
    (kept : workflow.Keeps I) (held : I before) : I after := by
  induction runs with
  | exhausted => exact held
  | finished => exact held
  | failed _ takes _ => exact takes.keeps kept held
  | continued _ takes _ _ ih => exact ih (takes.keeps kept held)

/-- A run keeps what the steps of its workflow keep. -/
theorem run_keeps {limit : Int} {initial : State} {before after : σ} {course : Course}
    (ran : ((workflow.run limit initial).run before).run = (course, after))
    (kept : workflow.Keeps I) (held : I before) : I after := by
  rcases run_eq_iff.mp ran with ⟨-, -, rfl⟩ | ⟨-, runs⟩
  · exact held
  · exact runs.keeps kept held

end Workflow

namespace Run

variable {runtime : Runtime σ τ} {snapshot : Snapshot} {initial : State} {world world' : σ}
  {course : Course} {transport : Option (Tool.Transport σ)}

/-- Assembling a workflow and running it keeps what the collaborators and the tools keep. -/
theorem perform_keeps
    (performs : (perform runtime snapshot transport initial).run world = (course, world'))
    (services_kept : runtime.services.Keeps I) (server_kept : ∀ server ∈ transport, server.Keeps I)
    (held : I world) : I world' := by
  have assembly : (Workflow.assemble runtime.settings runtime.services (some snapshot) transport
      (Record.keys initial)).Keeps I fun workflow => workflow.Keeps I :=
    Workflow.assemble_keeps services_kept server_kept _
  have kept := assembly.world held
  rw [run_perform] at performs
  rcases assembled : (Workflow.assemble runtime.settings runtime.services (some snapshot) transport
    (Record.keys initial)).outcome world with ⟨failure | workflow, after⟩
  · rw [assembled] at performs kept
    cases performs
    exact kept
  · rw [assembled] at performs kept
    exact Workflow.run_keeps performs (assembly.result held assembled) kept

/-! ### The log of a tool server -/

/-- What is done to a tool server. -/
inductive Mark
  | opened
  | called
  | closed
  deriving DecidableEq, Repr

/-- A log tells what is done to the tool server. To open the connection and to close it adds a mark,
and so does each call of a tool of a connection that was opened. A connection that cannot be opened
adds none. What the collaborators do is told of only as far as they call the tools that they are
given. -/
structure Runtime.LoggedBy (runtime : Runtime σ τ) (log : σ → List Mark) : Prop where
  services : ∀ P : List Mark → Prop, runtime.services.Keeps fun world => P (log world)
  opens : ∀ server ∈ runtime.server, ∀ {before transport after},
    server.connect.Gives before transport after → log after = log before ++ [.opened]
  calls : ∀ server ∈ runtime.server, ∀ {before transport after},
    server.connect.Gives before transport after → ∀ tool arguments world,
      log ((transport.call tool arguments).outcome world).2 = log world ++ [.called]
  refuses : ∀ server ∈ runtime.server, ∀ {before failure after},
    server.connect.outcome before = (.error failure, after) → log after = log before
  closes : ∀ server ∈ runtime.server, ∀ before,
    log (server.disconnect.outcome before).2 = log before ++ [.closed]

/-- A log is continued by calls of tools. -/
def ContinuesWithCalls (earlier later : List Mark) : Prop :=
  ∃ calls, later = earlier ++ List.replicate calls .called

/-- What an execution may do to a tool server: nothing at all, or it opens the connection, calls
tools, and closes it. It does not close it while an answer is awaited. -/
inductive Bracketed (outcome : Except Failure State) : List Mark → Prop
  | unopened : Bracketed outcome []
  | closed (calls : Nat) :
      Bracketed outcome (.opened :: (List.replicate calls .called ++ [.closed]))
  | waiting (calls : Nat) (awaits : Workflow.isWaiting outcome = true) :
      Bracketed outcome (.opened :: List.replicate calls .called)

variable {log : σ → List Mark} {server : Server σ}

/-- Without a connection nothing is done to the tool server. -/
theorem log_perform_none (logged : runtime.LoggedBy log)
    (performs : (perform runtime snapshot none initial).run world = (course, world')) :
    log world' = log world := by
  have services_kept := logged.services (· = log world)
  refine perform_keeps (I := fun other => log other = log world) performs services_kept ?_ rfl
  intro server none
  cases none

/-- With a connection its tools are called, and nothing else is done. -/
theorem log_perform_some (logged : runtime.LoggedBy log) (configured : runtime.server = some server)
    {before after : σ} {connection : Tool.Transport σ}
    (connects : server.connect.Gives before connection after)
    (performs : (perform runtime snapshot (some connection) initial).run world = (course, world')) :
    ContinuesWithCalls (log world) (log world') := by
  have services_kept := logged.services (ContinuesWithCalls (log world))
  have begun : ContinuesWithCalls (log world) (log world) := ⟨0, (List.append_nil _).symm⟩
  refine perform_keeps (I := fun other => ContinuesWithCalls (log world) (log other)) performs
    services_kept ?_ begun
  intro server' same
  cases same
  intro tool arguments
  refine ⟨?_, fun _ _ => trivial⟩
  rintro other ⟨calls, told⟩
  refine ⟨calls + 1, ?_⟩
  rw [logged.calls server configured connects, told, List.append_assoc, List.replicate_succ']

/-- A run with a tool server opens the connection and closes it again, with calls in between. -/
theorem bracketed_performWith (logged : runtime.LoggedBy log)
    (configured : runtime.server = some server)
    (performs : (performWith runtime snapshot server initial).run world = (course, world')) :
    ∃ marks, log world' = log world ++ marks ∧ Bracketed course.outcome marks ∧
      (marks ≠ [] ↔ ∃ connection connected, server.connect.Gives world connection connected) := by
  rw [run_performWith] at performs
  rcases connects : server.connect.outcome world with ⟨failure | connection, connected⟩
  · rw [connects] at performs
    cases performs
    refine ⟨[], ?_, .unopened, ?_⟩
    · rw [logged.refuses server configured connects, List.append_nil]
    · simp [Act.Gives, connects]
  · rcases performed : (perform runtime snapshot (some connection) initial).run connected with
      ⟨course', middle⟩
    obtain ⟨calls, called⟩ := log_perform_some logged configured connects performed
    rw [logged.opens server configured connects, List.append_assoc] at called
    have opened : ∃ connection connected, server.connect.Gives world connection connected :=
      ⟨connection, connected, connects⟩
    simp only [connects, performed] at performs
    split at performs
    · rename_i waiting
      cases performs
      exact ⟨_, called, .waiting calls waiting, iff_of_true (List.cons_ne_nil _ _) opened⟩
    · -- the connection is closed, and closing it may fail
      have closed := logged.closes server configured middle
      rw [called, List.append_assoc] at closed
      rcases disconnects : server.disconnect.outcome middle with ⟨failure | _, after⟩
      all_goals
        rw [disconnects] at performs closed
        cases performs
        exact ⟨_, closed, .closed calls, iff_of_true (List.cons_ne_nil _ _) opened⟩

/-- An execution opens the connection to its tool server: the run has its row, the snapshot passes
the check, and a server is configured and lets itself be connected to. -/
def Runtime.Opens (runtime : Runtime σ τ) (graphId : String) (initial : State) (world : σ)
    (store : τ) : Prop :=
  ∃ snapshot loaded run created plan server connection connected,
    (runtime.load graphId).Gives store (some snapshot) loaded ∧
    (runtime.recorder.createRun graphId (Value.object initial).plain).Gives loaded run created ∧
    validate (some snapshot) = .ok plan ∧ runtime.server = some server ∧
    server.connect.Gives world connection connected

/-- What is done to the tool server for a snapshot, once its run has a row. -/
theorem bracketed_conduct (logged : runtime.LoggedBy log)
    (conducts : (conduct runtime snapshot initial).run world = (course, world')) :
    ∃ marks, log world' = log world ++ marks ∧ Bracketed course.outcome marks ∧
      (marks ≠ [] ↔ ∃ plan server connection connected, validate (some snapshot) = .ok plan ∧
        runtime.server = some server ∧ server.connect.Gives world connection connected) := by
  rw [conduct] at conducts
  cases valid : validate (some snapshot) with
  | error issue =>
    rw [valid] at conducts
    cases conducts
    exact ⟨[], (List.append_nil _).symm, .unopened, by simp⟩
  | ok plan =>
    rw [valid] at conducts
    cases configured : runtime.server with
    | none =>
      simp only [configured] at conducts
      refine ⟨[], ?_, .unopened, by simp⟩
      rw [log_perform_none logged conducts, List.append_nil]
    | some server =>
      simp only [configured] at conducts
      obtain ⟨marks, told, bracketed, opened⟩ := bracketed_performWith logged configured conducts
      refine ⟨marks, told, bracketed, opened.trans ?_⟩
      constructor
      · rintro ⟨connection, connected, connects⟩
        exact ⟨plan, server, connection, connected, rfl, rfl, connects⟩
      · rintro ⟨_, _, connection, connected, -, same, connects⟩
        cases same
        exact ⟨connection, connected, connects⟩

/-- An execution whose run has its row does what is done for the snapshot. -/
theorem opens_iff {graphId : String} {store loaded created : τ} {run : String}
    (loads : (runtime.load graphId).Gives store (some snapshot) loaded)
    (creates : (runtime.recorder.createRun graphId (Value.object initial).plain).Gives loaded run
      created) :
    runtime.Opens graphId initial world store ↔
      ∃ plan server connection connected, validate (some snapshot) = .ok plan ∧
        runtime.server = some server ∧ server.connect.Gives world connection connected := by
  constructor
  · rintro ⟨snapshot', _, _, _, plan, server, connection, connected, again, -, opens⟩
    have same : snapshot = snapshot' := by
      cases loads.symm.trans again
      rfl
    exact ⟨plan, server, connection, connected, same ▸ opens⟩
  · rintro ⟨plan, server, connection, connected, opens⟩
    exact ⟨snapshot, loaded, run, created, plan, server, connection, connected, loads, creates,
      opens⟩

theorem bracketed_mapError {outcome : Except Failure State} {marks : List Mark} (run : String)
    (bracketed : Bracketed outcome marks) :
    Bracketed (outcome.mapError (outward run)) marks := by
  cases bracketed with
  | unopened => exact .unopened
  | closed calls => exact .closed calls
  | waiting calls awaits => exact .waiting calls ((isWaiting_mapError_outward outcome).trans awaits)

/-- Every execution opens the connection to its tool server at most once, calls tools only while it
is open, and closes it exactly once if it was opened, unless an answer is awaited. It is opened
exactly when the run has its row and the snapshot passes the check, as far as that can be done:
whether the snapshot can be assembled is not asked. -/
theorem execute_brackets_tools {graphId : String} {store store' : τ}
    {outcome : Except Failure State} (logged : runtime.LoggedBy log)
    (ended : (execute runtime graphId initial).outcome (world, store) =
      (outcome, world', store')) :
    ∃ marks, log world' = log world ++ marks ∧ Bracketed outcome marks ∧
      (marks ≠ [] ↔ runtime.Opens graphId initial world store) := by
  -- an execution that does not get as far as a row leaves the tool server alone
  have untouched (same : world' = world) (refused : ¬ runtime.Opens graphId initial world store) :
      ∃ marks, log world' = log world ++ marks ∧ Bracketed outcome marks ∧
        (marks ≠ [] ↔ runtime.Opens graphId initial world store) :=
    ⟨[], by rw [same, List.append_nil], .unopened, by simp [refused]⟩
  rcases loads : (runtime.load graphId).outcome store with ⟨failure | found, loaded⟩
  · rw [fails_execute_of_load loads] at ended
    cases ended
    refine untouched rfl ?_
    rintro ⟨_, _, _, _, _, _, _, _, again, -⟩
    cases loads.symm.trans again
  cases found with
  | none =>
    rw [outcome_execute_of_missing loads] at ended
    cases ended
    refine untouched rfl ?_
    rintro ⟨_, _, _, _, _, _, _, _, again, -⟩
    cases loads.symm.trans again
  | some snapshot =>
    rcases creates : (runtime.recorder.createRun graphId (Value.object initial).plain).outcome
      loaded with ⟨failure | run, created⟩
    · rw [outcome_execute_of_refused loads creates] at ended
      cases ended
      refine untouched rfl ?_
      rintro ⟨_, _, _, _, _, _, _, _, again, begins, -⟩
      cases loads.symm.trans again
      cases creates.symm.trans begins
    · rcases conducts : (conduct runtime snapshot initial).run world with ⟨course, world''⟩
      obtain ⟨steps, time, -, executed⟩ := exists_outcome_execute_of_created loads creates conducts
      rw [executed] at ended
      cases ended
      obtain ⟨marks, told, bracketed, opened⟩ := bracketed_conduct logged conducts
      exact ⟨marks, told, bracketed_mapError run bracketed,
        opened.trans (opens_iff loads creates).symm⟩

end Run

/-! ### A workshop

A tool server that writes down what is done to it, and collaborators that do nothing by
themselves. -/

namespace Workshop

/-- Adds a mark to the log. -/
def add (mark : Run.Mark) : Act (List Run.Mark) Unit := modify (· ++ [mark])

def transport : Tool.Transport (List Run.Mark) where
  call _ _ := do
    add .called
    return none

def server : Run.Server (List Run.Mark) where
  connect := do
    add .opened
    return transport
  disconnect := add .closed

def services : Services (List Run.Mark) where
  makeClient _ _ := pure .other
  buildAgent := Agent.bounded
  prepareImage _ := throw .unanswered

def runtime (snapshot : Snapshot) : Run.Runtime (List Run.Mark) Store.Database where
  settings := {}
  services := services
  server := some server
  load _ := pure (some snapshot)
  recorder := Rehearsal.recorder []
  clock _ := Rehearsal.now

/-- The store with the row of the run. -/
def created : Store.Database := { Draft.store with runs := [Draft.row] }

variable (snapshot : Snapshot)

theorem gives_load :
    ((runtime snapshot).load Draft.graphId).Gives Draft.store (some snapshot) Draft.store := rfl

theorem gives_createRun :
    ((runtime snapshot).recorder.createRun Draft.graphId (Value.object []).plain).Gives Draft.store
      "<run1>" created := rfl

theorem gives_connect (marks : List Run.Mark) :
    server.connect.Gives marks transport (marks ++ [.opened]) := rfl

theorem logged : (runtime snapshot).LoggedBy id where
  services P := {
    makeClient := fun _ _ => .pure fun _ other => nomatch other
    prepareImage := fun _ => .throw .unanswered
    buildAgent := Agent.bounded_keeps }
  opens := by
    intro server configured before transport after connects
    cases configured
    cases connects
    rfl
  calls := by
    intro server configured before transport after connects tool arguments marks
    cases configured
    cases connects
    rfl
  refuses := by
    intro server configured before failure after refused
    cases configured
    cases refused
  closes := by
    intro server configured before
    cases configured
    rfl

/-- A graph whose only node is of a type that there is not. -/
def robot : PlanNode where
  node := { key := "r", type := "robot" }

def plan : GraphPlan where
  graph := { entry := "r" }
  nodes := [robot]
  edges := [⟨"r", endKey⟩]

theorem validate_plan : validate (some plan.toSnapshot) = .ok plan :=
  validate_single rfl (by decide : IsKey "r") (by decide) (by decide)

/-- What is wrong with the graph. -/
def issue : Failure := .error (.build (.unknownNodeType "r" (some "robot")))

variable {σ : Type} {settings : Settings} {services : Services σ}
  {transport : Option (Tool.Transport σ)} {stateKeys : List String} {before after : σ}

theorem fails_assemble (marks : List Run.Mark) :
    (Workflow.assemble {} Workshop.services (some plan.toSnapshot) (some Workshop.transport)
      []).Fails marks issue marks :=
  Workflow.fails_assemble_iff.mpr (Or.inr ⟨⟨plan, [], []⟩,
    Blueprint.ofSnapshot_eq_ok_iff.mpr ⟨validate_plan, rfl, [], rfl, rfl⟩, rfl⟩)

/-- No collaborator makes up for the type of the node. -/
theorem not_gives_assemble {workflow : Workflow σ} :
    ¬ (Workflow.assemble settings services (some plan.toSnapshot) transport stateKeys).Gives before
      workflow after := by
  intro gives
  obtain ⟨blueprint, drawn, built⟩ := Workflow.gives_assemble_iff.mp gives
  obtain ⟨valid, -⟩ := Blueprint.ofSnapshot_eq_ok_iff.mp drawn
  have same : plan = blueprint.plan := Except.ok.inj (validate_plan.symm.trans valid)
  have among : robot ∈ blueprint.plan.nodes := same ▸ List.mem_cons_self
  obtain ⟨_, _, _, _, _, parts, -⟩ := Workflow.gives_build_iff.mp built
  obtain ⟨_, _, _, part, -⟩ := Workflow.exists_gives_of_mem_nodes parts among
  obtain ⟨kind, _, classified, -⟩ := Act.gives_bind_iff.mp part
  cases (Node.gives_ofBuild_iff.mp classified).1

theorem conduct_eq :
    (Run.conduct (runtime plan.toSnapshot) plan.toSnapshot []).run [] =
      (⟨[], .error issue⟩, [.opened, .closed]) := by
  have assembly : (Workflow.assemble (runtime plan.toSnapshot).settings
      (runtime plan.toSnapshot).services (some plan.toSnapshot) (some Workshop.transport)
      (Record.keys ([] : State))).outcome [.opened] = (.error issue, [.opened]) :=
    fails_assemble [.opened]
  rw [Run.conduct, validate_plan]
  change (Run.performWith (runtime plan.toSnapshot) plan.toSnapshot server []).run [] = _
  rw [Run.run_performWith, gives_connect []]
  simp only [Run.run_perform, List.nil_append, assembly]
  rfl

end Workshop

namespace Run

/-- The connection is opened for the snapshot of a lookup. -/
theorem workshop_brackets_tools :
    (Workshop.runtime (Lookup.snapshot .absent .absent)).LoggedBy id ∧
      (Workshop.runtime (Lookup.snapshot .absent .absent)).Opens Draft.graphId [] []
        Draft.store ∧
      ∃ outcome marks store', (execute (Workshop.runtime (Lookup.snapshot .absent .absent))
          Draft.graphId []).outcome ([], Draft.store) = (outcome, marks, store') ∧
        Bracketed outcome marks ∧ marks ≠ [] := by
  have opens : (Workshop.runtime (Lookup.snapshot .absent .absent)).Opens Draft.graphId [] []
      Draft.store :=
    (opens_iff (Workshop.gives_load _) (Workshop.gives_createRun _)).mpr
      ⟨_, _, _, _, Lookup.validate_plan _ _, rfl, Workshop.gives_connect []⟩
  rcases ended : (execute (Workshop.runtime (Lookup.snapshot .absent .absent)) Draft.graphId
    []).outcome ([], Draft.store) with ⟨outcome, world', store'⟩
  obtain ⟨marks, told, bracketed, opened⟩ := execute_brackets_tools (Workshop.logged _) ended
  have written : world' = marks := told
  exact ⟨Workshop.logged _, opens, outcome, world', store', rfl, written ▸ bracketed,
    written ▸ opened.mpr opens⟩

/-- The connection is opened, and closed again, for a snapshot that no collaborators can build. -/
theorem workshop_opens_without_assembly :
    (∀ {σ : Type} {settings : Settings} {services : Services σ}
      {transport : Option (Tool.Transport σ)} {stateKeys : List String} {before after : σ}
      {workflow : Workflow σ}, ¬ (Workflow.assemble settings services
        (some Workshop.plan.toSnapshot) transport stateKeys).Gives before workflow after) ∧
      ∃ store', (execute (Workshop.runtime Workshop.plan.toSnapshot) Draft.graphId []).outcome
        ([], Draft.store) = (.error Workshop.issue, [.opened, .closed], store') := by
  obtain ⟨steps, time, -, executed⟩ := exists_outcome_execute_of_created
    (Workshop.gives_load _) (Workshop.gives_createRun _) Workshop.conduct_eq
  exact ⟨Workshop.not_gives_assemble, _, executed⟩

end Run

end AgentWorkflow
