import AgentWorkflow.Proofs.Run.Decision
import AgentWorkflow.Proofs.Workflow.Tasks
import AgentWorkflow.Proofs.Workflow.Wiring

/-!
# Runs follow the decisions of supervisors

No stored edge leaves a supervisor in an assembled workflow, so its routes alone say where it leads.
Where routes lead as decided, a supervisor that comes to a decision activates the one member that it
names, or none when it finishes, in every superstep of every run. A workflow that was assembled may
still carry a graph that takes the names of the routing protocol for something else, and then it
does not.

## Main definitions

* `Workflow.Follows`: a decision is followed, unless there is none

## Main results

* `Workflow.next_of_supervises`: where the edges of a supervisor lead
* `Workflow.assemble_routes_iff`: which graphs have their decisions followed
-/

namespace AgentWorkflow

open Node

variable {σ : Type} {settings : Settings} {services : Services σ} {snapshot : Option Snapshot}
  {transport : Option (Tool.Transport σ)} {stateKeys : List String} {blueprint : Blueprint}
  {parts : List (Workflow.Part σ)} {workflow : Workflow σ} {before after world : σ}
  {n : PlanNode} {config : SupervisorConfig} {respond : Chat.Responder σ} {input : State}

/-- A member of a supervisor is named by a text without blanks around it. -/
theorem Blueprint.Faithful.member_isKey (faithful : blueprint.Faithful settings)
    (node : n ∈ blueprint.plan.nodes) (supervises : n.Supervises settings config) {member : String}
    (listed : member ∈ config.members) : IsKey member := by
  have entry := faithful.mem_supervision_iff.mpr ⟨n, node, rfl, supervises⟩
  obtain ⟨m, node', rfl, -⟩ := faithful.exists_member entry listed
  exact faithful.wellFormed.key_isKey m node'

namespace Workflow

/-! ### The edges of a supervisor -/

/-- No edge leaves a supervisor. -/
theorem targets_of_supervises (faithful : blueprint.Faithful settings)
    (node : n ∈ blueprint.plan.nodes) (supervises : n.Supervises settings config) :
    (joined blueprint parts stateKeys).targets n.key = [] := by
  have none_leaves : ∀ edge ∈ (joined blueprint parts stateKeys).edges, edge.source ≠ n.key := by
    intro edge member same
    rcases mem_edgesOf_iff.mp (List.mem_eraseDups.mp member) with
      ⟨_, _, entry, listed, -⟩ | ⟨stored, -, plain, sourceEq, -⟩
    -- a member is no supervisor
    · rw [same] at listed
      obtain ⟨m, node', key_eq, type_ne⟩ := faithful.exists_member entry listed
      obtain rfl := List.inj_on_of_nodup_map faithful.wellFormed.keys_nodup node' node key_eq
      exact type_ne supervises.type_eq
    -- stored edges that leave a supervisor are dropped
    · have supervisor : blueprint.supervision.has stored.source = true :=
        faithful.has_supervision_iff.mpr ⟨n, node, by rw [← sourceEq, same], supervises.type_eq⟩
      rw [plain] at supervisor
      cases supervisor
  rw [targets, List.map_eq_nil_iff, List.filter_eq_nil_iff]
  intro edge member
  simpa using none_leaves edge member

theorem find?_routes_of_supervises (faithful : blueprint.Faithful settings)
    (node : n ∈ blueprint.plan.nodes) (supervises : n.Supervises settings config) :
    (joined blueprint parts stateKeys).routes.find? n.key = some config.members := by
  have entry := faithful.mem_supervision_iff.mpr ⟨n, node, rfl, supervises⟩
  have found := Record.find?_of_mem faithful.keys_nodup entry
  have routed := Record.find?_map SupervisorConfig.members blueprint.supervision n.key
  rw [found] at routed
  exact routed

/-- The edges of a supervisor lead where its routes do. -/
theorem next_of_supervises (faithful : blueprint.Faithful settings)
    (built : (build settings services transport stateKeys blueprint).Gives before workflow after)
    (node : n ∈ blueprint.plan.nodes) (supervises : n.Supervises settings config) (state : State) :
    workflow.next n.key state = routes? config.members state := by
  obtain ⟨parts, rfl⟩ := exists_eq_joined built
  rw [next, find?_routes_of_supervises faithful node supervises]
  dsimp only
  rw [targets_of_supervises faithful node supervises]
  cases routes? config.members state <;> rfl

/-! ### Decisions in a run -/

/-- A supervisor that comes to a decision writes it and leads to what it names; otherwise it fails,
because its deadline has passed or its step failed. -/
inductive Follows (services : Services σ) (n : PlanNode) (config : SupervisorConfig)
    (respond : Chat.Responder σ) (input : State) : Outcome → Prop
  | decided {before after : σ} {c : Consultation} {delta : Delta} {d : String}
      (consulted : (consult services.prepareImage n.node config respond input).Gives before c after)
      (concluded : conclude n.node config c = .ok delta)
      (decides : decision (SupervisorConfig.label n.key) c.reply = .ok d)
      (legal : d = finish ∨ d ∈ config.members) :
      Follows services n config respond input
        (.ok (delta, [if d = finish then .finish else .node d]))
  | undecided {failure : Failure} (failed : isPast config.timeoutSeconds = true ∨ ∃ cause world,
        ((supervisorStep services.prepareImage n.node config respond input).outcome world).1 =
          .error cause) :
      Follows services n config respond input (.error failure)

/-- If routes lead as decided, what comes of a supervisor follows its decision. -/
theorem follows_of_recordedAs (routed : RoutesAsDecided workflow.schema n.node config)
    (leads : ∀ state, workflow.next n.key state = routes? config.members state) {recorded : Outcome}
    (came : RecordedAs ((workflow.invoke input
      (supervisorTask services.prepareImage n config respond)).outcome world).1 recorded) :
    Follows services n config respond input recorded := by
  let task := supervisorTask services.prepareImage n config respond
  by_cases past : isPast task.seconds = true
  · rw [outcome_invoke_of_isPast workflow input task world past] at came
    rcases came with rfl | ⟨-, failure, rfl⟩
    · exact .undecided (Or.inl past)
    · exact .undecided (Or.inl past)
  · rw [outcome_invoke workflow input task world (by simpa using past)] at came
    rcases stepped : (task.node.step input).outcome world with ⟨cause | delta, later⟩
    · rw [stepped] at came
      have failed : ((supervisorStep services.prepareImage n.node config respond input).outcome
          world).1 = .error cause := congrArg Prod.fst stepped
      rcases came with rfl | ⟨-, failure, rfl⟩
      · exact .undecided (Or.inr ⟨cause, world, failed⟩)
      · exact .undecided (Or.inr ⟨cause, world, failed⟩)
    · obtain ⟨c, consulted, concluded⟩ := gives_supervisorStep_iff.mp stepped
      obtain ⟨d, decides, legal, ends, goes_on⟩ := routed consulted concluded
      have led : workflow.next task.key (workflow.schema.apply input delta) =
          .ok [if d = finish then .finish else .node d] := by
        refine (leads _).trans ?_
        split_ifs with finished
        · exact ends finished
        · exact goes_on (legal.resolve_left finished)
      rw [stepped] at came
      dsimp only at came
      rw [led] at came
      rcases came with rfl | ⟨impossible, -⟩
      · exact .decided consulted concluded decides legal
      · cases impossible

/-- A workflow that could be assembled follows the decisions of a supervisor, whatever its model
replies, exactly when the stored schema does not declare that decisions are appended, the answer is
not written in their place, and no member is called as the decision to finish is. Then every member
can be named, and in every run the supervisor leads to what it names and nowhere else. -/
theorem assemble_routes_iff
    (assembled : (assemble settings services snapshot transport stateKeys).Gives before workflow
      after) :
    ∃ plan, validate snapshot = .ok plan ∧
      ∀ n ∈ plan.nodes, ∀ config, n.Supervises settings config →
        (RoutesAsDecided workflow.schema n.node config ↔
          ¬ plan.Declares decisionKey .append ∧ n.node.outputKey ≠ some decisionKey ∧
            finish ∉ config.members) ∧
        (RoutesAsDecided workflow.schema n.node config →
          (∀ member ∈ config.members,
            decision (SupervisorConfig.label n.key) (.naming member) = .ok member) ∧
          ∃ respond,
            workflow.task? n.key = some (supervisorTask services.prepareImage n config respond) ∧
            ∀ limit initial before course after,
              ((workflow.run limit initial).run before).run = (course, after) →
                ∀ superstep ∈ course.supersteps, ∀ invocation ∈ superstep.invocations,
                  invocation.key = n.key →
                    Follows services n config respond superstep.input invocation.outcome) := by
  obtain ⟨blueprint, drawn, built⟩ := gives_assemble_iff.mp assembled
  have faithful := Blueprint.faithful_of_ofSnapshot drawn
  refine ⟨blueprint.plan, (Blueprint.ofSnapshot_eq_ok_iff.mp drawn).1, ?_⟩
  intro n node config supervises
  have entry := faithful.mem_supervision_iff.mpr ⟨n, node, rfl, supervises⟩
  have member_isKey : ∀ member ∈ config.members, IsKey member := fun _ =>
    faithful.member_isKey node supervises
  obtain ⟨respond, task⟩ := exists_task?_of_supervises faithful built node supervises
  obtain ⟨r, merged, append_iff⟩ :=
    exists_find?_schema_of_supervision drawn built entry List.mem_cons_self
  have nonblank : "" ∉ config.members := fun listed => (member_isKey "" listed).1 rfl
  constructor
  · rw [routesAsDecided_iff merged nonblank, merged, ← append_iff, ne_eq, Option.some.injEq]
  · intro routed
    refine ⟨fun member listed => ?_, respond, task, ?_⟩
    · have isKey := member_isKey member listed
      exact decision_naming _ isKey.1 isKey.2
    intro limit initial before course after ran superstep taken invocation member same
    rcases run_eq_iff.mp ran with ⟨-, rfl, -⟩ | ⟨-, runs⟩
    · cases taken
    -- the recorded outcome is what the supervisor's task gave in some world
    · have records := runs.records superstep taken
      obtain ⟨found, world, has, came⟩ := records.exists_task invocation member
      rw [same, task] at has
      cases has
      exact follows_of_recordedAs routed (next_of_supervises faithful built node supervises) came

/-- The newsroom is assembled with a schema that keeps the stored decisions plain. -/
theorem newsroom_routes_iff :
    ∃ workflow, (assemble {} Newsroom.services (some (Newsroom.plan .absent).toSnapshot) none
        []).Gives [] workflow [] ∧
      ∃ plan, validate (some (Newsroom.plan .absent).toSnapshot) = .ok plan ∧
        ∀ n ∈ plan.nodes, ∀ config, n.Supervises {} config →
          (RoutesAsDecided workflow.schema n.node config ↔
            ¬ plan.Declares decisionKey .append ∧ n.node.outputKey ≠ some decisionKey ∧
              finish ∉ config.members) ∧
          (RoutesAsDecided workflow.schema n.node config →
            (∀ member ∈ config.members,
              decision (SupervisorConfig.label n.key) (.naming member) = .ok member) ∧
            ∃ respond,
              workflow.task? n.key =
                some (supervisorTask Newsroom.services.prepareImage n config respond) ∧
              ∀ limit initial before course after,
                ((workflow.run limit initial).run before).run = (course, after) →
                  ∀ superstep ∈ course.supersteps, ∀ invocation ∈ superstep.invocations,
                    invocation.key = n.key →
                      Follows Newsroom.services n config respond superstep.input
                        invocation.outcome) := by
  obtain ⟨workflow, assembled⟩ := Newsroom.exists_gives_assemble []
  exact ⟨workflow, assembled, assemble_routes_iff assembled⟩

end Workflow

namespace Newsroom

/-- A state in which the first supervisor has decided once. -/
def midway : State := [(decisionKey, .str "writer"), (iterationKey, .int 1)]

/-- However its keys are merged, a run that begins midway reads them as they are. -/
theorem find?_midway {schema : Schema} {key : String} {r : Reducer}
    (declared : Record.find? schema key = some r) :
    (schema.arrange (schema.apply [] midway)).find? key = midway.find? key := by
  have distinct : (Record.keys midway).Nodup := by decide
  rw [Schema.find?_arrange, declared, Option.bind_some,
    Schema.find?_apply_of_missing declared distinct rfl]

end Newsroom

namespace Workflow

/-- With a schema by which decisions are appended, the newsroom cannot finish once it has decided
otherwise: in a run that begins midway the model of the first supervisor asks to finish, and the
edges that leave the supervisor look for a node that the word to finish names. -/
theorem newsroom_appending_misroutes :
    ∃ workflow, (assemble {} Newsroom.services
        (some (Newsroom.plan Newsroom.appending).toSnapshot) none []).Gives [] workflow [] ∧
      ∃ course after, ((workflow.run 1 Newsroom.midway).run [.naming finish]).run =
          (course, after) ∧
        ∃ superstep ∈ course.supersteps, (∃ invocation ∈ superstep.invocations,
            invocation.key = "lead") ∧
          ∃ (c : Consultation) (delta : Delta),
            (consult Newsroom.services.prepareImage (Newsroom.supervisor "lead" "writer").node
              (Newsroom.config "writer") Newsroom.reply superstep.input).Gives [.naming finish] c
                [] ∧
            conclude (Newsroom.supervisor "lead" "writer").node (Newsroom.config "writer") c =
              .ok delta ∧
            decision (SupervisorConfig.label "lead") c.reply = .ok finish ∧
            workflow.next "lead" (workflow.schema.apply superstep.input delta) =
              .error .missingKey := by
  obtain ⟨workflow, assembled⟩ := Newsroom.exists_gives_assemble_appending []
  obtain ⟨blueprint, drawn, built⟩ := gives_assemble_iff.mp assembled
  have faithful := Blueprint.faithful_of_ofSnapshot drawn
  obtain rfl : blueprint = Newsroom.blueprint Newsroom.appending [(decisionKey, .append)] :=
    Except.ok.inj (drawn.symm.trans (Newsroom.ofSnapshot_plan rfl))
  have declares : (Newsroom.plan Newsroom.appending).Declares decisionKey .append :=
    ⟨[(decisionKey, .append)], rfl, rfl⟩
  have node : Newsroom.supervisor "lead" "writer" ∈ (Newsroom.plan Newsroom.appending).nodes :=
    List.mem_cons_self
  obtain ⟨r, merged, append_iff⟩ :=
    exists_find?_schema_of_supervision drawn built List.mem_cons_self List.mem_cons_self
  rw [append_iff.mpr declares] at merged
  obtain ⟨r', counted, -⟩ := exists_find?_schema_of_supervision drawn built List.mem_cons_self
    (List.mem_cons_of_mem _ List.mem_cons_self)
  obtain ⟨respond, task⟩ := exists_task?_of_supervises faithful built node
    Newsroom.lead_supervises
  -- the first superstep is taken midway
  rcases ran : ((workflow.run 1 Newsroom.midway).run [.naming finish]).run with ⟨course, after⟩
  have entry : workflow.entry = "lead" := by
    obtain ⟨parts, rfl⟩ := exists_eq_joined built
    rfl
  have runs := ((run_eq_iff.mp ran).resolve_left (by simp)).2
  rw [entry] at runs
  obtain ⟨superstep, among, _, takes⟩ := runs.exists_first (List.cons_ne_nil _ _)
  have holds : ∀ {key r}, Record.find? workflow.schema key = some r →
      superstep.input.find? key = Newsroom.midway.find? key := by
    intro key r declared
    rw [takes.input_eq, Newsroom.find?_midway declared]
  have silent : superstep.input.find? messagesKey = none := by
    have free : messagesKey ∉ Record.keys Newsroom.midway := by decide
    rw [takes.input_eq, Schema.find?_arrange, Schema.find?_apply_of_not_mem free]
    cases Record.find? workflow.schema messagesKey <;> rfl
  refine ⟨workflow, assembled, course, after, ran, superstep, among,
    takes.exists_invocation task List.mem_cons_self,
    ⟨2, [], none, .naming finish⟩, decisionDelta 2 finish none, ?_, rfl, rfl, ?_⟩
  · refine gives_consult_iff.mpr ⟨1, ?_, by decide, rfl, ?_, _, rfl, rfl⟩
    · rw [readIteration, holds counted]
      rfl
    · rw [history, silent]
      rfl
  · refine (next_of_supervises faithful built node Newsroom.lead_supervises _).trans ?_
    have other : decisionKey ∉ [iterationKey, messagesKey] := by decide
    rw [routes?, direction, decisionDelta, Schema.apply_cons, Schema.find?_apply_of_not_mem other,
      Schema.find?_write_self, merged, holds merged]
    rfl

end Workflow

end AgentWorkflow
