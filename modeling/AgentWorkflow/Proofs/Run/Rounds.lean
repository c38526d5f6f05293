import AgentWorkflow.Proofs.Run.Iteration
import AgentWorkflow.Proofs.Run.Routing
import AgentWorkflow.Proofs.State.Merging

/-!
# Supervisors go by rounds

All supervisors of a workflow read one count, and it goes up by one in every superstep in which any
of them decides. So a supervisor does not go by its own decisions but by the rounds of all: it
refuses when these have used up its limit, and it opens with the turn of the human only while nobody
has decided. It goes by its own decisions as long as it has taken part in every round.

## Main definitions

* `GraphPlan.supervisors`: the keys of the supervisors
* `Course.rounds`: in how many supersteps a node of some kind ended well
* `Node.GoesBy`: what a supervisor does after so many decisions
* `Newsroom.workflow`: a workflow with two supervisors

## Main results

* `Workflow.KeepsCount.readIteration_of_rounds`: the count is the number of rounds
* `Workflow.assemble_goes_by_rounds`: what a supervisor of an assembled workflow goes by
* `Workflow.newsroom_desk_never_opens`: a supervisor whose first decision is not the first of all
-/

namespace AgentWorkflow

open Node

section

variable {σ : Type} {settings : Settings} {services : Services σ} {snapshot : Option Snapshot}
  {transport : Option (Tool.Transport σ)} {stateKeys : List String} {plan : GraphPlan}
  {workflow : Workflow σ} {state : State} {made : Int} {active keys : List String}
  {superstep : Superstep} {limit place : Nat} {course : Course} {before after : σ} {n : PlanNode}
  {config : SupervisorConfig} {respond : Chat.Responder σ}

/-- The keys of the supervisors of a graph. -/
def GraphPlan.supervisors (plan : GraphPlan) : List String :=
  (plan.nodes.filter fun n => normalizeType n.node.type == "supervisor").map PlanNode.key

theorem GraphPlan.mem_supervisors {key : String} :
    key ∈ plan.supervisors ↔
      ∃ n ∈ plan.nodes, n.key = key ∧ normalizeType n.node.type = "supervisor" := by
  simp only [supervisors, List.mem_map, List.mem_filter, beq_iff_eq]
  constructor
  · rintro ⟨n, ⟨node, type_eq⟩, same⟩
    exact ⟨n, node, same, type_eq⟩
  · rintro ⟨n, node, same, type_eq⟩
    exact ⟨n, ⟨node, type_eq⟩, same⟩

/-- One of some nodes takes part in a superstep and ends well. -/
def Superstep.endsWell (keys : List String) (superstep : Superstep) : Bool :=
  superstep.invocations.any fun invocation =>
    keys.contains invocation.key && invocation.outcome.toOption.isSome

theorem Superstep.endsWell_iff :
    superstep.endsWell keys = true ↔ ∃ invocation ∈ superstep.invocations,
      invocation.key ∈ keys ∧ ∃ written, invocation.outcome = .ok written := by
  have ended {outcome : Outcome} :
      outcome.toOption.isSome = true ↔ ∃ written, outcome = .ok written := by
    cases outcome <;> simp [Except.toOption]
  simp only [endsWell, List.any_eq_true, Bool.and_eq_true, List.contains_iff_mem, ended]

theorem Superstep.endsWell_mono {more : List String} (sub : keys ⊆ more)
    (ends : superstep.endsWell keys = true) : superstep.endsWell more = true := by
  obtain ⟨invocation, member, among, ended⟩ := endsWell_iff.mp ends
  exact endsWell_iff.mpr ⟨invocation, member, sub among, ended⟩

/-- In how many of the first supersteps of a run one of some nodes ended well. -/
def Course.rounds (course : Course) (keys : List String) (place : Nat) : Nat :=
  (course.supersteps.take place).countP (Superstep.endsWell keys)

theorem Course.rounds_cons_succ (superstep : Superstep) (course : Course) (place : Nat) :
    Course.rounds ⟨superstep :: course.supersteps, course.outcome⟩ keys (place + 1) =
      course.rounds keys place + if superstep.endsWell keys then 1 else 0 := by
  rw [rounds, rounds, List.take_succ_cons, List.countP_cons]

/-- No node of the newsroom is told to write anything. -/
theorem Newsroom.spares (key : String) : (Newsroom.plan .absent).Spares key :=
  GraphPlan.spares_of_forall (by decide +kernel) key

namespace Node

/-- What a supervisor does when so many decisions have been made. -/
structure GoesBy (prepare : ImagePreparer σ) (node : GraphNode) (config : SupervisorConfig)
    (respond : Chat.Responder σ) (state : State) (made : Nat) : Prop where
  /-- With no decisions left it fails, and asks nobody. -/
  refuses : config.maxIterations ≤ made → supervisorStep prepare node config respond state =
    .fail (.routing (.iterationLimit (SupervisorConfig.label node.key) config.maxIterations))
  /-- The first decision goes by the turn of the human, which is built from its own input. -/
  opens : made = 0 → 0 < config.maxIterations →
    supervisorStep prepare node config respond state = do
      let conversation ← Act.ofFault (history state)
      let turn ← humanTurn prepare config.input defaultSupervisorPrompt
        (inputText node.inputKey state)
      let reply ← askModel node config respond conversation (some turn)
      Act.ofExcept (conclude node config ⟨1, conversation, some turn, reply⟩)
  /-- Later decisions go by the conversation. -/
  continues : 0 < made → made < config.maxIterations →
    supervisorStep prepare node config respond state = do
      let conversation ← Act.ofFault (history state)
      let reply ← askModel node config respond conversation none
      Act.ofExcept (conclude node config ⟨made + 1, conversation, none, reply⟩)
  /-- The turn of the human is added to the conversation with the first decision only. -/
  adds : node.outputKey ≠ some messagesKey → ∀ before delta after,
    (supervisorStep prepare node config respond state).Gives before delta after →
      ∃ turn d, (turn.isSome = true ↔ made = 0) ∧ delta.find? messagesKey =
        some (.list ((Option.toList turn ++ [Conversation.marker d]).map .message))

/-- A supervisor goes by the count that it reads. -/
theorem goesBy_of_readIteration {prepare : ImagePreparer σ} {node : GraphNode} {made : Nat}
    (read : readIteration state = .ok (made : Int)) :
    GoesBy prepare node config respond state made := by
  -- the reading of the count is the first thing that a consultation does
  have counted : consult prepare node config respond state =
      if config.maxIterations < made + 1 then
        .fail (.routing (.iterationLimit (SupervisorConfig.label node.key) config.maxIterations))
      else do
        let conversation ← Act.ofFault (history state)
        let turn ← openingTurn prepare node config state (made + 1)
        let reply ← askModel node config respond conversation turn
        return { iteration := made + 1, conversation, turn, reply } := by
    rw [consult, read]
    rfl
  constructor
  · intro spent
    rw [supervisorStep_eq, counted, if_pos (by omega)]
    rfl
  · intro first left
    rw [supervisorStep_eq, counted, if_neg (by omega)]
    subst first
    simp [openingTurn]
  · intro later left
    rw [supervisorStep_eq, counted, if_neg (by omega)]
    have no_turn : ((made : Int) + 1 == 1) = false := by
      simp
      omega
    simp [openingTurn, no_turn]
  · intro free before delta after gives
    obtain ⟨c, consulted, concluded⟩ := gives_supervisorStep_iff.mp gives
    obtain ⟨made', read', -, counted, -, middle, opened, -⟩ := gives_consult_iff.mp consulted
    obtain rfl : (made : Int) = made' := Except.ok.inj (read.symm.trans read')
    obtain ⟨d, -, -, added⟩ := conclude_eq_ok_iff.mp concluded
    rw [counted, gives_openingTurn_iff] at opened
    refine ⟨c.turn, d, ?_, ?_⟩
    · rcases opened with ⟨first, human, same, -⟩ | ⟨later, same, -⟩
      · simp [first, same]
      · simp [later, same]
    · rw [find?_of_addAnswer_of_ne added free]
      rfl

/-- A run that begins without a count begins with none made. -/
theorem readIteration_apply_of_missing {schema : Schema} {initial : State}
    (missing : initial.find? iterationKey = none) :
    readIteration (schema.apply [] initial) = .ok 0 := by
  have unwritten : (schema.apply [] initial).find? iterationKey = none :=
    Schema.find?_apply_of_not_mem (Record.find?_eq_none_iff.mp missing)
  rw [readIteration, unwritten]
  rfl

end Node

namespace Workflow

/-! ### The count is the number of rounds -/

/-- The count goes up in a superstep in which a supervisor ends well, and in no other. -/
theorem KeepsCount.mem_keys_iff (keeps : workflow.KeepsCount settings services plan)
    (distinct : (plan.nodes.map PlanNode.key).Nodup)
    (supervised : ∀ n ∈ plan.nodes, normalizeType n.node.type = "supervisor" →
      ∃ config, n.Supervises settings config)
    (records : workflow.Records superstep) (read : readIteration superstep.input = .ok made) :
    iterationKey ∈ Record.keys superstep.deltas.flatten ↔
      superstep.endsWell plan.supervisors = true := by
  rw [Superstep.endsWell_iff]
  constructor
  · intro raised
    obtain ⟨⟨_, value⟩, member, rfl⟩ := List.mem_map.mp raised
    obtain ⟨delta, among, written⟩ := List.mem_flatten.mp member
    obtain ⟨invocation, invoked, targets, ended⟩ := Superstep.mem_deltas_iff.mp among
    obtain ⟨task, _, _, found, gives⟩ := records.exists_gives invoked ended
    refine ⟨invocation, invoked, ?_, _, ended⟩
    rw [← key_of_task? found]
    cases keeps.taskOf task (mem_of_task? found) with
    | supervisor node supervises =>
      exact GraphPlan.mem_supervisors.mpr ⟨_, node, rfl, supervises.type_eq⟩
    | other node _ _ writes =>
      exact absurd (writes gives iterationKey (List.mem_map_of_mem written))
        (keeps.spares.not_mayWrite node (by decide))
  · rintro ⟨invocation, member, supervisor, written, ended⟩
    obtain ⟨n, node, same, type_eq⟩ := GraphPlan.mem_supervisors.mp supervisor
    obtain ⟨config, supervises⟩ := supervised n node type_eq
    obtain ⟨delta, targets⟩ := written
    obtain ⟨task, _, _, found, -⟩ := records.exists_gives member ended
    -- whatever task has the key of a supervisor is its task
    have key_eq : task.key = n.key := (key_of_task? found).trans same.symm
    obtain ⟨respond, rfl⟩ :=
      (keeps.taskOf task (mem_of_task? found)).exists_respond distinct node supervises key_eq
    rw [← same] at found
    exact keeps.mem_keys_of_decides records read node found member same.symm ended

/-- The count that a superstep reads is what the run began with and the rounds since. -/
theorem KeepsCount.readIteration_of_rounds (keeps : workflow.KeepsCount settings services plan)
    (distinct : (plan.nodes.map PlanNode.key).Nodup)
    (supervised : ∀ n ∈ plan.nodes, normalizeType n.node.type = "supervisor" →
      ∃ config, n.Supervises settings config)
    (runs : workflow.Runs limit active state before course after)
    (read : readIteration state = .ok made) (taken : course.supersteps[place]? = some superstep) :
    readIteration superstep.input = .ok (made + course.rounds plan.supervisors place) := by
  induction runs generalizing made place with
  | exhausted => cases taken
  | finished => cases taken
  | failed _ takes _ =>
    cases place with
    | zero =>
      cases taken
      rw [keeps.readIteration_input takes read]
      simp [Course.rounds]
    | succ place => cases taken
  | @continued _ _ _ _ _ _ first _ _ takes _ _ ih =>
    have input := keeps.readIteration_input takes read
    cases place with
    | zero =>
      cases taken
      rw [input]
      simp [Course.rounds]
    | succ place =>
      -- the count goes up with this superstep exactly when this superstep is a round
      have counted := keeps.mem_keys_iff distinct supervised takes.records input
      have rest := ih (keeps.readIteration_foldl takes.records input read) taken
      rw [rest, Course.rounds_cons_succ]
      by_cases decides : first.endsWell plan.supervisors = true
      · rw [if_pos (counted.mpr decides), if_pos decides]
        push_cast
        congr 1
        omega
      · rw [if_neg (mt counted.mp decides), if_neg decides, Nat.add_zero]

/-! ### Assembled workflows -/

/-- In every run of a workflow that could be assembled, a supervisor goes by the rounds of all
supervisors, if nothing but them writes the number of decisions and it is not appended to. These are
at least as many as its own decisions, and as many if it has taken part in all of them. -/
theorem assemble_goes_by_rounds
    (assembled : (assemble settings services snapshot transport stateKeys).Gives before workflow
      after)
    (valid : validate snapshot = .ok plan) (plain : ¬ plan.Declares iterationKey .append)
    (spares : plan.Spares iterationKey) (node : n ∈ plan.nodes)
    (supervises : n.Supervises settings config) :
    ∃ respond,
      workflow.task? n.key = some (supervisorTask services.prepareImage n config respond) ∧
      ∀ limit initial before course after, initial.find? iterationKey = none →
        ((workflow.run limit initial).run before).run = (course, after) →
          ∀ place superstep, course.supersteps[place]? = some superstep →
            GoesBy services.prepareImage n.node config respond superstep.input
              (course.rounds plan.supervisors place) ∧
            course.rounds [n.key] place ≤ course.rounds plan.supervisors place ∧
            ((∀ earlier ∈ course.supersteps.take place,
                earlier.endsWell plan.supervisors = true → earlier.endsWell [n.key] = true) →
              GoesBy services.prepareImage n.node config respond superstep.input
                (course.rounds [n.key] place)) := by
  obtain ⟨blueprint, drawn, built⟩ := gives_assemble_iff.mp assembled
  have faithful := Blueprint.faithful_of_ofSnapshot drawn
  obtain rfl : blueprint.plan = plan :=
    Except.ok.inj ((Blueprint.ofSnapshot_eq_ok_iff.mp drawn).1.symm.trans valid)
  have keeps := keepsCount_of_build drawn built node supervises plain spares
  obtain ⟨respond, task⟩ := exists_task?_of_supervises faithful built node supervises
  refine ⟨respond, task, ?_⟩
  intro limit initial before course after fresh ran place superstep taken
  rcases run_eq_iff.mp ran with ⟨-, rfl, -⟩ | ⟨-, runs⟩
  · cases taken
  · have begins : readIteration (workflow.schema.apply [] initial) = .ok 0 :=
      readIteration_apply_of_missing fresh
    have counted := keeps.readIteration_of_rounds faithful.wellFormed.keys_nodup
      faithful.exists_supervises runs begins taken
    rw [Int.zero_add] at counted
    have own : ∀ earlier : Superstep,
        earlier.endsWell [n.key] = true → earlier.endsWell blueprint.plan.supervisors = true :=
      fun earlier => Superstep.endsWell_mono fun key here => by
        rw [List.mem_singleton.mp here]
        exact GraphPlan.mem_supervisors.mpr ⟨n, node, rfl, supervises.type_eq⟩
    -- its own decisions are rounds; if all rounds are its own, the two numbers are the same
    refine ⟨goesBy_of_readIteration counted, List.countP_mono_left fun earlier _ => own earlier,
      fun together => ?_⟩
    have same : course.rounds [n.key] place = course.rounds blueprint.plan.supervisors place :=
      List.countP_congr fun earlier member => ⟨own earlier, together earlier member⟩
    rw [same]
    exact goesBy_of_readIteration counted

/-- The second supervisor of the newsroom goes by the rounds of both. -/
theorem newsroom_goes_by_rounds :
    ∃ workflow, (assemble {} Newsroom.services (some (Newsroom.plan .absent).toSnapshot) none
        []).Gives [] workflow [] ∧
      validate (some (Newsroom.plan .absent).toSnapshot) = .ok (Newsroom.plan .absent) ∧
      ¬ (Newsroom.plan .absent).Declares iterationKey .append ∧
      (Newsroom.plan .absent).Spares iterationKey ∧
      Newsroom.supervisor "desk" "reader" ∈ (Newsroom.plan .absent).nodes ∧
      (Newsroom.supervisor "desk" "reader").Supervises {} (Newsroom.config "reader") ∧
      ∃ respond, workflow.task? "desk" =
          some (supervisorTask Newsroom.services.prepareImage (Newsroom.supervisor "desk" "reader")
            (Newsroom.config "reader") respond) ∧
        ∀ limit initial before course after, initial.find? iterationKey = none →
          ((workflow.run limit initial).run before).run = (course, after) →
            ∀ place superstep, course.supersteps[place]? = some superstep →
              GoesBy Newsroom.services.prepareImage (Newsroom.supervisor "desk" "reader").node
                (Newsroom.config "reader") respond superstep.input
                (course.rounds (Newsroom.plan .absent).supervisors place) ∧
              course.rounds ["desk"] place ≤
                course.rounds (Newsroom.plan .absent).supervisors place ∧
              ((∀ earlier ∈ course.supersteps.take place,
                  earlier.endsWell (Newsroom.plan .absent).supervisors = true →
                    earlier.endsWell ["desk"] = true) →
                GoesBy Newsroom.services.prepareImage (Newsroom.supervisor "desk" "reader").node
                  (Newsroom.config "reader") respond superstep.input
                  (course.rounds ["desk"] place)) := by
  obtain ⟨workflow, assembled⟩ := Newsroom.exists_gives_assemble []
  have valid := Newsroom.validate_plan .absent
  have plain := Newsroom.not_declares iterationKey .append
  have spares := Newsroom.spares iterationKey
  have node : Newsroom.supervisor "desk" "reader" ∈ (Newsroom.plan .absent).nodes := by
    simp [Newsroom.plan]
  exact ⟨workflow, assembled, valid, plain, spares, node, Newsroom.desk_supervises,
    assemble_goes_by_rounds assembled valid plain spares node Newsroom.desk_supervises⟩

end Workflow

end

/-! ### A desk that never opens

In the newsroom the first supervisor sends its member to work, whose edges activate both
supervisors. The second one has decided nothing yet, but the count says otherwise. -/

namespace Newsroom

/-- The task of a member. -/
def memberTask (key : String) : Task (List Message) where
  node := {
    key
    description := "Supervisor member worker: " ++ key
    step := memberStep key { run := pure } }
  seconds := ({} : Settings).memberTimeoutSeconds

/-- The task of a supervisor. -/
def deskTask (key member : String) : Task (List Message) :=
  Workflow.supervisorTask services.prepareImage (supervisor key member) (config member) reply

/-- The parts of the newsroom. -/
def parts : List (Workflow.Part (List Message)) :=
  [⟨memberTask "writer", []⟩, ⟨memberTask "reader", []⟩, ⟨deskTask "lead" "writer", []⟩,
    ⟨deskTask "desk" "reader", []⟩]

/-- The newsroom as a workflow. -/
def workflow : Workflow (List Message) := Workflow.joined (blueprint .absent []) parts []

theorem gives_assemble (script : List Message) :
    (Workflow.assemble {} services (some (plan .absent).toSnapshot) none []).Gives script workflow
      script :=
  Workflow.gives_assemble_iff.mpr ⟨blueprint .absent [], ofSnapshot_plan rfl,
    Workflow.gives_build_iff.mpr ⟨_, _, rfl, parts.take 2, _, rfl, parts.drop 2, rfl,
      Workflow.join_eq_ok_of_free (by decide +kernel) (by decide +kernel)⟩⟩

/-- Supervisors overwrite their keys. -/
theorem find?_schema_of_supervision {key : String} (own : key ∈ [decisionKey, iterationKey]) :
    Record.find? workflow.schema key = some .overwrite := by
  have others : ∀ key ∈ [decisionKey, iterationKey],
      (Record.ofPairs (blueprint .absent []).declared).find? key = none := by
    decide
  have carried : key ∈ Workflow.furtherKeys (blueprint .absent []) parts [] :=
    Workflow.mem_furtherKeys_of_supervision List.mem_cons_self own
  rw [workflow, Workflow.joined, Schema.find?_build, others key own, if_pos carried]
  rfl

/-- The conversation is appended to. -/
theorem find?_schema_messagesKey : Record.find? workflow.schema messagesKey = some .append := by
  rw [workflow, Workflow.joined, Schema.find?_build]
  rfl

/-- The turn of the human that opens the conversation. -/
def opening : Message :=
  { role := .human, content := .list [textPart defaultSupervisorPrompt] }

/-- What the first decision writes. -/
def firstDelta : Delta := decisionDelta 1 "writer" (some opening)

/-- The state that the first decision leaves. -/
def decided : State := workflow.schema.arrange (workflow.schema.apply [] firstDelta)

theorem readIteration_decided : readIteration decided = .ok 1 := by
  rw [readIteration, decided, Schema.find?_arrange_apply
    (find?_schema_of_supervision (List.mem_cons_of_mem _ List.mem_cons_self))]
  rfl

theorem history_decided : history decided =
    .ok [.message opening, .message (Conversation.marker "writer")] := by
  rw [history, decided, Schema.find?_arrange_apply find?_schema_messagesKey]
  rfl

/-- Where the edges of a supervisor lead. -/
theorem next_supervisor {key member : String} (node : supervisor key member ∈ (plan .absent).nodes)
    (supervises : (supervisor key member).Supervises {} (config member)) (state : State) :
    workflow.next key state = Workflow.routes? [member] state := by
  have drawn : Blueprint.ofSnapshot {} (some (plan .absent).toSnapshot) =
      .ok (blueprint .absent []) :=
    ofSnapshot_plan rfl
  obtain ⟨blueprint', again, built⟩ := Workflow.gives_assemble_iff.mp (gives_assemble [])
  obtain rfl : blueprint' = blueprint .absent [] := Except.ok.inj (again.symm.trans drawn)
  exact Workflow.next_of_supervises (Blueprint.faithful_of_ofSnapshot drawn) built node supervises
    state

/-- A supervisor that decides leads to where it decides. -/
theorem invoke_deskTask {key member d : String} {goal : Target} {input : State}
    {script rest : List Message} {c : Consultation}
    (node : supervisor key member ∈ (plan .absent).nodes)
    (supervises : (supervisor key member).Supervises {} (config member))
    (consulted : (consult services.prepareImage (supervisor key member).node (config member) reply
      input).Gives script c rest)
    (decided : decision (SupervisorConfig.label key) c.reply = .ok d)
    (goes : d = finish ∧ goal = .finish ∨ d = member ∧ d ≠ "" ∧ d ≠ finish ∧ goal = .node member) :
    (workflow.invoke input (deskTask key member)).outcome script =
      (.ok (decisionDelta c.iteration d c.turn, [goal]), rest) := by
  have legal : d = finish ∨ d ∈ [member] := by
    rcases goes with ⟨same, -⟩ | ⟨rfl, -⟩
    · exact Or.inl same
    · exact Or.inr List.mem_cons_self
  have concluded : conclude (supervisor key member).node (config member) c =
      .ok (decisionDelta c.iteration d c.turn) :=
    conclude_eq_ok_iff.mpr ⟨d, decided, legal, rfl⟩
  have stored := Workflow.find?_decisionKey_of_conclude
    (find?_schema_of_supervision List.mem_cons_self) (by simp [supervisor]) input concluded decided
  have begun : isPast (config "").timeoutSeconds = false := by decide
  refine Workflow.outcome_invoke_of_gives begun
    (gives_supervisorStep_iff.mpr ⟨c, consulted, concluded⟩) ?_
  refine (next_supervisor node supervises _).trans ?_
  rcases goes with ⟨rfl, rfl⟩ | ⟨rfl, nonempty, goes_on, rfl⟩
  · exact Workflow.routes?_of_finish stored
  · exact Workflow.routes?_of_member stored nonempty goes_on List.mem_cons_self

/-- The first superstep: the first supervisor opens the conversation. -/
theorem takes_opening (script : List Message) :
    workflow.Takes ["lead"] [] (.naming "writer" :: script)
      ⟨workflow.schema.arrange [], [⟨"lead", .ok (firstDelta, [.node "writer"])⟩]⟩ script := by
  have unread : ∀ key, (workflow.schema.arrange []).find? key = none := by
    intro key
    rw [Schema.find?_arrange, Record.find?_nil, Option.bind_fun_none]
  have consulted : (consult services.prepareImage (supervisor "lead" "writer").node
      (config "writer") reply (workflow.schema.arrange [])).Gives (.naming "writer" :: script)
        ⟨1, [], some opening, .naming "writer"⟩ script := by
    refine gives_consult_iff.mpr ⟨0, ?_, by decide, rfl, ?_, _, rfl, rfl⟩
    · rw [readIteration, unread]
      rfl
    · rw [history, unread]
      rfl
  have invoked : (workflow.invoke (workflow.schema.arrange []) (deskTask "lead" "writer")).outcome
      (.naming "writer" :: script) = (.ok (firstDelta, [.node "writer"]), script) :=
    invoke_deskTask List.mem_cons_self lead_supervises consulted rfl
      (Or.inr ⟨rfl, by decide, by decide, rfl⟩)
  exact Workflow.takes_singleton rfl invoked

/-- The second superstep: the member adds nothing, and both supervisors are next. -/
theorem takes_member (script : List Message) :
    workflow.Takes ["writer"] (workflow.schema.apply [] firstDelta) script
      ⟨decided, [⟨"writer", .ok ([], [.node "lead", .node "desk"])⟩]⟩ script := by
  have stepped : (memberStep "writer" { run := pure } decided).Gives script [] script := by
    simp only [memberStep, Act.gives_bind_iff, Act.gives_ofFault_iff]
    exact ⟨_, _, ⟨history_decided, rfl⟩, _, _, rfl, rfl⟩
  have begun : isPast (memberTask "writer").seconds = false := by decide
  have aimed : workflow.targets "writer" = [.node "lead", .node "desk"] := by decide +kernel
  have invoked : (workflow.invoke decided (memberTask "writer")).outcome script =
      (.ok ([], [.node "lead", .node "desk"]), script) :=
    Workflow.outcome_invoke_of_gives begun stepped (congrArg Except.ok aimed)
  exact Workflow.takes_singleton rfl invoked

/-- The third superstep: both supervisors finish. -/
theorem takes_closing (script : List Message) :
    workflow.Takes ["lead", "desk"] (workflow.schema.apply [] firstDelta)
      (.naming finish :: .naming finish :: script)
      ⟨decided, [⟨"desk", .ok (decisionDelta 2 finish none, [.finish])⟩,
        ⟨"lead", .ok (decisionDelta 2 finish none, [.finish])⟩]⟩ script := by
  have left : 1 + 1 ≤ (config "").maxIterations := by decide
  have consulted {key member : String} (script : List Message) :
      (consult services.prepareImage (supervisor key member).node (config member) reply
        decided).Gives (.naming finish :: script)
          ⟨2, [.message opening, .message (Conversation.marker "writer")], none, .naming finish⟩
          script :=
    gives_consult_iff.mpr ⟨1, readIteration_decided, left, rfl, history_decided, _, rfl, rfl⟩
  have invoked {key member : String} (node : supervisor key member ∈ (plan .absent).nodes)
      (supervises : (supervisor key member).Supervises {} (config member))
      (script : List Message) :
      (workflow.invoke decided (deskTask key member)).outcome (.naming finish :: script) =
        (.ok (decisionDelta 2 finish none, [.finish]), script) :=
    invoke_deskTask node supervises (consulted script) rfl (Or.inl ⟨rfl, rfl⟩)
  have both : Text.sortedSet ["lead", "desk"] = ["desk", "lead"] :=
    Text.sortedSet_eq_of_perm (by decide +kernel) (.swap _ _ _) (by decide +kernel)
  refine Workflow.takes_iff.mpr
    ⟨[(deskTask "desk" "reader", .ok (decisionDelta 2 finish none, [.finish])),
      (deskTask "lead" "writer", .ok (decisionDelta 2 finish none, [.finish]))], ?_, rfl⟩
  rw [both]
  exact .cons (invoked (by simp [plan]) desk_supervises _)
    (.cons (invoked List.mem_cons_self lead_supervises _) .nil)

end Newsroom

namespace Workflow

/-- In the newsroom the first decision of the second supervisor is not the first of all, so the
conversation is never opened for it: it goes by what the others said, and counts on from them. -/
theorem newsroom_desk_never_opens :
    ∃ workflow, (assemble {} Newsroom.services (some (Newsroom.plan .absent).toSnapshot) none
        []).Gives [] workflow [] ∧
      ∃ course after superstep, ((workflow.run 4 []).run
          [.naming "writer", .naming finish, .naming finish]).run = (course, after) ∧
        course.supersteps[2]? = some superstep ∧ course.rounds ["desk"] 2 = 0 ∧
        ∃ invocation ∈ superstep.invocations, invocation.key = "desk" ∧
          invocation.delta = .ok (decisionDelta 2 finish none) := by
  have closing : Newsroom.workflow.Runs 2 _ _ _ _ _ :=
    .continued (List.cons_ne_nil _ _) (Newsroom.takes_closing []) rfl .finished
  have going_on : Newsroom.workflow.Runs 3 _ _ _ _ _ :=
    .continued (List.cons_ne_nil _ _) (Newsroom.takes_member _) rfl closing
  have runs : Newsroom.workflow.Runs 4 _ _ _ _ _ :=
    .continued (List.cons_ne_nil _ _) (Newsroom.takes_opening _) rfl going_on
  exact ⟨Newsroom.workflow, Newsroom.gives_assemble [], _, _, _,
    run_eq_iff.mpr (Or.inr ⟨by decide, runs⟩), rfl, by decide, _, List.mem_cons_self, rfl, rfl⟩

end Workflow

end AgentWorkflow
