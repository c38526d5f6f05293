import AgentWorkflow.Proofs.Run.Rounds
import AgentWorkflow.Proofs.Workflow.Relisting

/-!
# Runs of graphs whose parts are listed in another order

The nodes of a superstep are taken in the order of their keys, so that it makes no difference in
which order the tasks of a workflow are listed, or its edges. If every step is a function of the
state that it reads, then runs of two workflows that differ only in this go through the same states,
superstep by superstep: the same nodes write the same, or fail with the same failure. All that is
left of the order in which edges are listed is the order in which the targets of a node are told.

Together with what is known of assemblies: to list the nodes and the edges of a graph in another
order changes nothing of what it does.

## Main definitions

* `Course.RelistedAs`: the same course, with the targets of its nodes in another order
* `Workflow.HasFixedSteps`: every step is a function of the state that it reads

## Main results

* `Workflow.Runs.relisted`: runs of workflows that are listed in another order are the same
* `Workflow.assemble_of_relisted`: the order of nodes and edges does not change what a graph does
-/

namespace AgentWorkflow

variable {σ : Type}

/-- The same outcome, with the targets in another order. -/
abbrev OutcomeRelisted : Outcome → Outcome → Prop :=
  Alike Eq fun result other => other.1 = result.1 ∧ other.2.Perm result.2

/-- The same invocation, with the targets in another order. -/
structure Invocation.RelistedAs (invocation other : Invocation) : Prop where
  key_eq : other.key = invocation.key
  outcome : OutcomeRelisted invocation.outcome other.outcome

/-- The same superstep, with the targets of its nodes in another order. -/
structure Superstep.RelistedAs (superstep other : Superstep) : Prop where
  input_eq : other.input = superstep.input
  invocations : List.Forall₂ Invocation.RelistedAs superstep.invocations other.invocations

/-- The same course, with the targets of its nodes in another order. -/
structure Course.RelistedAs (course other : Course) : Prop where
  supersteps : List.Forall₂ Superstep.RelistedAs course.supersteps other.supersteps
  outcome_eq : other.outcome = course.outcome

/-- The states are the same. -/
theorem Course.RelistedAs.states_eq {course other : Course} (relisted : course.RelistedAs other) :
    other.states = course.states := by
  obtain ⟨supersteps, outcome⟩ := course
  obtain ⟨supersteps', outcome'⟩ := other
  obtain ⟨pairs, rfl⟩ := relisted
  have inputs_eq : supersteps'.map Superstep.input = supersteps.map Superstep.input := by
    dsimp only at pairs
    induction pairs with
    | nil => rfl
    | cons first _ ih => rw [List.map_cons, List.map_cons, ih, first.input_eq]
  rw [states, states, inputs_eq]

namespace Superstep.RelistedAs

variable {superstep other : Superstep}

/-- What can be told of each invocation whatever the order of its targets can be told of all. -/
theorem filterMap_eq {α : Type} (relisted : superstep.RelistedAs other)
    {f : Invocation → Option α}
    (same : ∀ invocation other, invocation.RelistedAs other → f other = f invocation) :
    other.invocations.filterMap f = superstep.invocations.filterMap f := by
  obtain ⟨input, invocations⟩ := superstep
  obtain ⟨input', invocations'⟩ := other
  obtain ⟨-, pairs⟩ := relisted
  dsimp only at pairs ⊢
  induction pairs with
  | nil => rfl
  | cons first _ ih => rw [List.filterMap_cons, List.filterMap_cons, ih, same _ _ first]

theorem failure?_eq (relisted : superstep.RelistedAs other) :
    other.failure? = superstep.failure? := by
  rw [failure?, failure?, relisted.filterMap_eq]
  intro invocation other same
  obtain ⟨key, outcome⟩ := invocation
  obtain ⟨key', outcome'⟩ := other
  obtain ⟨-, alike⟩ := same
  cases alike with
  | error failures =>
    cases failures
    rfl
  | ok _ => rfl

theorem deltas_eq (relisted : superstep.RelistedAs other) : other.deltas = superstep.deltas := by
  rw [deltas, deltas, relisted.filterMap_eq]
  intro invocation other same
  obtain ⟨key, outcome⟩ := invocation
  obtain ⟨key', outcome'⟩ := other
  obtain ⟨-, alike⟩ := same
  cases alike with
  | error _ => rfl
  | ok results => exact congrArg some results.1

theorem targets_perm (relisted : superstep.RelistedAs other) :
    other.targets.Perm superstep.targets := by
  obtain ⟨input, invocations⟩ := superstep
  obtain ⟨input', invocations'⟩ := other
  obtain ⟨-, pairs⟩ := relisted
  dsimp only at pairs
  rw [targets, targets]
  induction pairs with
  | nil => exact .nil
  | @cons invocation other _ _ first _ ih =>
    rw [List.flatMap_cons, List.flatMap_cons]
    refine List.Perm.append ?_ ih
    obtain ⟨key, outcome⟩ := invocation
    obtain ⟨key', outcome'⟩ := other
    obtain ⟨-, alike⟩ := first
    cases alike with
    | error _ => exact .nil
    | ok results => exact results.2.filterMap _

end Superstep.RelistedAs

namespace Workflow

variable {workflow workflow' : Workflow σ} {input state : State} {task : Task σ}
  {tasks : List (Task σ)} {active active' : List String} {limit : Nat} {course course' : Course}
  {before before' after after' : σ} {outcomes outcomes' : List (Task σ × Outcome)}
  {superstep superstep' : Superstep}

/-- Every step is a function of the state that it reads. -/
def HasFixedSteps (workflow : Workflow σ) : Prop :=
  ∀ task ∈ workflow.tasks, ∀ state, (task.node.step state).IsFixed

/-! ### One node -/

theorem RelistedAs.next_alike (relisted : workflow.RelistedAs workflow') (key : String)
    (state : State) :
    Alike Eq (fun targets other => List.Perm other targets) (workflow.next key state)
      (workflow'.next key state) := by
  have targets_perm : (workflow'.targets key).Perm (workflow.targets key) :=
    (relisted.edges.filter _).map _
  rw [next, next, relisted.route?_eq]
  cases workflow.routes.find? key with
  | none => exact .ok targets_perm
  | some members =>
    dsimp only
    cases routes? members state with
    | error fault => exact .error rfl
    | ok targets => exact .ok (targets_perm.append_right _)

/-- A node writes the same, or fails with the same failure. -/
theorem RelistedAs.invoke_agrees (relisted : workflow.RelistedAs workflow')
    (fixed : ∀ state, (task.node.step state).IsFixed) (input : State) :
    (workflow.invoke input task).Agrees Eq (fun result other => other.1 = result.1 ∧
      other.2.Perm result.2) (workflow'.invoke input task) := by
  intro before before'
  cases past : Node.isPast task.seconds with
  | true =>
    rw [outcome_invoke_of_isPast _ _ _ _ past, outcome_invoke_of_isPast _ _ _ _ past]
    exact .error rfl
  | false =>
    rw [outcome_invoke _ _ _ _ past, outcome_invoke _ _ _ _ past, relisted.schema_eq]
    have same := fixed input before before'
    generalize (task.node.step input).outcome before = came at same ⊢
    generalize (task.node.step input).outcome before' = came' at same ⊢
    obtain ⟨failure | delta, middle⟩ := came <;> obtain ⟨_, middle'⟩ := came' <;> cases same
    · exact .error rfl
    · have leads := relisted.next_alike task.key (workflow.schema.apply input delta)
      dsimp only
      generalize workflow.next _ _ = next at leads ⊢
      generalize workflow'.next _ _ = next' at leads ⊢
      cases leads with
      | error faults => exact .error (congrArg Failure.fault faults)
      | ok targets => exact .ok ⟨rfl, targets⟩

/-! ### The nodes of a superstep -/

/-- The same nodes with the same outcomes, up to the order of their targets. -/
abbrev OutcomesRelisted : List (Task σ × Outcome) → List (Task σ × Outcome) → Prop :=
  List.Forall₂ fun pair other => other.1 = pair.1 ∧ OutcomeRelisted pair.2 other.2

theorem Invokes.relisted (relisted : workflow.RelistedAs workflow')
    (fixed : ∀ task ∈ tasks, ∀ state, (task.node.step state).IsFixed)
    (invokes : workflow.Invokes input tasks before outcomes after)
    (invokes' : workflow'.Invokes input tasks before' outcomes' after') :
    OutcomesRelisted outcomes outcomes' := by
  induction invokes generalizing before' outcomes' with
  | nil =>
    cases invokes'
    exact .nil
  | @cons task tasks outcome outcomes before middle after first _ ih =>
    obtain ⟨task_fixed, others_fixed⟩ := List.forall_mem_cons.mp fixed
    cases invokes' with
    | cons first' rest' =>
      have alike := relisted.invoke_agrees task_fixed input before before'
      rw [first, first'] at alike
      exact .cons ⟨rfl, alike⟩ (ih others_fixed rest')

section Settling

variable {outcome outcome' : Outcome}

theorem isWaiting_eq_of_relisted (alike : OutcomeRelisted outcome outcome') :
    isWaiting outcome' = isWaiting outcome := by
  cases alike with
  | error failures => rw [failures]
  | ok _ => rfl

theorem immediateFailure?_eq_of_relisted (alike : OutcomeRelisted outcome outcome') :
    immediateFailure? outcome' = immediateFailure? outcome := by
  cases alike with
  | error failures => rw [failures]
  | ok _ => rfl

theorem firstDeadline?_eq_of_relisted (relisted : OutcomesRelisted outcomes outcomes') :
    firstDeadline? outcomes' = firstDeadline? outcomes := by
  induction relisted with
  | nil => rfl
  | @cons pair other _ _ first _ ih =>
    obtain ⟨task, outcome⟩ := pair
    obtain ⟨task', outcome'⟩ := other
    obtain ⟨rfl, alike⟩ := first
    simp only [firstDeadline?, isWaiting_eq_of_relisted alike, ih]

theorem any_failure_eq_of_relisted (relisted : OutcomesRelisted outcomes outcomes') :
    (outcomes'.any fun (_, outcome) => (immediateFailure? outcome).isSome) =
      outcomes.any fun (_, outcome) => (immediateFailure? outcome).isSome := by
  induction relisted with
  | nil => rfl
  | cons first _ ih => simp only [List.any_cons, ih, immediateFailure?_eq_of_relisted first.2]

/-- The nodes that never end come to the same ends. -/
theorem settle_relisted (relisted : OutcomesRelisted outcomes outcomes') :
    List.Forall₂ Invocation.RelistedAs (settle outcomes) (settle outcomes') := by
  simp only [settle, any_failure_eq_of_relisted relisted, firstDeadline?_eq_of_relisted relisted]
  rw [List.forall₂_map_left_iff, List.forall₂_map_right_iff]
  refine relisted.imp fun pair other same => ?_
  obtain ⟨task, outcome⟩ := pair
  obtain ⟨task', outcome'⟩ := other
  obtain ⟨rfl, alike⟩ := same
  dsimp only
  rw [isWaiting_eq_of_relisted alike]
  by_cases waiting : isWaiting outcome = true
  · rw [if_pos waiting, if_pos waiting]
    -- whether it is late or cancelled, it has failed
    split_ifs <;> exact ⟨rfl, .error rfl⟩
  · rw [if_neg waiting, if_neg waiting]
    exact ⟨rfl, alike⟩

end Settling

/-! ### Supersteps -/

theorem Takes.relisted (relisted : workflow.RelistedAs workflow') (fixed : workflow.HasFixedSteps)
    (same : ∀ key, key ∈ active ↔ key ∈ active')
    (takes : workflow.Takes active state before superstep after)
    (takes' : workflow'.Takes active' state before' superstep' after') :
    superstep.RelistedAs superstep' := by
  obtain ⟨outcomes, invokes, rfl⟩ := takes_iff.mp takes
  obtain ⟨outcomes', invokes', rfl⟩ := takes_iff.mp takes'
  rw [relisted.schema_eq, ← Text.sortedSet_congr same,
    show workflow'.task? = workflow.task? from funext relisted.task?_eq] at invokes'
  refine ⟨congrArg (fun schema => Schema.arrange schema state) relisted.schema_eq,
    settle_relisted (invokes.relisted relisted ?_ invokes')⟩
  intro task member
  obtain ⟨key, -, found⟩ := List.mem_filterMap.mp member
  exact fixed task (mem_of_task? found)

/-- Runs of workflows that are listed in another order are the same, but for the order in which
targets are told. -/
theorem Runs.relisted (relisted : workflow.RelistedAs workflow') (fixed : workflow.HasFixedSteps)
    (same : ∀ key, key ∈ active ↔ key ∈ active')
    (runs : workflow.Runs limit active state before course after)
    (runs' : workflow'.Runs limit active' state before' course' after') :
    course.RelistedAs course' := by
  -- the second run takes the same turn as the first one at every superstep: the same nodes are
  -- active in it, and it fails with the same failure or goes on with the same state
  induction runs generalizing active' before' course' with
  | exhausted =>
    cases runs'
    exact ⟨.nil, rfl⟩
  | @finished limit state world =>
    have none_active : active' = [] :=
      List.eq_nil_iff_forall_not_mem.mpr fun key member => by simpa using (same key).mpr member
    cases runs' with
    | finished => exact ⟨.nil, by rw [relisted.schema_eq]⟩
    | failed active_ne => exact absurd none_active active_ne
    | continued active_ne => exact absurd none_active active_ne
  | @failed limit active state before after superstep failure active_ne takes failed =>
    have going : active' ≠ [] := by
      obtain ⟨key, member⟩ := List.exists_mem_of_ne_nil active active_ne
      exact List.ne_nil_of_mem ((same key).mp member)
    cases runs' with
    | finished => exact absurd rfl going
    | failed _ takes' failed' =>
      have supersteps := takes.relisted relisted fixed same takes'
      rw [supersteps.failure?_eq, failed] at failed'
      cases failed'
      exact ⟨.cons supersteps .nil, rfl⟩
    | continued _ takes' passed' =>
      rw [(takes.relisted relisted fixed same takes').failure?_eq, failed] at passed'
      cases passed'
  | @continued limit active state before middle after superstep course active_ne takes passed _
      ih =>
    have going : active' ≠ [] := by
      obtain ⟨key, member⟩ := List.exists_mem_of_ne_nil active active_ne
      exact List.ne_nil_of_mem ((same key).mp member)
    cases runs' with
    | finished => exact absurd rfl going
    | failed _ takes' failed' =>
      rw [(takes.relisted relisted fixed same takes').failure?_eq, passed] at failed'
      cases failed'
    | continued _ takes' passed' rest' =>
      have supersteps := takes.relisted relisted fixed same takes'
      rw [supersteps.deltas_eq, relisted.schema_eq] at rest'
      obtain ⟨others, outcome_eq⟩ := ih (fun key => supersteps.targets_perm.symm.mem_iff) rest'
      exact ⟨.cons supersteps others, outcome_eq⟩

/-- Running a workflow that is listed in another order gives the same course, but for the order in
which targets are told. -/
theorem run_relisted (relisted : workflow.RelistedAs workflow') (fixed : workflow.HasFixedSteps)
    {limit : Int} {initial : State}
    (ran : ((workflow.run limit initial).run before).run = (course, after))
    (ran' : ((workflow'.run limit initial).run before').run = (course', after')) :
    course.RelistedAs course' := by
  rcases run_eq_iff.mp ran with ⟨refused, rfl, -⟩ | ⟨allowed, runs⟩ <;>
    rcases run_eq_iff.mp ran' with ⟨refused', rfl, -⟩ | ⟨allowed', runs'⟩
  · exact ⟨.nil, rfl⟩
  · omega
  · omega
  · rw [relisted.entry_eq, relisted.schema_eq] at runs'
    exact runs.relisted relisted fixed (fun _ => Iff.rfl) runs'

/-! ### Graphs -/

variable {settings : Settings} {services : Services σ} {transport : Option (Tool.Transport σ)}
  {stateKeys : List String} {snapshot other : Snapshot}

/-- The order in which nodes and edges are listed does not change what a graph does, if its
collaborators depend on nothing but what they are asked for. It is assembled in every order or in
none; its nodes have the same kinds, its workflow has the same tasks, edges, routes and keys; and if
the steps are functions of the state that they read, then its runs go through the same states. -/
theorem assemble_of_relisted (relisted : snapshot.RelistedAs other) (fixed : services.IsFixed) :
    (∀ before before',
      (∃ workflow after, (assemble settings services (some snapshot) transport stateKeys).Gives
        before workflow after) ↔
      ∃ workflow after, (assemble settings services (some other) transport stateKeys).Gives
        before' workflow after) ∧
    ∀ {before before' after after' workflow workflow'},
      (assemble settings services (some snapshot) transport stateKeys).Gives before workflow
        after →
      (assemble settings services (some other) transport stateKeys).Gives before' workflow'
        after' →
      (∃ blueprint blueprint', Blueprint.ofSnapshot settings (some snapshot) = .ok blueprint ∧
        Blueprint.ofSnapshot settings (some other) = .ok blueprint' ∧
          ∀ key, blueprint'.kind? key = blueprint.kind? key) ∧
      workflow.RelistedAs workflow' ∧
      (workflow.HasFixedSteps → ∀ {limit initial world world' last last' course course'},
        ((workflow.run limit initial).run world).run = (course, last) →
        ((workflow'.run limit initial).run world').run = (course', last') →
        course.RelistedAs course' ∧ course'.states = course.states) := by
  have agrees : (assemble settings services (some snapshot) transport stateKeys).Agrees AnyFailure
      RelistedAs (assemble settings services (some other) transport stateKeys) :=
    assemble_agrees fixed relisted stateKeys
  refine ⟨fun before before' => ⟨?_, ?_⟩, fun gives gives' => ?_⟩
  · rintro ⟨workflow, after, gives⟩
    obtain ⟨workflow', after', gives', -⟩ := agrees.exists_gives gives before'
    exact ⟨workflow', after', gives'⟩
  · rintro ⟨workflow', after', gives'⟩
    obtain ⟨workflow, after, gives, -⟩ := agrees.symm.exists_gives gives' before
    exact ⟨workflow, after, gives⟩
  · have workflow_relisted := agrees.of_gives gives gives'
    obtain ⟨blueprint, drawn, -⟩ := gives_assemble_iff.mp gives
    obtain ⟨blueprint', drawn', -⟩ := gives_assemble_iff.mp gives'
    -- the blueprints are the two listings of one graph, so their nodes have the same kinds
    have drawn_alike := Blueprint.ofSnapshot_relisted settings relisted
    rw [drawn, drawn'] at drawn_alike
    cases drawn_alike with
    | ok blueprint_relisted =>
      have distinct := (Blueprint.faithful_of_ofSnapshot drawn).wellFormed.keys_nodup
      refine ⟨⟨blueprint, blueprint', drawn, drawn', blueprint_relisted.kind?_eq distinct⟩,
        workflow_relisted, fun steps_fixed {_ _ _ _ _ _ _ _} ran ran' => ?_⟩
      have course_relisted := run_relisted workflow_relisted steps_fixed ran ran'
      exact ⟨course_relisted, course_relisted.states_eq⟩

end Workflow

/-! ### A relay

Two nodes that call a tool, one after the other. The tool answers nothing, whatever it is asked. -/

namespace Relay

def node (key : String) : PlanNode where
  node := { key, type := "tool" }
  tools := [{ name := "pass" }]

def plan : GraphPlan where
  graph := { entry := "first" }
  nodes := [node "first", node "last"]
  edges := [⟨"first", "last"⟩, ⟨"last", endKey⟩]

/-- The same graph, listed from its end. -/
def reversed : Snapshot :=
  { plan.toSnapshot with
    nodes := plan.toSnapshot.nodes.reverse
    edges := plan.toSnapshot.edges.reverse }

theorem relisted : plan.toSnapshot.RelistedAs reversed where
  graph_eq := rfl
  nodes := List.reverse_perm _
  edges := List.reverse_perm _

theorem services_fixed : Newsroom.services.IsFixed where
  makeClient _ _ := Act.isFixed_pure _
  offer := by
    rintro model ⟨_, _, _, _, made⟩ tools forced
    cases made
    exact Act.isFixed_pure _
  buildAgent _ _ _ _ := Act.isFixed_pure _

def transport : Tool.Transport (List Message) where
  call _ _ := pure none

theorem plan_wellFormed : plan.WellFormed :=
  .of_listing ["first", "last"] [⟨"first", "last"⟩, ⟨"last", endKey⟩] rfl rfl (by decide)
    (by decide) List.mem_cons_self (by decide) (by decide)

theorem plan_legible : ¬ plan.IsIllegible :=
  GraphPlan.not_isIllegible
    (List.forall_mem_cons.mpr ⟨nofun, List.forall_mem_singleton.mpr nofun⟩)

theorem validate_plan : validate (some plan.toSnapshot) = .ok plan := by
  have first : (⟨"first", "last"⟩ : GraphEdge) ∈ plan.edges := List.mem_cons_self
  have last : (⟨"last", endKey⟩ : GraphEdge) ∈ plan.edges := by decide
  have reaches : plan.ReachesEnd :=
    .tail (.single (GraphPlan.Joins.edge first)) (GraphPlan.Joins.edge last)
  exact validate_eq_ok_iff.mpr ⟨rfl, plan_wellFormed, plan_legible, reaches⟩

/-- The task of a node: it calls the tool and writes nothing. -/
def task (key : String) : Task (List Message) where
  node := {
    key
    description := key
    step := Node.toolStep { key, tool := "pass", config := {}, inputs := [], outputs := [] }
      transport }
  seconds := ({} : Settings).nodeTimeoutSeconds

def workflow : Workflow (List Message) :=
  Workflow.joined ⟨plan, [], []⟩ [⟨task "first", []⟩, ⟨task "last", []⟩] []

theorem gives_assemble (script : List Message) :
    (Workflow.assemble {} Newsroom.services (some plan.toSnapshot) (some transport) []).Gives script
      workflow script :=
  Workflow.gives_assemble_iff.mpr ⟨⟨plan, [], []⟩,
    Blueprint.ofSnapshot_eq_ok_iff.mpr ⟨validate_plan, rfl, [], rfl, rfl⟩,
    Workflow.gives_build_iff.mpr ⟨_, _, rfl, [⟨task "first", []⟩, ⟨task "last", []⟩], _, rfl, [],
      rfl, Workflow.join_eq_ok_of_free (by decide +kernel) (by decide +kernel)⟩⟩

theorem hasFixedSteps : workflow.HasFixedSteps := by
  intro task member state
  obtain ⟨part, among, rfl⟩ := Workflow.mem_arrangeTasks member
  rcases List.mem_cons.mp among with rfl | among
  · exact fun _ _ => rfl
  · rw [List.mem_singleton] at among
    subst among
    exact fun _ _ => rfl

end Relay

namespace Workflow

/-- Listed from its end, the relay is the same. -/
theorem relay_of_relisted :
    Relay.plan.toSnapshot.RelistedAs Relay.reversed ∧ Newsroom.services.IsFixed ∧
      (assemble {} Newsroom.services (some Relay.plan.toSnapshot) (some Relay.transport) []).Gives
        [] Relay.workflow [] ∧
      Relay.workflow.HasFixedSteps ∧
      ∃ workflow' after, (assemble {} Newsroom.services (some Relay.reversed)
          (some Relay.transport) []).Gives [] workflow' after ∧
        Relay.workflow.RelistedAs workflow' ∧
        ∀ {limit initial world world' last last' course course'},
          ((Relay.workflow.run limit initial).run world).run = (course, last) →
          ((workflow'.run limit initial).run world').run = (course', last') →
          course'.states = course.states := by
  have gives := Relay.gives_assemble []
  obtain ⟨workflow', after, gives'⟩ : ∃ workflow' after, (assemble {} Newsroom.services
      (some Relay.reversed) (some Relay.transport) []).Gives [] workflow' after :=
    ((assemble_of_relisted Relay.relisted Relay.services_fixed).1 [] []).mp ⟨_, _, gives⟩
  obtain ⟨-, workflow_relisted, runs⟩ :=
    (assemble_of_relisted Relay.relisted Relay.services_fixed).2 gives gives'
  exact ⟨Relay.relisted, Relay.services_fixed, gives, Relay.hasFixedSteps, workflow', after, gives',
    workflow_relisted, fun ran ran' => (runs Relay.hasFixedSteps ran ran').2⟩

end Workflow

end AgentWorkflow
