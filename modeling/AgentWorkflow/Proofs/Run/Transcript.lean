import AgentWorkflow.Proofs.Run.Rounds
import AgentWorkflow.Proofs.Workflow.Staff

/-!
# The conversation of a supervisor

Under a single supervisor the conversation is a transcript of the run. Every pass of the supervisor
adds the marker of its decision, the first pass with the turn of the human before it. Every member
adds the messages by which its agent went on, and no other node adds anything. The count is the
number of passes and the stored decision is the last one. This is shown for one thing that is
written at a time, then for the nodes of a superstep, and then for a run.

## Main definitions

* `Entry`, `Transcript`: what the nodes of a run add to the conversation, one after another
* `Told`: a state holds what a transcript tells
* `Workflow.Tells`: an entry tells what a node did

## Main results

* `Told.apply`: what one node writes adds one entry
* `Workflow.Runs.exists_told`: the states of a run hold what its transcript tells
* `Workflow.assemble_keeps_transcript`: the conversation of every run under a single supervisor
-/

namespace AgentWorkflow

open Node

/-- What a node adds to the conversation: a pass of the supervisor its decision, and with it the
turn of the human or not; any other node its messages, if it has any. -/
inductive Entry
  | passed (turn : Option Message) (decision : String)
  | said (messages : List Value)

/-- The messages that an entry consists of. -/
def Entry.items : Entry → List Value
  | passed turn decision => (turn.toList ++ [Conversation.marker decision]).map .message
  | said messages => messages

/-- The decision that an entry is about. -/
def Entry.decision? : Entry → Option String
  | passed _ decision => some decision
  | said _ => none

/-- What the nodes of a run have added to the conversation, in the order in which they ran. -/
abbrev Transcript := List Entry

namespace Transcript

/-- All messages of a transcript. -/
def items (transcript : Transcript) : List Value := transcript.flatMap Entry.items

/-- All decisions of a transcript. -/
def decisions (transcript : Transcript) : List String := transcript.filterMap Entry.decision?

theorem items_append (first second : Transcript) :
    items (first ++ second) = first.items ++ second.items := List.flatMap_append

theorem decisions_append (first second : Transcript) :
    decisions (first ++ second) = first.decisions ++ second.decisions := List.filterMap_append

end Transcript

/-- Every node that took part in the first supersteps of a run, with the state that it read. -/
def Course.invoked (course : Course) (place : Nat) : List (State × Invocation) :=
  (course.supersteps.take place).flatMap fun superstep =>
    superstep.invocations.map fun invocation => (superstep.input, invocation)

section

variable {schema : Schema} {state other : State} {delta : Delta} {opening : List Value}
  {transcript : Transcript} {entry : Entry} {made : Nat}

/-- A state holds what a transcript tells, after a conversation that it opened with. -/
structure Told (opening : List Value) (state : State) (transcript : Transcript) : Prop where
  /-- The conversation is the one that was there, with the messages of all entries after it. -/
  messages : state.find? messagesKey = none ∧ opening ++ transcript.items = [] ∨
    state.find? messagesKey = some (.list (opening ++ transcript.items))
  /-- The last decision is stored. -/
  decision : state.find? decisionKey = transcript.decisions.getLast?.map .str
  /-- The count is the number of decisions. -/
  iteration : state.find? iterationKey =
    if transcript.decisions = [] then none else some (.int transcript.decisions.length)
  /-- The turn of the human goes with the first decision and no other. -/
  turn : ∀ place turn d, transcript[place]? = some (.passed turn d) →
    (turn.isSome = true ↔ Transcript.decisions (transcript.take place) = [])

/-- The conversation that a node finds is the one that has been told. -/
theorem Told.history (told : Told opening state transcript) :
    history state = .ok (opening ++ transcript.items) := by
  rw [Node.history]
  rcases told.messages with ⟨missing, empty⟩ | held
  · rw [missing, empty]
    rfl
  · rw [held]
    cases all : opening ++ transcript.items with
    | nil => rfl
    | cons first rest => rfl

/-- The count that a supervisor reads is the number of decisions that have been told. -/
theorem Told.readIteration (told : Told opening state transcript) :
    readIteration state = .ok (transcript.decisions.length : Int) := by
  rw [Node.readIteration, told.iteration]
  cases transcript.decisions with
  | nil => rfl
  | cons first rest => rfl

/-- Only three keys matter. -/
theorem Told.congr (told : Told opening state transcript)
    (same : ∀ key ∈ supervisorKeys, other.find? key = state.find? key) :
    Told opening other transcript where
  messages := by
    rw [same messagesKey (by decide)]
    exact told.messages
  decision := by rw [same decisionKey (by decide), told.decision]
  iteration := by rw [same iterationKey (by decide), told.iteration]
  turn := told.turn

/-- What is written adds an entry, given the number of decisions before. -/
structure Entry.WrittenBy (delta : Delta) (made : Nat) (entry : Entry) : Prop where
  messages : delta.valuesUnder messagesKey = [] ∧ entry.items = [] ∨
    delta.valuesUnder messagesKey = [.list entry.items]
  decision : delta.valuesUnder decisionKey = entry.decision?.toList.map .str
  iteration : delta.valuesUnder iterationKey =
    entry.decision?.toList.map fun _ => .int (made + 1)
  turn : ∀ turn d, entry = .passed turn d → (turn.isSome = true ↔ made = 0)

/-- An entry without a decision does not depend on how many there are. -/
theorem Entry.WrittenBy.of_said {made' : Nat} (written : entry.WrittenBy delta made)
    (silent : entry.decision? = none) : entry.WrittenBy delta made' where
  messages := written.messages
  decision := written.decision
  iteration := by
    rw [written.iteration, silent]
    rfl
  turn := by
    rintro turn d rfl
    cases silent

/-- A schema keeps a transcript: the conversation is appended to, and the decision and the count are
overwritten. -/
structure Schema.Keeps (schema : Schema) : Prop where
  messages : Record.find? schema messagesKey = some .append
  decision : Record.find? schema decisionKey = some .overwrite
  iteration : Record.find? schema iterationKey = some .overwrite

theorem Schema.Keeps.find?_arrange (keeps : schema.Keeps) (state : State) :
    ∀ key ∈ supervisorKeys, (schema.arrange state).find? key = state.find? key := by
  intro key own
  have declared : ∃ r, Record.find? schema key = some r := by
    simp only [supervisorKeys, List.mem_cons, List.not_mem_nil, or_false] at own
    rcases own with rfl | rfl | rfl
    · exact ⟨_, keeps.decision⟩
    · exact ⟨_, keeps.iteration⟩
    · exact ⟨_, keeps.messages⟩
  obtain ⟨r, declared⟩ := declared
  rw [Schema.find?_arrange, declared, Option.bind_some]

/-- A run that begins without a decision and with a list of messages or none has an empty
transcript. -/
theorem Schema.Keeps.told_nil (keeps : schema.Keeps) {initial : State}
    (undecided : initial.find? decisionKey = none) (uncounted : initial.find? iterationKey = none)
    (messages : initial.valuesUnder messagesKey = [] ∧ opening = [] ∨
      initial.valuesUnder messagesKey = [.list opening]) :
    Told opening (schema.apply [] initial) [] where
  messages := by
    rw [Schema.find?_apply, keeps.messages]
    dsimp only
    rcases messages with ⟨missing, rfl⟩ | held
    · rw [missing]
      exact Or.inl ⟨rfl, rfl⟩
    · rw [held, Transcript.items, List.flatMap_nil, List.append_nil]
      exact Or.inr rfl
  decision := Schema.find?_apply_of_not_mem (Record.find?_eq_none_iff.mp undecided)
  iteration := Schema.find?_apply_of_not_mem (Record.find?_eq_none_iff.mp uncounted)
  turn := fun _ _ _ here => nomatch here

/-- What one node writes adds one entry. -/
theorem Told.apply (keeps : schema.Keeps) (told : Told opening state transcript)
    (written : entry.WrittenBy delta transcript.decisions.length) :
    Told opening (schema.apply state delta) (transcript ++ [entry]) where
  messages := by
    have all : opening ++ Transcript.items (transcript ++ [entry]) =
        (opening ++ transcript.items) ++ entry.items := by
      rw [Transcript.items_append, ← List.append_assoc]
      simp [Transcript.items]
    rw [all, Schema.find?_apply, keeps.messages]
    dsimp only
    -- a node that adds nothing writes nothing under the key, not the empty list
    rcases written.messages with ⟨nothing, empty⟩ | something
    · rw [nothing, empty, List.append_nil]
      exact told.messages
    · rw [something]
      right
      rcases told.messages with ⟨missing, empty⟩ | held
      · rw [missing, empty]
        rfl
      · rw [held]
        rfl
  decision := by
    rw [Schema.find?_apply, keeps.decision, Transcript.decisions_append]
    dsimp only
    rw [written.decision, Reducer.gather_overwrite, told.decision]
    cases same : entry.decision? <;> simp [Transcript.decisions, same]
  iteration := by
    rw [Schema.find?_apply, keeps.iteration, Transcript.decisions_append]
    dsimp only
    rw [written.iteration, Reducer.gather_overwrite, told.iteration]
    cases same : entry.decision? <;> simp [Transcript.decisions, same]
  turn := by
    intro place turn d here
    rw [List.getElem?_append] at here
    -- an earlier entry has the same entries before it; the new one has all the others
    split_ifs at here with earlier
    · rw [List.take_append_of_le_length (by omega)]
      exact told.turn place turn d here
    · have last : place - transcript.length = 0 := by
        have bound := (List.getElem?_eq_some_iff.mp here).1
        rw [List.length_singleton] at bound
        omega
      have all : place = transcript.length := by omega
      rw [last] at here
      cases here
      rw [all, List.take_left, written.turn turn d rfl, List.length_eq_zero_iff]

end

namespace Workflow

variable {σ : Type} {settings : Settings} {services : Services σ} {snapshot : Option Snapshot}
  {transport : Option (Tool.Transport σ)} {stateKeys : List String} {plan : GraphPlan}
  {blueprint : Blueprint} {workflow : Workflow σ} {input state : State} {delta : Delta}
  {opening : List Value} {active : List String} {superstep : Superstep} {invocation : Invocation}
  {limit place : Nat}
  {course : Course} {transcript : Transcript} {entry : Entry} {before after : σ} {n : PlanNode}
  {config : SupervisorConfig} {respond : Chat.Responder σ}

/-! ### One node -/

/-- An entry tells what a node did that ended well. -/
inductive Tells (services : Services σ) (workflow : Workflow σ) (n : PlanNode)
    (config : SupervisorConfig) (respond : Chat.Responder σ) (input : State)
    (invocation : Invocation) : Entry → Prop
  /-- The supervisor opens: it builds the turn of the human from its input and sends it alone. -/
  | opened {before middle after : σ} {turn reply : Message} {d : String}
      (key_eq : invocation.key = n.key)
      (built : (humanTurn services.prepareImage config.input defaultSupervisorPrompt
        (inputText n.node.inputKey input)).Gives before turn middle)
      (asked : (respond [{ role := .system, content := .str (supervisorSystemMessage
        config.members) }, turn]).Gives middle reply after)
      (decides : decision (SupervisorConfig.label n.key) reply = .ok d)
      (legal : d = finish ∨ d ∈ config.members) :
      Tells services workflow n config respond input invocation (.passed (some turn) d)
  /-- The supervisor goes on: it sends the whole conversation that it read. -/
  | continued {before after : σ} {conversation : List Value} {rest : List Message}
      {reply : Message} {d : String} (key_eq : invocation.key = n.key)
      (kept : history input = .ok conversation) (read : Chat.prompt conversation = .ok rest)
      (asked : (respond ({ role := .system, content := .str (supervisorSystemMessage
        config.members) } :: rest)).Gives before reply after)
      (decides : decision (SupervisorConfig.label n.key) reply = .ok d)
      (legal : d = finish ∨ d ∈ config.members) :
      Tells services workflow n config respond input invocation (.passed none d)
  /-- A member lets its agent go on with the conversation that it read. -/
  | member {before after : σ} {task : Task σ} {agent : Agent.Reasoner σ}
      {conversation result : List Value} (listed : invocation.key ∈ config.members)
      (found : workflow.task? invocation.key = some task)
      (step_eq : task.node.step = memberStep invocation.key agent)
      (kept : history input = .ok conversation)
      (ran : (runAgent (memberLabel invocation.key) agent conversation).Gives before result after) :
      Tells services workflow n config respond input invocation
        (.said (result.drop conversation.length))
  /-- Any other node says nothing. -/
  | other (ne : invocation.key ≠ n.key)
      (silent : ∀ delta, invocation.delta = .ok delta → messagesKey ∉ Record.keys delta) :
      Tells services workflow n config respond input invocation (.said [])

theorem Tells.key_eq (tells : Tells services workflow n config respond input invocation entry)
    (decides : entry.decision? ≠ none) : invocation.key = n.key := by
  cases tells with
  | opened key_eq => exact key_eq
  | continued key_eq => exact key_eq
  | member => exact absurd rfl decides
  | other => exact absurd rfl decides

/-- What a pass of the supervisor writes. -/
theorem writtenBy_of_conclude {c : Consultation} {d : String} {made : Nat}
    (spares : ∀ key ∈ supervisorKeys, n.node.outputKey ≠ some key)
    (counted : c.iteration = made + 1) (turned : c.turn.isSome = true ↔ made = 0)
    (concluded : conclude n.node config c = .ok delta)
    (decides : decision (SupervisorConfig.label n.key) c.reply = .ok d) :
    Entry.WrittenBy delta made (.passed c.turn d) := by
  have nodup := keys_nodup_of_conclude concluded
  obtain ⟨d', decides', -, added⟩ := conclude_eq_ok_iff.mp concluded
  obtain rfl : d' = d := Except.ok.inj (decides'.symm.trans decides)
  have held : ∀ key ∈ supervisorKeys, delta.valuesUnder key =
      ((decisionDelta c.iteration d' c.turn).find? key).toList := by
    intro key own
    rw [Record.valuesUnder_of_nodup nodup, find?_of_addAnswer_of_ne added (spares key own)]
  constructor
  · right
    rw [held messagesKey (by decide)]
    rfl
  · rw [held decisionKey (by decide)]
    rfl
  · rw [held iterationKey (by decide), ← counted]
    rfl
  · intro turn d same
    cases same
    exact turned

/-- Every node that ends well is told by an entry, and writes what the entry says. -/
theorem exists_tells (staff : ∀ task ∈ workflow.tasks, StaffOf services n config task)
    (task : workflow.task? n.key = some (supervisorTask services.prepareImage n config respond))
    (spares : ∀ key ∈ supervisorKeys, n.node.outputKey ≠ some key)
    (records : workflow.Records superstep) (told : Told opening superstep.input transcript)
    (member : invocation ∈ superstep.invocations) {targets : List Target}
    (ended : invocation.outcome = .ok (delta, targets)) :
    ∃ entry, Tells services workflow n config respond superstep.input invocation entry ∧
      entry.WrittenBy delta transcript.decisions.length := by
  obtain ⟨begun, before, after, found, gives⟩ := records.exists_gives member ended
  have key_eq := key_of_task? found
  cases staff begun (mem_of_task? found) with
  | supervisor respond' task_eq =>
    have same : invocation.key = n.key := by
      rw [← key_eq, task_eq]
      rfl
    rw [same, task] at found
    cases found
    -- the count that it read is the number of decisions told so far: it opens if there are none
    obtain ⟨c, consulted, concluded⟩ := gives_supervisorStep_iff.mp gives
    obtain ⟨made, read, -, counted, kept, middle, opened, asked⟩ := gives_consult_iff.mp consulted
    obtain rfl : (transcript.decisions.length : Int) = made :=
      Except.ok.inj (told.readIteration.symm.trans read)
    obtain ⟨d, decides, legal, -⟩ := conclude_eq_ok_iff.mp concluded
    rw [counted, gives_openingTurn_iff] at opened
    refine ⟨.passed c.turn d, ?_, writtenBy_of_conclude spares counted ?_ concluded decides⟩
    · rcases opened with ⟨-, human, turned, built⟩ | ⟨-, turned, rfl⟩
      · rw [turned] at asked ⊢
        exact .opened same built (gives_askModel_some_iff.mp asked) decides legal
      · rw [turned] at asked ⊢
        obtain ⟨rest, read, asked⟩ := gives_askModel_none_iff.mp asked
        exact .continued same kept read asked decides legal
    · rcases opened with ⟨first, human, turned, -⟩ | ⟨later, turned, -⟩
      · simp [first, turned]
      · simp [later, turned]
  | member agent listed step_eq =>
    rw [key_eq] at listed step_eq
    rw [step_eq] at gives
    obtain ⟨conversation, result, _, kept, ran, wrote⟩ := exists_of_gives_memberStep gives
    refine ⟨.said (result.drop conversation.length), .member listed found ?_ kept ran, ?_⟩
    · exact step_eq
    · rcases wrote with ⟨nothing, rfl⟩ | ⟨-, rfl⟩
      · exact ⟨Or.inl ⟨rfl, nothing⟩, rfl, rfl, fun _ _ same => nomatch same⟩
      · exact ⟨Or.inr rfl, rfl, rfl, fun _ _ same => nomatch same⟩
  | other ne writes =>
    rw [key_eq] at ne
    -- whatever else it writes, it leaves the keys of the supervisor alone
    have free : ∀ key ∈ supervisorKeys, delta.valuesUnder key = [] := fun key own =>
      Record.valuesUnder_eq_nil_iff.mpr fun written => writes gives key written own
    refine ⟨.said [], .other ne ?_, ?_⟩
    · intro delta' same written
      rw [Invocation.delta, ended] at same
      cases same
      exact writes gives messagesKey written (by decide)
    · constructor
      · exact Or.inl ⟨free messagesKey (by decide), rfl⟩
      · exact free decisionKey (by decide)
      · exact free iterationKey (by decide)
      · intro turn d same
        cases same

/-! ### Supersteps and runs -/

/-- The nodes that end well one after another, of which the supervisor is one at most, add one entry
each. All of them read the state that the superstep began with, so the supervisor counts on from the
decisions made before. -/
theorem exists_told_of_forall (keeps : workflow.schema.Keeps)
    (told : Told opening state transcript) {made : Nat} {invocations : List Invocation}
    (distinct : (invocations.map Invocation.key).Nodup)
    (fresh : n.key ∈ invocations.map Invocation.key → transcript.decisions.length = made)
    (tells : ∀ invocation ∈ invocations, ∃ delta targets entry,
      invocation.outcome = .ok (delta, targets) ∧
        Tells services workflow n config respond input invocation entry ∧
          Entry.WrittenBy delta made entry) :
    ∃ more, List.Forall₂ (Tells services workflow n config respond input) invocations more ∧
      Told opening ((Superstep.deltas ⟨input, invocations⟩).foldl workflow.schema.apply state)
        (transcript ++ more) := by
  -- `made` stays what it was while the transcript grows: only the supervisor, which comes once,
  -- counts on from it, and whoever comes before it adds no decision
  induction invocations generalizing state transcript with
  | nil => exact ⟨[], .nil, by rwa [List.append_nil]⟩
  | cons invocation invocations ih =>
    rw [List.map_cons, List.nodup_cons] at distinct
    obtain ⟨delta, targets, entry, ended, tells_entry, written⟩ :=
      tells invocation List.mem_cons_self
    have first : Told opening (workflow.schema.apply state delta) (transcript ++ [entry]) := by
      refine told.apply keeps ?_
      cases passes : entry.decision? with
      | none => exact written.of_said passes
      | some d =>
        have same := tells_entry.key_eq (by simp [passes])
        rwa [fresh (by simp [same])]
    have later : n.key ∈ invocations.map Invocation.key →
        Transcript.decisions (transcript ++ [entry]) = transcript.decisions := by
      intro among
      rw [Transcript.decisions_append]
      cases passes : entry.decision? with
      | none => simp [Transcript.decisions, passes]
      | some d =>
        have same := tells_entry.key_eq (by simp [passes])
        exact absurd (same ▸ among) distinct.1
    obtain ⟨more, forall_tells, all⟩ := ih first distinct.2
      (fun among => by rw [later among]; exact fresh (List.mem_cons_of_mem _ among))
      fun i member => tells i (List.mem_cons_of_mem _ member)
    have deltas : Superstep.deltas ⟨input, invocation :: invocations⟩ =
        delta :: Superstep.deltas ⟨input, invocations⟩ := by
      rw [Superstep.deltas, List.filterMap_cons, ended]
      rfl
    refine ⟨entry :: more, .cons tells_entry forall_tells, ?_⟩
    rw [deltas, List.foldl_cons, List.append_cons]
    exact all

theorem Takes.exists_told (keeps : workflow.schema.Keeps)
    (staff : ∀ task ∈ workflow.tasks, StaffOf services n config task)
    (task : workflow.task? n.key = some (supervisorTask services.prepareImage n config respond))
    (spares : ∀ key ∈ supervisorKeys, n.node.outputKey ≠ some key)
    (takes : workflow.Takes active state before superstep after)
    (passed : superstep.failure? = none) (told : Told opening state transcript) :
    ∃ more, List.Forall₂ (Tells services workflow n config respond superstep.input)
        superstep.invocations more ∧
      Told opening (superstep.deltas.foldl workflow.schema.apply state) (transcript ++ more) := by
  have records := takes.records
  have input : Told opening superstep.input transcript := by
    rw [takes.input_eq]
    exact told.congr (keeps.find?_arrange state)
  refine exists_told_of_forall keeps told records.keys_nodup (fun _ => rfl) ?_
  intro invocation member
  obtain ⟨⟨delta, targets⟩, ended⟩ := Superstep.exists_of_failure?_eq_none passed member
  obtain ⟨entry, tells, written⟩ := exists_tells staff task spares records input member ended
  exact ⟨delta, targets, entry, ended, tells, written⟩

/-- The states of a run hold what its transcript tells. -/
theorem Runs.exists_told (keeps : workflow.schema.Keeps)
    (staff : ∀ task ∈ workflow.tasks, StaffOf services n config task)
    (task : workflow.task? n.key = some (supervisorTask services.prepareImage n config respond))
    (spares : ∀ key ∈ supervisorKeys, n.node.outputKey ≠ some key)
    (runs : workflow.Runs limit active state before course after)
    (told : Told opening state transcript) {held : State}
    (here : course.states[place]? = some held) :
    ∃ more, List.Forall₂ (fun pair => Tells services workflow n config respond pair.1 pair.2)
        (course.invoked place) more ∧
      Told opening held (transcript ++ more) := by
  induction runs generalizing place held transcript with
  | exhausted => cases here
  | finished =>
    -- the first state of a run is the one it begins with, put in the order of the schema
    cases place with
    | zero =>
      cases here
      exact ⟨[], .nil, by simpa using told.congr (keeps.find?_arrange _)⟩
    | succ place => cases here
  | failed _ takes _ =>
    cases place with
    | zero =>
      cases here
      rw [takes.input_eq]
      exact ⟨[], .nil, by simpa using told.congr (keeps.find?_arrange _)⟩
    | succ place => cases here
  | @continued _ _ _ _ _ _ superstep course _ takes passed _ ih =>
    cases place with
    | zero =>
      cases here
      rw [takes.input_eq]
      exact ⟨[], .nil, by simpa using told.congr (keeps.find?_arrange _)⟩
    | succ place =>
      obtain ⟨first, tells, told⟩ := takes.exists_told keeps staff task spares passed told
      obtain ⟨more, rest, told⟩ := ih told here
      refine ⟨first ++ more, ?_, by rwa [← List.append_assoc]⟩
      have here : List.Forall₂ (fun pair => Tells services workflow n config respond pair.1 pair.2)
          (superstep.invocations.map fun invocation => (superstep.input, invocation)) first :=
        List.forall₂_map_left_iff.mpr tells
      exact List.rel_append here rest

/-! ### Assembled workflows -/

/-- With a single supervisor the schema keeps the transcript. -/
theorem keeps_schema_joined (drawn : Blueprint.ofSnapshot settings snapshot = .ok blueprint)
    (supervised : blueprint.plan.SupervisedBy settings n config) {parts : List (Part σ)} :
    (joined blueprint parts stateKeys).schema.Keeps := by
  have has : blueprint.plan.HasSupervisor :=
    ⟨n, supervised.node, supervised.supervises.type_eq⟩
  have entry := (Blueprint.faithful_of_ofSnapshot drawn).mem_supervision_iff.mpr
    ⟨n, supervised.node, rfl, supervised.supervises⟩
  have overwritten : ∀ key ∈ [decisionKey, iterationKey],
      Record.find? (joined blueprint parts stateKeys).schema key = some .overwrite := by
    intro key own
    have others : ∀ key ∈ [decisionKey, iterationKey], key ≠ messagesKey := by decide
    refine find?_schema_joined_of_not_appends drawn
      (Schema.mem_keys_build.mpr (Or.inr (mem_furtherKeys_of_supervision entry own))) ?_
    rintro (declares | ⟨same, -⟩)
    · exact supervised.plain key own declares
    · exact others key own same
  exact {
    messages := find?_schema_joined_of_appends drawn (Or.inr ⟨rfl, has⟩)
    decision := overwritten decisionKey (by decide)
    iteration := overwritten iterationKey (by decide) }

/-- In every run of a workflow with a single supervisor that could be assembled, if nothing else is
written under the supervisor's keys and the run begins without its decisions and with a list of
messages or none, there is a transcript with one entry for every node that has run, in their order.
The conversation is what there was and what the transcript tells: the marker of every decision, the
turn of the human before the first of them, what the members added, and nothing else. The stored
decision is the last one, the count is their number, and by it goes the supervisor. -/
theorem assemble_keeps_transcript
    (assembled : (assemble settings services snapshot transport stateKeys).Gives before workflow
      after)
    (valid : validate snapshot = .ok plan) (supervised : plan.SupervisedBy settings n config) :
    ∃ respond,
      workflow.task? n.key = some (supervisorTask services.prepareImage n config respond) ∧
      ∀ limit initial opening before course after,
        initial.find? decisionKey = none → initial.find? iterationKey = none →
        (initial.valuesUnder messagesKey = [] ∧ opening = [] ∨
          initial.valuesUnder messagesKey = [.list opening]) →
        ((workflow.run limit initial).run before).run = (course, after) →
          ∀ place state, course.states[place]? = some state → ∃ transcript : Transcript,
            List.Forall₂ (fun pair => Tells services workflow n config respond pair.1 pair.2)
              (course.invoked place) transcript ∧
            Told opening state transcript ∧
            GoesBy services.prepareImage n.node config respond state
              transcript.decisions.length := by
  obtain ⟨blueprint, drawn, built⟩ := gives_assemble_iff.mp assembled
  have faithful := Blueprint.faithful_of_ofSnapshot drawn
  obtain rfl : blueprint.plan = plan :=
    Except.ok.inj ((Blueprint.ofSnapshot_eq_ok_iff.mp drawn).1.symm.trans valid)
  obtain ⟨respond, task⟩ :=
    exists_task?_of_supervises faithful built supervised.node supervised.supervises
  obtain ⟨parts, rfl, staff⟩ := exists_eq_joined_staffOf faithful supervised built
  have keeps : (joined blueprint parts stateKeys).schema.Keeps :=
    keeps_schema_joined drawn supervised
  refine ⟨respond, task, ?_⟩
  intro limit initial opening before course after undecided uncounted messages ran place state here
  -- the run begins with an empty transcript, and every superstep adds to it
  have begins := keeps.told_nil undecided uncounted messages
  rcases run_eq_iff.mp ran with ⟨-, rfl, -⟩ | ⟨-, runs⟩
  · cases here
  · obtain ⟨transcript, tells, told⟩ := runs.exists_told keeps staff task
      (fun key own => (supervised.spares key own n supervised.node).1) begins here
    exact ⟨transcript, tells, told, goesBy_of_readIteration told.readIteration⟩

/-- The bureau keeps a transcript. -/
theorem bureau_keeps_transcript :
    ∃ workflow, (assemble {} Newsroom.services (some Newsroom.bureau.toSnapshot) none []).Gives []
        workflow [] ∧
      validate (some Newsroom.bureau.toSnapshot) = .ok Newsroom.bureau ∧
      Newsroom.bureau.SupervisedBy {} (Newsroom.supervisor "lead" "writer")
        (Newsroom.config "writer") ∧
      ∃ respond, workflow.task? "lead" =
          some (supervisorTask Newsroom.services.prepareImage (Newsroom.supervisor "lead" "writer")
            (Newsroom.config "writer") respond) ∧
        ∀ limit initial opening before course after,
          initial.find? decisionKey = none → initial.find? iterationKey = none →
          (initial.valuesUnder messagesKey = [] ∧ opening = [] ∨
            initial.valuesUnder messagesKey = [.list opening]) →
          ((workflow.run limit initial).run before).run = (course, after) →
            ∀ place state, course.states[place]? = some state → ∃ transcript : Transcript,
              List.Forall₂ (fun pair => Tells Newsroom.services workflow
                (Newsroom.supervisor "lead" "writer") (Newsroom.config "writer") respond pair.1
                  pair.2) (course.invoked place) transcript ∧
              Told opening state transcript ∧
              GoesBy Newsroom.services.prepareImage (Newsroom.supervisor "lead" "writer").node
                (Newsroom.config "writer") respond state transcript.decisions.length := by
  obtain ⟨workflow, assembled⟩ := Newsroom.exists_gives_assemble_bureau []
  have valid := Newsroom.validate_bureau
  have supervised := Newsroom.bureau_supervised
  exact ⟨workflow, assembled, valid, supervised,
    assemble_keeps_transcript assembled valid supervised⟩

end Workflow

end AgentWorkflow
