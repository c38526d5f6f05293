import AgentWorkflow.Proofs.Node.Writes
import AgentWorkflow.Proofs.Run.History
import AgentWorkflow.Proofs.State.Merging

/-!
# Members that go on with a conversation

A member reads the conversation as a list of messages, and cuts as many messages off what its agent
gives back. What is left is appended to the conversation by the schema, which sees the same value as
a list of items. The two ways of reading a conversation are the same, so nothing is repeated and
nothing is lost. All members of a superstep cut off the conversation that the superstep read, and
what they have left is appended one after another, in the order of their keys.

## Main definitions

* `HoldsConversation`: the conversations that a state may hold
* `Agent.Reasoner.Continues`: an agent gives back as many messages as it was given, or more
* `Invocation.messages`: what a node adds to the conversation in a superstep

## Main results

* `Node.exists_added_of_gives_memberStep`: what a member writes is what its agent added
* `Superstep.items_leaves`: the conversation that a superstep leaves
* `Workflow.members_append`: members append what is new, each in its turn
-/

namespace AgentWorkflow

section

variable {σ : Type} {workflow : Workflow σ} {schema : Schema} {state : State} {delta : Delta}
  {h : List Value} {key : String} {superstep : Superstep} {active : List String}
  {agent : Agent.Reasoner σ} {before after : σ}

/-! ### Conversations -/

/-- A state holds a conversation: nothing or null for an empty one, or a list or a tuple. -/
inductive HoldsConversation (state : State) : List Value → Prop
  | absent (found : state.find? messagesKey = none) : HoldsConversation state []
  | null (found : state.find? messagesKey = some .null) : HoldsConversation state []
  | list {h : List Value} (found : state.find? messagesKey = some (.list h)) :
      HoldsConversation state h
  | tuple {h : List Value} (found : state.find? messagesKey = some (.tuple h)) :
      HoldsConversation state h

namespace HoldsConversation

/-- It is the conversation that members read. -/
theorem history_eq (holds : HoldsConversation state h) : Node.history state = .ok h := by
  cases holds with
  | absent found | null found =>
    rw [Node.history, found]
    rfl
  | list found | tuple found =>
    rw [Node.history, found, Option.getD_some]
    -- an empty list counts as nothing, and nothing is an empty conversation
    cases h <;> rfl

/-- It is the conversation that messages are appended to. -/
theorem asItems_eq (holds : HoldsConversation state h) :
    ((state.find? messagesKey).getD .null).asItems = h := by
  cases holds with
  | absent found | null found | list found | tuple found =>
    rw [found]
    rfl

theorem congr {other : State} (holds : HoldsConversation state h)
    (same : other.find? messagesKey = state.find? messagesKey) : HoldsConversation other h := by
  cases holds with
  | absent found => exact .absent (same.trans found)
  | null found => exact .null (same.trans found)
  | list found => exact .list (same.trans found)
  | tuple found => exact .tuple (same.trans found)

/-- The first list that is appended makes a list of the conversation. -/
theorem gather_list (holds : HoldsConversation state h) (added : List Value) :
    Reducer.gather .append (state.find? messagesKey) [.list added] = some (.list (h ++ added)) := by
  cases holds with
  | absent found | null found | list found | tuple found =>
    rw [found]
    rfl

/-- Lists that are appended stand after the conversation in their order. -/
theorem gather_lists (holds : HoldsConversation state h) {lists : List (List Value)}
    (some_added : lists ≠ []) :
    Reducer.gather .append (state.find? messagesKey) (lists.map .list) =
      some (.list (h ++ lists.flatten)) := by
  induction lists using List.reverseRecOn with
  | nil => exact absurd rfl some_added
  | append_singleton lists added ih =>
    rw [List.map_append, List.map_singleton, List.flatten_concat]
    -- the first list makes a list of the conversation, the others find it made
    by_cases first : lists = []
    · subst first
      exact holds.gather_list added
    · rw [Reducer.gather_append, ih first, ← List.append_assoc]
      rfl

end HoldsConversation

/-! ### Steps of members -/

/-- An agent gives back as many messages as it was given, written anew, and then what it added. -/
def Agent.Reasoner.Continues (agent : Agent.Reasoner σ) (h : List Value) : Prop :=
  ∀ {before result after}, (agent.run h).Gives before result after →
    ∃ encoded added, encoded.length = h.length ∧ result = encoded ++ added

namespace Node

/-- What a member writes is what its agent added, if anything. -/
theorem exists_added_of_gives_memberStep (holds : HoldsConversation state h)
    (continues : agent.Continues h)
    (gives : (memberStep key agent state).Gives before delta after) :
    ∃ encoded added middle, encoded.length = h.length ∧
      (agent.run h).Gives before (encoded ++ added) middle ∧
      (added = [] ∧ delta = [] ∨ added ≠ [] ∧ delta = [(messagesKey, .list added)]) := by
  obtain ⟨conversation, result, middle, kept, ran, written⟩ := exists_of_gives_memberStep gives
  rw [holds.history_eq] at kept
  cases kept
  have ran : (agent.run h).Gives before result middle := Act.gives_describe_iff.mp ran
  obtain ⟨encoded, added, same_length, rfl⟩ := continues ran
  -- the messages that are cut off are those that the agent wrote anew
  have cut : (encoded ++ added).drop h.length = added := by rw [← same_length, List.drop_left]
  rw [cut] at written
  exact ⟨encoded, added, middle, same_length, ran, written⟩

/-- What a member writes is appended to the conversation, and changes nothing else. -/
theorem find?_apply_of_member (appends : Record.find? schema messagesKey = some .append)
    (holds : HoldsConversation state h) {added : List Value}
    (written : added = [] ∧ delta = [] ∨ added ≠ [] ∧ delta = [(messagesKey, .list added)]) :
    (added = [] → schema.apply state delta = state) ∧
      (added ≠ [] → (schema.apply state delta).find? messagesKey = some (.list (h ++ added))) ∧
      ∀ other, other ≠ messagesKey →
        (schema.apply state delta).find? other = state.find? other := by
  rcases written with ⟨rfl, rfl⟩ | ⟨some_added, rfl⟩
  · exact ⟨fun _ => rfl, fun impossible => absurd rfl impossible, fun _ _ => rfl⟩
  · refine ⟨fun none_added => absurd none_added some_added, fun _ => ?_, fun other ne => ?_⟩
    · rw [Schema.find?_apply, appends]
      exact holds.gather_list added
    · exact Schema.find?_apply_of_not_mem (by simpa [Record.keys] using ne)

end Node

/-! ### Supersteps -/

/-- The values that a node writes to the conversation. -/
def Invocation.additions (invocation : Invocation) : List Value :=
  match invocation.outcome with
  | .ok (delta, _) => Record.valuesUnder delta messagesKey
  | .error _ => []

/-- The messages that a node adds to the conversation. -/
def Invocation.messages (invocation : Invocation) : List Value :=
  invocation.additions.flatMap Value.asItems

namespace Superstep

theorem valuesUnder_deltas (superstep : Superstep) :
    Record.valuesUnder superstep.deltas.flatten messagesKey =
      superstep.invocations.flatMap Invocation.additions := by
  obtain ⟨input, invocations⟩ := superstep
  simp only [deltas]
  induction invocations with
  | nil => rfl
  | cons invocation invocations ih =>
    rw [List.flatMap_cons, Invocation.additions, ← ih]
    rcases ended : invocation.outcome with failure | ⟨delta, targets⟩
    -- a node that failed is left out of the deltas, and adds nothing
    · rw [List.filterMap_cons_none (by rw [ended]; rfl)]
      rfl
    · rw [List.filterMap_cons_some (by rw [ended]; rfl), List.flatten_cons,
        Record.valuesUnder_append]

/-- What a superstep leaves of the conversation. -/
theorem find?_leaves (appends : Record.find? schema messagesKey = some .append)
    (superstep : Superstep) :
    (superstep.leaves schema).find? messagesKey =
      Reducer.gather .append (superstep.input.find? messagesKey)
        (superstep.invocations.flatMap Invocation.additions) := by
  rw [leaves, Schema.foldl_apply, Schema.find?_arrange_apply appends, valuesUnder_deltas]

/-- The conversation that a superstep leaves is the one that it read, with what the nodes add. -/
theorem items_leaves (appends : Record.find? schema messagesKey = some .append)
    (holds : HoldsConversation superstep.input h) :
    (((superstep.leaves schema).find? messagesKey).getD .null).asItems =
      h ++ superstep.invocations.flatMap Invocation.messages := by
  rw [find?_leaves appends, Reducer.asItems_gather_append, holds.asItems_eq, List.flatMap_assoc]
  rfl

/-- If every node adds a list of messages or nothing, nothing but lists are appended. -/
theorem exists_lists {invocations : List Invocation}
    (lists : ∀ invocation ∈ invocations, invocation.additions = [] ∨
      ∃ added, added ≠ [] ∧ invocation.additions = [.list added]) :
    ∃ added : List (List Value), invocations.flatMap Invocation.additions = added.map .list ∧
      invocations.flatMap Invocation.messages = added.flatten ∧ [] ∉ added := by
  induction invocations with
  | nil => exact ⟨[], rfl, rfl, List.not_mem_nil⟩
  | cons invocation invocations ih =>
    obtain ⟨here, later⟩ := List.forall_mem_cons.mp lists
    obtain ⟨rest, additions_eq, messages_eq, nonempty⟩ := ih later
    rw [List.flatMap_cons, List.flatMap_cons, additions_eq, messages_eq, Invocation.messages]
    rcases here with none_added | ⟨added, some_added, one⟩
    · rw [none_added]
      exact ⟨rest, rfl, rfl, nonempty⟩
    · rw [one]
      refine ⟨added :: rest, rfl, by simp, ?_⟩
      simpa using ⟨some_added, nonempty⟩

end Superstep

/-- A node of a workflow is a member, which goes on with its agent. -/
def Task.IsMember (task : Task σ) (agent : Agent.Reasoner σ) : Prop :=
  task.node.step = Node.memberStep task.key agent

namespace Workflow

variable {invocation : Invocation} {task : Task σ}

/-- A member of a superstep adds what its agent added to the conversation. -/
theorem Takes.exists_added (takes : workflow.Takes active state before superstep after)
    (passed : superstep.failure? = none) (holds : HoldsConversation superstep.input h)
    (among : invocation ∈ superstep.invocations)
    (found : workflow.task? invocation.key = some task) (member : task.IsMember agent)
    (continues : agent.Continues h) :
    ∃ encoded added world later, encoded.length = h.length ∧
      (agent.run h).Gives world (encoded ++ added) later ∧
      (added = [] ∧ invocation.additions = [] ∨
        added ≠ [] ∧ invocation.additions = [.list added]) := by
  obtain ⟨⟨delta, targets⟩, ended⟩ := Superstep.exists_of_failure?_eq_none passed among
  obtain ⟨task', world, _, found', gives⟩ := takes.records.exists_gives among ended
  rw [found] at found'
  cases found'
  rw [Task.IsMember] at member
  rw [member] at gives
  obtain ⟨encoded, added, later, same_length, ran, written⟩ :=
    Node.exists_added_of_gives_memberStep holds continues gives
  refine ⟨encoded, added, world, later, same_length, ran, ?_⟩
  rw [Invocation.additions, ended]
  rcases written with ⟨none_added, rfl⟩ | ⟨some_added, rfl⟩
  · exact Or.inl ⟨none_added, rfl⟩
  · exact Or.inr ⟨some_added, rfl⟩

/-- A node that leaves the conversation alone adds nothing to it. -/
theorem Takes.additions_eq_nil (takes : workflow.Takes active state before superstep after)
    (passed : superstep.failure? = none) (among : invocation ∈ superstep.invocations)
    (found : workflow.task? invocation.key = some task)
    (silent : Node.WritesOnly task.node.step (· ≠ messagesKey)) : invocation.additions = [] := by
  obtain ⟨⟨delta, targets⟩, ended⟩ := Superstep.exists_of_failure?_eq_none passed among
  obtain ⟨task', _, _, found', gives⟩ := takes.records.exists_gives among ended
  rw [found] at found'
  cases found'
  rw [Invocation.additions, ended]
  exact Record.valuesUnder_eq_nil_iff.mpr fun written => silent gives _ written rfl

/-- **Members append what is new.** What a member adds stands after the conversation, and nothing
is written if it adds nothing. The members of a superstep are added in the order of their keys. -/
theorem members_append {h : List Value} :
    (∀ {σ : Type} (agent : Agent.Reasoner σ) (key : String) (schema : Schema) (state : State)
      (delta : Delta) (before after : σ),
      Record.find? schema messagesKey = some .append → HoldsConversation state h →
      agent.Continues h → (Node.memberStep key agent state).Gives before delta after →
        ∃ encoded added middle, encoded.length = h.length ∧
          (agent.run h).Gives before (encoded ++ added) middle ∧
          (added = [] → schema.apply state delta = state) ∧
          (added ≠ [] →
            (schema.apply state delta).find? messagesKey = some (.list (h ++ added))) ∧
          ∀ other, other ≠ messagesKey →
            (schema.apply state delta).find? other = state.find? other) ∧
    ∀ {σ : Type} (workflow : Workflow σ) (active : List String) (state : State)
      (superstep : Superstep) (before after : σ),
      Record.find? workflow.schema messagesKey = some .append → HoldsConversation state h →
      workflow.Takes active state before superstep after → superstep.failure? = none →
        superstep.invocations.map Invocation.key =
            ((Text.sortedSet active).filter fun key => (workflow.task? key).isSome) ∧
          (superstep.invocations.map Invocation.key).Pairwise (· < ·) ∧
          (∀ invocation ∈ superstep.invocations, ∀ task agent,
            workflow.task? invocation.key = some task → task.IsMember agent → agent.Continues h →
              ∃ encoded world later, encoded.length = h.length ∧
                (agent.run h).Gives world (encoded ++ invocation.messages) later) ∧
          (((superstep.leaves workflow.schema).find? messagesKey).getD .null).asItems =
            h ++ superstep.invocations.flatMap Invocation.messages ∧
          ((∀ invocation ∈ superstep.invocations, ∀ task,
              workflow.task? invocation.key = some task →
                (∃ agent, task.IsMember agent ∧ agent.Continues h) ∨
                  Node.WritesOnly task.node.step (· ≠ messagesKey)) →
            (superstep.leaves workflow.schema).find? messagesKey =
              if superstep.invocations.flatMap Invocation.messages = [] then
                state.find? messagesKey
              else some (.list (h ++ superstep.invocations.flatMap Invocation.messages))) := by
  constructor
  · intro σ agent key schema state delta before after appends holds continues gives
    obtain ⟨encoded, added, middle, same_length, ran, written⟩ :=
      Node.exists_added_of_gives_memberStep holds continues gives
    exact ⟨encoded, added, middle, same_length, ran,
      Node.find?_apply_of_member appends holds written⟩
  · intro σ workflow active state superstep before after appends holds takes passed
    -- every member cuts off the same conversation, since the schema carries it to all of them
    have input_eq : superstep.input.find? messagesKey = state.find? messagesKey := by
      rw [takes.input_eq, Schema.find?_arrange, appends, Option.bind_some]
    have holds_input : HoldsConversation superstep.input h := holds.congr input_eq
    have ran : ∀ invocation ∈ superstep.invocations, ∀ task agent,
        workflow.task? invocation.key = some task → task.IsMember agent → agent.Continues h →
          ∃ encoded added world later, encoded.length = h.length ∧
            (agent.run h).Gives world (encoded ++ added) later ∧
            (added = [] ∧ invocation.additions = [] ∨
              added ≠ [] ∧ invocation.additions = [.list added]) :=
      fun invocation among task agent found member continues =>
        takes.exists_added passed holds_input among found member continues
    refine ⟨takes.keys_eq, ?ordered, ?added, Superstep.items_leaves appends holds_input, ?exactly⟩
    case ordered =>
      rw [takes.keys_eq]
      exact (Text.pairwise_sortedSet _).filter _
    case added =>
      intro invocation among task agent found member continues
      obtain ⟨encoded, added, world, later, same_length, gives, adds⟩ :=
        ran invocation among task agent found member continues
      have messages_eq : invocation.messages = added := by
        rcases adds with ⟨rfl, adds⟩ | ⟨-, adds⟩
        · rw [Invocation.messages, adds, List.flatMap_nil]
        · rw [Invocation.messages, adds, List.flatMap_singleton, Value.asItems_list]
      rw [messages_eq]
      exact ⟨encoded, world, later, same_length, gives⟩
    case exactly =>
      intro lists
      obtain ⟨added, additions_eq, messages_eq, nonempty⟩ := Superstep.exists_lists
        fun invocation among => by
          obtain ⟨written, ended⟩ := Superstep.exists_of_failure?_eq_none passed among
          obtain ⟨task, _, _, found, -⟩ := takes.records.exists_gives among ended
          rcases lists invocation among task found with ⟨agent, member, continues⟩ | silent
          · obtain ⟨_, added, _, _, -, -, ⟨-, adds⟩ | ⟨some_added, adds⟩⟩ :=
              ran invocation among task agent found member continues
            · exact Or.inl adds
            · exact Or.inr ⟨added, some_added, adds⟩
          · exact Or.inl (takes.additions_eq_nil passed among found silent)
      rw [Superstep.find?_leaves appends, additions_eq, messages_eq, input_eq]
      split_ifs with none_added
      · have empty : added = [] := by
          cases added with
          | nil => rfl
          | cons first rest =>
            -- a list that is empty would not have been added
            rw [List.flatten_cons, List.append_eq_nil_iff] at none_added
            exact absurd (none_added.1 ▸ List.mem_cons_self) nonempty
        rw [empty]
        rfl
      · exact holds.gather_lists fun empty => none_added (by rw [empty]; rfl)

end Workflow

end

/-! ### Two members at once

A choir has two members, and each of them adds one message to a conversation that was begun. -/

namespace Choir

/-- What a voice sings. -/
def line (voice : String) : Value :=
  .message { role := .ai, content := .str voice }

/-- What a voice writes. -/
def part (voice : String) : Delta := [(messagesKey, .list [line voice])]

/-- An agent that adds one message. -/
def singer (voice : String) : Agent.Reasoner Unit where
  run h := pure (h ++ [line voice])

/-- The task of a member. -/
def task (voice : String) : Task Unit where
  node := {
    key := voice
    description := "Supervisor member worker: " ++ voice
    step := Node.memberStep voice (singer voice) }
  seconds := ({} : Settings).memberTimeoutSeconds

def workflow : Workflow Unit where
  entry := "bass"
  tasks := [task "bass", task "alto"]
  edges := [⟨"bass", .finish⟩, ⟨"alto", .finish⟩]
  routes := []
  schema := [(messagesKey, .append)]

/-- The conversation was begun as a tuple. -/
def begun : State := [(messagesKey, .tuple [line "tenor"])]

theorem continues (voice : String) (h : List Value) : (singer voice).Continues h := by
  intro before result after gives
  cases gives
  exact ⟨h, [line voice], rfl, rfl⟩

/-- A voice that does not break off is heard. -/
theorem gives_step {voice : String}
    (complete : (Node.finalText (Node.memberLabel voice) [line voice]).Gives () (.str voice) ()) :
    ((task voice).node.step begun).Gives () (part voice) () :=
  Act.gives_bind_iff.mpr ⟨[line "tenor"], (), rfl, Act.gives_bind_iff.mpr
    ⟨[line "tenor", line voice], (), rfl, Act.gives_bind_iff.mpr ⟨.str voice, (), complete, rfl⟩⟩⟩

def superstep : Superstep where
  input := begun
  invocations :=
    [⟨"alto", .ok (part "alto", [.finish])⟩, ⟨"bass", .ok (part "bass", [.finish])⟩]

theorem takes : workflow.Takes ["bass", "alto"] begun () superstep () := by
  have timely : Node.isPast ({} : Settings).memberTimeoutSeconds = false := by decide
  have invoked {voice : String} (gives : ((task voice).node.step begun).Gives () (part voice) ())
      (leads : workflow.targets voice = [.finish]) :
      (workflow.invoke begun (task voice)).outcome () = (.ok (part voice, [.finish]), ()) :=
    Workflow.outcome_invoke_of_gives timely gives (congrArg Except.ok leads)
  have both : Text.sortedSet ["bass", "alto"] = ["alto", "bass"] :=
    Text.sortedSet_eq_of_perm (by decide +kernel) (.swap _ _ _) (by decide +kernel)
  refine Workflow.takes_iff.mpr
    ⟨[(task "alto", .ok (part "alto", [.finish])), (task "bass", .ok (part "bass", [.finish]))],
      ?_, rfl⟩
  rw [both]
  exact .cons (invoked (gives_step rfl) (by decide +kernel))
    (.cons (invoked (gives_step rfl) (by decide +kernel)) .nil)

end Choir

namespace Workflow

/-- Both voices of the choir join in after the tenor, the alto first. -/
theorem choir_appends :
    HoldsConversation Choir.begun [Choir.line "tenor"] ∧
      (Choir.workflow.schema.apply Choir.begun (Choir.part "alto")).find? messagesKey =
        some (.list [Choir.line "tenor", Choir.line "alto"]) ∧
      Choir.workflow.Takes ["bass", "alto"] Choir.begun () Choir.superstep () ∧
      (Choir.superstep.leaves Choir.workflow.schema).find? messagesKey =
        some (.list [Choir.line "tenor", Choir.line "alto", Choir.line "bass"]) := by
  have holds : HoldsConversation Choir.begun [Choir.line "tenor"] := .tuple rfl
  obtain ⟨alone, together⟩ := members_append (h := [Choir.line "tenor"])
  obtain ⟨encoded, added, _, same_length, sung, -, appended, -⟩ :=
    alone (Choir.singer "alto") "alto" Choir.workflow.schema Choir.begun _ () () rfl holds
      (Choir.continues _ _) (Choir.gives_step rfl)
  obtain ⟨-, -, -, -, exactly⟩ := together Choir.workflow _ _ _ _ _ rfl holds Choir.takes rfl
  have added_eq : added = [Choir.line "alto"] := by
    obtain ⟨whole, -⟩ := Act.gives_pure_iff.mp sung
    exact (List.append_inj whole same_length.symm).2.symm
  have members : ∀ invocation ∈ Choir.superstep.invocations, ∀ task,
      Choir.workflow.task? invocation.key = some task →
        ∃ agent, task.IsMember agent ∧ agent.Continues [Choir.line "tenor"] := by
    have found (voice : String) (task : Task Unit) (first : some (Choir.task voice) = some task) :
        ∃ agent, task.IsMember agent ∧ agent.Continues [Choir.line "tenor"] := by
      cases first
      exact ⟨Choir.singer voice, rfl, Choir.continues _ _⟩
    exact List.forall_mem_cons.mpr ⟨found "alto", List.forall_mem_singleton.mpr (found "bass")⟩
  refine ⟨holds, ?_, Choir.takes, ?_⟩
  · rw [appended (by simp [added_eq]), added_eq]
    rfl
  · exact exactly fun invocation among task found => Or.inl (members invocation among task found)

end Workflow

end AgentWorkflow
