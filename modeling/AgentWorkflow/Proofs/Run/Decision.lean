import AgentWorkflow.Proofs.Node.Consultation
import AgentWorkflow.Proofs.Run.History

/-!
# Decisions and the routes that follow from them

A supervisor stores its decision in the state, and its edges read it back once its own writes are
merged. That works out as long as the key of the decision is overwritten, no answer is written under
it, and no member has the name that means to finish. If one of these fails, some reply of the model
is not followed.

## Main definitions

* `Workflow.RoutesAsDecided`: whatever the model replies, the routes lead where it says
* `Message.naming`: a reply that names a decision

## Main results

* `Workflow.routesAsDecided_iff`: when routes lead where the model says
-/

namespace AgentWorkflow

open Node

variable {schema : Schema} {node : GraphNode} {config : SupervisorConfig} {members : List String}
  {state : State} {delta : Delta} {label d : String}

/-- A reply that names a decision. -/
def Message.naming (d : String) : Message where
  role := .ai
  content := .str ""
  calls := [{ name := routeTool, args := .object [("next", .str d)] }]

/-- A reply that names a text without blanks around it decides so. -/
theorem Node.decision_naming (label : String) {d : String} (nonempty : d ≠ "")
    (trimmed : Text.Trimmed d) : decision label (.naming d) = .ok d := by
  have truthy : (Value.str d).isTruthy = true := by simpa [Value.isTruthy] using nonempty
  have found : Record.find? [("next", Value.str d)] "next" = some (.str d) := rfl
  have named : decisionText (.str d) = .ok d := by
    rw [decisionText, if_pos truthy]
    exact congrArg _ trimmed
  simp only [decision, Message.naming, found, Option.getD_some, named]
  rfl

namespace Workflow

/-! ### Reading a decision back -/

theorem routes?_of_finish (decided : state.find? decisionKey = some (.str finish)) :
    routes? members state = .ok [.finish] := by
  rw [routes?, direction, decided]
  rfl

theorem routes?_of_member (decided : state.find? decisionKey = some (.str d)) (nonempty : d ≠ "")
    (goes_on : d ≠ finish) (member : d ∈ members) : routes? members state = .ok [.node d] := by
  have known : route members (.str d) = .ok (.node d) := by
    rw [route, if_pos (List.contains_iff_mem.mpr member)]
  have toward : direction state = .toward (.str d) := by
    simp [direction, decided, Value.isTruthy, Conversation.isText, nonempty, goes_on]
  rw [routes?, toward]
  change List.mapM (route members) [.str d] = _
  rw [List.mapM_cons, known]
  rfl

/-- Several decisions never lead to a single place. -/
theorem routes?_ne_of_pair {first second : Value} {target : Target}
    (decided : state.find? decisionKey = some (.list [first, second])) :
    routes? members state ≠ .ok [target] := by
  have toward : direction state = .toward (.list [first, second]) := by
    rw [direction, decided]
    rfl
  rw [routes?, toward]
  change List.mapM (route members) [first, second] ≠ _
  rw [List.mapM_cons, List.mapM_cons, List.mapM_nil]
  intro same
  obtain ⟨a, -, rest⟩ := bind_eq_ok_iff.mp same
  obtain ⟨others, both, same⟩ := bind_eq_ok_iff.mp rest
  obtain ⟨b, -, rest⟩ := bind_eq_ok_iff.mp both
  cases rest
  cases same

/-- Whatever else is stored in place of a decision, it does not mean to finish. -/
theorem routes?_ne_finish {s : String} (decided : state.find? decisionKey = some (.str s))
    (nonempty : s ≠ "") (goes_on : s ≠ finish) (open_ended : s ≠ endMark) :
    routes? members state ≠ .ok [.finish] := by
  have toward : direction state = .toward (.str s) := by
    simp [direction, decided, Value.isTruthy, Conversation.isText, nonempty, goes_on]
  rw [routes?, toward]
  change List.mapM (route members) [.str s] ≠ _
  rw [List.mapM_cons, List.mapM_nil, route]
  intro same
  obtain ⟨target, routed, rest⟩ := bind_eq_ok_iff.mp same
  cases rest
  split_ifs at routed with known last
  · cases routed
  · exact open_ended (by simpa using last)

/-! ### Following a decision -/

/-- Whatever the model replies, a decision that is accepted is to finish or a member, and what is
written for it leads there and nowhere else. -/
def RoutesAsDecided (schema : Schema) (node : GraphNode) (config : SupervisorConfig) : Prop :=
  ∀ ⦃σ : Type⦄ ⦃prepare : ImagePreparer σ⦄ ⦃respond : Chat.Responder σ⦄ ⦃state : State⦄
    ⦃before after : σ⦄ ⦃c : Consultation⦄ ⦃delta : Delta⦄,
    (consult prepare node config respond state).Gives before c after →
      conclude node config c = .ok delta →
        ∃ d, decision (SupervisorConfig.label node.key) c.reply = .ok d ∧
          (d = finish ∨ d ∈ config.members) ∧
          (d = finish → routes? config.members (schema.apply state delta) = .ok [.finish]) ∧
          (d ∈ config.members → routes? config.members (schema.apply state delta) = .ok [.node d])

/-- A key that is overwritten and under which no answer is written holds the decision. -/
theorem find?_decisionKey_of_conclude {c : Consultation}
    (overwritten : Record.find? schema decisionKey = some .overwrite)
    (free : node.outputKey ≠ some decisionKey) (state : State)
    (concluded : conclude node config c = .ok delta)
    (decided : decision (SupervisorConfig.label node.key) c.reply = .ok d) :
    (schema.apply state delta).find? decisionKey = some (.str d) := by
  have nodup := keys_nodup_of_conclude concluded
  obtain ⟨d', decided', -, added⟩ := conclude_eq_ok_iff.mp concluded
  rw [decided] at decided'
  cases decided'
  rw [Schema.find?_apply_of_overwrite overwritten, Record.find?_ofPairs_of_nodup nodup,
    find?_of_addAnswer_of_ne added free]
  rfl

theorem routesAsDecided_of_overwrite
    (overwritten : Record.find? schema decisionKey = some .overwrite)
    (free : node.outputKey ≠ some decisionKey) (distinct : finish ∉ config.members)
    (nonblank : "" ∉ config.members) : RoutesAsDecided schema node config := by
  intro σ prepare respond state before after c delta _ concluded
  obtain ⟨d, decided, legal, -⟩ := conclude_eq_ok_iff.mp concluded
  have stored := find?_decisionKey_of_conclude overwritten free state concluded decided
  refine ⟨d, decided, legal, ?_, ?_⟩
  · rintro rfl
    exact routes?_of_finish stored
  · intro member
    exact routes?_of_member stored (fun same => nonblank (same ▸ member))
      (fun same => distinct (same ▸ member)) member

/-! ### Replies that are not followed

In what follows the model replies that it wants to finish. The count of decisions is chosen so that
the limit is not reached and the turn of the human is not due. -/

/-- A count of decisions with which a supervisor asks its model, and not for the first time. -/
def spareCount (config : SupervisorConfig) : Int := min config.maxIterations 0 - 1

/-- What a supervisor goes by when its model wants to finish. -/
def finishing (config : SupervisorConfig) (conversation : List Value) : Consultation where
  iteration := spareCount config + 1
  conversation := conversation
  turn := none
  reply := .naming finish

theorem gives_consult_finishing (prepare : ImagePreparer Unit) (node : GraphNode)
    {messages : List Message}
    (counted : state.find? iterationKey = some (.int (spareCount config)))
    (kept : history state = .ok (messages.map .message)) :
    (consult prepare node config (fun _ => pure (.naming finish)) state).Gives ()
      (finishing config (messages.map .message)) () := by
  have read : readIteration state = .ok (spareCount config) := by
    rw [readIteration, counted]
    rfl
  have later : (spareCount config + 1 == 1) = false := by
    rw [beq_eq_false_iff_ne, spareCount]
    omega
  refine gives_consult_iff.mpr ⟨_, read, ?_, rfl, kept, (), ?_, ?_⟩
  · rw [spareCount]
    omega
  · rw [openingTurn, finishing, later]
    exact Act.gives_pure_iff.mpr ⟨rfl, rfl⟩
  · simp only [askModel, finishing, Act.gives_describe_iff, Act.gives_bind_iff,
      Act.gives_ofFault_iff, Act.gives_pure_iff, Chat.prompt_messages]
    exact ⟨messages, (), ⟨rfl, trivial⟩, trivial, trivial⟩

theorem decision_finishing (conversation : List Value) :
    decision label (finishing config conversation).reply = .ok finish :=
  decision_naming label (by decide) (by decide)

theorem conclude_finishing {conversation : List Value}
    (added : addAnswer node.outputKey finish conversation
      (decisionDelta (spareCount config + 1) finish none) = .ok delta) :
    conclude node config (finishing config conversation) = .ok delta :=
  conclude_eq_ok_iff.mpr ⟨finish, decision_finishing conversation, Or.inl rfl, added⟩

/-- If routes lead where the model says, they lead to the end when it wants to finish. -/
theorem RoutesAsDecided.routes?_finishing (routed : RoutesAsDecided schema node config)
    (state : State) (messages : List Message)
    (counted : state.find? iterationKey = some (.int (spareCount config)))
    (kept : history state = .ok (messages.map .message))
    (added : addAnswer node.outputKey finish (messages.map .message)
      (decisionDelta (spareCount config + 1) finish none) = .ok delta) :
    routes? config.members (schema.apply state delta) = .ok [.finish] ∧
      finish ∉ config.members := by
  have consulted := gives_consult_finishing (fun _ => throw .unanswered) node counted kept
  obtain ⟨d, decided, -, ends, goes_on⟩ := routed consulted (conclude_finishing added)
  rw [decision_finishing] at decided
  cases decided
  refine ⟨ends rfl, fun member => ?_⟩
  have both := (ends rfl).symm.trans (goes_on member)
  cases both

/-- Without any conversation there is no answer to add. -/
theorem addAnswer_nil (outputKey : Option String) (delta : Delta) :
    addAnswer outputKey finish [] delta = .ok delta := by
  cases outputKey with
  | none => rfl
  | some key =>
    rw [addAnswer]
    split_ifs <;> rfl

/-- An earlier decision must not be kept. -/
theorem RoutesAsDecided.not_append (routed : RoutesAsDecided schema node config) :
    Record.find? schema decisionKey ≠ some .append := by
  intro declared
  -- a state that holds an earlier decision, to which the new one is appended
  let state : State := [(decisionKey, .str ""), (iterationKey, .int (spareCount config))]
  have ends := (routed.routes?_finishing state [] rfl rfl (addAnswer_nil _ _)).1
  have other : decisionKey ∉ [iterationKey, messagesKey] := by decide
  have kept : (schema.apply state (decisionDelta (spareCount config + 1) finish none)).find?
      decisionKey = some (.list [.str "", .str finish]) := by
    rw [decisionDelta, Schema.apply_cons, Schema.find?_apply_of_not_mem other,
      Schema.find?_write_self, declared]
    rfl
  exact routes?_ne_of_pair kept ends

/-- No answer must be written in the place of a decision. -/
theorem RoutesAsDecided.outputKey_ne {r : Reducer} (routed : RoutesAsDecided schema node config)
    (carried : Record.find? schema decisionKey = some r) : node.outputKey ≠ some decisionKey := by
  intro same
  -- the model has said something before, which becomes the answer
  let answer : Message := { role := .ai, content := .str "x" }
  let state : State :=
    [(messagesKey, .list [.message answer]), (iterationKey, .int (spareCount config))]
  have added : addAnswer node.outputKey finish ([answer].map .message)
      (decisionDelta (spareCount config + 1) finish none) =
        .ok ((decisionDelta (spareCount config + 1) finish none).put decisionKey (.str "x")) := by
    rw [same]
    rfl
  have ends := (routed.routes?_finishing state [answer] rfl rfl added).1
  have other : decisionKey ∉ [iterationKey, messagesKey] := by decide
  have replaced : (schema.apply state ((decisionDelta (spareCount config + 1) finish none).put
      decisionKey (.str "x"))).find? decisionKey = some (.str "x") := by
    change (schema.apply state ((decisionKey, .str "x") :: _)).find? decisionKey = _
    rw [Schema.apply_cons, Schema.find?_apply_of_not_mem other, Schema.find?_write_self,
      carried]
    rfl
  exact routes?_ne_finish replaced (by decide) (by decide) (by decide) ends

/-- To finish must not be the name of a member. -/
theorem RoutesAsDecided.finish_not_mem (routed : RoutesAsDecided schema node config) :
    finish ∉ config.members := by
  let state : State := [(iterationKey, .int (spareCount config))]
  exact (routed.routes?_finishing state [] rfl rfl (addAnswer_nil _ _)).2

/-- Routes lead where the model says exactly when the key of the decision is overwritten, no answer
is written under it, and to finish is not the name of a member. -/
theorem routesAsDecided_iff {r : Reducer} (carried : Record.find? schema decisionKey = some r)
    (nonblank : "" ∉ config.members) :
    RoutesAsDecided schema node config ↔
      Record.find? schema decisionKey ≠ some .append ∧ node.outputKey ≠ some decisionKey ∧
        finish ∉ config.members := by
  constructor
  · exact fun routed => ⟨routed.not_append, routed.outputKey_ne carried, routed.finish_not_mem⟩
  · rintro ⟨not_append, free, distinct⟩
    have overwritten : Record.find? schema decisionKey = some .overwrite := by
      cases r with
      | append => exact absurd carried not_append
      | overwrite => exact carried
    exact routesAsDecided_of_overwrite overwritten free distinct nonblank

end Workflow

end AgentWorkflow
