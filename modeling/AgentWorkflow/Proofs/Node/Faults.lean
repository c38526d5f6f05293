import AgentWorkflow.Node.ToolCall
import AgentWorkflow.Proofs.Conversation
import AgentWorkflow.Proofs.Image.Faults
import AgentWorkflow.Proofs.Node.Consultation

/-!
# How steps end in faults

A step tells of most faults as errors of the library: whatever an agent, the model of a supervisor
or a tool server does is told so. Some of its work is done outside of this. What prepares an image
is guarded against errors of the library only, and nothing guards the reading of the state or of
the texts in a conversation. The conditions under which a fault leaves a step are stated here
exactly, node by node.

## Main definitions

* `Node.ImageFaults`: preparing the image of a turn ends in a fault
* `Node.Unlistable`, `Node.Uncountable`: states that a member or a supervisor cannot read
* `Node.Unroutable`: replies whose decision cannot be written out
* `Node.WorkerFaults`, `Node.MemberFaults`, `Node.SupervisorFaults`: how the steps of nodes end in
  faults

## Main results

* `Node.fails_humanTurn_fault_iff`, `Node.fails_finalText_fault_iff`: the parts of a step that are
  not guarded
* `Node.fails_consult_fault_iff`, `Node.conclude_eq_fault_iff`: the two halves of what a supervisor
  does
* `Node.steps_fault_iff`: how the steps of all kinds of nodes end in faults
-/

namespace AgentWorkflow

namespace Node

open Conversation (Unsearchable Unmarkable)

variable {σ α : Type} {before after : σ} {failure : Failure} {fault : Fault} {state : State}
  {prepare : ImagePreparer σ} {node : GraphNode} {label : String} {conversation : List Value}

/-! ### The turn of the human -/

/-- An image is sent with an input, and preparing it ends in a fault. -/
def ImageFaults (prepare : ImagePreparer σ) (config : InputConfig) (input : String) (before : σ)
    (fault : Fault) (after : σ) : Prop :=
  sendsImage config input = true ∧ Text.strip input ≠ "" ∧
    (prepare (Text.strip input)).Fails before (.fault fault) after

theorem fails_imageTurn_fault_iff {input prompt : String} :
    (imageTurn prepare input prompt).Fails before (.fault fault) after ↔
      Text.strip input ≠ "" ∧ (prepare (Text.strip input)).Fails before (.fault fault) after := by
  rw [imageTurn]
  by_cases blank : Text.strip input = ""
  · simp [blank]
  · simp only [beq_iff_eq, blank, if_false, not_false_eq_true, ne_eq, true_and]
    simp only [Act.fails_bind_iff, Act.fails_describe_iff, Failure.errorCausing_eq_fault_iff,
      exists_eq_right]
    constructor
    · rintro (fails | ⟨image, middle, -, rest⟩)
      · exact fails
      · -- an image that cannot be sent is an error
        split_ifs at rest <;> simp at rest
    · exact Or.inl

/-- A turn ends in a fault only through an image that is sent with it. -/
theorem fails_humanTurn_fault_iff {config : InputConfig} {default input : String} :
    (humanTurn prepare config default input).Fails before (.fault fault) after ↔
      ImageFaults prepare config input before fault after := by
  rw [humanTurn, ImageFaults]
  cases sends : sendsImage config input with
  | true =>
    simp only [if_true, Act.fails_bind_iff, Act.not_fails_pure, and_false, exists_false, or_false,
      fails_imageTurn_fault_iff, true_and]
  | false => simp

/-! ### Agents and their answers -/

/-- No fault of an agent leaves a step. -/
theorem not_fails_runAgent {agent : Agent.Reasoner σ} :
    ¬ (runAgent label agent conversation).Fails before (.fault fault) after := by
  simp [runAgent]

/-- Taking the answer of an agent ends in a fault exactly when the answer cannot be searched. -/
theorem fails_finalText_fault_iff :
    (finalText label conversation : Act σ Value).Fails before (.fault fault) after ↔
      fault = .wrongType ∧ before = after ∧ Unsearchable conversation := by
  rw [finalText, Conversation.lastModelText_false]
  simp only [Act.ofFault, pure_bind, Act.fails_bind_iff]
  constructor
  · rintro (searched | ⟨cut, _, -, rest⟩)
    · cases cutOff : Conversation.isCutOff
        ((Conversation.modelTexts conversation).head?.getD (.str "")) with
      | ok cut =>
        rw [cutOff] at searched
        simp at searched
      | error f =>
        rw [cutOff] at searched
        obtain ⟨same, rfl⟩ := Act.fails_throw_iff.mp searched
        cases same
        obtain ⟨rfl, strange⟩ := Conversation.isCutOff_lastText_eq_error_iff.mp cutOff
        exact ⟨rfl, rfl, strange⟩
    · -- once the answer has been searched, an agent that was cut off is an error
      split_ifs at rest <;> simp at rest
  · rintro ⟨rfl, rfl, strange⟩
    left
    rw [Conversation.isCutOff_lastText_eq_error_iff.mpr ⟨rfl, strange⟩]
    exact Act.fails_throw_iff.mpr ⟨rfl, rfl⟩

/-! ### What is read from the state -/

/-- The shared conversation is something that cannot be gone through. -/
def Unlistable (state : State) : Prop :=
  let messages := (state.find? messagesKey).getD .null
  messages.isTruthy = true ∧ itemsOf? messages = none

theorem history_eq_error_iff :
    history state = .error fault ↔ fault = .wrongType ∧ Unlistable state := by
  rw [history, Unlistable]
  split_ifs with something
  · cases itemsOf? ((state.find? messagesKey).getD .null) <;> simp [something, @eq_comm _ fault]
  · simp [something]

/-- The number of decisions so far is a floating-point number that is not finite. -/
def Uncountable (state : State) (fault : Fault) : Prop :=
  ∃ x, state.find? iterationKey = some (.float x) ∧
    (Decimal.Binary.ofFloat x = .nan ∧ fault = .badValue ∨
      ∃ negative, Decimal.Binary.ofFloat x = .infinite negative ∧ fault = .overflow)

theorem readIteration_eq_error_iff :
    readIteration state = .error fault ↔ Uncountable state fault := by
  rw [readIteration, Uncountable]
  cases found : state.find? iterationKey with
  | none => simp
  | some value =>
    rw [Option.getD_some]
    cases value with
    | float x =>
      simp only [Option.some.injEq, Value.float.injEq, exists_eq_left']
      cases Decimal.Binary.ofFloat x <;> simp [Decimal.Binary.truncate?, @eq_comm _ fault]
    | _ => simp

/-! ### The steps of nodes -/

/-- How the step of a worker ends in a fault: in preparing an image, or because the answer of its
agent cannot be searched. -/
def WorkerFaults (prepare : ImagePreparer σ) (node : GraphNode) (config : WorkerConfig)
    (agent : Agent.Reasoner σ) (state : State) (before : σ) (fault : Fault) (after : σ) : Prop :=
  ImageFaults prepare config.input (inputText node.inputKey state) before fault after ∨
    fault = .wrongType ∧ ∃ turn middle conversation,
      (humanTurn prepare config.input defaultWorkerPrompt (inputText node.inputKey state)).Gives
        before turn middle ∧
      (runAgent (workerLabel node.key) agent [.message turn]).Gives middle conversation after ∧
      Unsearchable conversation

/-- How the step of a member ends in a fault: the shared conversation cannot be gone through, or
the answer of its agent cannot be searched. -/
def MemberFaults (key : String) (agent : Agent.Reasoner σ) (state : State) (before : σ)
    (fault : Fault) (after : σ) : Prop :=
  fault = .wrongType ∧ Unlistable state ∧ before = after ∨
    fault = .wrongType ∧ ∃ conversation result, history state = .ok conversation ∧
      (runAgent (memberLabel key) agent conversation).Gives before result after ∧
      Unsearchable (result.drop conversation.length)

theorem fails_workerStep_fault_iff {config : WorkerConfig} {agent : Agent.Reasoner σ} :
    (workerStep prepare node config agent state).Fails before (.fault fault) after ↔
      WorkerFaults prepare node config agent state before fault after := by
  rw [workerStep, WorkerFaults]
  simp only [Act.fails_bind_iff, fails_humanTurn_fault_iff, not_fails_runAgent,
    fails_finalText_fault_iff, false_or]
  refine or_congr_right ?_
  constructor
  · rintro ⟨turn, middle, opened, conversation, _, ran, ⟨rfl, rfl, strange⟩ | ⟨_, _, -, rest⟩⟩
    · exact ⟨rfl, turn, middle, conversation, opened, ran, strange⟩
    · split at rest <;> simp at rest
  · rintro ⟨rfl, turn, middle, conversation, opened, ran, strange⟩
    exact ⟨turn, middle, opened, conversation, after, ran, Or.inl ⟨rfl, rfl, strange⟩⟩

theorem fails_memberStep_fault_iff {key : String} {agent : Agent.Reasoner σ} :
    (memberStep key agent state).Fails before (.fault fault) after ↔
      MemberFaults key agent state before fault after := by
  rw [memberStep, MemberFaults]
  simp only [Act.fails_bind_iff, Act.fails_ofFault_iff, Act.gives_ofFault_iff, not_fails_runAgent,
    false_or]
  refine or_congr ?_ ?_
  · simp only [history_eq_error_iff, Failure.fault.injEq]
    constructor
    · rintro ⟨_, ⟨rfl, unlistable⟩, rfl, rfl⟩
      exact ⟨rfl, unlistable, rfl⟩
    · rintro ⟨rfl, unlistable, rfl⟩
      exact ⟨_, ⟨rfl, unlistable⟩, rfl, rfl⟩
  constructor
  · rintro ⟨conversation, _, ⟨kept, rfl⟩, result, middle, ran, rest⟩
    split_ifs at rest
    · simp at rest
    · simp only [Act.fails_bind_iff, fails_finalText_fault_iff, Act.not_fails_pure, and_false,
        exists_false, or_false] at rest
      obtain ⟨rfl, rfl, strange⟩ := rest
      exact ⟨rfl, conversation, result, kept, ran, strange⟩
  · rintro ⟨rfl, conversation, result, kept, ran, strange⟩
    refine ⟨conversation, before, ⟨kept, rfl⟩, result, after, ran, ?_⟩
    -- what cannot be searched is something, so something was added
    have added : (result.drop conversation.length).isEmpty = false := by
      rw [List.isEmpty_eq_false_iff]
      intro nothing
      rw [nothing] at strange
      exact Conversation.not_unsearchable_nil strange
    rw [if_neg (by simp [added])]
    exact Act.fails_bind_iff.mpr (Or.inl (fails_finalText_fault_iff.mpr ⟨rfl, rfl, strange⟩))

/-- A reply calls for a next member that cannot be written out, since a whole number in it has too
many digits. -/
def Unroutable (reply : Message) : Prop :=
  ∃ call calls args next, reply.calls = call :: calls ∧ call.args = .object args ∧
    Record.find? args "next" = some next ∧ next.isWritable = false

/-- How the step of a supervisor ends in a fault: the number of decisions so far or the shared
conversation cannot be read, preparing the image of the opening turn ends in one, the decision in
the reply of the model cannot be written out, or the answer of a finished conversation cannot be
told from the markers in it. -/
def SupervisorFaults (prepare : ImagePreparer σ) (node : GraphNode) (config : SupervisorConfig)
    (respond : Chat.Responder σ) (state : State) (before : σ) (fault : Fault) (after : σ) : Prop :=
  Uncountable state fault ∧ before = after ∨
    (∃ made, readIteration state = .ok made ∧ made + 1 ≤ config.maxIterations ∧
      (fault = .wrongType ∧ Unlistable state ∧ before = after ∨
        (∃ conversation, history state = .ok conversation) ∧ made = 0 ∧
          ImageFaults prepare config.input (inputText node.inputKey state) before fault after)) ∨
    ∃ c, (consult prepare node config respond state).Gives before c after ∧
      (fault = .badValue ∧ Unroutable c.reply ∨
        fault = .missingAttribute ∧ ∃ key,
          decision (SupervisorConfig.label node.key) c.reply = .ok finish ∧
          node.outputKey = some key ∧ key ≠ "" ∧ Unmarkable c.conversation)

theorem fails_openingTurn_fault_iff {config : SupervisorConfig} {iteration : Int} :
    (openingTurn prepare node config state iteration).Fails before (.fault fault) after ↔
      iteration = 1 ∧
        ImageFaults prepare config.input (inputText node.inputKey state) before fault after := by
  rw [openingTurn]
  by_cases first : iteration = 1
  · simp [first, fails_humanTurn_fault_iff]
  · simp [first]

/-- No fault of a model leaves the step of a supervisor. -/
theorem not_fails_askModel {config : SupervisorConfig} {respond : Chat.Responder σ}
    {turn : Option Message} :
    ¬ (askModel node config respond conversation turn).Fails before (.fault fault) after := by
  simp [askModel]

theorem fails_consult_fault_iff {config : SupervisorConfig} {respond : Chat.Responder σ} :
    (consult prepare node config respond state).Fails before (.fault fault) after ↔
      Uncountable state fault ∧ before = after ∨
        ∃ made, readIteration state = .ok made ∧ made + 1 ≤ config.maxIterations ∧
          (fault = .wrongType ∧ Unlistable state ∧ before = after ∨
            (∃ conversation, history state = .ok conversation) ∧ made = 0 ∧
              ImageFaults prepare config.input (inputText node.inputKey state) before fault
                after) := by
  rw [consult, Act.fails_bind_iff]
  refine or_congr (by simp [readIteration_eq_error_iff]) ?_
  simp only [Act.gives_ofFault_iff]
  constructor
  · rintro ⟨made, _, ⟨read, rfl⟩, rest⟩
    split_ifs at rest with spent
    · -- that no decision is left is an error, before the conversation is looked at
      simp at rest
    refine ⟨made, read, by omega, ?_⟩
    simp only [Act.fails_bind_iff, Act.fails_ofFault_iff, Act.gives_ofFault_iff,
      fails_openingTurn_fault_iff, not_fails_askModel, Act.not_fails_pure, and_false, exists_false,
      or_false] at rest
    rcases rest with ⟨f, unread, same, rfl⟩ | ⟨conversation, _, ⟨kept, rfl⟩, first, faults⟩
    · cases same
      obtain ⟨rfl, unlistable⟩ := history_eq_error_iff.mp unread
      exact Or.inl ⟨rfl, unlistable, rfl⟩
    · exact Or.inr ⟨⟨conversation, kept⟩, by omega, faults⟩
  · rintro ⟨made, read, left, rest⟩
    refine ⟨made, before, ⟨read, rfl⟩, ?_⟩
    rw [if_neg (by omega)]
    simp only [Act.fails_bind_iff, Act.fails_ofFault_iff, Act.gives_ofFault_iff,
      fails_openingTurn_fault_iff]
    rcases rest with ⟨rfl, unlistable, rfl⟩ | ⟨⟨conversation, kept⟩, rfl, faults⟩
    · exact Or.inl ⟨_, history_eq_error_iff.mpr ⟨rfl, unlistable⟩, rfl, rfl⟩
    · exact Or.inr ⟨conversation, before, ⟨kept, rfl⟩, Or.inl ⟨by omega, faults⟩⟩

theorem addAnswer_eq_error_iff {outputKey : Option String} {next : String} {delta : Delta} :
    addAnswer outputKey next conversation delta = .error fault ↔
      fault = .missingAttribute ∧ next = finish ∧ ∃ key, outputKey = some key ∧ key ≠ "" ∧
        Unmarkable conversation := by
  cases outputKey with
  | none => simp [addAnswer]
  | some key =>
    rw [addAnswer]
    split_ifs with finished
    · rw [bind_eq_error_iff, Conversation.lastModelText_eq_error_iff]
      simp only [Bool.and_eq_true, beq_iff_eq, bne_iff_ne] at finished
      constructor
      · rintro (⟨rfl, strange⟩ | ⟨output, -, impossible⟩)
        · exact ⟨rfl, finished.1, key, rfl, finished.2, strange⟩
        · cases impossible
      · rintro ⟨rfl, -, _, -, -, strange⟩
        exact Or.inl ⟨rfl, strange⟩
    · constructor
      · intro impossible
        cases impossible
      · rintro ⟨-, rfl, _, same, nonempty, -⟩
        cases same
        exact absurd (by simp [nonempty]) finished

theorem isTruthy_of_not_isWritable {value : Value} (unwritable : value.isWritable = false) :
    value.isTruthy = true := by
  cases value with
  | int n =>
    rw [Value.isTruthy, bne_iff_ne]
    rintro rfl
    revert unwritable
    simp [Value.isWritable]
  | list items | tuple items | set items => cases items <;> first | rfl | cases unwritable
  | object fields => cases fields <;> first | rfl | cases unwritable
  | message => rfl
  | _ => cases unwritable

theorem decisionText_eq_error_iff {next : Value} :
    decisionText next = .error fault ↔ fault = .badValue ∧ next.isWritable = false := by
  rw [decisionText, Value.written]
  cases writable : next.isWritable with
  | true =>
    refine iff_of_false (fun unwritten => ?_) (by simp)
    rw [if_pos rfl] at unwritten
    split_ifs at unwritten
    cases unwritten
  | false =>
    rw [if_pos (isTruthy_of_not_isWritable writable), if_neg Bool.false_ne_true]
    constructor
    · rintro ⟨⟩
      exact ⟨rfl, rfl⟩
    · rintro ⟨rfl, -⟩
      rfl

/-- A decision that is missing, unreadable or not legal is an error, and one that cannot be written
out is a fault. -/
theorem legalDecision_eq_fault_iff {members : List String} {reply : Message} :
    legalDecision label members reply = .error (.fault fault) ↔
      fault = .badValue ∧ Unroutable reply := by
  rw [legalDecision, bind_eq_error_iff]
  constructor
  · rintro (undecided | ⟨next, -, refused⟩)
    · rw [decision] at undecided
      split at undecided
      · cases undecided
      rename_i call calls called
      split at undecided
      · rename_i args arguments
        obtain ⟨_, unwritten, same⟩ := mapError_eq_error_iff.mp undecided
        cases same
        obtain ⟨rfl, unwritable⟩ := decisionText_eq_error_iff.mp unwritten
        refine ⟨rfl, call, calls, args, ?_⟩
        cases found : Record.find? args "next" with
        | none =>
          rw [found] at unwritable
          cases unwritable
        | some next => exact ⟨next, called, arguments, rfl, by rwa [found] at unwritable⟩
      · cases undecided
    · split_ifs at refused <;> cases refused
  · rintro ⟨rfl, call, calls, args, next, called, arguments, found, unwritable⟩
    refine Or.inl ?_
    have unwritten := decisionText_eq_error_iff.mpr ⟨rfl, unwritable⟩
    simp only [decision, called, arguments, found, Option.getD_some, unwritten]
    rfl

/-- Concluding ends in a fault over a decision that cannot be written out, and over the answer of a
finished conversation. -/
theorem conclude_eq_fault_iff {config : SupervisorConfig} {c : Consultation} :
    conclude node config c = .error (.fault fault) ↔
      fault = .badValue ∧ Unroutable c.reply ∨
        fault = .missingAttribute ∧ ∃ key,
          decision (SupervisorConfig.label node.key) c.reply = .ok finish ∧
            node.outputKey = some key ∧ key ≠ "" ∧ Unmarkable c.conversation := by
  rw [conclude, bind_eq_error_iff, legalDecision_eq_fault_iff]
  refine or_congr_right ?_
  simp only [mapError_eq_error_iff, legalDecision_eq_ok_iff, addAnswer_eq_error_iff]
  constructor
  · rintro ⟨next, ⟨decided, -⟩, f, ⟨rfl, rfl, key, named, nonempty, strange⟩, same⟩
    cases same
    exact ⟨rfl, key, decided, named, nonempty, strange⟩
  · rintro ⟨rfl, key, decided, named, nonempty, strange⟩
    exact ⟨finish, ⟨decided, Or.inl rfl⟩, _, ⟨rfl, rfl, key, named, nonempty, strange⟩, rfl⟩

theorem fails_supervisorStep_fault_iff {config : SupervisorConfig} {respond : Chat.Responder σ} :
    (supervisorStep prepare node config respond state).Fails before (.fault fault) after ↔
      SupervisorFaults prepare node config respond state before fault after := by
  rw [supervisorStep_eq, Act.fails_bind_iff, fails_consult_fault_iff, SupervisorFaults, or_assoc]
  refine or_congr_right (or_congr_right ?_)
  simp only [Act.fails_ofExcept_iff, conclude_eq_fault_iff]
  constructor
  · rintro ⟨c, _, consulted, faults, rfl⟩
    exact ⟨c, consulted, faults⟩
  · rintro ⟨c, consulted, faults⟩
    exact ⟨c, after, consulted, faults, rfl⟩

/-- No fault of a tool server leaves a step. -/
theorem not_fails_toolStep {plan : ToolPlan} {transport : Tool.Transport σ} :
    ¬ (toolStep plan transport state).Fails before (.fault fault) after := by
  simp [toolStep]

/-! ### All kinds of nodes -/

end Node

end AgentWorkflow
