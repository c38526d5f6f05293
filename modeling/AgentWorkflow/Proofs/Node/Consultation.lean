import AgentWorkflow.Node.Supervisor
import AgentWorkflow.Proofs.Outcome
import AgentWorkflow.Proofs.Record
import Mathlib.Tactic.SplitIfs

/-!
# What a supervisor goes by and what it writes

A supervisor first consults its model, which is where the world comes in, and then concludes from
the reply alone. What it writes is the decision, the number of decisions so far and what it adds to
the conversation, and with the decision to finish an answer under its output key.

## Main definitions

* `Node.consult`: the part of a supervisor's work that touches the world
* `Node.conclude`: what it writes, given what it goes by

## Main results

* `Node.supervisorStep_eq`: a supervisor consults and concludes
* `Node.gives_consult_iff`: when a supervisor asks its model
* `Node.conclude_eq_ok_iff`: what follows from a reply
-/

namespace AgentWorkflow.Node

variable {σ : Type} {prepare : ImagePreparer σ} {node : GraphNode} {config : SupervisorConfig}
  {respond : Chat.Responder σ} {state : State} {delta extended : Delta} {before after : σ}
  {label d key : String}

/-- What a supervisor goes by when it decides. -/
structure Consultation where
  iteration : Int
  conversation : List Value
  turn : Option Message
  reply : Message

/-- The turn of the human, which goes with the first decision only. -/
def openingTurn (prepare : ImagePreparer σ) (node : GraphNode) (config : SupervisorConfig)
    (state : State) (iteration : Int) : Act σ (Option Message) :=
  if iteration == 1 then do
    let turn ← humanTurn prepare config.input defaultSupervisorPrompt
      (inputText node.inputKey state)
    return some turn
  else pure none

/-- The reply of the model to the turn of the human, or to the conversation so far. -/
def askModel (node : GraphNode) (config : SupervisorConfig) (respond : Chat.Responder σ)
    (conversation : List Value) (turn : Option Message) : Act σ Message :=
  let call : Act σ Message := do
    let rest ←
      match turn with
      | some turn => pure [turn]
      | none => Act.ofFault (Chat.prompt conversation)
    respond ({ role := .system, content := .str (supervisorSystemMessage config.members) } :: rest)
  call.describe (Failure.faultCausing fun cause =>
    .execution (.modelCallFailed (SupervisorConfig.label node.key) cause))

/-- A supervisor up to the reply of its model. -/
def consult (prepare : ImagePreparer σ) (node : GraphNode) (config : SupervisorConfig)
    (respond : Chat.Responder σ) (state : State) : Act σ Consultation := do
  let made ← Act.ofFault (readIteration state)
  if config.maxIterations < made + 1 then
    .fail (.routing (.iterationLimit (SupervisorConfig.label node.key) config.maxIterations))
  else do
    let conversation ← Act.ofFault (history state)
    let turn ← openingTurn prepare node config state (made + 1)
    let reply ← askModel node config respond conversation turn
    return { iteration := made + 1, conversation, turn, reply }

/-- What a supervisor writes, given what it goes by. -/
def conclude (node : GraphNode) (config : SupervisorConfig) (c : Consultation) :
    Except Failure Delta := do
  let next ← legalDecision (SupervisorConfig.label node.key) config.members c.reply
  (addAnswer node.outputKey next c.conversation
    (decisionDelta c.iteration next c.turn)).mapError .fault

/-- A conclusion as it stands at the end of the step. -/
theorem ofExcept_conclude (c : Consultation) :
    (Act.ofExcept (conclude node config c) : Act σ Delta) = (do
      let next ←
        Act.ofExcept (legalDecision (SupervisorConfig.label node.key) config.members c.reply)
      Act.ofFault (addAnswer node.outputKey next c.conversation
        (decisionDelta c.iteration next c.turn))) := by
  rw [conclude]
  cases legalDecision (SupervisorConfig.label node.key) config.members c.reply with
  | error issue => rfl
  | ok next =>
    change Act.ofExcept ((addAnswer node.outputKey next c.conversation
      (decisionDelta c.iteration next c.turn)).mapError .fault) = Act.ofFault _
    cases addAnswer node.outputKey next c.conversation (decisionDelta c.iteration next c.turn) <;>
      rfl

/-- A supervisor consults and concludes. -/
theorem supervisorStep_eq :
    supervisorStep prepare node config respond state =
      consult prepare node config respond state >>= fun c =>
        Act.ofExcept (conclude node config c) := by
  simp only [supervisorStep, consult, bind_assoc, pure_bind]
  refine bind_congr fun made => ?_
  by_cases spent : config.maxIterations < made + 1
  · rw [if_pos spent, if_pos spent]
    rfl
  · rw [if_neg spent, if_neg spent]
    -- both sides bind the same acts once the binds are nested alike
    simp only [openingTurn, askModel, bind_assoc, pure_bind, ofExcept_conclude]
    refine bind_congr fun conversation => ?_
    split_ifs <;> simp only [bind_assoc, pure_bind]

theorem gives_supervisorStep_iff :
    (supervisorStep prepare node config respond state).Gives before delta after ↔
      ∃ c, (consult prepare node config respond state).Gives before c after ∧
        conclude node config c = .ok delta := by
  simp only [supervisorStep_eq, Act.gives_bind_iff, Act.gives_ofExcept_iff]
  constructor
  · rintro ⟨c, _, consulted, concluded, rfl⟩
    exact ⟨c, consulted, concluded⟩
  · rintro ⟨c, consulted, concluded⟩
    exact ⟨c, _, consulted, concluded, rfl⟩

/-! ### Consulting -/

/-- A supervisor that has decisions left asks its model, and no other one does. -/
theorem gives_consult_iff {c : Consultation} :
    (consult prepare node config respond state).Gives before c after ↔
      ∃ made, readIteration state = .ok made ∧ made + 1 ≤ config.maxIterations ∧
        c.iteration = made + 1 ∧ history state = .ok c.conversation ∧
          ∃ middle, (openingTurn prepare node config state c.iteration).Gives before c.turn middle ∧
            (askModel node config respond c.conversation c.turn).Gives middle c.reply after := by
  simp only [consult, Act.gives_bind_iff, Act.gives_ofFault_iff]
  constructor
  · rintro ⟨made, _, ⟨read, rfl⟩, rest⟩
    by_cases spent : config.maxIterations < made + 1
    · simp [spent] at rest
    · rw [if_neg spent] at rest
      simp only [Act.gives_bind_iff, Act.gives_ofFault_iff, Act.gives_pure_iff] at rest
      obtain ⟨_, _, ⟨kept, rfl⟩, _, middle, opened, _, _, asked, rfl, rfl⟩ := rest
      exact ⟨made, read, by omega, rfl, kept, middle, opened, asked⟩
  · rintro ⟨made, read, left, counted, kept, middle, opened, asked⟩
    refine ⟨made, before, ⟨read, rfl⟩, ?_⟩
    rw [if_neg (by omega)]
    simp only [Act.gives_bind_iff, Act.gives_ofFault_iff, Act.gives_pure_iff]
    rw [counted] at opened
    exact ⟨_, before, ⟨kept, rfl⟩, _, middle, opened, _, after, asked, by rw [← counted], rfl⟩

/-- The turn of the human is built before the first decision, and before no other. -/
theorem gives_openingTurn_iff {made : Nat} {turn : Option Message} :
    (openingTurn prepare node config state (made + 1)).Gives before turn after ↔
      made = 0 ∧ (∃ human, turn = some human ∧ (humanTurn prepare config.input
        defaultSupervisorPrompt (inputText node.inputKey state)).Gives before human after) ∨
      made ≠ 0 ∧ turn = none ∧ before = after := by
  have first_iff : ((made : Int) + 1 == 1) = true ↔ made = 0 := by
    rw [beq_iff_eq]
    omega
  rw [openingTurn]
  by_cases first : made = 0
  · rw [if_pos (first_iff.mpr first)]
    simp only [Act.gives_bind_iff, Act.gives_pure_iff]
    constructor
    · rintro ⟨human, _, built, rfl, rfl⟩
      exact Or.inl ⟨first, human, rfl, built⟩
    · rintro (⟨-, human, rfl, built⟩ | ⟨later, -⟩)
      · exact ⟨human, after, built, rfl, rfl⟩
      · exact absurd first later
  · rw [if_neg (mt first_iff.mp first), Act.gives_pure_iff]
    constructor
    · rintro ⟨rfl, rfl⟩
      exact Or.inr ⟨first, rfl, rfl⟩
    · rintro (⟨here, -⟩ | ⟨-, rfl, rfl⟩)
      · exact absurd here first
      · exact ⟨rfl, rfl⟩

theorem gives_askModel_some_iff {conversation : List Value} {turn reply : Message} :
    (askModel node config respond conversation (some turn)).Gives before reply after ↔
      (respond [{ role := .system, content := .str (supervisorSystemMessage config.members) },
        turn]).Gives before reply after := by
  simp [askModel]

theorem gives_askModel_none_iff {conversation : List Value} {reply : Message} :
    (askModel node config respond conversation none).Gives before reply after ↔
      ∃ rest, Chat.prompt conversation = .ok rest ∧
        (respond ({ role := .system, content := .str (supervisorSystemMessage config.members) } ::
          rest)).Gives before reply after := by
  simp only [askModel, Act.gives_describe_iff, Act.gives_bind_iff, Act.gives_ofFault_iff]
  constructor
  · rintro ⟨rest, _, ⟨read, rfl⟩, asked⟩
    exact ⟨rest, read, asked⟩
  · rintro ⟨rest, read, asked⟩
    exact ⟨rest, before, ⟨read, rfl⟩, asked⟩

/-! ### Concluding -/

theorem legalDecision_eq_ok_iff {members : List String} {reply : Message} :
    legalDecision label members reply = .ok d ↔
      decision label reply = .ok d ∧ (d = finish ∨ d ∈ members) := by
  rw [legalDecision, bind_eq_ok_iff]
  constructor
  · rintro ⟨next, decided, rest⟩
    split_ifs at rest with legal
    · cases rest
      exact ⟨decided, by simpa using legal⟩
    · cases rest
  · rintro ⟨decided, legal⟩
    refine ⟨d, decided, ?_⟩
    rw [if_pos (by simpa using legal)]
    rfl

theorem conclude_eq_ok_iff {c : Consultation} :
    conclude node config c = .ok delta ↔
      ∃ d, decision (SupervisorConfig.label node.key) c.reply = .ok d ∧
        (d = finish ∨ d ∈ config.members) ∧
          addAnswer node.outputKey d c.conversation (decisionDelta c.iteration d c.turn) =
            .ok delta := by
  simp only [conclude, bind_eq_ok_iff, mapError_eq_ok_iff, legalDecision_eq_ok_iff, and_assoc]

/-- An answer is added under the output key or nothing is. -/
theorem eq_or_eq_put_of_addAnswer {outputKey : Option String} {conversation : List Value}
    (added : addAnswer outputKey d conversation delta = .ok extended) :
    extended = delta ∨ d = finish ∧ ∃ output key, outputKey = some key ∧ key ≠ "" ∧
      extended = delta.put key output := by
  cases outputKey with
  | none =>
    cases added
    exact Or.inl rfl
  | some key =>
    rw [addAnswer] at added
    split_ifs at added with finished
    · obtain ⟨output, -, rest⟩ := bind_eq_ok_iff.mp added
      split_ifs at rest
      · cases rest
        simp only [Bool.and_eq_true, beq_iff_eq, bne_iff_ne] at finished
        exact Or.inr ⟨finished.1, output, key, rfl, finished.2, rfl⟩
      · cases rest
        exact Or.inl rfl
    · cases added
      exact Or.inl rfl

theorem find?_of_addAnswer_of_ne {outputKey : Option String} {conversation : List Value}
    (added : addAnswer outputKey d conversation delta = .ok extended)
    (other : outputKey ≠ some key) : extended.find? key = delta.find? key := by
  rcases eq_or_eq_put_of_addAnswer added with rfl | ⟨-, output, key', rfl, -, rfl⟩
  · rfl
  · exact Record.find?_put_of_ne _ _ fun same => other (by rw [same])

theorem keys_decisionDelta (iteration : Int) (d : String) (turn : Option Message) :
    Record.keys (decisionDelta iteration d turn) = [decisionKey, iterationKey, messagesKey] := rfl

/-- A supervisor writes no key twice. -/
theorem keys_nodup_of_conclude {c : Consultation} (concluded : conclude node config c = .ok delta) :
    (Record.keys delta).Nodup := by
  obtain ⟨d, -, -, added⟩ := conclude_eq_ok_iff.mp concluded
  have distinct : (Record.keys (decisionDelta c.iteration d c.turn)).Nodup := by
    rw [keys_decisionDelta]
    decide
  rcases eq_or_eq_put_of_addAnswer added with rfl | ⟨-, output, key, -, -, rfl⟩
  · exact distinct
  · exact Record.keys_put_nodup distinct

/-- The number of decisions is written unless an answer takes its place. -/
theorem find?_iterationKey_of_conclude {c : Consultation}
    (concluded : conclude node config c = .ok delta) (free : node.outputKey ≠ some iterationKey) :
    delta.find? iterationKey = some (.int c.iteration) := by
  obtain ⟨d, -, -, added⟩ := conclude_eq_ok_iff.mp concluded
  rw [find?_of_addAnswer_of_ne added free]
  rfl

end AgentWorkflow.Node
