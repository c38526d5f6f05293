import AgentWorkflow.Proofs.Agent.Limit
import AgentWorkflow.Proofs.Conversation
import AgentWorkflow.Proofs.Node.Built
import AgentWorkflow.Proofs.Node.Writes

/-!
# Agents that are cut off

That an agent was cut off is told by a text. The agent writes it, the latest text of the model is
taken from what it gives back, and two phrases are looked for in it. A worker takes the text from
the whole of what comes back, a member from what has been added. Whatever the limit is, the text of
an agent that was cut off is found and recognised by both; and an agent that comes to an end is
taken for one that was cut off exactly when its latest text has one of the phrases in it.

## Main definitions

* `Conversation.ContainsIgnoringCase`, `Conversation.SaysCutOff`: what counts as such a text
* `Agent.Limited`: an agent whose turns are limited, that is cut off or comes to an end
* `Node.Withholds`: a step in which an agent that was cut off delivers nothing

## Main results

* `Conversation.saysCutOff_cutOffText`: the text of an agent that was cut off is recognised
* `Agent.Limited.gives_run_iff`: an agent that gives something was cut off or came to an end
* `Node.workers_withhold`: no worker delivers the answer of an agent that was cut off
-/

namespace AgentWorkflow

/-! ### Texts that say that an agent was cut off -/

namespace Conversation

variable {messages : List Value} {s : String}

/-- A phrase stands in a text, whatever the case of the letters. -/
def ContainsIgnoringCase (phrase s : String) : Prop :=
  ∃ piece, piece <:+: s.toList ∧ piece.map foldCase = phrase.toList

/-- The latest text of the model says that an agent was cut off. -/
def SaysCutOff (messages : List Value) : Prop :=
  ∃ s, lastModelText messages false = .ok (.str s) ∧
    ∃ phrase ∈ limitPhrases, ContainsIgnoringCase phrase s

theorem containsIgnoringCase_iff {phrase : String} :
    ContainsIgnoringCase phrase s ↔ phrase.toList <:+: s.toList.map foldCase := by
  constructor
  · rintro ⟨piece, part, folded⟩
    rw [← folded]
    exact part.map foldCase
  · rintro ⟨front, back, split⟩
    -- the pieces of the folded text are the folded pieces of the text
    obtain ⟨cs, after, whole, taken, -⟩ := List.map_eq_append_iff.mp split.symm
    obtain ⟨before, piece, rfl, -, folded⟩ := List.map_eq_append_iff.mp taken
    exact ⟨piece, ⟨before, after, whole.symm⟩, folded⟩

/-- Searching a text finds the phrases in it. -/
theorem saysCutOff_iff :
    saysCutOff s = true ↔ ∃ phrase ∈ limitPhrases, ContainsIgnoringCase phrase s := by
  simp only [saysCutOff, List.any_eq_true, Text.occurs_iff, containsIgnoringCase_iff]

/-- Only a text is recognised. -/
theorem isCutOff_eq_true_iff {value : Value} :
    isCutOff value = .ok true ↔ ∃ s, value = .str s ∧ saysCutOff s = true := by
  cases value with
  | str s => simp [isCutOff]
  | _ =>
    simp only [isCutOff]
    split_ifs <;> simp

theorem saysCutOff_iff_of_lastModelText {s : String}
    (last : lastModelText messages false = .ok (.str s)) :
    SaysCutOff messages ↔ saysCutOff s = true := by
  rw [saysCutOff_iff]
  constructor
  · rintro ⟨s', last', recognised⟩
    rw [last] at last'
    cases last'
    exact recognised
  · exact fun recognised => ⟨s, last, recognised⟩

theorem not_saysCutOff_nil : ¬ SaysCutOff [] := by
  have last : lastModelText [] false = .ok (.str "") := rfl
  rw [saysCutOff_iff_of_lastModelText last]
  decide

/-- An agent that was cut off says so in words that are recognised, whatever its limit was. -/
theorem saysCutOff_cutOffText (n : Int) : saysCutOff (Agent.cutOffText n) = true := by
  have split : (Agent.cutOffText n).toList = "Agent stopped: ".toList ++
      "maximum iterations reached".toList ++
        (" (".toList ++ ((toString n).toList ++ ").".toList)) := by
    have opening : "Agent stopped: maximum iterations reached (".toList =
        "Agent stopped: ".toList ++ "maximum iterations reached".toList ++ " (".toList := by
      decide +kernel
    unfold Agent.cutOffText
    rw [String.toList_append, String.toList_append]
    -- rewriting with a text would compare it to the digits of the number
    generalize "Agent stopped: maximum iterations reached (".toList = start at *
    subst opening
    simp only [List.append_assoc]
  have folded : "maximum iterations reached".toList.map foldCase =
      "maximum iterations reached".toList := by decide +kernel
  exact saysCutOff_iff.mpr ⟨"maximum iterations reached", List.mem_cons_self, _,
    ⟨_, _, split.symm⟩, folded⟩

/-- The latest text of a conversation that ends with such an answer is this answer. -/
theorem lastModelText_append_cutOffMessage (messages : List Value) (n : Int) :
    lastModelText (messages ++ [.message (Agent.cutOffMessage n)]) false =
      .ok (.str (Agent.cutOffText n)) := by
  -- an empty text would be passed over, but the text of such an answer is not empty
  have nonempty : Agent.cutOffText n ≠ "" := by
    intro blank
    have recognised := saysCutOff_cutOffText n
    rw [blank] at recognised
    cases recognised
  have own : isFromModel (.message (Agent.cutOffMessage n)) = true := rfl
  have part : textParts (.message (Agent.cutOffMessage n)) = [.str (Agent.cutOffText n)] := by
    simp only [textParts, content, Agent.cutOffMessage, beq_iff_eq, nonempty, if_false]
  rw [lastModelText_false, modelTexts, List.reverse_append, List.reverse_singleton,
    List.singleton_append, List.filter_cons_of_pos own, List.flatMap_cons, part,
    List.singleton_append, List.head?_cons, Option.getD_some]

end Conversation

/-! ### Agents whose turns are limited -/

namespace Agent

open Chat

/-- An agent whose turns are limited, with what it asks and the tools that it has. -/
structure Limited (σ : Type) where
  respond : Responder σ
  tools : Record (Tool.Offered σ)
  cap : Int
  systemMessage : String

namespace Limited

variable {σ : Type} {agent : Limited σ} {conversation result : List Value} {before after : σ}

/-- The agent as it is run. -/
def reasoner (agent : Limited σ) : Reasoner σ where
  run := runBounded agent.respond agent.tools agent.cap agent.systemMessage

/-- The turns of an agent that can be run at all. -/
def converses (agent : Limited σ) (messages : List Message) : Act σ (Option (List Message)) :=
  converse agent.respond agent.tools agent.systemMessage agent.cap.toNat messages

/-- The agent is run on a conversation, and all its turns are spent before the model is done. -/
def HitsLimit (agent : Limited σ) (conversation : List Value) (before after : σ) : Prop :=
  1 ≤ stepLimit agent.cap ∧ ∃ messages, prompt conversation = .ok messages ∧
    (agent.converses messages).Gives before none after

/-- The agent is run on a conversation, and the model is done while there are turns left. -/
def Finishes (agent : Limited σ) (conversation : List Value) (before : σ) (result : List Value)
    (after : σ) : Prop :=
  1 ≤ stepLimit agent.cap ∧ ∃ messages whole, prompt conversation = .ok messages ∧
    (agent.converses messages).Gives before (some whole) after ∧ result = whole.map .message

/-- An agent that gives something back was cut off, and says so after the conversation as it was,
or came to an end. -/
theorem gives_run_iff :
    (agent.reasoner.run conversation).Gives before result after ↔
      agent.HitsLimit conversation before after ∧
          result = conversation ++ [.message (cutOffMessage agent.cap)] ∨
        agent.Finishes conversation before result after := by
  simp only [reasoner, runBounded, HitsLimit, Finishes, converses]
  by_cases refused : stepLimit agent.cap < 1
  · have not_run : ¬ 1 ≤ stepLimit agent.cap := by omega
    simp [refused, not_run]
  · have runs : 1 ≤ stepLimit agent.cap := by omega
    rw [if_neg refused]
    simp only [Act.gives_bind_iff, Act.gives_ofFault_iff, runs, true_and]
    constructor
    · rintro ⟨messages, _, ⟨read, rfl⟩, ended, middle, conversed, rest⟩
      -- the two ways in which the conversation may have ended
      cases ended with
      | none =>
        obtain ⟨rfl, rfl⟩ := Act.gives_pure_iff.mp rest
        exact Or.inl ⟨⟨messages, read, conversed⟩, rfl⟩
      | some whole =>
        obtain ⟨rfl, rfl⟩ := Act.gives_pure_iff.mp rest
        exact Or.inr ⟨messages, whole, read, conversed, rfl⟩
    · rintro (⟨⟨messages, read, conversed⟩, rfl⟩ | ⟨messages, whole, read, conversed, rfl⟩)
      · exact ⟨messages, before, ⟨read, rfl⟩, none, after, conversed,
          Act.gives_pure_iff.mpr ⟨rfl, rfl⟩⟩
      · exact ⟨messages, before, ⟨read, rfl⟩, some whole, after, conversed,
          Act.gives_pure_iff.mpr ⟨rfl, rfl⟩⟩

end Limited

end Agent

namespace Node

open Conversation

variable {σ : Type} {settings : Settings} {prepare : ImagePreparer σ} {n : PlanNode}
  {client : Option (Chat.Client σ)} {transport : Option (Tool.Transport σ)} {label output : String}
  {agent : Agent.Limited σ} {conversation messages : List Value} {before middle after : σ}
  {judged : List Value → List Value} {next : List Value → Act σ Delta}

/-- The error of a node whose agent was cut off. -/
def limitError (label output : String) : Failure :=
  .error (.execution (.iterationLimit label output))

/-- In a step an agent is run on a conversation, and what is `judged` of its result decides whether
it was cut off. Then the step fails and tells what the agent said; if the agent came to an end, the
step fails so exactly when what is judged says that it was cut off. Whatever is written was given by
an agent that came to an end and does not say so. -/
structure Withholds (step : Act σ Delta) (label : String) (agent : Agent.Limited σ)
    (conversation : List Value) (judged : List Value → List Value) (before middle : σ) : Prop where
  cutOff : ∀ {after}, agent.HitsLimit conversation middle after →
    step.Fails before (limitError label (Agent.cutOffText agent.cap)) after
  finished : ∀ {result after}, agent.Finishes conversation middle result after →
    ((∃ output after', step.Fails before (limitError label output) after') ↔
      SaysCutOff (judged result))
  written : ∀ {delta after}, step.Gives before delta after →
    ∃ result, agent.Finishes conversation middle result after ∧ ¬ SaysCutOff (judged result)

/-- The agent with a limit that a worker is given: it asks the model of the worker, with its tools
on offer, and its turns are limited as the worker is configured. -/
def Employs (settings : Settings) (label : String) (n : PlanNode)
    (client : Option (Chat.Client σ)) (transport : Option (Tool.Transport σ)) (start : σ)
    (config : WorkerConfig) (agent : Agent.Limited σ) (ready : σ) : Prop :=
  ∃ model tools, chatModel label client = .ok model ∧
    WorkerConfig.parse n.node.config label = .ok config ∧
    Tool.offeredAll transport n.tools = .ok tools ∧
    (Agent.responder model tools).Gives start agent.respond ready ∧
    agent.tools = Agent.byName tools ∧ agent.cap = config.effectiveMaxIterations settings ∧
    agent.systemMessage = config.systemMessage

/-! ### What is done with the result of an agent -/

/-- What is done with a result fails over the limit exactly when what is judged of it says that the
agent was cut off. It leaves the world alone. -/
structure Judges (next : List Value → Act σ Delta) (label : String)
    (judged : List Value → List Value) : Prop where
  fails_iff : ∀ {result before output after},
    (next result).Fails before (limitError label output) after ↔
      before = after ∧ lastModelText (judged result) false = .ok (.str output) ∧
        SaysCutOff (judged result)
  gives : ∀ {result before delta after}, (next result).Gives before delta after →
    before = after ∧ ¬ SaysCutOff (judged result)

/-- Taking the answer of an agent fails over the limit exactly when the answer says so. -/
theorem fails_finalText_limit_iff :
    (finalText label messages : Act σ Value).Fails before (limitError label output) after ↔
      before = after ∧ lastModelText messages false = .ok (.str output) ∧ SaysCutOff messages := by
  simp only [finalText, Act.fails_bind_iff, Act.fails_ofFault_iff, Act.gives_ofFault_iff,
    limitError]
  constructor
  -- looking for the text and searching it end in faults only, and a fault is no such error
  · rintro (⟨_, -, impossible, -⟩ | ⟨value, _, ⟨last, rfl⟩, rest⟩)
    · cases impossible
    rcases rest with ⟨_, -, impossible, -⟩ | ⟨cut, _, ⟨searched, rfl⟩, rest⟩
    · cases impossible
    split_ifs at rest with is_cut
    · rw [is_cut] at searched
      obtain ⟨s, rfl, recognised⟩ := isCutOff_eq_true_iff.mp searched
      obtain ⟨same, rfl⟩ := Act.fails_fail_iff.mp rest
      cases same
      exact ⟨rfl, last, (saysCutOff_iff_of_lastModelText last).mpr recognised⟩
    · simp at rest
  · rintro ⟨rfl, last, cut⟩
    have recognised := (saysCutOff_iff_of_lastModelText last).mp cut
    refine Or.inr ⟨_, before, ⟨last, rfl⟩, Or.inr ⟨true, before, ⟨?_, rfl⟩, ?_⟩⟩
    · exact isCutOff_eq_true_iff.mpr ⟨output, rfl, recognised⟩
    · exact Act.fails_fail_iff.mpr ⟨rfl, rfl⟩

theorem not_saysCutOff_of_gives_finalText {value : Value}
    (gives : (finalText label messages : Act σ Value).Gives before value after) :
    before = after ∧ ¬ SaysCutOff messages := by
  simp only [finalText, Act.gives_bind_iff, Act.gives_ofFault_iff] at gives
  obtain ⟨value, _, ⟨last, rfl⟩, cut, _, ⟨searched, rfl⟩, rest⟩ := gives
  split_ifs at rest with is_cut
  · simp at rest
  · obtain ⟨rfl, rfl⟩ := Act.gives_pure_iff.mp rest
    refine ⟨rfl, ?_⟩
    rintro ⟨s, last', recognised⟩
    rw [last] at last'
    cases last'
    rw [isCutOff_eq_true_iff.mpr ⟨s, rfl, saysCutOff_iff.mpr recognised⟩] at searched
    exact is_cut (Except.ok.inj searched).symm

/-- What a worker does with the result of its agent: it takes the answer from the whole of it. -/
def deliver (label : String) (outputKey : Option String) (result : List Value) : Act σ Delta := do
  let output ← finalText label result
  match outputKey with
  | none => return []
  | some key => return if key == "" then [] else [(key, output)]

/-- What a member does with the result of its agent: it takes the answer from what was added. -/
def append (label : String) (before : Nat) (result : List Value) : Act σ Delta :=
  if (result.drop before).isEmpty then return []
  else do
    let _ ← finalText label (result.drop before)
    return [(messagesKey, .list (result.drop before))]

theorem judges_deliver (label : String) (outputKey : Option String) :
    Judges (deliver (σ := σ) label outputKey) label id where
  fails_iff := by
    intro result before output after
    rw [deliver, Act.fails_bind_iff, fails_finalText_limit_iff]
    refine or_iff_left ?_
    rintro ⟨_, _, -, rest⟩
    split at rest <;> exact Act.not_fails_pure rest
  gives := by
    intro result before delta after gives
    obtain ⟨_, _, judged, rest⟩ := Act.gives_bind_iff.mp gives
    obtain ⟨rfl, silent⟩ := not_saysCutOff_of_gives_finalText judged
    split at rest <;> exact ⟨(Act.gives_pure_iff.mp rest).2, silent⟩

theorem judges_append (label : String) (length : Nat) :
    Judges (append (σ := σ) label length) label (List.drop length) where
  fails_iff := by
    intro result before output after
    rw [append]
    split_ifs with nothing
    · rw [List.isEmpty_iff.mp nothing]
      -- nothing says nothing
      refine iff_of_false Act.not_fails_pure ?_
      rintro ⟨-, -, cut⟩
      exact not_saysCutOff_nil cut
    · rw [Act.fails_bind_iff, fails_finalText_limit_iff]
      refine or_iff_left ?_
      rintro ⟨_, _, -, rest⟩
      exact Act.not_fails_pure rest
  gives := by
    intro result before delta after gives
    rw [append] at gives
    split_ifs at gives with nothing
    · rw [List.isEmpty_iff.mp nothing]
      exact ⟨(Act.gives_pure_iff.mp gives).2, not_saysCutOff_nil⟩
    · obtain ⟨_, _, judged, rest⟩ := Act.gives_bind_iff.mp gives
      obtain ⟨rfl, silent⟩ := not_saysCutOff_of_gives_finalText judged
      exact ⟨(Act.gives_pure_iff.mp rest).2, silent⟩

/-! ### Steps in which an agent is run -/

theorem gives_runAgent_iff {result : List Value} :
    (runAgent label agent.reasoner conversation).Gives before result after ↔
      agent.HitsLimit conversation before after ∧
          result = conversation ++ [.message (Agent.cutOffMessage agent.cap)] ∨
        agent.Finishes conversation before result after :=
  Act.gives_describe_iff.trans Agent.Limited.gives_run_iff

/-- A step withholds the answer of an agent that was cut off, if what comes before the agent is run
has been done, and if the words of such an agent are what is judged last. -/
theorem withholds_of_judges {step : Act σ Delta} (judges : Judges next label judged)
    (steps : step.outcome before =
      (runAgent label agent.reasoner conversation >>= next).outcome middle)
    (ends : ∃ earlier, judged (conversation ++ [.message (Agent.cutOffMessage agent.cap)]) =
      earlier ++ [.message (Agent.cutOffMessage agent.cap)]) :
    Withholds step label agent conversation judged before middle := by
  obtain ⟨earlier, ends⟩ := ends
  have last : lastModelText (judged (conversation ++ [.message (Agent.cutOffMessage agent.cap)]))
      false = .ok (.str (Agent.cutOffText agent.cap)) := by
    rw [ends, lastModelText_append_cutOffMessage]
  have cut := (saysCutOff_iff_of_lastModelText last).mpr (saysCutOff_cutOffText agent.cap)
  refine { cutOff := ?_, finished := ?_, written := ?_ }
  · intro after hits
    have ran : (runAgent label agent.reasoner conversation).Gives middle _ after :=
      gives_runAgent_iff.mpr (Or.inl ⟨hits, rfl⟩)
    rw [Act.Fails, steps, Act.outcome_bind_of_gives ran]
    exact judges.fails_iff.mpr ⟨rfl, last, cut⟩
  · intro result after finishes
    have ran : (runAgent label agent.reasoner conversation).Gives middle result after :=
      gives_runAgent_iff.mpr (Or.inr finishes)
    simp only [Act.Fails, steps, Act.outcome_bind_of_gives ran]
    constructor
    · rintro ⟨output, after', fails⟩
      exact (judges.fails_iff.mp fails).2.2
    · rintro ⟨s, spoken, phrase⟩
      exact ⟨s, after, judges.fails_iff.mpr ⟨rfl, spoken, s, spoken, phrase⟩⟩
  · intro delta after gives
    -- had the agent been cut off, what is judged would have said so
    rw [Act.Gives, steps] at gives
    obtain ⟨result, middle', ran, rest⟩ := Act.gives_bind_iff.mp gives
    obtain ⟨rfl, silent⟩ := judges.gives rest
    rcases gives_runAgent_iff.mp ran with ⟨-, rfl⟩ | finishes
    · exact absurd cut silent
    · exact ⟨result, finishes, silent⟩

theorem outcome_workerStep {config : WorkerConfig} {reasoner : Agent.Reasoner σ} {state : State}
    {turn : Message}
    (opened : (humanTurn prepare config.input defaultWorkerPrompt
      (inputText n.node.inputKey state)).Gives before turn middle) :
    (workerStep prepare n.node config reasoner state).outcome before =
      (runAgent (workerLabel n.key) reasoner [.message turn] >>=
        deliver (workerLabel n.key) n.node.outputKey).outcome middle :=
  Act.outcome_bind_of_gives opened

theorem outcome_memberStep {reasoner : Agent.Reasoner σ} {state : State}
    (kept : history state = .ok conversation) :
    (memberStep n.key reasoner state).outcome before =
      (runAgent (memberLabel n.key) reasoner conversation >>=
        append (memberLabel n.key) conversation.length).outcome before := by
  rw [memberStep, kept]
  rfl

/-- What is built with a limit is such an agent. -/
theorem exists_employs {config : WorkerConfig} {reasoner : Agent.Reasoner σ}
    (gives : (buildAgent settings Agent.bounded label n client transport).Gives before
      (config, reasoner) after) :
    ∃ agent, reasoner = agent.reasoner ∧
      Employs settings label n client transport before config agent after := by
  obtain ⟨model, tools, chosen, -, parsed, offered, given⟩ := gives_buildAgent_iff.mp gives
  obtain ⟨respond, asked, rfl⟩ := Agent.gives_bounded_iff.mp given
  exact ⟨⟨respond, Agent.byName tools, config.effectiveMaxIterations settings,
    config.systemMessage⟩, rfl, model, tools, chosen, parsed, offered, asked, rfl, rfl, rfl⟩

/-- **No worker delivers the answer of an agent that was cut off.** A worker goes by the whole of
what its agent gives back, a member by what the agent has added. -/
theorem workers_withhold {built : Built σ} {start ready : σ} :
    ((buildWorker settings Agent.bounded prepare n client transport).Gives start built ready →
      ∃ config agent,
        Employs settings (workerLabel n.key) n client transport start config agent ready ∧
        ∀ state before turn middle, (humanTurn prepare config.input defaultWorkerPrompt
          (inputText n.node.inputKey state)).Gives before turn middle →
            Withholds (built.step state) (workerLabel n.key) agent [.message turn] id before
              middle) ∧
    ((buildMember settings Agent.bounded n client transport).Gives start built ready →
      ∃ config agent,
        Employs settings (memberLabel n.key) n client transport start config agent ready ∧
        ∀ state before conversation, history state = .ok conversation →
          Withholds (built.step state) (memberLabel n.key) agent conversation
            (List.drop conversation.length) before before) := by
  constructor
  · intro gives
    obtain ⟨config, _, made, rfl⟩ := gives_buildWorker_iff.mp gives
    obtain ⟨agent, rfl, employs⟩ := exists_employs made
    refine ⟨config, agent, employs, fun state before turn middle opened => ?_⟩
    exact withholds_of_judges (judges_deliver _ _) (outcome_workerStep opened) ⟨_, rfl⟩
  · intro gives
    obtain ⟨config, _, made, rfl⟩ := gives_buildMember_iff.mp gives
    obtain ⟨agent, rfl, employs⟩ := exists_employs made
    refine ⟨config, agent, employs, fun state before conversation kept => ?_⟩
    exact withholds_of_judges (judges_append _ _) (outcome_memberStep kept)
      ⟨[], by rw [List.drop_left, List.nil_append]⟩

/-! ### A worker and a member that are cut off -/

namespace Errand

open Agent.Errand (model question request done)

/-- A node whose agent may ask for tools once. -/
def errand : PlanNode where
  node := {
    key := "errand"
    type := "worker"
    config := .object [("max_iterations", .int 1)]
    outputKey := some "answer" }

def noImages : ImagePreparer (List Message) := fun _ => throw .unanswered

/-- What a worker without an input sends. -/
def opening : Message where
  role := .human
  content := .list [textPart defaultWorkerPrompt]

def errandAgent : Agent.Limited (List Message) where
  respond := Agent.Errand.respond
  tools := []
  cap := 1
  systemMessage := ""

/-- A state with a question. -/
def asked : State := [(messagesKey, .list [.message question])]

theorem eq_of_employs {config : WorkerConfig} {agent : Agent.Limited (List Message)}
    (employs : Employs {} label errand (some (.chat model)) none [] config agent []) :
    config = { maxIterations := 1 } ∧ agent = errandAgent := by
  obtain ⟨chosen, tools, chat, parsed, offered, asked, tools_eq, cap_eq, system_eq⟩ := employs
  have same : WorkerConfig.parse errand.node.config label = .ok { maxIterations := 1 } := rfl
  rw [same] at parsed
  cases parsed
  cases chat
  cases offered
  obtain ⟨respond, agentTools, cap, systemMessage⟩ := agent
  cases asked
  cases tools_eq
  cases cap_eq
  cases system_eq
  exact ⟨rfl, rfl⟩

/-- With a model that asks for tools, neither delivers anything, and a member whose model is done at
once does not fail so. -/
theorem errands_withhold :
    ∃ worker member,
      (buildWorker {} Agent.bounded noImages errand (some (.chat model)) none).Gives [] worker [] ∧
      (buildMember {} Agent.bounded errand (some (.chat model)) none).Gives [] member [] ∧
      (worker.step []).Fails [request, done]
        (limitError "worker node 'errand'" (Agent.cutOffText 1)) [] ∧
      (member.step asked).Fails [request, done]
        (limitError "member worker 'errand'" (Agent.cutOffText 1)) [] ∧
      ¬ ∃ output after, (member.step asked).Fails [done]
        (limitError "member worker 'errand'" output) after := by
  have built : (buildWorker {} Agent.bounded noImages errand (some (.chat model)) none).Gives []
      { key := "errand", description := "errand",
        step := workerStep noImages errand.node { maxIterations := 1 } errandAgent.reasoner } [] :=
    rfl
  have built' : (buildMember {} Agent.bounded errand (some (.chat model)) none).Gives []
      { key := "errand", description := "Supervisor member worker: errand",
        step := memberStep "errand" errandAgent.reasoner } [] := rfl
  have worker := workers_withhold.1 built
  have member := (@workers_withhold _ _ noImages _ _ _ _ _ _).2 built'
  obtain ⟨config, agent, employs, withholds⟩ := worker
  obtain ⟨rfl, rfl⟩ := eq_of_employs employs
  obtain ⟨config, agent, employs, withholds'⟩ := member
  obtain ⟨rfl, rfl⟩ := eq_of_employs employs
  have opened : (humanTurn noImages {} defaultWorkerPrompt (inputText none [])).Gives
      [request, done] opening [request, done] := rfl
  have hits : errandAgent.HitsLimit [.message opening] [request, done] [] :=
    ⟨by decide, _, rfl, rfl⟩
  have hits' : errandAgent.HitsLimit [.message question] [request, done] [] :=
    ⟨by decide, _, rfl, rfl⟩
  have finishes : errandAgent.Finishes [.message question] [done]
      [.message question, .message done] [] := ⟨by decide, _, _, rfl, rfl, rfl⟩
  refine ⟨_, _, built, built', (withholds _ _ _ _ opened).cutOff hits,
    (withholds' _ _ _ rfl).cutOff hits', fun fails => ?_⟩
  have told := ((withholds' _ _ _ rfl).finished finishes).mp fails
  have last : lastModelText [.message done] false = .ok (.str "done") := rfl
  exact absurd ((saysCutOff_iff_of_lastModelText last).mp told) (by decide)

end Errand

end Node

end AgentWorkflow
