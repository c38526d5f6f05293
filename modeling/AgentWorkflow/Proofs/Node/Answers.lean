import AgentWorkflow.Proofs.Conversation
import AgentWorkflow.Proofs.Node.Consultation

/-!
# The answer of a conversation

The answer of a finished conversation is the first text that answers in the latest message of the
model that has one, where a text answers if it is not empty and not the marker of a decision. What
is looked for is the latest text that is no marker. The two are the same unless that text is empty:
an empty text is found like any other one, and then whatever was answered before is not looked at.

## Main definitions

* `Conversation.IsAnswer`, `Conversation.latestAnswer?`: the texts that answer, and the latest one
* `Conversation.Textual`: every part that is called a text is one
* `Conversation.OpensBlank`: the latest text that is no marker is empty

## Main results

* `Conversation.lastModelText_eq_answer`: what is found is the latest answer or nothing
* `Node.supervisor_answers`: when a supervisor that finishes writes the latest answer
-/

namespace AgentWorkflow

namespace Conversation

variable {conversation parts : List Value} {message : Value} {s answer : String}

/-- A text that answers: it is neither empty nor the marker of a decision. -/
def IsAnswer (s : String) : Prop := s ≠ "" ∧ startsWithMarker s = false

instance (s : String) : Decidable (IsAnswer s) := inferInstanceAs (Decidable (_ ∧ _))

/-- The text of a part, if it answers. -/
def answer? : Value → Option String
  | .str s => if IsAnswer s then some s else none
  | _ => none

/-- The first text of a message that answers. -/
def firstAnswer? (message : Value) : Option String := (textParts message).findSome? answer?

/-- The first answer in the latest message of the model that has one. -/
def latestAnswer? (conversation : List Value) : Option String :=
  (conversation.reverse.filter isFromModel).findSome? firstAnswer?

/-- Every part of the model's messages that is called a text is one. -/
def Textual (conversation : List Value) : Prop :=
  ∀ part ∈ modelTexts conversation, ∃ s, part = .str s

/-- Whether a part is the marker of a decision. -/
def isMarker : Value → Bool
  | .str s => startsWithMarker s
  | _ => false

/-- Of the texts of the model, the latest one that is no marker is empty. -/
def OpensBlank (conversation : List Value) : Prop :=
  (modelTexts conversation).find? (fun part => !isMarker part) = some (.str "")

/-! ### Answers -/

theorem answer?_eq_some_iff {part : Value} :
    answer? part = some s ↔ part = .str s ∧ IsAnswer s := by
  cases part with
  | str t =>
    rw [answer?]
    split_ifs with answers
    · constructor
      · intro same
        cases same
        exact ⟨rfl, answers⟩
      · rintro ⟨same, -⟩
        cases same
        rfl
    · constructor
      · intro impossible
        cases impossible
      · rintro ⟨same, answers'⟩
        cases same
        exact absurd answers' answers
  | _ =>
    constructor
    · intro impossible
      cases impossible
    · rintro ⟨impossible, -⟩
      cases impossible

theorem answer?_eq_none_of_isMarker {part : Value} (marked : isMarker part = true) :
    answer? part = none := by
  rw [Option.eq_none_iff_forall_ne_some]
  intro s found
  obtain ⟨rfl, -, unmarked⟩ := answer?_eq_some_iff.mp found
  rw [isMarker, unmarked] at marked
  cases marked

/-- The latest answer is the first one among all texts of the model, the latest message first. -/
theorem latestAnswer?_eq (conversation : List Value) :
    latestAnswer? conversation = (modelTexts conversation).findSome? answer? := by
  rw [latestAnswer?, modelTexts]
  induction conversation.reverse.filter isFromModel with
  | nil => rfl
  | cons message messages ih =>
    rw [List.flatMap_cons, List.findSome?_append, List.findSome?_cons, ← ih, firstAnswer?]
    cases (textParts message).findSome? answer? <;> rfl

/-- There is no answer exactly when no message of the model has a text that answers. -/
theorem latestAnswer?_eq_none_iff :
    latestAnswer? conversation = none ↔ ∀ message ∈ conversation, isFromModel message = true →
      ∀ s, .str s ∈ textParts message → ¬ IsAnswer s := by
  simp only [latestAnswer?, firstAnswer?, List.findSome?_eq_none_iff, List.mem_filter,
    List.mem_reverse, and_imp]
  refine forall_congr' fun message => imp_congr_right fun _ => imp_congr_right fun _ => ?_
  constructor
  · intro silent s part answers
    have found := silent _ part
    rw [answer?_eq_some_iff.mpr ⟨rfl, answers⟩] at found
    cases found
  · intro silent part member
    rw [Option.eq_none_iff_forall_ne_some]
    intro s found
    obtain ⟨rfl, answers⟩ := answer?_eq_some_iff.mp found
    exact silent s member answers

theorem isAnswer_of_latestAnswer? (latest : latestAnswer? conversation = some answer) :
    IsAnswer answer := by
  rw [latestAnswer?_eq] at latest
  obtain ⟨part, -, found⟩ := List.exists_of_findSome?_eq_some latest
  exact (answer?_eq_some_iff.mp found).2

/-! ### What is found -/

/-- Among texts, the first one is found that is no marker. -/
theorem firstPart_eq_find? (textual : ∀ part ∈ parts, ∃ s, part = .str s) :
    firstPart true parts = .ok (parts.find? fun part => !isMarker part) := by
  induction parts with
  | nil => rfl
  | cons part parts ih =>
    obtain ⟨⟨s, rfl⟩, rest⟩ := List.forall_mem_cons.mp textual
    rw [firstPart, List.find?_cons]
    simp only [if_true, isMarker]
    cases startsWithMarker s with
    | true => exact ih rest
    | false => rfl

/-- Once an answer is found that is not empty, it is the latest one. -/
theorem latestAnswer?_of_find? (nonempty : s ≠ "")
    (found : (modelTexts conversation).find? (fun part => !isMarker part) = some (.str s)) :
    latestAnswer? conversation = some s := by
  -- what stands before it are markers, which are passed over by both
  obtain ⟨unmarked, earlier, later, split, markers⟩ := List.find?_eq_some_iff_append.mp found
  have answers : IsAnswer s := ⟨nonempty, by simpa [isMarker] using unmarked⟩
  have none_before : earlier.findSome? answer? = none :=
    List.findSome?_eq_none_iff.mpr fun part member =>
      answer?_eq_none_of_isMarker (by simpa using markers part member)
  rw [latestAnswer?_eq, split, List.findSome?_append, none_before, Option.none_or,
    List.findSome?_cons, answer?_eq_some_iff.mpr ⟨rfl, answers⟩]

/-- What is found among texts is no marker. It is the latest answer, unless an empty text stands
before it; and otherwise it is empty. -/
theorem lastModelText_eq_answer (textual : Textual conversation) :
    ∃ s, lastModelText conversation true = .ok (.str s) ∧ startsWithMarker s = false ∧
      (OpensBlank conversation → s = "") ∧
      (¬ OpensBlank conversation → s = (latestAnswer? conversation).getD "") := by
  rw [lastModelText_eq, firstPart_eq_find? textual, OpensBlank]
  cases found : (modelTexts conversation).find? fun part => !isMarker part with
  | none =>
    -- all texts are markers, and no marker answers
    have markers := List.find?_eq_none.mp found
    have silent : latestAnswer? conversation = none := by
      rw [latestAnswer?_eq, List.findSome?_eq_none_iff]
      intro part member
      exact answer?_eq_none_of_isMarker (by simpa using markers part member)
    rw [silent]
    exact ⟨"", rfl, by decide, fun _ => rfl, fun _ => rfl⟩
  | some part =>
    obtain ⟨s, rfl⟩ := textual part (List.mem_of_find?_eq_some found)
    have unmarked : startsWithMarker s = false := by
      simpa [isMarker] using List.find?_some found
    refine ⟨s, rfl, unmarked, fun blank => ?_, fun opens => ?_⟩
    · cases blank
      rfl
    · have nonempty : s ≠ "" := by
        rintro rfl
        exact opens rfl
      rw [latestAnswer?_of_find? nonempty found, Option.getD_some]

end Conversation

namespace Node

open Conversation

variable {σ : Type} {prepare : ImagePreparer σ} {node : GraphNode} {config : SupervisorConfig}
  {respond : Chat.Responder σ} {state : State} {before after : σ} {c : Consultation}

/-- A supervisor that finishes writes the text that it finds, unless that is empty. -/
theorem gives_supervisorStep_finishing {key s : String}
    (consulted : (consult prepare node config respond state).Gives before c after)
    (finishes : decision (SupervisorConfig.label node.key) c.reply = .ok finish)
    (named : node.outputKey = some key) (nonempty : key ≠ "")
    (found : lastModelText c.conversation true = .ok (.str s)) :
    (supervisorStep prepare node config respond state).Gives before
      (if s = "" then decisionDelta c.iteration finish c.turn
        else (decisionDelta c.iteration finish c.turn).put key (.str s)) after := by
  refine gives_supervisorStep_iff.mpr ⟨c, consulted, conclude_eq_ok_iff.mpr
    ⟨finish, finishes, Or.inl rfl, ?_⟩⟩
  rw [named, addAnswer, if_pos (by simpa using nonempty), found]
  by_cases blank : s = ""
  · subst blank
    rfl
  · have truthy : (Value.str s).isTruthy = true := by simpa [Value.isTruthy] using blank
    rw [if_neg blank]
    exact congrArg Except.ok (if_pos truthy)

/-- **What a supervisor answers.** Among texts, what is found is no marker. It is the latest answer,
and a supervisor that finishes writes it, except where an empty text stands before it; then nothing
is written. -/
theorem supervisor_answers {conversation : List Value} (textual : Textual conversation) :
    ∃ s, lastModelText conversation true = .ok (.str s) ∧ startsWithMarker s = false ∧
      (s = "" ↔ OpensBlank conversation ∨
        ∀ message ∈ conversation, isFromModel message = true →
          ∀ t, .str t ∈ textParts message → ¬ IsAnswer t) ∧
      (∀ answer, latestAnswer? conversation = some answer →
        (s = answer ↔ ¬ OpensBlank conversation)) ∧
      ∀ {σ : Type} (prepare : ImagePreparer σ) (node : GraphNode) (config : SupervisorConfig)
        (respond : Chat.Responder σ) (state : State) (before after : σ) (c : Consultation)
        (key : String), history state = .ok conversation →
        (consult prepare node config respond state).Gives before c after →
        decision (SupervisorConfig.label node.key) c.reply = .ok finish →
        node.outputKey = some key → key ≠ "" →
          (supervisorStep prepare node config respond state).Gives before
            (if s = "" then decisionDelta c.iteration finish c.turn
              else (decisionDelta c.iteration finish c.turn).put key (.str s)) after := by
  obtain ⟨s, found, unmarked, blank, opens⟩ := lastModelText_eq_answer textual
  refine ⟨s, found, unmarked, ?empty, ?latest, ?writes⟩
  case empty =>
    rw [← latestAnswer?_eq_none_iff]
    by_cases opens_blank : OpensBlank conversation
    · exact iff_of_true (blank opens_blank) (Or.inl opens_blank)
    · rw [opens opens_blank, or_iff_right opens_blank]
      cases latest : latestAnswer? conversation with
      | none => exact iff_of_true rfl rfl
      | some answer =>
        exact iff_of_false (isAnswer_of_latestAnswer? latest).1 (Option.some_ne_none answer)
  case latest =>
    intro answer latest
    constructor
    · intro same opens_blank
      exact (isAnswer_of_latestAnswer? latest).1 (same.symm.trans (blank opens_blank))
    · intro opens_text
      rw [opens opens_text, latest, Option.getD_some]
  case writes =>
    intro σ prepare node config respond state before after c key kept consulted finishes named
      nonempty
    -- the conversation that the supervisor goes by is the one in the state
    obtain ⟨_, -, -, -, kept', -⟩ := gives_consult_iff.mp consulted
    have same : c.conversation = conversation := by
      rw [kept] at kept'
      exact (Except.ok.inj kept').symm
    exact gives_supervisorStep_finishing consulted finishes named nonempty (same ▸ found)

/-! ### An answer, and one that is hidden -/

namespace Inquiry

/-- An object with a role and a content. -/
def said (content : Value) : Value :=
  .object [("role", .str "assistant"), ("content", content)]

/-- A text part of a content. -/
def textPart (s : String) : Value := .object [("type", .str "text"), ("text", .str s)]

/-- A conversation in which the model answers before the last decision is made. -/
def answered : List Value :=
  [said (.str "41"), .message { role := .human, content := .str "sure?" },
    said (.list [textPart "42", .str "43"]), .message (marker "desk")]

/-- A conversation whose last message has an empty part. -/
def blanked : List Value := [said (.str "42"), said (.list [textPart ""])]

def clerk : GraphNode := { key := "clerk", type := "supervisor", outputKey := some "answer" }

def clerkConfig : SupervisorConfig where
  members := ["desk"]
  maxIterations := 3
  timeoutSeconds := 1.0

/-- A model that wants to finish. -/
def finishes : Message where
  role := .ai
  content := .str ""
  calls := [{ name := routeTool, args := .object [("next", .str "FINISH")] }]

def consulted (conversation : List Value) : Consultation where
  iteration := 2
  conversation := conversation
  turn := none
  reply := finishes

/-- A state with a conversation and a decision. -/
def stateOf (conversation : List Value) : State :=
  [(messagesKey, .list conversation), (iterationKey, .int 1)]

def step (conversation : List Value) : Act Unit Delta :=
  supervisorStep (fun _ => throw .unanswered) clerk clerkConfig (fun _ => pure finishes)
    (stateOf conversation)

theorem gives_consult_answered :
    (consult (fun _ => throw .unanswered) clerk clerkConfig (fun _ => pure finishes)
      (stateOf answered)).Gives () (consulted answered) () := rfl

theorem textual_answered : Textual answered := by
  have texts : modelTexts answered =
      [.str "[supervisor] routing to: desk", .str "42", .str "43", .str "41"] := rfl
  intro part member
  rw [texts] at member
  simp only [List.mem_cons, List.not_mem_nil, or_false] at member
  rcases member with rfl | rfl | rfl | rfl <;> exact ⟨_, rfl⟩

/-- The clerk answers with the first text of the latest message that is more than a marker. -/
theorem clerk_answers :
    lastModelText answered true = .ok (.str "42") ∧
      (step answered).Gives () ((decisionDelta 2 finish none).put "answer" (.str "42")) () := by
  obtain ⟨s, found, -, -, latest, writes⟩ := supervisor_answers textual_answered
  have opens_text : ¬ OpensBlank answered := by
    intro opens
    change some (Value.str "42") = some (.str "") at opens
    simp at opens
  have same : s = "42" := (latest "42" rfl).mpr opens_text
  subst same
  exact ⟨found, writes _ clerk clerkConfig _ _ () () (consulted answered) "answer" rfl
    gives_consult_answered rfl rfl (by decide)⟩

/-- The clerk has an answer, and does not write it. -/
theorem clerk_hides_answer :
    (∀ part ∈ modelTexts blanked, ∃ s, part = .str s) ∧ latestAnswer? blanked = some "42" ∧
      lastModelText blanked true = .ok (.str "") ∧
      (step blanked).Gives () (decisionDelta 2 finish none) () ∧
      (decisionDelta 2 finish none).find? "answer" = none := by
  refine ⟨fun part member => ?_, rfl, rfl, rfl, rfl⟩
  rcases List.mem_cons.mp member with rfl | member
  · exact ⟨_, rfl⟩
  · rw [List.mem_singleton.mp member]
    exact ⟨_, rfl⟩

end Inquiry

end Node

end AgentWorkflow
