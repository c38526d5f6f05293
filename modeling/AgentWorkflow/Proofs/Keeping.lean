import AgentWorkflow.Agent.Bounded
import AgentWorkflow.Proofs.Outcome
import AgentWorkflow.Proofs.Record

/-!
# What acts keep

An act keeps a property of worlds if the property holds after the act whenever it held before,
whether the act succeeds or not. This goes through sequences of acts part by part, and so does what
is known of their results.

An agent touches the world through its model and its tools alone. So it keeps whatever these keep.

## Main definitions

* `Act.Keeps`: an act keeps a property of worlds, and its results have a property
* `Chat.Model.Keeps`, `Tool.Offered.Keeps`, `Agent.Reasoner.Keeps`: what collaborators keep

## Main results

* `Act.Keeps.bind`: a sequence keeps what both of its parts keep
* `Agent.bounded_keeps`: an agent whose turns are limited keeps what its model and its tools keep
-/

namespace AgentWorkflow

variable {σ α β : Type} {I : σ → Prop} {P : α → Prop} {Q : β → Prop}

namespace Act

variable {act act' : Act σ α}

/-- The act keeps a property of worlds, and what it gives in such a world has a property, too. -/
structure Keeps (act : Act σ α) (I : σ → Prop) (P : α → Prop) : Prop where
  world : ∀ {before}, I before → I (act.outcome before).2
  result : ∀ {before a after}, I before → act.Gives before a after → P a

/-- The act keeps a property of worlds. -/
abbrev KeepsWorld (act : Act σ α) (I : σ → Prop) : Prop := act.Keeps I fun _ => True

namespace Keeps

theorem of_gives {before after : σ} {a : α} (keeps : act.Keeps I P) (held : I before)
    (gives : act.Gives before a after) : I after ∧ P a := by
  have kept := keeps.world held
  rw [show act.outcome before = (.ok a, after) from gives] at kept
  exact ⟨kept, keeps.result held gives⟩

theorem pure {a : α} (holds : P a) : (pure a : Act σ α).Keeps I P where
  world held := held
  result _ gives := by
    obtain ⟨rfl, -⟩ := gives_pure_iff.mp gives
    exact holds

theorem throw (failure : Failure) : (throw failure : Act σ α).Keeps I P where
  world held := held
  result _ gives := (not_gives_throw gives).elim

theorem fail (error : GraphError) : (fail error : Act σ α).Keeps I P := .throw (.error error)

/-- A sequence keeps what both of its acts keep. -/
theorem bind {next : α → Act σ β} (first : act.Keeps I P) (rest : ∀ a, P a → (next a).Keeps I Q) :
    (act >>= next).Keeps I Q where
  world {before} held := by
    rw [outcome_bind]
    rcases came : act.outcome before with ⟨failure | a, middle⟩
    · have kept := first.world held
      rwa [came] at kept
    · obtain ⟨kept, holds⟩ := first.of_gives held came
      exact (rest a holds).world kept
  result held gives := by
    obtain ⟨a, middle, one, other⟩ := gives_bind_iff.mp gives
    obtain ⟨kept, holds⟩ := first.of_gives held one
    exact (rest a holds).result kept other

theorem describe (description : Failure → Failure) (keeps : act.Keeps I P) :
    (act.describe description).Keeps I P where
  world {before} held := by
    have kept := keeps.world held
    rw [outcome_describe]
    rcases came : act.outcome before with ⟨failure | a, after⟩ <;> rw [came] at kept <;> exact kept
  result held gives := keeps.result held (gives_describe_iff.mp gives)

theorem ite {c : Prop} [Decidable c] (yes : c → act.Keeps I P) (no : ¬ c → act'.Keeps I P) :
    (if c then act else act').Keeps I P := by
  by_cases h : c
  · rw [if_pos h]
    exact yes h
  · rw [if_neg h]
    exact no h

theorem ofExcept (outcome : Except Failure α) : (ofExcept outcome : Act σ α).KeepsWorld I := by
  cases outcome with
  | error failure => exact .throw failure
  | ok a => exact .pure trivial

theorem ofFault (outcome : Except Fault α) : (ofFault outcome : Act σ α).KeepsWorld I := by
  cases outcome with
  | error fault => exact .throw (.fault fault)
  | ok a => exact .pure trivial

theorem mapM {f : β → Act σ α} (each : ∀ b, (f b).KeepsWorld I) (items : List β) :
    (items.mapM f).KeepsWorld I := by
  induction items with
  | nil => exact .pure trivial
  | cons item items ih =>
    rw [List.mapM_cons]
    exact (each item).bind fun _ _ => ih.bind fun _ _ => .pure trivial

end Keeps

end Act

/-! ### Collaborators -/

/-- A responder keeps a property of worlds. -/
def Chat.Responder.Keeps (respond : Chat.Responder σ) (I : σ → Prop) : Prop :=
  ∀ prompt, (respond prompt).KeepsWorld I

/-- A model keeps a property of worlds, whatever is put on offer. -/
structure Chat.Model.Keeps (model : Chat.Model σ) (I : σ → Prop) : Prop where
  respond : Chat.Responder.Keeps model.respond I
  offer : ∀ tools forced, (model.offer tools forced).Keeps I fun respond =>
    Chat.Responder.Keeps respond I

/-- A client keeps a property of worlds, if it is a model at all. -/
def Chat.Client.Keeps (client : Chat.Client σ) (I : σ → Prop) : Prop :=
  ∀ model, client = .chat model → model.Keeps I

/-- The tools of a transport keep a property of worlds. -/
def Tool.Transport.Keeps (transport : Tool.Transport σ) (I : σ → Prop) : Prop :=
  ∀ tool arguments, (transport.call tool arguments).KeepsWorld I

/-- A tool on offer keeps a property of worlds. -/
def Tool.Offered.Keeps (tool : Tool.Offered σ) (I : σ → Prop) : Prop :=
  ∀ arguments, (tool.call arguments).KeepsWorld I

/-- An agent keeps a property of worlds. -/
def Agent.Reasoner.Keeps (agent : Agent.Reasoner σ) (I : σ → Prop) : Prop :=
  ∀ conversation, (agent.run conversation).KeepsWorld I

/-! ### Agents whose turns are limited -/

namespace Agent

variable {respond : Chat.Responder σ} {tools : Record (Tool.Offered σ)}

theorem answer_keepsWorld (kept : ∀ {name tool}, tools.find? name = some tool → tool.Keeps I)
    (call : ToolCall) : (answer tools call).KeepsWorld I := by
  rw [answer]
  cases found : tools.find? call.name with
  | none => exact .bind (P := fun _ => True) (.pure trivial) fun _ _ => .pure trivial
  | some tool =>
    refine (Act.Keeps.ofFault _).bind fun arguments _ => ?_
    exact (kept found arguments).bind fun report _ => .pure trivial

theorem ask_keepsWorld (kept : Chat.Responder.Keeps respond I) (systemMessage : String)
    (conversation : List Message) : (ask respond systemMessage conversation).KeepsWorld I := by
  rw [ask]
  refine .ite (fun _ => ?_) fun _ => ?_
  · rw [Act.throw_bind]
    exact .throw _
  · exact kept _

theorem converse_keepsWorld (responder_kept : Chat.Responder.Keeps respond I)
    (tools_kept : ∀ {name tool}, tools.find? name = some tool → tool.Keeps I)
    (systemMessage : String) (turns : Nat) (conversation : List Message) :
    (converse respond tools systemMessage turns conversation).KeepsWorld I := by
  induction turns generalizing conversation with
  | zero =>
    rw [converse]
    exact (ask_keepsWorld responder_kept systemMessage conversation).bind fun _ _ => .pure trivial
  | succ turns ih =>
    rw [converse]
    refine (ask_keepsWorld responder_kept systemMessage conversation).bind fun reply _ => ?_
    refine .ite (fun _ => .pure trivial) fun _ => ?_
    exact (Act.Keeps.mapM (answer_keepsWorld tools_kept) _).bind fun answers _ => ih _

theorem runBounded_keepsWorld (responder_kept : Chat.Responder.Keeps respond I)
    (tools_kept : ∀ {name tool}, tools.find? name = some tool → tool.Keeps I)
    (maxIterations : Int) (systemMessage : String) (conversation : List Value) :
    (runBounded respond tools maxIterations systemMessage conversation).KeepsWorld I := by
  rw [runBounded]
  refine .ite (fun _ => ?_) fun _ => ?_
  · rw [Act.throw_bind]
    exact .throw _
  · refine (Act.Keeps.ofFault _).bind fun messages _ => ?_
    refine (converse_keepsWorld responder_kept tools_kept _ _ _).bind fun result _ => ?_
    cases result with
    | none => exact .pure trivial
    | some result => exact .pure trivial

/-- An agent whose turns are limited keeps what its model and its tools keep. -/
theorem bounded_keeps {model : Chat.Model σ} {tools : List (Tool.Offered σ)}
    (model_kept : model.Keeps I) (tools_kept : ∀ tool ∈ tools, tool.Keeps I) (maxIterations : Int)
    (systemMessage : String) :
    (bounded model tools maxIterations systemMessage).Keeps I fun agent => agent.Keeps I := by
  have named_kept : ∀ {name : String} {tool : Tool.Offered σ},
      (byName tools).find? name = some tool → tool.Keeps I := by
    intro name tool found
    have among := Record.mem_of_find?_ofPairs found
    obtain ⟨_, member, same⟩ := List.mem_map.mp among
    cases same
    exact tools_kept tool member
  have runs : ∀ {respond : Chat.Responder σ}, Chat.Responder.Keeps respond I →
      Reasoner.Keeps { run := runBounded respond (byName tools) maxIterations systemMessage } I :=
    fun kept => runBounded_keepsWorld kept named_kept maxIterations systemMessage
  rw [bounded]
  refine .ite (fun _ => ?_) fun _ => ?_
  · rw [pure_bind]
    exact .pure (runs model_kept.respond)
  · exact (model_kept.offer _ _).bind fun respond kept => .pure (runs kept)

end Agent

end AgentWorkflow
