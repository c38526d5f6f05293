import AgentWorkflow.Agent.Bounded
import AgentWorkflow.Proofs.Outcome
import AgentWorkflow.Proofs.Record

/-!
# Recording the calls of an agent

The calls that an agent makes are written down beside the world, each with what came of it, by a
model and by tools that answer as before. An act on the wider world does the same as one on the
world alone, and the calls that it writes down fit what comes of it.

## Main definitions

* `Agent.Call`: a call of the model or of a tool, with what came of it
* `Chat.Model.recorded`, `Tool.Offered.recorded`: collaborators that write their calls down
* `Act.Records`: the same act, with what is known of the calls that it writes down

## Main results

* `Act.Records.bind`: a sequence writes down the calls of both its parts
* `Agent.gives_responder_recorded`: putting tools on offer is no call
-/

namespace AgentWorkflow

variable {σ α β : Type}

/-- A call that an agent makes, and what comes of it. -/
inductive Agent.Call
  | model (outcome : Except Failure Message)
  | tool (name : String) (outcome : Except Failure Tool.Report)

namespace Agent.Call

/-- Whether the call raises a failure. -/
def raises : Call → Bool
  | .model outcome => !outcome.isOk
  | .tool _ outcome => !outcome.isOk

/-- What came of a call, if the model was called. -/
def outcome? : Call → Option (Except Failure Message)
  | .model outcome => some outcome
  | .tool _ _ => none

end Agent.Call

/-- What came of the calls of the model, one after another. -/
def Agent.asked (calls : List Agent.Call) : List (Except Failure Message) :=
  calls.filterMap Agent.Call.outcome?

open Agent (Call)

namespace Act

/-- The act, which also writes down what comes of it. -/
def recorded (act : Act σ α) (entry : Except Failure α → Call) : Act (σ × List Call) α :=
  ExceptT.mk fun (world, log) =>
    let (outcome, world) := act.run world
    (outcome, (world, log ++ [entry outcome]))

/-- An act that also writes calls down does what another one does, and the calls fit what comes of
it. -/
def Records (recording : Act (σ × List Call) α) (act : Act σ α)
    (fits : Except Failure α → List Call → Prop) : Prop :=
  ∀ world log, ∃ made, fits (act.outcome world).1 made ∧
    recording.outcome (world, log) = ((act.outcome world).1, (act.outcome world).2, log ++ made)

section Rules

variable {recording recording' : Act (σ × List Call) α} {act act' : Act σ α}
  {fits looser : Except Failure α → List Call → Prop}

theorem records_recorded (act : Act σ α) (entry : Except Failure α → Call) :
    Records (act.recorded entry) act fun outcome made => made = [entry outcome] :=
  fun _ _ => ⟨_, rfl, rfl⟩

theorem records_pure {a : α} (fit : fits (.ok a) []) :
    Records (pure a : Act (σ × List Call) α) (pure a) fits :=
  fun _ log => ⟨[], fit, by rw [List.append_nil]; rfl⟩

theorem records_throw {failure : Failure} (fit : fits (.error failure) []) :
    Records (throw failure : Act (σ × List Call) α) (throw failure) fits :=
  fun _ log => ⟨[], fit, by rw [List.append_nil]; rfl⟩

theorem Records.mono (records : Records recording act fits)
    (weaker : ∀ outcome made, fits outcome made → looser outcome made) :
    Records recording act looser := by
  intro world log
  obtain ⟨made, fit, same⟩ := records world log
  exact ⟨made, weaker _ _ fit, same⟩

/-- A sequence writes down the calls of its first part, and then those of the rest, unless the first
part fails. -/
theorem Records.bind {next' : α → Act (σ × List Call) β} {next : α → Act σ β}
    {fits' : Except Failure β → List Call → Prop} (first : Records recording act fits)
    (failed : ∀ failure made, fits (.error failure) made → fits' (.error failure) made)
    (rest : ∀ a made, fits (.ok a) made →
      Records (next' a) (next a) fun outcome later => fits' outcome (made ++ later)) :
    Records (recording >>= next') (act >>= next) fits' := by
  intro world log
  obtain ⟨made, fit, same⟩ := first world log
  rw [outcome_bind, outcome_bind, same]
  rcases came : act.outcome world with ⟨failure | a, middle⟩ <;> rw [came] at fit
  · exact ⟨made, failed failure made fit, rfl⟩
  · obtain ⟨later, fit', same'⟩ := rest a made fit middle (log ++ made)
    refine ⟨made ++ later, fit', ?_⟩
    dsimp only
    rw [same', List.append_assoc]

theorem Records.ite {c : Prop} [Decidable c] (yes : c → Records recording act fits)
    (no : ¬ c → Records recording' act' fits) :
    Records (if c then recording else recording') (if c then act else act') fits := by
  by_cases h : c
  · rw [if_pos h, if_pos h]
    exact yes h
  · rw [if_neg h, if_neg h]
    exact no h

end Rules

end Act

/-! ### Collaborators that write their calls down -/

/-- A responder that writes down what it answers. -/
def Chat.Responder.recorded (respond : Chat.Responder σ) : Chat.Responder (σ × List Call) :=
  fun prompt => (respond prompt).recorded .model

/-- A model that writes down what it answers, whatever is put on offer. -/
def Chat.Model.recorded (model : Chat.Model σ) : Chat.Model (σ × List Call) where
  respond := model.respond.recorded
  offer tools forced := do
    let respond ← (model.offer tools forced).onFirst
    return respond.recorded

/-- A tool that writes down what it reports. -/
def Tool.Offered.recorded (tool : Tool.Offered σ) : Tool.Offered (σ × List Call) where
  offer := tool.offer
  call arguments := (tool.call arguments).recorded (.tool tool.offer.name)

namespace Agent

open Chat

/-- Tools that write down what they report, by name. -/
def recordedAll (tools : Record (Tool.Offered σ)) : Record (Tool.Offered (σ × List Call)) :=
  tools.map fun tool => (tool.1, tool.2.recorded)

@[simp] theorem find?_recordedAll (tools : Record (Tool.Offered σ)) (name : String) :
    (recordedAll tools).find? name = (tools.find? name).map Tool.Offered.recorded :=
  Record.find?_map _ tools name

@[simp] theorem keys_recordedAll (tools : Record (Tool.Offered σ)) :
    (recordedAll tools).keys = tools.keys := by
  simp only [recordedAll, Record.keys, List.map_map, Function.comp_def]

theorem byName_recorded (tools : List (Tool.Offered σ)) :
    byName (tools.map Tool.Offered.recorded) = recordedAll (byName tools) := by
  simp only [byName, recordedAll, ← Record.ofPairs_map, List.map_map]
  rfl

/-- What an agent whose turns are limited asks: its model, with its tools put on offer. -/
def responder (model : Model σ) (tools : List (Tool.Offered σ)) : Act σ (Responder σ) :=
  if tools.isEmpty then pure model.respond
  else model.offer (tools.map fun tool => tool.offer) none

variable {model : Model σ} {tools : List (Tool.Offered σ)} {maxIterations : Int}
  {systemMessage : String}

theorem gives_bounded_iff {before after : σ} {agent : Reasoner σ} :
    (bounded model tools maxIterations systemMessage).Gives before agent after ↔
      ∃ respond, (responder model tools).Gives before respond after ∧
        { run := runBounded respond (byName tools) maxIterations systemMessage } = agent := by
  have split : bounded model tools maxIterations systemMessage = responder model tools >>=
      fun respond => pure
        { run := runBounded respond (byName tools) maxIterations systemMessage } := by
    rw [bounded, responder]
    split <;> rfl
  rw [split, Act.gives_bind_iff]
  simp only [Act.gives_pure_iff]
  constructor
  · rintro ⟨respond, _, offered, same, rfl⟩
    exact ⟨respond, offered, same⟩
  · rintro ⟨respond, offered, same⟩
    exact ⟨respond, after, offered, same, rfl⟩

/-- Nothing is written down when tools are put on offer. -/
theorem gives_responder_recorded {before after : σ} {respond : Responder σ}
    (offered : (responder model tools).Gives before respond after) (log : List Call) :
    (responder model.recorded (tools.map Tool.Offered.recorded)).Gives (before, log)
      respond.recorded (after, log) := by
  rw [responder] at offered ⊢
  rw [List.isEmpty_map]
  split at offered
  next none_given =>
    obtain ⟨rfl, rfl⟩ := Act.gives_pure_iff.mp offered
    rw [if_pos none_given]
    exact Act.gives_pure_iff.mpr ⟨rfl, rfl⟩
  next some_given =>
    have offers : (tools.map Tool.Offered.recorded).map (fun tool => tool.offer) =
        tools.map fun tool => tool.offer := by
      rw [List.map_map]
      rfl
    rw [if_neg some_given, offers]
    exact Act.gives_bind_iff.mpr
      ⟨respond, (after, log), offered.onFirst log, Act.gives_pure_iff.mpr ⟨rfl, rfl⟩⟩

end Agent

end AgentWorkflow
