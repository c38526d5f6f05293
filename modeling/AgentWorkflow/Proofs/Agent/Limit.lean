import AgentWorkflow.Proofs.Agent.Turns

/-!
# How often an agent calls its model

An agent with a limit of `n` turns may call its model `n + 1` times: the engine lets it take as many
steps as `n` turns need, and one more. It keeps to `n` calls exactly if one of the first `n` answers
asks for no tools. That answer ends the conversation. Otherwise the last call is made for nothing,
since its answer is dropped and the agent says that it was cut off.

All of this is said of the calls that are written down in a run, whatever the model and the tools
do.

## Main definitions

* `Agent.Accounted`: what the calls of a run say about its outcome

## Main results

* `Agent.bounded_accounts`: the runs of every agent whose turns are limited are accounted for
-/

namespace AgentWorkflow.Agent

open Chat

variable {σ : Type} {tools : Record (Tool.Offered σ)}

/-- What the calls of a run say about its outcome, for an agent with a limit on its turns. -/
structure Accounted (tools : Record (Tool.Offered σ)) (limit : Nat) (conversation : List Value)
    (outcome : Except Failure (List Value)) (calls : List Call) : Prop where
  /-- The model is called once for every turn and once more, at most. -/
  asked_le : (asked calls).length ≤ limit + 1
  /-- A run gives a result exactly if no call raises. -/
  succeeds_iff : Sendable conversation →
    (∀ reply ∈ replies calls, ∀ call ∈ reply.calls, Answerable call) →
      ((∃ result, outcome = .ok result) ↔ ∀ call ∈ calls, call.raises = false)
  /-- In a run that gives a result the model answers whenever it is called. -/
  asked_eq {result : List Value} : outcome = .ok result → asked calls = (replies calls).map .ok
  /-- The limit is kept exactly if one of the first answers asks for no tools. -/
  asked_le_limit_iff {result : List Value} : outcome = .ok result →
    ((asked calls).length ≤ limit ↔ ∃ reply ∈ (replies calls).take limit, reply.calls = [])
  /-- That answer ends the conversation, after the turns that were made. -/
  ended {result : List Value} {reply : Message} : outcome = .ok result →
    reply ∈ (replies calls).take limit → reply.calls = [] →
      ∃ messages, ∃ turns : List (Turn tools), prompt conversation = .ok messages ∧
        calls = turns.flatMap Turn.calls ++ [.model (.ok reply)] ∧
        result = (messages ++ turns.flatMap Turn.messages ++ [reply]).map .message
  /-- If there is none, the agent is cut off, and it calls the model once more before that. -/
  cutOff {result : List Value} : outcome = .ok result →
    (∀ reply ∈ (replies calls).take limit, reply.calls ≠ []) →
      (asked calls).length = limit + 1 ∧
        result = conversation ++ [.message (cutOffMessage limit)]

theorem asked_turns_append (turns : List (Turn tools)) (calls : List Call) :
    asked (turns.flatMap Turn.calls ++ calls) =
      (turns.map Turn.reply).map .ok ++ asked calls := by
  rw [asked_append, Turn.asked_flatMap_calls, List.map_map]
  rfl

theorem replies_turns_append (turns : List (Turn tools)) (calls : List Call) :
    replies (turns.flatMap Turn.calls ++ calls) = turns.map Turn.reply ++ replies calls := by
  rw [replies, asked_turns_append, List.filterMap_append, List.filterMap_map]
  congr 1
  exact List.filterMap_some

namespace Accounted

variable {limit : Nat} {conversation : List Value} {calls : List Call}

theorem of_error {failure : Failure} (asked_le : (asked calls).length ≤ limit + 1)
    (blamed : Sendable conversation →
      (∀ reply ∈ replies calls, ∀ call ∈ reply.calls, Answerable call) →
        ∃ call ∈ calls, call.raises = true) :
    Accounted tools limit conversation (.error failure) calls where
  asked_le := asked_le
  succeeds_iff sendable answerable := by
    obtain ⟨call, member, raises⟩ := blamed sendable answerable
    constructor
    · rintro ⟨result, same⟩
      cases same
    · intro none_raises
      rw [none_raises call member] at raises
      cases raises
  asked_eq same := nomatch same
  asked_le_limit_iff same := nomatch same
  ended same := nomatch same
  cutOff same := nomatch same

variable {messages : List Message} {turns : List (Turn tools)} {reply : Message}

/-- Turns that are followed by one more answer of the model. -/
theorem last_call (turns : List (Turn tools)) (reply : Message) :
    asked (turns.flatMap Turn.calls ++ [.model (.ok reply)]) =
        (turns.map Turn.reply ++ [reply]).map .ok ∧
      replies (turns.flatMap Turn.calls ++ [.model (.ok reply)]) =
        turns.map Turn.reply ++ [reply] ∧
      (asked (turns.flatMap Turn.calls ++ [.model (.ok reply)])).length = turns.length + 1 := by
  simp [asked_turns_append, replies_turns_append]

/-- Nothing raises in turns that are followed by one more answer of the model. -/
theorem last_call_raises (answerable : ∀ other ∈ turns.map Turn.reply ++ [reply],
    ∀ call ∈ other.calls, Answerable call) :
    ∀ call ∈ turns.flatMap Turn.calls ++ [.model (.ok reply)], call.raises = false := by
  have turns_fine := @Turn.any_raises_flatMap_calls _ _ turns fun turn member =>
    answerable turn.reply (List.mem_append_left _ (List.mem_map_of_mem member))
  intro call member
  rcases List.mem_append.mp member with earlier | here
  · simpa using List.any_eq_false.mp turns_fine call earlier
  · cases List.mem_singleton.mp here
    rfl

theorem asks_of_mem_replies (member : reply ∈ turns.map Turn.reply) : reply.calls ≠ [] := by
  obtain ⟨turn, -, rfl⟩ := List.mem_map.mp member
  exact turn.asks

theorem of_ended (read : prompt conversation = .ok messages) (left : turns.length < limit)
    (last : reply.calls = []) :
    Accounted tools limit conversation
      (.ok ((messages ++ turns.flatMap Turn.messages ++ [reply]).map .message))
      (turns.flatMap Turn.calls ++ [.model (.ok reply)]) := by
  obtain ⟨asks, told, count⟩ := last_call turns reply
  have first : (turns.map Turn.reply ++ [reply]).take limit = turns.map Turn.reply ++ [reply] :=
    List.take_of_length_le (by simp; omega)
  have here : reply ∈ turns.map Turn.reply ++ [reply] := by simp
  refine
    { asked_le := by omega, asked_eq := fun _ => told ▸ asks
      succeeds_iff := fun _ answerable =>
        ⟨fun _ => last_call_raises (told ▸ answerable), fun _ => ⟨_, rfl⟩⟩
      asked_le_limit_iff := fun _ => ?_, ended := ?_, cutOff := ?_ }
  · rw [count, told, first]
    exact ⟨fun _ => ⟨reply, here, last⟩, fun _ => left⟩
  · rintro result other same member none
    cases same
    rw [told, first] at member
    -- every answer before the last one asks for tools
    rcases List.mem_append.mp member with earlier | here
    · exact absurd none (asks_of_mem_replies earlier)
    · cases List.mem_singleton.mp here
      exact ⟨messages, turns, read, rfl, rfl⟩
  · rintro result - none_ends
    rw [told, first] at none_ends
    exact absurd last (none_ends reply here)

theorem of_cutOff (spent : turns.length = limit) :
    Accounted tools limit conversation (.ok (conversation ++ [.message (cutOffMessage limit)]))
      (turns.flatMap Turn.calls ++ [.model (.ok reply)]) := by
  obtain ⟨asks, told, count⟩ := last_call turns reply
  have first : (turns.map Turn.reply ++ [reply]).take limit = turns.map Turn.reply := by
    have length : (turns.map Turn.reply).length = limit := by rw [List.length_map, spent]
    exact List.take_left' length
  refine
    { asked_le := by omega, asked_eq := fun _ => told ▸ asks
      succeeds_iff := fun _ answerable =>
        ⟨fun _ => last_call_raises (told ▸ answerable), fun _ => ⟨_, rfl⟩⟩
      asked_le_limit_iff := fun _ => ?_, ended := ?_, cutOff := ?_ }
  · -- the answer that was dropped is not among the first ones, and these all ask for tools
    rw [count, told, first]
    constructor
    · intro within
      omega
    · rintro ⟨other, member, none⟩
      exact absurd none (asks_of_mem_replies member)
  · rintro result other - member none
    rw [told, first] at member
    exact absurd none (asks_of_mem_replies member)
  · rintro result same -
    cases same
    exact ⟨by omega, rfl⟩

/-- What is known of a conversation is known of a run. -/
theorem of_conversing {outcome : Except Failure (Option (List Message))}
    (read : prompt conversation = .ok messages)
    (conversing : Conversing tools limit messages outcome calls) :
    Accounted tools limit conversation (outcome.map fun
      | some result => result.map .message
      | none => conversation ++ [.message (cutOffMessage limit)]) calls := by
  cases conversing with
  | ended turns reply left last => exact of_ended read left last
  | cutOff turns reply spent => exact of_cutOff spent
  | unsent turns bound unanswered =>
    have asks := asked_turns_append turns []
    have told := replies_turns_append turns []
    simp only [List.append_nil, asked_nil, replies_nil] at asks told
    refine of_error ?_ ?_
    · rw [asks, List.length_map, List.length_map]
      omega
    · -- a conversation that could be sent can be sent after every turn
      rintro ⟨messages', read', sent⟩ answerable
      cases read.symm.trans read'
      refine absurd (unansweredCalls_append_turns sent fun turn member => ?_) unanswered
      exact answerable turn.reply (told ▸ List.mem_map_of_mem member)
  | raised turns bound failure =>
    refine of_error ?_ fun _ _ => ⟨.model (.error failure), by simp, rfl⟩
    simpa [asked_turns_append] using bound
  | broken turns left reply round =>
    refine of_error ?_ fun _ answerable => ?_
    · simp only [asked_turns_append, asked_model_cons, round.asked_eq_nil, List.length_append,
        List.length_map, List.length_singleton]
      omega
    · rw [replies_turns_append, replies_model_cons] at answerable
      have fails := round.any_raises (answerable reply (List.mem_append_right _ List.mem_cons_self))
      obtain ⟨call, member, raises⟩ := List.any_eq_true.mp fails
      exact ⟨call, by simp [member], raises⟩

end Accounted

/-- A run is accounted for by the calls that it makes. -/
theorem records_runBounded (respond : Responder σ) (tools : Record (Tool.Offered σ)) (limit : Nat)
    (systemMessage : String) (conversation : List Value) :
    Act.Records
      (runBounded respond.recorded (recordedAll tools) limit systemMessage conversation)
      (runBounded respond tools limit systemMessage conversation)
      (Accounted tools limit conversation) := by
  have allowed : ¬ stepLimit limit < 1 := by
    rw [stepLimit]
    omega
  rw [runBounded, runBounded, if_neg allowed, if_neg allowed]
  cases read : prompt conversation with
  | error fault =>
    refine Act.records_throw (.of_error (Nat.zero_le _) ?_)
    rintro ⟨messages, read', -⟩
    cases read.symm.trans read'
  | ok messages =>
    -- the conversation goes on from these messages
    change Act.Records (converse _ _ _ _ messages >>= _) (converse _ _ _ _ messages >>= _) _
    rw [Int.toNat_natCast]
    refine (records_converse respond tools systemMessage limit messages).bind ?_ ?_
    · exact fun failure calls conversing => .of_conversing read conversing
    · intro result calls conversing
      have accounted := Accounted.of_conversing read conversing
      rw [← List.append_nil calls] at accounted
      cases result <;> exact Act.records_pure accounted

/-- What the calls of an agent with a limit on its turns say about its outcome, in every run of an
agent that was built. The agent does the same when its calls are not written down. -/
theorem bounded_accounts {model : Model σ} {tools : List (Tool.Offered σ)} {limit : Nat}
    {systemMessage : String} {start ready : σ} {agent : Reasoner σ}
    (built : (bounded model tools limit systemMessage).Gives start agent ready) :
    ∃ recording : Reasoner (σ × List Call),
      (bounded model.recorded (tools.map Tool.Offered.recorded) limit systemMessage).Gives
        (start, []) recording (ready, []) ∧
      ∀ conversation before, ∃ calls,
        (recording.run conversation).outcome (before, []) =
          (((agent.run conversation).outcome before).1,
            ((agent.run conversation).outcome before).2, calls) ∧
        Accounted (byName tools) limit conversation ((agent.run conversation).outcome before).1
          calls := by
  obtain ⟨respond, offered, rfl⟩ := gives_bounded_iff.mp built
  refine ⟨_, gives_bounded_iff.mpr ⟨_, gives_responder_recorded offered [], rfl⟩, ?_⟩
  intro conversation before
  rw [byName_recorded]
  obtain ⟨calls, accounted, same⟩ :=
    records_runBounded respond (byName tools) limit systemMessage conversation before []
  exact ⟨calls, same, accounted⟩

/-! ### An errand -/

namespace Errand

/-- Prepared answers are given one after another. -/
def respond : Responder (List Message) := fun _ => ExceptT.mk fun
  | [] => (.error .unanswered, [])
  | reply :: rest => (.ok reply, rest)

def model : Model (List Message) where
  respond := respond
  offer _ _ := pure respond

/-- A tool that finds something. -/
def search : Tool.Offered (List Message) where
  offer := { name := "search", description := "search", parameters := .object [] }
  call _ := pure { text := "r0" }

def question : Message := { role := .human, content := .str "q" }

def lookUp : ToolCall :=
  { name := "search", args := .object [("query", .str "x")], id := some "c0" }

/-- An answer that asks for the tool. -/
def request : Message := { role := .ai, content := .str "", calls := [lookUp] }

def finding : Message := reportTo lookUp { text := "r0" }

/-- An answer that asks for nothing. -/
def done : Message := { role := .ai, content := .str "done" }

end Errand

open Errand

/-- With two turns the errand is done, and the model is called twice. -/
theorem errand_accounts :
    ∃ agent recording calls,
      (bounded model [search] (2 : Nat) "").Gives [] agent [] ∧
      (bounded model.recorded [search.recorded] (2 : Nat) "").Gives ([], []) recording ([], []) ∧
      (recording.run [.message question]).outcome ([request, done], []) =
        (.ok [.message question, .message request, .message finding, .message done], [], calls) ∧
      (asked calls).length ≤ 2 := by
  have built : (bounded model [search] (2 : Nat) "").Gives []
      { run := runBounded respond (byName [search]) (2 : Nat) "" } [] := rfl
  obtain ⟨recording, built', runs⟩ := bounded_accounts built
  obtain ⟨calls, same, accounted⟩ := runs [.message question] [request, done]
  refine ⟨_, recording, calls, built, built', same, ?_⟩
  refine (accounted.asked_le_limit_iff rfl).mpr (by_contra fun none_ends => ?_)
  -- an agent that was cut off would have given two messages
  have cut_off := (accounted.cutOff rfl fun reply member none =>
    none_ends ⟨reply, member, none⟩).2
  exact absurd (congrArg List.length cut_off) (by decide)

/-- With one turn the model is called twice, too, and what it answers then is dropped. -/
theorem errand_calls_model_twice :
    ∃ agent recording calls,
      (bounded model [search] (1 : Nat) "").Gives [] agent [] ∧
      (bounded model.recorded [search.recorded] (1 : Nat) "").Gives ([], []) recording ([], []) ∧
      (agent.run [.message question]).outcome [request, done] =
        (.ok [.message question, .message (cutOffMessage 1)], []) ∧
      (recording.run [.message question]).outcome ([request, done], []) =
        (.ok [.message question, .message (cutOffMessage 1)], [], calls) ∧
      (∀ call ∈ calls, call.raises = false) ∧ replies calls = [request, done] ∧
      ¬ (asked calls).length ≤ 1 := by
  refine ⟨_, _, [.model (.ok request), .tool "search" (.ok { text := "r0" }), .model (.ok done)],
    rfl, rfl, rfl, rfl, ?_, rfl, by decide⟩
  simp [Call.raises, Except.isOk, Except.toBool]

end AgentWorkflow.Agent
