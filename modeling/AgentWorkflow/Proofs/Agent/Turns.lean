import AgentWorkflow.Proofs.Agent.Recording

/-!
# The turns of an agent

What an agent whose turns are limited has done is told by the calls it has made. It has made a
number of turns, each of them a call of the model that asked for tools, and a round in which these
were called. Then the model was called once more, and either there were turns left and it asked for
nothing, or there were none left and its answer was dropped. Anything else is a failure, and it is
known which call is to blame.

## Main definitions

* `Agent.Round`: what comes of the tools that one answer of the model asks for
* `Agent.Turn`: a turn, with the calls made in it
* `Agent.Conversing`: what comes of a conversation, by the turns that were made

## Main results

* `Agent.records_converse`: a conversation is one of these, and nothing else
* `Agent.unansweredCalls_append_turns`: turns leave no call unanswered that can be answered
-/

namespace AgentWorkflow.Agent

open Chat

variable {σ : Type} {tools : Record (Tool.Offered σ)}

/-- The answers that the model gave, in order. -/
def replies (calls : List Call) : List Message :=
  (asked calls).filterMap fun outcome => outcome.toOption

@[simp] theorem asked_nil : asked [] = [] := rfl

@[simp] theorem asked_model_cons (outcome : Except Failure Message) (calls : List Call) :
    asked (.model outcome :: calls) = outcome :: asked calls := rfl

theorem asked_append (calls later : List Call) :
    asked (calls ++ later) = asked calls ++ asked later := List.filterMap_append

@[simp] theorem replies_nil : replies [] = [] := rfl

@[simp] theorem replies_model_cons (reply : Message) (calls : List Call) :
    replies (.model (.ok reply) :: calls) = reply :: replies calls := rfl

/-! ### Rounds of tools -/

/-- A report as the answer to a call. -/
def reportTo (call : ToolCall) (report : Tool.Report) : Message where
  role := .tool
  content := .str report.text
  callId := call.id
  name := some call.name
  failed := report.failed

/-- What comes of one call that the model asks for, and the tool that is called for it. -/
inductive Answer (tools : Record (Tool.Offered σ)) (call : ToolCall) :
    Except Failure Message → List Call → Prop
  | unknown (missing : tools.find? call.name = none) :
      Answer tools call (.ok (reportTo call (unknownTool call.name tools.keys))) []
  | unreadable {tool : Tool.Offered σ} {fault : Fault} (found : tools.find? call.name = some tool)
      (unread : arguments call.args = .error fault) : Answer tools call (.error (.fault fault)) []
  | called {tool : Tool.Offered σ} (found : tools.find? call.name = some tool)
      (outcome : Except Failure Tool.Report) :
      Answer tools call (outcome.map (reportTo call)) [.tool tool.offer.name outcome]

/-- What comes of the calls that one answer of the model asks for, and the tools that are called. -/
inductive Round (tools : Record (Tool.Offered σ)) :
    List ToolCall → Except Failure (List Message) → List Call → Prop
  | nil : Round tools [] (.ok []) []
  | broken {call : ToolCall} {calls : List ToolCall} {failure : Failure} {made : List Call}
      (first : Answer tools call (.error failure) made) :
      Round tools (call :: calls) (.error failure) made
  | cons {call : ToolCall} {calls : List ToolCall} {message : Message} {made later : List Call}
      {outcome : Except Failure (List Message)} (first : Answer tools call (.ok message) made)
      (rest : Round tools calls outcome later) :
      Round tools (call :: calls) (outcome.map (message :: ·)) (made ++ later)

theorem records_answer (tools : Record (Tool.Offered σ)) (call : ToolCall) :
    Act.Records (answer (recordedAll tools) call) (answer tools call) (Answer tools call) := by
  rw [answer, answer, find?_recordedAll, keys_recordedAll]
  cases found : tools.find? call.name with
  | none => exact Act.records_pure (.unknown found)
  | some tool =>
    cases read : arguments call.args with
    | error fault => exact Act.records_throw (.unreadable found read)
    | ok fields =>
      -- both sides go on with these arguments
      change Act.Records (tool.recorded.call fields >>= _) (tool.call fields >>= _) _
      refine (Act.records_recorded (tool.call fields) _).bind ?_ ?_
      · rintro failure _ rfl
        exact .called found (.error failure)
      · rintro report _ rfl
        exact Act.records_pure (.called found (.ok report))

theorem records_round (tools : Record (Tool.Offered σ)) (calls : List ToolCall) :
    Act.Records (calls.mapM (answer (recordedAll tools))) (calls.mapM (answer tools))
      (Round tools calls) := by
  induction calls with
  | nil => exact Act.records_pure .nil
  | cons call calls ih =>
    rw [List.mapM_cons, List.mapM_cons]
    refine (records_answer tools call).bind (fun failure made first => .broken first) ?_
    intro message made first
    refine ih.bind (fun failure later rest => .cons first rest) fun answers later rest => ?_
    refine Act.records_pure ?_
    rw [List.append_nil]
    exact .cons first rest

section Facts

variable {call : ToolCall} {calls : List ToolCall} {made : List Call}

theorem Answer.asked_eq_nil {outcome : Except Failure Message}
    (answer : Answer tools call outcome made) : asked made = [] := by
  cases answer <;> rfl

/-- No tool calls the model. -/
theorem Round.asked_eq_nil {outcome : Except Failure (List Message)}
    (round : Round tools calls outcome made) : asked made = [] := by
  induction round with
  | nil => rfl
  | broken first => exact first.asked_eq_nil
  | cons first rest ih => rw [asked_append, first.asked_eq_nil, ih, List.append_nil]

theorem Answer.tells {outcome : Except Failure Message} (answer : Answer tools call outcome made) :
    ∀ {message : Message}, outcome = .ok message →
      (message.role, message.callId) = (.tool, call.id) := by
  rintro message same
  cases answer with
  | unknown missing =>
    cases same
    rfl
  | unreadable found unread => cases same
  | called found outcome =>
    obtain ⟨report, rfl, rfl⟩ := map_eq_ok_iff.mp same
    rfl

/-- A round that does not fail answers every call with a message of its own, in order. -/
theorem Round.tells {outcome : Except Failure (List Message)}
    (round : Round tools calls outcome made) :
    ∀ {messages : List Message}, outcome = .ok messages →
      messages.map (fun message => (message.role, message.callId)) =
        calls.map fun call => (Role.tool, call.id) := by
  induction round with
  | nil =>
    rintro messages same
    cases same
    rfl
  | broken first =>
    rintro messages same
    cases same
  | cons first rest ih =>
    rintro messages same
    obtain ⟨answers, rfl, rfl⟩ := map_eq_ok_iff.mp same
    rw [List.map_cons, List.map_cons, first.tells rfl, ih rfl]

/-- A call that can be answered: it has a name of its own, and its arguments can be read. -/
def Answerable (call : ToolCall) : Prop := call.id ≠ none ∧ ∃ fields, call.args = .object fields

theorem Answer.any_raises {outcome : Except Failure Message}
    (answer : Answer tools call outcome made) (answerable : Answerable call) :
    made.any Call.raises = !outcome.isOk := by
  cases answer with
  | unknown missing => rfl
  | unreadable found unread =>
    obtain ⟨-, fields, readable⟩ := answerable
    rw [readable] at unread
    cases unread
  | called found outcome => cases outcome <;> rfl

/-- A round of calls that can be answered fails exactly if a tool raises. -/
theorem Round.any_raises {outcome : Except Failure (List Message)}
    (round : Round tools calls outcome made) (answerable : ∀ call ∈ calls, Answerable call) :
    made.any Call.raises = !outcome.isOk := by
  induction round with
  | nil => rfl
  | broken first => exact first.any_raises (answerable _ List.mem_cons_self)
  | @cons call calls message made later outcome first rest ih =>
    rw [List.any_append, first.any_raises (answerable call List.mem_cons_self),
      ih fun other member => answerable other (List.mem_cons_of_mem _ member)]
    cases outcome <;> rfl

end Facts

/-! ### Turns -/

/-- A turn: an answer of the model that asks for tools, and the answers that it was given. -/
structure Turn (tools : Record (Tool.Offered σ)) where
  reply : Message
  answers : List Message
  /-- The tools that were called. -/
  called : List Call
  asks : reply.calls ≠ []
  answered : Round tools reply.calls (.ok answers) called

namespace Turn

/-- What a turn adds to the conversation. -/
def messages (turn : Turn tools) : List Message := turn.reply :: turn.answers

/-- The calls made in a turn. -/
def calls (turn : Turn tools) : List Call := .model (.ok turn.reply) :: turn.called

theorem asked_flatMap_calls (turns : List (Turn tools)) :
    asked (turns.flatMap calls) = turns.map fun turn => .ok turn.reply := by
  induction turns with
  | nil => rfl
  | cons turn turns ih =>
    rw [List.flatMap_cons, asked_append, ih, calls, asked_model_cons, turn.answered.asked_eq_nil]
    rfl

/-- In a turn no call raises. -/
theorem any_raises_flatMap_calls {turns : List (Turn tools)}
    (answerable : ∀ turn ∈ turns, ∀ call ∈ turn.reply.calls, Answerable call) :
    (turns.flatMap calls).any Call.raises = false := by
  rw [List.any_flatMap, List.any_eq_false]
  intro turn member
  rw [calls, List.any_cons, turn.answered.any_raises (answerable turn member)]
  simp [Call.raises, Except.isOk, Except.toBool]

end Turn

/-! ### Conversations -/

/-- What comes of asking the model. -/
inductive Asking (conversation : List Message) : Except Failure Message → List Call → Prop
  | unsent (unanswered : unansweredCalls conversation ≠ []) :
      Asking conversation (.error (.fault .badValue)) []
  | sent (outcome : Except Failure Message) : Asking conversation outcome [.model outcome]

/-- What comes of a conversation for which there is a number of turns, and the calls that are made
in it. -/
inductive Conversing (tools : Record (Tool.Offered σ)) (limit : Nat) (conversation : List Message) :
    Except Failure (Option (List Message)) → List Call → Prop
  | ended (turns : List (Turn tools)) (reply : Message) (left : turns.length < limit)
      (last : reply.calls = []) :
      Conversing tools limit conversation
        (.ok (some (conversation ++ turns.flatMap Turn.messages ++ [reply])))
        (turns.flatMap Turn.calls ++ [.model (.ok reply)])
  | cutOff (turns : List (Turn tools)) (reply : Message) (spent : turns.length = limit) :
      Conversing tools limit conversation (.ok none)
        (turns.flatMap Turn.calls ++ [.model (.ok reply)])
  | unsent (turns : List (Turn tools)) (bound : turns.length ≤ limit)
      (unanswered : unansweredCalls (conversation ++ turns.flatMap Turn.messages) ≠ []) :
      Conversing tools limit conversation (.error (.fault .badValue)) (turns.flatMap Turn.calls)
  | raised (turns : List (Turn tools)) (bound : turns.length ≤ limit) (failure : Failure) :
      Conversing tools limit conversation (.error failure)
        (turns.flatMap Turn.calls ++ [.model (.error failure)])
  | broken (turns : List (Turn tools)) (left : turns.length < limit) (reply : Message)
      {failure : Failure} {called : List Call}
      (round : Round tools reply.calls (.error failure) called) :
      Conversing tools limit conversation (.error failure)
        (turns.flatMap Turn.calls ++ .model (.ok reply) :: called)

variable {limit : Nat} {conversation : List Message}

/-- A turn that is made comes before those that follow. -/
theorem Conversing.after (turn : Turn tools) {outcome : Except Failure (Option (List Message))}
    {calls : List Call}
    (rest : Conversing tools limit (conversation ++ turn.messages) outcome calls) :
    Conversing tools (limit + 1) conversation outcome (turn.calls ++ calls) := by
  have joined : ∀ turns : List (Turn tools), conversation ++ turn.messages ++
      turns.flatMap Turn.messages = conversation ++ (turn :: turns).flatMap Turn.messages :=
    fun turns => by rw [List.flatMap_cons, List.append_assoc]
  cases rest with
  | ended turns reply left last =>
    rw [joined, ← List.append_assoc]
    exact .ended (turn :: turns) reply (Nat.succ_lt_succ left) last
  | cutOff turns reply spent =>
    rw [← List.append_assoc]
    exact .cutOff (turn :: turns) reply (congrArg Nat.succ spent)
  | unsent turns bound unanswered =>
    rw [joined] at unanswered
    exact .unsent (turn :: turns) (Nat.succ_le_succ bound) unanswered
  | raised turns bound failure =>
    rw [← List.append_assoc]
    exact .raised (turn :: turns) (Nat.succ_le_succ bound) failure
  | broken turns left reply round =>
    rw [← List.append_assoc]
    exact .broken (turn :: turns) (Nat.succ_lt_succ left) reply round

theorem records_ask (respond : Responder σ) (systemMessage : String) (conversation : List Message) :
    Act.Records (ask respond.recorded systemMessage conversation)
      (ask respond systemMessage conversation) (Asking conversation) := by
  rw [ask, ask]
  refine .ite (fun unanswered => ?_) fun _ => ?_
  · rw [Act.throw_bind, Act.throw_bind]
    exact Act.records_throw (.unsent (by simpa using unanswered))
  · refine (Act.records_recorded _ _).mono ?_
    rintro outcome _ rfl
    exact .sent outcome

/-- A conversation goes on turn by turn, until the model asks for nothing or is cut off, or until
something fails. -/
theorem records_converse (respond : Responder σ) (tools : Record (Tool.Offered σ))
    (systemMessage : String) (limit : Nat) (conversation : List Message) :
    Act.Records (converse respond.recorded (recordedAll tools) systemMessage limit conversation)
      (converse respond tools systemMessage limit conversation)
      (Conversing tools limit conversation) := by
  -- where the model cannot be asked or raises, no turn has been made
  have failed : ∀ {limit} {conversation : List Message} failure made,
      Asking conversation (.error failure) made →
        Conversing tools limit conversation (.error failure) made := by
    rintro limit conversation failure _ (unanswered | _)
    · exact .unsent [] (Nat.zero_le _) (by simpa using unanswered)
    · exact .raised [] (Nat.zero_le _) failure
  -- by induction on the turns that are left: one is made, and the others come after it
  induction limit generalizing conversation with
  | zero =>
    rw [converse, converse]
    refine (records_ask respond systemMessage conversation).bind failed ?_
    rintro reply _ (_ | _)
    exact Act.records_pure (.cutOff [] reply rfl)
  | succ limit ih =>
    rw [converse, converse]
    refine (records_ask respond systemMessage conversation).bind failed ?_
    rintro reply _ (_ | _)
    refine .ite (fun none_asked => ?_) fun some_asked => ?_
    · refine Act.records_pure ?_
      have ended := @Conversing.ended _ tools (limit + 1) conversation [] reply (Nat.succ_pos _)
        (List.isEmpty_iff.mp none_asked)
      simpa using ended
    · refine (records_round tools reply.calls).bind ?_ ?_
      · exact fun failure called round => .broken [] (Nat.succ_pos _) reply round
      · intro answers called round
        refine (ih _).mono fun outcome calls rest => ?_
        have asks : reply.calls ≠ [] := fun none => some_asked (List.isEmpty_iff.mpr none)
        exact .after ⟨reply, answers, called, asks, round⟩ rest

/-! ### Conversations that can be sent -/

theorem mem_unansweredCalls_iff {call : ToolCall} :
    call ∈ unansweredCalls conversation ↔
      (∃ message ∈ conversation, message.role = .ai ∧ call ∈ message.calls) ∧
        ∀ id, call.id = some id → ∀ message ∈ conversation,
          (message.role, message.callId) ≠ (.tool, some id) := by
  have asked_iff : call ∈ conversation.flatMap (fun m => if m.role == .ai then m.calls else []) ↔
      ∃ message ∈ conversation, message.role = .ai ∧ call ∈ message.calls := by
    simp [List.mem_flatMap]
  have answered_iff : ∀ id, id ∈ conversation.filterMap
      (fun m => if m.role == .tool then m.callId else none) ↔
        ∃ message ∈ conversation, (message.role, message.callId) = (.tool, some id) := by
    simp [List.mem_filterMap]
  rw [unansweredCalls, List.mem_filter, asked_iff]
  refine and_congr_right fun _ => ?_
  cases call.id with
  | none => simp
  | some id =>
    simp only [Bool.not_eq_true', List.contains_eq_mem, decide_eq_false_iff_not, answered_iff]
    simp

/-- Turns leave no call unanswered that can be answered. -/
theorem unansweredCalls_append_turns (sent : unansweredCalls conversation = [])
    {turns : List (Turn tools)}
    (answerable : ∀ turn ∈ turns, ∀ call ∈ turn.reply.calls, Answerable call) :
    unansweredCalls (conversation ++ turns.flatMap Turn.messages) = [] := by
  refine List.eq_nil_iff_forall_not_mem.mpr fun call unanswered => ?_
  obtain ⟨⟨message, member, spoken, asked⟩, open_still⟩ := mem_unansweredCalls_iff.mp unanswered
  rcases List.mem_append.mp member with before | later
  · -- it was there already, and nothing that came before the turns answers it either
    have unanswered_before : call ∈ unansweredCalls conversation :=
      mem_unansweredCalls_iff.mpr ⟨⟨message, before, spoken, asked⟩, fun id named other among =>
        open_still id named other (List.mem_append_left _ among)⟩
    rw [sent] at unanswered_before
    cases unanswered_before
  · obtain ⟨turn, turn_mem, within⟩ := List.mem_flatMap.mp later
    have answers := turn.answered.tells rfl
    rcases List.mem_cons.mp within with rfl | answer
    · -- a turn asks for it, and one of the answers in that turn bears its name
      obtain ⟨id, named⟩ := Option.ne_none_iff_exists'.mp (answerable turn turn_mem call asked).1
      have answered : (Role.tool, call.id) ∈
          turn.answers.map fun message => (message.role, message.callId) :=
        answers ▸ List.mem_map_of_mem asked
      obtain ⟨answer, answer_mem, same⟩ := List.mem_map.mp answered
      refine open_still id named answer (List.mem_append_right _ ?_) (by rw [same, named])
      exact List.mem_flatMap.mpr ⟨turn, turn_mem, List.mem_cons_of_mem _ answer_mem⟩
    · -- what a tool answers asks for nothing
      have told : (message.role, message.callId) ∈
          turn.reply.calls.map fun call => (Role.tool, call.id) :=
        answers ▸ List.mem_map_of_mem answer
      obtain ⟨_, -, same⟩ := List.mem_map.mp told
      rw [← (Prod.mk.inj same).1] at spoken
      cases spoken

/-- A conversation that an agent can go on with: it can be read, and none of its calls is open. -/
def Sendable (conversation : List Value) : Prop :=
  ∃ messages, prompt conversation = .ok messages ∧ unansweredCalls messages = []

end AgentWorkflow.Agent
