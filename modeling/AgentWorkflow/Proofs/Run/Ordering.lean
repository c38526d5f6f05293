import AgentWorkflow.Proofs.Run.Publishing
import Mathlib.Data.List.ReduceOption

/-!
# The order of what is told

The order of notices is kept in what is told of them, and what is told as a whole is in order: no
end of a node comes without its start, none comes twice, and nothing follows the end of all events.
This is kept by every notice, as a node is running exactly if its start has been told and its end
has not.

## Main definitions

* `InOrder`: events that are in order
* `Telling.Told`: what has been told is in order, and says which nodes are running

## Main results

* `Telling.Told.snoc`: a notice keeps what is told in order
* `Publisher.tells_in_order`: what is told of any notices
-/

namespace AgentWorkflow.Run

section Telling

variable {publisher : Publisher} {id : String} {node : Running} {now : Timestamp}
  {clock : Nat → Timestamp}

/-- An event about the end of a node. -/
def Event.finishes (event : Event) : Bool := event.kind == .nodeEnd || event.kind == .nodeError

/-- The starts of a node among what was told. -/
def startsOf (id : String) (queue : List (Option Event)) : List Event :=
  queue.reduceOption.filter fun event => event.kind == .nodeStart && event.id == id

/-- The nodes whose ends were told. -/
def finishIds (queue : List (Option Event)) : List String :=
  (queue.reduceOption.filter Event.finishes).map Event.id

/-- Events that are in order. -/
structure InOrder (queue : List (Option Event)) : Prop where
  /-- Nothing follows the end of all events. -/
  sentinel : ∃ told : List Event, queue = told.map some ∨ queue = told.map some ++ [none]
  started_once : ∀ id, (startsOf id queue).length ≤ 1
  finished_once : (finishIds queue).Nodup
  /-- The end of a node comes after its start, and a failure has the input of the start. -/
  preceded : ∀ {before after finish}, queue = before ++ some finish :: after →
    finish.finishes = true → ∃ start, startsOf finish.id before = [start] ∧
      start.node = finish.node ∧ start.startedAt = finish.startedAt ∧
      (finish.kind = .nodeError → start.state = finish.state)

/-- What has been told is in order, and says which nodes are running. -/
structure Telling.Told (earlier : List Telling) : Prop where
  inOrder : InOrder (earlier.flatMap Telling.told)
  opened : ¬ Closed earlier → ∃ told : List Event, earlier.flatMap Telling.told = told.map some
  starts_fresh : ∀ id, id ∉ startedIds earlier → startsOf id (earlier.flatMap Telling.told) = []
  running_started : ∀ id node, ¬ Closed earlier → IsRunning earlier id node →
    startsOf id (earlier.flatMap Telling.told) = [node.starting id]
  running_unfinished : ∀ id node, IsRunning earlier id node →
    id ∉ finishIds (earlier.flatMap Telling.told)
  finished_started : ∀ id ∈ finishIds (earlier.flatMap Telling.told), id ∈ startedIds earlier

/-! ### What is told in order -/

section Order

variable {queue more : List (Option Event)} {event : Event}

theorem startsOf_append : startsOf id (queue ++ more) = startsOf id queue ++ startsOf id more := by
  rw [startsOf, List.reduceOption_append, List.filter_append]
  rfl

theorem finishIds_append : finishIds (queue ++ more) = finishIds queue ++ finishIds more := by
  rw [finishIds, List.reduceOption_append, List.filter_append, List.map_append]
  rfl

theorem InOrder.nil : InOrder [] where
  sentinel := ⟨[], Or.inl rfl⟩
  started_once _ := Nat.zero_le _
  finished_once := List.nodup_nil
  preceded split := by simp at split

/-- The end of all events may follow whatever is in order. -/
theorem InOrder.snoc_none (inOrder : InOrder queue) (opened : ∃ told : List Event,
    queue = told.map some) : InOrder (queue ++ [none]) where
  sentinel := by
    obtain ⟨told, rfl⟩ := opened
    exact ⟨told, Or.inr rfl⟩
  started_once id := by
    rw [startsOf_append]
    exact (List.append_nil (startsOf id queue)).symm ▸ inOrder.started_once id
  finished_once := by
    rw [finishIds_append]
    exact (List.append_nil (finishIds queue)).symm ▸ inOrder.finished_once
  preceded {before after finish} split finishes := by
    -- the end of all events is not the end of a node, so that is further up
    rcases List.eq_nil_or_concat after with rfl | ⟨after, last, rfl⟩
    · cases (List.append_inj' split rfl).2
    · rw [List.concat_eq_append, ← List.cons_append, ← List.append_assoc] at split
      exact inOrder.preceded (List.append_inj' split rfl).1 finishes

/-- An event may follow what is in order unless it begins a node for a second time, or ends one that
is not running. -/
theorem InOrder.snoc_some (inOrder : InOrder queue)
    (opened : ∃ told : List Event, queue = told.map some)
    (starts : event.kind = .nodeStart → startsOf event.id queue = [])
    (finishes : event.finishes = true → event.id ∉ finishIds queue ∧
      ∃ start, startsOf event.id queue = [start] ∧ start.node = event.node ∧
        start.startedAt = event.startedAt ∧
        (event.kind = .nodeError → start.state = event.state)) :
    InOrder (queue ++ [some event]) where
  sentinel := by
    obtain ⟨told, rfl⟩ := opened
    exact ⟨told ++ [event], Or.inl (by simp)⟩
  started_once id := by
    rw [startsOf_append]
    -- if it begins this node, no start of the node has been told before
    by_cases begins : event.kind = .nodeStart ∧ event.id = id
    · obtain ⟨begins, rfl⟩ := begins
      rw [starts begins, List.nil_append]
      exact List.length_filter_le _ _
    · have others : startsOf id [some event] = [] := by
        simpa [startsOf, List.reduceOption] using begins
      rw [others, List.append_nil]
      exact inOrder.started_once id
  finished_once := by
    rw [finishIds_append]
    cases ends : event.finishes with
    | false => simpa [finishIds, List.reduceOption, ends] using inOrder.finished_once
    | true =>
      have last : finishIds [some event] = [event.id] := by
        simp [finishIds, List.reduceOption, ends]
      rw [last, ← List.concat_eq_append]
      exact inOrder.finished_once.concat (finishes ends).1
  preceded {before after finish} split ends := by
    -- the end of a node is this event, or one that was in order before
    rcases List.eq_nil_or_concat after with rfl | ⟨after, last, rfl⟩
    · obtain ⟨rfl, same⟩ := List.append_inj' split rfl
      cases same
      exact (finishes ends).2
    · rw [List.concat_eq_append, ← List.cons_append, ← List.append_assoc] at split
      exact inOrder.preceded (List.append_inj' split rfl).1 ends

end Order

namespace Telling

variable {earlier : List Telling} {t : Telling}

/-- The node that begins with a notice is one and the same. -/
theorem Begins.eq {notice : Notice} {id' : String} {node' : Running}
    (begins : Begins earlier notice now id node) (again : Begins earlier notice now id' node') :
    id = id' ∧ node = node' := by
  have start := begins
  obtain ⟨_, _, _, rfl, -⟩ := start
  obtain ⟨-, -, same⟩ := begins_iff.mp begins
  obtain ⟨rfl, -, same'⟩ := begins_iff.mp again
  exact ⟨rfl, same.trans same'.symm⟩

/-- A node that begins is told of, unless the publisher is closed. -/
theorem Tells.told_of_begins (tells : Tells earlier t) (opened : ¬ Closed earlier)
    (begins : Begins earlier t.notice t.now id node) : t.told = [some (node.starting id)] := by
  cases tells with
  | closed closed => exact absurd closed opened
  | starts _ begins' =>
    obtain ⟨rfl, rfl⟩ := begins.eq begins'
    rfl
  | hides started hidden =>
    cases started.symm.trans begins.startedId?_eq
    exact absurd begins (hidden node)
  | passes ended _ =>
    obtain ⟨_, _, _, rfl, -⟩ := begins
    cases ended
  | ends => exact absurd begins (not_begins_of_startedId?_eq_none rfl)
  | fails => exact absurd begins (not_begins_of_startedId?_eq_none rfl)
  | finishes => exact absurd begins (not_begins_of_startedId?_eq_none rfl)
  | closes => exact absurd begins (not_begins_of_startedId?_eq_none rfl)

/-- The only start that is told of a notice is that of the node that begins. -/
theorem Tells.startsOf_eq_nil (tells : Tells earlier t) (other : t.notice.startedId? ≠ some id) :
    startsOf id t.told = [] := by
  cases tells with
  | @starts notice now id' node _ begins =>
    have ne : id' ≠ id := by
      rintro rfl
      exact other begins.startedId?_eq
    simpa [startsOf, List.reduceOption, Running.starting] using ne
  | _ => rfl

/-- The only end that is told of a notice is that of the node that ends, which is running. -/
theorem Tells.of_mem_finishIds (tells : Tells earlier t) (ended : id ∈ finishIds t.told) :
    t.notice.endedId? = some id ∧ ∃ node, IsRunning earlier id node := by
  cases tells with
  | ends _ running =>
    obtain rfl := List.mem_singleton.mp ended
    exact ⟨rfl, _, running⟩
  | fails _ running =>
    obtain rfl := List.mem_singleton.mp ended
    exact ⟨rfl, _, running⟩
  | _ => cases ended

theorem startedIds_append_singleton :
    id ∈ startedIds (earlier ++ [t]) ↔ id ∈ startedIds earlier ∨ t.notice.startedId? = some id := by
  simp [startedIds]

theorem startedIds_append_cons (t : Telling) (notices : List Notice) :
    startedIds earlier ++ (t.notice :: notices).filterMap Notice.startedId? =
      startedIds (earlier ++ [t]) ++ notices.filterMap Notice.startedId? := by
  rw [startedIds, startedIds, List.filterMap_append, List.append_assoc, List.filterMap_cons]
  cases started : t.notice.startedId? <;> simp [started]

theorem flatMap_told_append_singleton :
    (earlier ++ [t]).flatMap told = earlier.flatMap told ++ t.told := by
  simp

namespace Told

/-- What is told of a notice keeps what is told in order. -/
theorem inOrder_append (told : Told earlier) (tells : Tells earlier t)
    (fresh : ∀ id, t.notice.startedId? = some id → id ∉ startedIds earlier) :
    InOrder ((earlier ++ [t]).flatMap Telling.told) := by
  have silent : InOrder (earlier.flatMap Telling.told ++ []) := by
    rw [List.append_nil]
    exact told.inOrder
  rw [flatMap_told_append_singleton]
  cases tells with
  | closed => exact silent
  | hides => exact silent
  | passes => exact silent
  | closes opened => exact told.inOrder.snoc_none (told.opened opened)
  | finishes opened =>
    exact told.inOrder.snoc_some (told.opened opened) nofun nofun
  | starts opened begins =>
    refine told.inOrder.snoc_some (told.opened opened) (fun _ => ?_) nofun
    exact told.starts_fresh _ (fresh _ begins.startedId?_eq)
  | ends opened running =>
    refine told.inOrder.snoc_some (told.opened opened) nofun fun _ => ?_
    exact ⟨told.running_unfinished _ _ running, _, told.running_started _ _ opened running, rfl,
      rfl, nofun⟩
  | fails opened running =>
    refine told.inOrder.snoc_some (told.opened opened) nofun fun _ => ?_
    exact ⟨told.running_unfinished _ _ running, _, told.running_started _ _ opened running, rfl,
      rfl, fun _ => rfl⟩

/-- Until the publisher is closed only events are told. -/
theorem opened_append (told : Told earlier) (tells : Tells earlier t)
    (opened : ¬ Closed (earlier ++ [t])) :
    ∃ events : List Event, (earlier ++ [t]).flatMap Telling.told = events.map some := by
  rw [closed_append_singleton, not_or] at opened
  obtain ⟨before, same⟩ := told.opened opened.1
  obtain ⟨now, only⟩ : ∃ now : List Event, t.told = now.map some := by
    cases tells with
    | closed => exact ⟨[], rfl⟩
    | hides => exact ⟨[], rfl⟩
    | passes => exact ⟨[], rfl⟩
    | closes => exact absurd rfl opened.2
    | finishes => exact ⟨[_], rfl⟩
    | starts => exact ⟨[_], rfl⟩
    | ends => exact ⟨[_], rfl⟩
    | fails => exact ⟨[_], rfl⟩
  exact ⟨before ++ now, by rw [flatMap_told_append_singleton, same, only, List.map_append]⟩

/-- One more notice keeps all of it. -/
theorem snoc (told : Told earlier) (tells : Tells earlier t)
    (fresh : ∀ id, t.notice.startedId? = some id → id ∉ startedIds earlier) :
    Told (earlier ++ [t]) where
  inOrder := told.inOrder_append tells fresh
  opened opened := told.opened_append tells opened
  starts_fresh id new := by
    rw [startedIds_append_singleton, not_or] at new
    rw [flatMap_told_append_singleton, startsOf_append, told.starts_fresh id new.1,
      tells.startsOf_eq_nil new.2, List.append_nil]
  running_started id node opened running := by
    rw [closed_append_singleton, not_or] at opened
    rw [flatMap_told_append_singleton, startsOf_append]
    -- a node that begins here has its only start here, and one that runs on does not begin again
    rcases isRunning_append_singleton.mp running with begins | ⟨running, -⟩
    · rw [told.starts_fresh id (fresh id begins.startedId?_eq),
        tells.told_of_begins opened.1 begins]
      simp [startsOf, List.reduceOption, Running.starting]
    · have other : t.notice.startedId? ≠ some id := fun started =>
        fresh id started running.mem_startedIds
      rw [told.running_started id node opened.1 running, tells.startsOf_eq_nil other,
        List.append_nil]
  running_unfinished id node running ended := by
    rw [flatMap_told_append_singleton, finishIds_append, List.mem_append] at ended
    rcases isRunning_append_singleton.mp running with begins | ⟨running, going⟩
    · rcases ended with before | now
      · exact fresh id begins.startedId?_eq (told.finished_started id before)
      · cases begins.endedId?_eq_none.symm.trans (tells.of_mem_finishIds now).1
    · rcases ended with before | now
      · exact told.running_unfinished id node running before
      · exact going (tells.of_mem_finishIds now).1
  finished_started id ended := by
    rw [flatMap_told_append_singleton, finishIds_append, List.mem_append] at ended
    rw [startedIds_append_singleton]
    rcases ended with before | now
    · exact Or.inl (told.finished_started id before)
    · obtain ⟨-, node, running⟩ := tells.of_mem_finishIds now
      exact Or.inl running.mem_startedIds

theorem nil : Told [] where
  inOrder := InOrder.nil
  opened _ := ⟨[], rfl⟩
  starts_fresh _ _ := rfl
  running_started _ _ _ running := absurd running not_since_nil
  running_unfinished _ _ running := absurd running not_since_nil
  finished_started _ ended := nomatch ended

end Told

/-- A start is told exactly of a node that begins before the publisher is closed. -/
theorem Tells.start_iff (tells : Tells earlier t) {event : Event} :
    some event ∈ t.told ∧ event.kind = .nodeStart ↔
      ¬ Closed earlier ∧ ∃ id node, Begins earlier t.notice t.now id node ∧
        event = node.starting id := by
  constructor
  · rintro ⟨member, kind⟩
    cases tells with
    | starts opened begins =>
      cases List.mem_singleton.mp member
      exact ⟨opened, _, _, begins, rfl⟩
    | closed => cases member
    | hides => cases member
    | passes => cases member
    | closes => cases List.mem_singleton.mp member
    | ends =>
      cases List.mem_singleton.mp member
      cases kind
    | fails =>
      cases List.mem_singleton.mp member
      cases kind
    | finishes =>
      cases List.mem_singleton.mp member
      cases kind
  · rintro ⟨opened, id, node, begins, rfl⟩
    rw [tells.told_of_begins opened begins]
    exact ⟨List.mem_singleton_self _, rfl⟩

end Telling

/-! ### All notices -/

namespace Publisher

open Telling

variable {earlier : List Telling}

theorem remembers_nil : ({} : Publisher).Remembers [] where
  root_eq := rfl
  closed_iff := by simp [Closed]
  running_iff id node := by
    constructor
    · intro found
      cases found
    · exact fun running => absurd running not_since_nil

theorem map_notice_tellings (clock : Nat → Timestamp) (place : Nat) (publisher : Publisher)
    (notices : List Notice) :
    (tellings clock place publisher notices).map Telling.notice = notices := by
  induction notices generalizing place publisher with
  | nil => rfl
  | cons notice notices ih => exact congrArg (notice :: ·) (ih (place + 1) _)

theorem map_now_tellings (clock : Nat → Timestamp) (place : Nat) (publisher : Publisher)
    (notices : List Notice) :
    (tellings clock place publisher notices).map Telling.now =
      (List.range' place notices.length).map clock := by
  induction notices generalizing place publisher with
  | nil => rfl
  | cons notice notices ih => exact congrArg (clock place :: ·) (ih (place + 1) _)

/-- Events are told in the order of the notices that they follow from. -/
theorem events_eq_flatMap (clock : Nat → Timestamp) (place : Nat) (publisher : Publisher)
    (notices : List Notice) :
    events clock place publisher notices =
      (tellings clock place publisher notices).flatMap Telling.told := by
  induction notices generalizing place publisher with
  | nil => rfl
  | cons notice notices ih =>
    exact congrArg ((publisher.step (clock place) notice).2 ++ ·) (ih (place + 1) _)

/-- What is told of each notice follows from the notices before it, and it is told in order. -/
theorem Remembers.tells_and_told (remembers : publisher.Remembers earlier) (told : Told earlier)
    {notices : List Notice}
    (distinct : (startedIds earlier ++ notices.filterMap Notice.startedId?).Nodup)
    (clock : Nat → Timestamp) (place : Nat) :
    (∀ sooner t later, tellings clock place publisher notices = sooner ++ t :: later →
      Tells (earlier ++ sooner) t) ∧ Told (earlier ++ tellings clock place publisher notices) := by
  -- on the notices; each is new among the names so far, and its telling joins what came before
  induction notices generalizing earlier publisher place with
  | nil =>
    rw [tellings, List.append_nil]
    exact ⟨fun _ _ _ split => by simp at split, told⟩
  | cons notice notices ih =>
    have fresh : ∀ id, notice.startedId? = some id → id ∉ startedIds earlier := by
      intro id started member
      rw [List.filterMap_cons_some started] at distinct
      exact (List.nodup_append.mp distinct).2.2 id member id List.mem_cons_self rfl
    have tells := remembers.tells (clock place) notice
    rw [startedIds_append_cons ⟨notice, clock place, (publisher.step (clock place) notice).2⟩]
      at distinct
    obtain ⟨after, told'⟩ := ih (remembers.step (clock place) notice fresh)
      (told.snoc tells fresh) distinct (place + 1)
    refine ⟨fun sooner t later split => ?_, by rw [tellings, List.append_cons]; exact told'⟩
    rcases sooner with _ | ⟨first, sooner⟩
    · cases split
      rw [List.append_nil]
      exact tells
    · simp only [tellings, List.cons_append, List.cons.injEq] at split
      obtain ⟨rfl, split⟩ := split
      rw [List.append_cons]
      exact after sooner t later split

/-- What is told of any notices, as long as no two things that begin have the same name. The start
of a node is told exactly if its parent is the first run without one, its name is not one of the
engine's own, and the publisher is open; what is neither the start of such a node nor the end of one
that is running is not told of. The events keep the order of the notices, and are in order
themselves. -/
theorem tells_in_order {notices : List Notice}
    (distinct : (notices.filterMap Notice.startedId?).Nodup) (clock : Nat → Timestamp) :
    ∃ ts : List Telling, ts.map Telling.notice = notices ∧
      ts.map Telling.now = (List.range notices.length).map clock ∧
      events clock 0 {} notices = ts.flatMap Telling.told ∧
      (∀ earlier t later, ts = earlier ++ t :: later → Tells earlier t ∧
        ∀ event, some event ∈ t.told ∧ event.kind = .nodeStart ↔
          ¬ Closed earlier ∧ ∃ id node, Begins earlier t.notice t.now id node ∧
            event = node.starting id) ∧
      InOrder (events clock 0 {} notices) := by
  obtain ⟨tells, told⟩ := remembers_nil.tells_and_told .nil distinct clock 0
  refine ⟨tellings clock 0 {} notices, map_notice_tellings .., ?_, events_eq_flatMap ..,
    fun earlier t later split => ?_, ?_⟩
  · rw [List.range_eq_range', map_now_tellings]
  · exact ⟨tells earlier t later split, fun _ => (tells earlier t later split).start_iff⟩
  · rw [events_eq_flatMap]
    exact told.inOrder

end Publisher

end Telling

/-! ### A rehearsal of notices

One node begins and fails. What runs inside of it, the engine's own nodes, another run without a
parent with a node of its own, an end without a start, and whatever comes after the end of all
events are not told of. -/

namespace Overheard

/-- A notice is given every minute. -/
def time (place : Nat) : Timestamp := { year := 2026, month := 1, day := 1, minute := place }

def notices : List Notice :=
  [.started "run" none none none .null,
    .started "a" (some "run") (some "writer") none (.str "hi"),
    .started "inside" (some "a") (some "writer") none .null,
    .started "entry" (some "run") (some "__start__") none .null,
    .started "other" none none none .null,
    .started "b" (some "other") (some "writer") none .null,
    .ended "entry" .null, .ended "unknown" .null, .failed "a" "boom", .ended "a" .null,
    .finished .null (some "boom"), .closed,
    .started "late" (some "run") (some "writer") none .null, .ended "late" .null, .closed]

theorem distinct : (notices.filterMap Notice.startedId?).Nodup := by decide

end Overheard

/-- What is told of them follows from them, and is in order. -/
theorem Publisher.tells_overheard :
    (Overheard.notices.filterMap Notice.startedId?).Nodup ∧
      ∃ ts : List Telling, ts.map Telling.notice = Overheard.notices ∧
        ts.map Telling.now = (List.range Overheard.notices.length).map Overheard.time ∧
        Publisher.events Overheard.time 0 {} Overheard.notices = ts.flatMap Telling.told ∧
        (∀ earlier t later, ts = earlier ++ t :: later → Telling.Tells earlier t ∧
          ∀ event, some event ∈ t.told ∧ event.kind = .nodeStart ↔
            ¬ Telling.Closed earlier ∧ ∃ id node, Telling.Begins earlier t.notice t.now id node ∧
              event = node.starting id) ∧
        InOrder (Publisher.events Overheard.time 0 {} Overheard.notices) :=
  ⟨Overheard.distinct, Publisher.tells_in_order Overheard.distinct Overheard.time⟩

example : (Publisher.events Overheard.time 0 {} Overheard.notices).map
    (Option.map fun event => (event.kind, event.id)) =
      [some (.nodeStart, "a"), some (.nodeError, "a"), some (.graphEnd, ""), none] := by
  decide +kernel

end AgentWorkflow.Run
