import AgentWorkflow.Proofs.Run.Handling
import AgentWorkflow.Proofs.Run.Publishing

/-!
# The calls of a run, as they are told

The nodes of a superstep all begin before any of them ends, so the notices of their calls overlap.
Still each call can be read off them: it begins in its turn, and the next notice with its name is
the one that it ends. A publisher takes an event for each of these notices, unless the name of the
node is one of the engine's own, so the calls of all other nodes can be read off the events as well.

## Main definitions

* `Call`, `Course.calls`: the nodes that were invoked in a run, and what they read
* `Call.account`: what is to be kept of a call
* `Run.Reports`: calls that can be read off notices, or off events

## Main results

* `Run.reports_course`: all calls of a run can be read off its notices
* `Run.Reports.exists_events`: what a publisher takes of notices off which calls can be read
* `Run.exists_events_reports`: the calls of all nodes that are told about can be read off the events
  of a run
-/

namespace AgentWorkflow

/-- A node that was invoked, and the state that it read. -/
structure Call where
  input : State
  invocation : Invocation

namespace Call

/-- What is to be kept of a call: what its node wrote, or its error and the state that it read. -/
def account (call : Call) : Value :=
  match call.invocation.outcome with
  | .ok (delta, _) => (Value.object delta).plain
  | .error failure =>
    .object [("error", .str failure.text), ("state", (Value.object call.input).plain)]

/-- The node of a call is told about. -/
def isPublic (call : Call) : Bool := Run.Publisher.isPublic call.invocation.key

end Call

/-- The nodes that were invoked in a superstep. -/
def Superstep.calls (superstep : Superstep) : List Call :=
  superstep.invocations.map (Call.mk superstep.input)

/-- The nodes that were invoked in a run, in the order in which they began. -/
def Course.calls (course : Course) : List Call := course.supersteps.flatMap Superstep.calls

namespace Run

variable {ι : Type} {call : Call} {calls : List Call} {publisher : Publisher} {now : Timestamp}
  {notice : Notice} {id : String} {clock : Nat → Timestamp} {place : Nat}

/-- How calls are read off items of some kind. -/
structure Reading (ι : Type) where
  /-- What the beginning of a call has in common with its end. -/
  name : ι → String
  Begins : Call → ι → Prop
  Ends : Call → ι → Prop
  /-- The item begins no call. -/
  Passes : ι → Prop

/-- Calls are reported: each of them begins in its turn, and the next item with its name ends it. -/
inductive Reports (reading : Reading ι) : List Call → List ι → Prop
  | nil : Reports reading [] []
  | begin {call : Call} {calls : List Call} {start finish : ι} {items : List ι} :
      reading.Begins call start →
      items.find? (fun item => reading.name item == reading.name start) = some finish →
      reading.Ends call finish → Reports reading calls items →
      Reports reading (call :: calls) (start :: items)
  | pass {calls : List Call} {item : ι} {items : List ι} :
      reading.Passes item → Reports reading calls items → Reports reading calls (item :: items)

/-- The name of what begins or ends with a notice. -/
def Notice.name : Notice → String
  | .started id .. => id
  | .ended id _ => id
  | .failed id _ => id
  | .finished .. => ""
  | .closed => ""

/-- How calls are read off notices. -/
def Reading.ofNotices : Reading Notice where
  name := Notice.name
  Begins call notice := ∃ superstep place,
    notice = beginning superstep call.input call.invocation place
  Ends call notice := ∃ superstep place, notice = ending superstep call.invocation place
  Passes notice := notice.startedId? = none ∧ notice ≠ .closed

/-- How calls are read off events. -/
def Reading.ofEvents : Reading Event where
  name := Event.id
  Begins call event := event.kind = .nodeStart ∧ event.node = call.invocation.key
  Ends call event := event.delta? = some call.account
  Passes event := event.kind ≠ .nodeStart

theorem Reports.append_of_passes {reading : Reading ι} {items rest : List ι}
    (passes : ∀ item ∈ items, reading.Passes item) (reports : Reports reading calls rest) :
    Reports reading calls (items ++ rest) := by
  induction items with
  | nil => exact reports
  | cons item items ih =>
    exact .pass (passes item List.mem_cons_self)
      (ih fun item member => passes item (List.mem_cons_of_mem _ member))

/-! ### Notices -/

/-- The calls of a superstep are told apart by their places in it. -/
theorem invocationId_inj {superstep i j : Nat} :
    invocationId superstep i = invocationId superstep j ↔ i = j := by
  refine ⟨fun same => ?_, congrArg _⟩
  rw [invocationId, invocationId, String.append_right_inj] at same
  -- a number can be read from its digits
  have digits := congrArg (fun text : String => Nat.ofDigitChars 10 text.toList 0) same
  simpa [Nat.ofDigitChars_toDigits] using digits

theorem name_beginning (superstep : Nat) (input : State) (invocation : Invocation) (place : Nat) :
    (beginning superstep input invocation place).name = invocationId superstep place := rfl

theorem name_ending (superstep : Nat) (invocation : Invocation) (place : Nat) :
    (ending superstep invocation place).name = invocationId superstep place := by
  rw [ending]
  split <;> rfl

theorem passes_ending (superstep : Nat) (invocation : Invocation) (place : Nat) :
    Reading.ofNotices.Passes (ending superstep invocation place) := by
  rw [ending]
  split
  · exact ⟨rfl, Notice.noConfusion⟩
  · exact ⟨rfl, Notice.noConfusion⟩

/-- The one item in a list for which something holds is found. -/
theorem find?_eq_some_of_unique {items : List ι} {item : ι} {p : ι → Bool} (member : item ∈ items)
    (holds : p item = true) (unique : ∀ other ∈ items, p other = true → other = item) :
    items.find? p = some item := by
  cases found : items.find? p with
  | none => exact absurd holds (List.find?_eq_none.mp found item member)
  | some other =>
    rw [unique other (List.mem_of_find?_eq_some found) (List.find?_some found)]

/-- Of the ends of the calls of a superstep, the one with the name of a call is its own. -/
theorem find?_ending {superstep : Nat} {invocations : List Invocation} {called : Invocation × Nat}
    (member : called ∈ invocations.zipIdx) :
    (invocations.zipIdx.map fun other => ending superstep other.1 other.2).find?
        (fun notice => notice.name == invocationId superstep called.2) =
      some (ending superstep called.1 called.2) := by
  refine find?_eq_some_of_unique (List.mem_map_of_mem member) (by simp [name_ending]) ?_
  intro notice ends same
  obtain ⟨other, member', rfl⟩ := List.mem_map.mp ends
  rw [name_ending, beq_iff_eq, invocationId_inj] at same
  rw [List.mem_zipIdx_iff_getElem?] at member member'
  -- two calls at the same place are the same
  rw [same, member] at member'
  rw [same, Option.some.inj member']

/-- Calls that begin before any of them ends are reported if their ends follow. -/
theorem Reports.append_beginnings {ends : List Notice} (reports : Reports .ofNotices calls ends)
    (superstep : Nat) (input : State) {invocations : List (Invocation × Nat)}
    (distinct : (invocations.map Prod.snd).Nodup)
    (ended : ∀ called ∈ invocations,
      ends.find? (fun notice => notice.name == invocationId superstep called.2) =
        some (ending superstep called.1 called.2)) :
    Reports .ofNotices (invocations.map (fun called => ⟨input, called.1⟩) ++ calls)
      (invocations.map (fun called => beginning superstep input called.1 called.2) ++ ends) := by
  induction invocations with
  | nil => exact reports
  | cons called invocations ih =>
    rw [List.map_cons, List.nodup_cons] at distinct
    refine .begin ⟨superstep, called.2, rfl⟩ ?_ ⟨superstep, called.2, rfl⟩
      (ih distinct.2 fun called member => ended called (List.mem_cons_of_mem _ member))
    -- those that begin in between have other names
    have others : (invocations.map fun called => beginning superstep input called.1 called.2).find?
        (fun notice => notice.name == invocationId superstep called.2) = none := by
      refine List.find?_eq_none.mpr fun notice begins same => distinct.1 ?_
      obtain ⟨other, member, rfl⟩ := List.mem_map.mp begins
      rw [name_beginning, beq_iff_eq, invocationId_inj] at same
      exact List.mem_map.mpr ⟨other, member, same⟩
    change ((invocations.map fun called => beginning superstep input called.1 called.2) ++
      ends).find? (fun notice => notice.name == invocationId superstep called.2) = _
    rw [List.find?_append, others, Option.none_or, ended called List.mem_cons_self]

/-- The notices of a superstep report its calls. -/
theorem Reports.append_superstep {rest : List Notice} (reports : Reports .ofNotices calls rest)
    (superstep : Superstep) (place : Nat) :
    Reports .ofNotices (superstep.calls ++ calls) (superstepNotices superstep place ++ rest) := by
  have invoked : superstep.calls =
      superstep.invocations.zipIdx.map fun called => ⟨superstep.input, called.1⟩ := by
    have places := congrArg (List.map (Call.mk superstep.input))
      (List.zipIdx_map_fst 0 superstep.invocations)
    rw [List.map_map] at places
    exact places.symm
  have ends : Reports .ofNotices calls
      (superstep.invocations.zipIdx.map (fun called => ending place called.1 called.2) ++
        rest) := by
    refine reports.append_of_passes fun notice member => ?_
    obtain ⟨called, -, rfl⟩ := List.mem_map.mp member
    exact passes_ending place called.1 called.2
  rw [invoked, Run.superstepNotices, List.append_assoc]
  refine ends.append_beginnings place superstep.input ?_ fun called member => ?_
  · rw [List.zipIdx_map_snd]
    exact List.nodup_range'
  · rw [List.find?_append, find?_ending member, Option.some_or]

/-- The notices of supersteps report their calls. -/
theorem Reports.append_supersteps {rest : List Notice} (reports : Reports .ofNotices calls rest)
    (supersteps : List Superstep) (place : Nat) :
    Reports .ofNotices (supersteps.flatMap Superstep.calls ++ calls)
      ((supersteps.zipIdx place).flatMap (fun (superstep, i) => superstepNotices superstep i) ++
        rest) := by
  induction supersteps generalizing place with
  | nil => exact reports
  | cons superstep supersteps ih =>
    rw [List.zipIdx_cons, List.flatMap_cons, List.flatMap_cons, List.append_assoc,
      List.append_assoc]
    exact (ih (place + 1)).append_superstep superstep place

/-! ### Events -/

/-- A publisher listens to the nodes of a run: it has been told of the run, and is open. -/
structure Publisher.Listens (publisher : Publisher) : Prop where
  root_eq : publisher.root = some rootId
  opened : publisher.closed = false

namespace Publisher

theorem tell_eq_of_opened (opened : publisher.closed = false) (event : Option Event) :
    publisher.tell event = [event] := by
  rw [tell, opened]
  rfl

theorem nameOf_self (key : String) : nameOf (some key) (some key) = key := by
  by_cases empty : key = ""
  · simp [nameOf, Option.filter, empty]
  · simp [nameOf, Option.filter, empty]

/-- The start of a node that is told about. -/
theorem step_beginning (listens : publisher.Listens) (now : Timestamp) (superstep place : Nat)
    (isPublic : call.isPublic = true) :
    publisher.step now (beginning superstep call.input call.invocation place) =
      ({ publisher with
          running := publisher.running.put (invocationId superstep place)
            ⟨call.invocation.key, .object call.input, now⟩ },
        [some (Running.starting (invocationId superstep place)
          ⟨call.invocation.key, .object call.input, now⟩)]) := by
  rw [Call.isPublic] at isPublic
  rw [beginning, step, nameOf_self, isPublic, listens.root_eq]
  simp [begin, tell_eq_of_opened listens.opened, Running.starting, listens.root_eq]

/-- The start of a node that is not told about. -/
theorem step_beginning_of_internal (now : Timestamp) (superstep place : Nat)
    (internal : call.isPublic = false) :
    publisher.step now (beginning superstep call.input call.invocation place) =
      (publisher, []) := by
  rw [Call.isPublic] at internal
  rw [beginning, step, nameOf_self, internal, Bool.and_false]
  rfl

/-- The end of a node that is running. -/
theorem step_ending (listens : publisher.Listens) (now : Timestamp) (superstep place : Nat)
    {node : Running} (running : publisher.running.find? (invocationId superstep place) = some node)
    (input : node.input = .object call.input) :
    ∃ event : Event,
      (publisher.step now (ending superstep call.invocation place)).2 = [some event] ∧
        event.id = invocationId superstep place ∧ event.delta? = some call.account := by
  rw [ending, Call.account]
  cases call.invocation.outcome with
  | ok written =>
    rw [step, finish, running]
    exact ⟨_, tell_eq_of_opened listens.opened _, rfl, rfl⟩
  | error failure =>
    rw [step, finish, running]
    refine ⟨_, tell_eq_of_opened listens.opened _, rfl, ?_⟩
    simp [Event.delta?, Tracker.failureDelta, input, Value.ofText?]

/-- What a publisher that listens takes of a notice, and what it goes on with. -/
structure Takes (publisher : Publisher) (now : Timestamp) (notice : Notice) (events : List Event)
    (next : Publisher) : Prop where
  step_eq : publisher.step now notice = (next, events.map some)
  listens : next.Listens
  id_eq : ∀ event ∈ events, event.id = notice.name
  kind_ne : notice.startedId? = none → ∀ event ∈ events, event.kind ≠ .nodeStart
  running_eq : ∀ id, id ≠ notice.name → next.running.find? id = publisher.running.find? id

/-- What ends takes nothing, or one event that it has ended. -/
theorem exists_takes_of_ends (listens : publisher.Listens) {make : Running → Event}
    (steps : publisher.step now notice = publisher.finish notice.name make)
    (id_eq : ∀ node, (make node).id = notice.name)
    (kind_ne : ∀ node, (make node).kind ≠ .nodeStart) :
    ∃ events next, publisher.Takes now notice events next := by
  rw [finish] at steps
  cases running : publisher.running.find? notice.name with
  | none =>
    rw [running] at steps
    exact ⟨[], publisher, steps, listens, by simp, by simp, fun _ _ => rfl⟩
  | some node =>
    simp only [running, tell_eq_of_opened listens.opened] at steps
    refine ⟨[make node], _, steps, ⟨listens.root_eq, listens.opened⟩, by simpa using id_eq node,
      fun _ => by simpa using kind_ne node, fun id other => Record.find?_remove_of_ne _ other⟩

/-- A publisher that listens does so until it is closed. -/
theorem Listens.exists_takes (listens : publisher.Listens) (now : Timestamp) {notice : Notice}
    (unclosed : notice ≠ .closed) : ∃ events next, publisher.Takes now notice events next := by
  cases notice with
  | started id parent node name input =>
    cases parent with
    | none =>
      have rooted : (publisher.root.orElse fun _ => some id) = some rootId := by
        rw [listens.root_eq]
        rfl
      exact ⟨[], _, rfl, ⟨rooted, listens.opened⟩, by simp, by simp, fun _ _ => rfl⟩
    | some parent =>
      by_cases begins : (publisher.root == some parent && isPublic (nameOf node name)) = true
      · refine ⟨[Running.starting id ⟨nameOf node name, input, now⟩],
          (publisher.begin now id (nameOf node name) input).1, ?_,
          ⟨listens.root_eq, listens.opened⟩, by simp [Running.starting, Notice.name],
          fun absent => by simp [Notice.startedId?] at absent,
          fun other apart => Record.find?_put_of_ne _ _ apart⟩
        rw [step, if_pos begins, begin, tell_eq_of_opened listens.opened]
        rfl
      · refine ⟨[], publisher, ?_, listens, by simp, by simp, fun _ _ => rfl⟩
        rw [step, if_neg begins]
        rfl
  | ended id output =>
    exact exists_takes_of_ends listens rfl (fun _ => rfl) fun _ => EventKind.noConfusion
  | failed id error =>
    exact exists_takes_of_ends listens rfl (fun _ => rfl) fun _ => EventKind.noConfusion
  | finished state error =>
    refine ⟨[{ kind := .graphEnd, startedAt := now, endedAt := some now, state, error }], publisher,
      ?_, listens, by simp [Notice.name], by simp, fun _ _ => rfl⟩
    rw [step, tell_eq_of_opened listens.opened]
    rfl
  | closed => exact absurd rfl unclosed

theorem Takes.events_cons {events : List Event} {next : Publisher}
    (takes : publisher.Takes (clock place) notice events next) (notices : List Notice) :
    Publisher.events clock place publisher (notice :: notices) =
      events.map some ++ Publisher.events clock (place + 1) next notices := by
  rw [Publisher.events, takes.step_eq]

end Publisher

theorem Reports.ne_closed {notices : List Notice} (reports : Reports .ofNotices calls notices) :
    ∀ notice ∈ notices, notice ≠ .closed := by
  induction reports with
  | nil => simp
  | begin begins _ _ _ ih =>
    obtain ⟨superstep, place, rfl⟩ := begins
    exact List.forall_mem_cons.mpr ⟨Notice.noConfusion, ih⟩
  | pass passes _ ih => exact List.forall_mem_cons.mpr ⟨passes.2, ih⟩

/-- A node that is running is told to have ended when it ends. -/
theorem exists_event_of_ends (listens : publisher.Listens) {node : Running}
    (running : publisher.running.find? id = some node) (input : node.input = .object call.input)
    {notices : List Notice} (unclosed : ∀ notice ∈ notices, notice ≠ .closed) {finish : Notice}
    (ended : notices.find? (fun notice => notice.name == id) = some finish)
    (ends : Reading.ofNotices.Ends call finish) {events : List Event}
    (tells : Publisher.events clock place publisher notices = events.map some) :
    ∃ event, events.find? (fun event => event.id == id) = some event ∧
      event.delta? = some call.account := by
  -- on the notices up to the first one with the name; the node is running until then
  induction notices generalizing publisher place events with
  | nil => cases ended
  | cons notice notices ih =>
    obtain ⟨here, next, takes⟩ := listens.exists_takes (clock place)
      (unclosed notice List.mem_cons_self)
    obtain ⟨events, later, rfl, now, after⟩ :=
      List.map_eq_append_iff.mp (tells.symm.trans (takes.events_cons notices))
    obtain rfl := (List.map_injective_iff.mpr (Option.some_injective _)) now
    by_cases named : notice.name = id
    · rw [List.find?_cons_of_pos (by simpa using named)] at ended
      cases ended
      obtain ⟨superstep, at_place, rfl⟩ := ends
      rw [name_ending] at named
      subst named
      obtain ⟨event, told_eq, id_eq, delta⟩ :=
        Publisher.step_ending listens (clock place) superstep at_place running input
      obtain rfl : events = [event] := by simpa [takes.step_eq] using told_eq
      exact ⟨event, List.find?_cons_of_pos (by simpa using id_eq), delta⟩
    · rw [List.find?_cons_of_neg (by simpa using named)] at ended
      obtain ⟨event, found, delta⟩ := ih takes.listens
        ((takes.running_eq id (Ne.symm named)).trans running)
        (fun notice member => unclosed notice (List.mem_cons_of_mem _ member)) ended after.symm
      -- what is told of a notice has the name of the notice, which is another one
      have others : events.find? (fun event => event.id == id) = none := by
        refine List.find?_eq_none.mpr fun event member same => named ?_
        rw [← takes.id_eq event member]
        exact beq_iff_eq.mp same
      exact ⟨event, by rw [List.find?_append, others, Option.none_or, found], delta⟩

/-- What is told of notices off which calls can be read. The calls of the nodes that are told about
can be read off the events. -/
theorem Reports.exists_events {notices : List Notice} (reports : Reports .ofNotices calls notices)
    (listens : publisher.Listens) (clock : Nat → Timestamp) (place : Nat) :
    ∃ (events : List Event) (next : Publisher), next.Listens ∧
      (∀ more, Publisher.events clock place publisher (notices ++ more) =
        events.map some ++ Publisher.events clock (place + notices.length) next more) ∧
      Reports .ofEvents (calls.filter Call.isPublic) events := by
  induction reports generalizing publisher place with
  | nil => exact ⟨[], publisher, listens, fun _ => rfl, .nil⟩
  | @pass calls notice notices passes _ ih =>
    obtain ⟨here, next, takes⟩ := listens.exists_takes (clock place) passes.2
    obtain ⟨events, last, still, later, reports⟩ := ih takes.listens (place + 1)
    refine ⟨here ++ events, last, still, fun more => ?_,
      reports.append_of_passes (takes.kind_ne passes.1)⟩
    rw [List.cons_append, takes.events_cons, later, List.map_append, List.append_assoc,
      List.length_cons, Nat.add_right_comm, Nat.add_assoc]
  | @begin call calls start finish notices begins ended ends reports ih =>
    obtain ⟨superstep, at_place, rfl⟩ := begins
    cases isPublic : call.isPublic with
    | false =>
      -- its start is not told of; its end is one of the notices that report no call
      obtain ⟨events, last, still, later, reports⟩ := ih listens (place + 1)
      refine ⟨events, last, still, fun more => ?_, ?_⟩
      · rw [List.cons_append, Publisher.events,
          Publisher.step_beginning_of_internal (clock place) superstep at_place isPublic,
          List.length_cons, Nat.add_comm notices.length, ← Nat.add_assoc]
        exact later more
      · rw [List.filter_cons_of_neg (by simp [isPublic])]
        exact reports
    | true =>
      have begun := Publisher.step_beginning listens (clock place) superstep at_place isPublic
      have listens' : Publisher.Listens { publisher with
          running := publisher.running.put (invocationId superstep at_place)
            ⟨call.invocation.key, .object call.input, clock place⟩ } :=
        ⟨listens.root_eq, listens.opened⟩
      obtain ⟨events, last, still, later, reports'⟩ := ih listens' (place + 1)
      -- nothing in between has its name, so the node is still running when it ends
      obtain ⟨event, found, delta⟩ := exists_event_of_ends listens' (Record.find?_put_self _ _ _)
        rfl reports.ne_closed ended ends (by simpa [Publisher.events] using later [])
      refine ⟨Running.starting (invocationId superstep at_place)
        ⟨call.invocation.key, .object call.input, clock place⟩ :: events, last, still,
        fun more => ?_, ?_⟩
      · rw [List.cons_append, Publisher.events, begun, List.length_cons,
          Nat.add_comm notices.length, ← Nat.add_assoc]
        exact congrArg (_ :: ·) (later more)
      · rw [List.filter_cons_of_pos isPublic]
        exact .begin ⟨rfl, rfl⟩ found delta reports'

/-- The notices of a run report its calls, and whatever passes may follow. -/
theorem reports_course {rest : List Notice}
    (passes : ∀ notice ∈ rest, Reading.ofNotices.Passes notice) (course : Course) :
    Reports .ofNotices course.calls
      (course.supersteps.zipIdx.flatMap (fun (superstep, i) => superstepNotices superstep i) ++
        rest) := by
  have reports : Reports .ofNotices [] rest := by
    simpa using Reports.append_of_passes passes .nil
  rw [← List.append_nil course.calls]
  exact reports.append_supersteps course.supersteps 0

/-- The calls of all nodes that are told about can be read off the events of a run. -/
theorem exists_events_reports (clock : Nat → Timestamp) (course : Course) :
    ∃ events : List Event,
      Publisher.events clock 0 {} (notices course) =
        events.map some ++ (if Workflow.isWaiting course.outcome then [] else [none]) ∧
      Reports .ofEvents (course.calls.filter Call.isPublic) events := by
  -- the publisher listens once it has been told of the run itself
  have listens : ({ root := some rootId } : Publisher).Listens := ⟨rfl, rfl⟩
  have begun : ∀ notices,
      Publisher.events clock 0 {} (.started rootId none none none .null :: notices) =
        Publisher.events clock 1 { root := some rootId } notices := fun _ => rfl
  rw [notices, courseNotices, List.cons_append, begun]
  cases Workflow.isWaiting course.outcome with
  | true =>
    obtain ⟨events, last, -, later, reports⟩ :=
      (reports_course (List.forall_mem_nil _) course).exists_events listens clock 1
    refine ⟨events, ?_, reports⟩
    simpa [Publisher.events] using later []
  | false =>
    obtain ⟨state, error, concludes⟩ := Tracker.exists_conclusion_eq course.outcome
    have passes : ∀ notice ∈ [conclusion course.outcome], Reading.ofNotices.Passes notice := by
      rw [concludes]
      exact List.forall_mem_singleton.mpr ⟨rfl, Notice.noConfusion⟩
    obtain ⟨events, last, still, later, reports⟩ :=
      (reports_course passes course).exists_events listens clock 1
    refine ⟨events, ?_, reports⟩
    have closes := later [.closed]
    rw [List.append_assoc, Publisher.events, Publisher.step,
      Publisher.tell_eq_of_opened still.opened] at closes
    exact closes

end Run

end AgentWorkflow
