import AgentWorkflow.Proofs.Record
import AgentWorkflow.Proofs.Since
import AgentWorkflow.Run.Trace

/-!
# What a publisher tells

A publisher remembers the first run without a parent, the nodes that are running, and whether it is
closed. All of it follows from the notices that it was given before, so what it tells of a notice
follows from them, too.

## Main definitions

* `Telling`: a notice, and what was told of it
* `Telling.Begins`, `Telling.IsRunning`: the nodes that begin, and those that are running
* `Telling.Tells`: what is told of a notice, as it follows from the notices before it
* `Publisher.Remembers`: what a publisher remembers

## Main results

* `Publisher.Remembers.tells`: what is told of a notice follows from what was given before
* `Publisher.Remembers.step`: what is remembered after a notice
-/

namespace AgentWorkflow.Run

variable {publisher : Publisher} {id : String} {node : Running} {now : Timestamp}
  {clock : Nat → Timestamp}

/-- A notice, when it was given, and what was told of it. -/
structure Telling where
  notice : Notice
  now : Timestamp
  told : List (Option Event)

namespace Notice

/-- The name of what begins. -/
def startedId? : Notice → Option String
  | .started id .. => some id
  | _ => none

/-- The name of a run that has no parent. -/
def rootId? : Notice → Option String
  | .started id none _ _ _ => some id
  | _ => none

/-- The name of what ends. -/
def endedId? : Notice → Option String
  | .ended id _ => some id
  | .failed id _ => some id
  | _ => none

end Notice

namespace Telling

/-- The first run without a parent. -/
def root? (earlier : List Telling) : Option String := earlier.findSome? fun t => t.notice.rootId?

/-- The names of all that began. -/
def startedIds (earlier : List Telling) : List String :=
  earlier.filterMap fun t => t.notice.startedId?

/-- The publisher has been closed. -/
def Closed (earlier : List Telling) : Prop := ∃ t ∈ earlier, t.notice = .closed

/-- A node begins: its parent is the first run that has none, and its name is not one of the
engine's own. -/
def Begins (earlier : List Telling) (notice : Notice) (now : Timestamp) (id : String)
    (node : Running) : Prop :=
  ∃ parent label name, notice = .started id (some parent) label name node.input ∧
    root? earlier = some parent ∧ node.node = Publisher.nameOf label name ∧ node.node ≠ "" ∧
    node.node.startsWith "__" = false ∧ node.startedAt = now

/-- A node that has begun and not ended since. -/
def IsRunning (earlier : List Telling) (id : String) (node : Running) : Prop :=
  Since (fun sooner t => Begins sooner t.notice t.now id node)
    (fun t => t.notice.endedId? = some id) earlier

end Telling

namespace Running

/-- The event that a node begins. -/
def starting (id : String) (node : Running) : Event :=
  { kind := .nodeStart, id, node := node.node, startedAt := node.startedAt, state := node.input }

/-- The event that a node ends. -/
def ending (id : String) (output : Value) (now : Timestamp) (node : Running) : Event :=
  { kind := .nodeEnd, id, node := node.node, startedAt := node.startedAt, endedAt := some now,
    state := output }

/-- The event that a node fails. -/
def failing (id error : String) (now : Timestamp) (node : Running) : Event :=
  { kind := .nodeError, id, node := node.node, startedAt := node.startedAt, endedAt := some now,
    state := node.input, error := some error }

end Running

/-- What is told of a notice, as it follows from the notices before it. -/
inductive Telling.Tells (earlier : List Telling) : Telling → Prop
  | closed {notice : Notice} {now : Timestamp} : Closed earlier → Tells earlier ⟨notice, now, []⟩
  | starts {notice : Notice} {now : Timestamp} {id : String} {node : Running} :
      ¬ Closed earlier → Begins earlier notice now id node →
      Tells earlier ⟨notice, now, [some (node.starting id)]⟩
  | hides {notice : Notice} {now : Timestamp} {id : String} : notice.startedId? = some id →
      (∀ node, ¬ Begins earlier notice now id node) → Tells earlier ⟨notice, now, []⟩
  | ends {id : String} {output : Value} {now : Timestamp} {node : Running} :
      ¬ Closed earlier → IsRunning earlier id node →
      Tells earlier ⟨.ended id output, now, [some (node.ending id output now)]⟩
  | fails {id error : String} {now : Timestamp} {node : Running} :
      ¬ Closed earlier → IsRunning earlier id node →
      Tells earlier ⟨.failed id error, now, [some (node.failing id error now)]⟩
  | passes {notice : Notice} {now : Timestamp} {id : String} : notice.endedId? = some id →
      (∀ node, ¬ IsRunning earlier id node) → Tells earlier ⟨notice, now, []⟩
  | finishes {state : Value} {error : Option String} {now : Timestamp} : ¬ Closed earlier →
      Tells earlier ⟨.finished state error, now,
        [some { kind := .graphEnd, startedAt := now, endedAt := some now, state, error }]⟩
  | closes {now : Timestamp} : ¬ Closed earlier → Tells earlier ⟨.closed, now, [none]⟩

namespace Publisher

/-- What is told of notices, each at its time. -/
def tellings (clock : Nat → Timestamp) (place : Nat) (publisher : Publisher) :
    List Notice → List Telling
  | [] => []
  | notice :: notices =>
    let (next, told) := publisher.step (clock place) notice
    ⟨notice, clock place, told⟩ :: tellings clock (place + 1) next notices

/-- What a publisher remembers follows from the notices that it was given. -/
structure Remembers (earlier : List Telling) (publisher : Publisher) : Prop where
  root_eq : publisher.root = Telling.root? earlier
  closed_iff : publisher.closed = true ↔ Telling.Closed earlier
  running_iff : ∀ id node, publisher.running.find? id = some node ↔
    Telling.IsRunning earlier id node

end Publisher

/-! ### One notice -/

namespace Telling

variable {earlier : List Telling} {t : Telling} {notice : Notice}

theorem root?_append_singleton :
    root? (earlier ++ [t]) = (root? earlier).or t.notice.rootId? := by
  simp [root?, List.findSome?_append]

theorem closed_append_singleton :
    Closed (earlier ++ [t]) ↔ Closed earlier ∨ t.notice = .closed := by
  simp [Closed, or_and_right, exists_or]

theorem isRunning_append_singleton :
    IsRunning (earlier ++ [t]) id node ↔ Begins earlier t.notice t.now id node ∨
      IsRunning earlier id node ∧ t.notice.endedId? ≠ some id :=
  since_append_singleton

theorem Begins.startedId?_eq (begins : Begins earlier notice now id node) :
    notice.startedId? = some id := by
  obtain ⟨parent, label, name, rfl, -⟩ := begins
  rfl

theorem Begins.endedId?_eq_none (begins : Begins earlier notice now id node) :
    notice.endedId? = none := by
  obtain ⟨parent, label, name, rfl, -⟩ := begins
  rfl

theorem not_begins_of_startedId?_eq_none (unstarted : notice.startedId? = none) :
    ¬ Begins earlier notice now id node := fun begins => by
  rw [begins.startedId?_eq] at unstarted
  cases unstarted

/-- What is running has begun. -/
theorem IsRunning.mem_startedIds (running : IsRunning earlier id node) :
    id ∈ startedIds earlier := by
  obtain ⟨sooner, start, between, rfl, begins, -⟩ := running
  exact List.mem_filterMap.mpr ⟨start, by simp, begins.startedId?_eq⟩

/-- A node that begins is known by what it was begun with. -/
theorem begins_iff {label name : Option String} {id' parent : String} {input : Value} :
    Begins earlier (.started id (some parent) label name input) now id' node ↔
      id = id' ∧ (root? earlier = some parent ∧
        Publisher.isPublic (Publisher.nameOf label name) = true) ∧
        node = ⟨Publisher.nameOf label name, input, now⟩ := by
  obtain ⟨named, input', startedAt⟩ := node
  simp only [Begins, Notice.started.injEq, Option.some.injEq, Publisher.isPublic,
    Publisher.internalMark, Bool.and_eq_true, bne_iff_ne, Bool.not_eq_true', Running.mk.injEq]
  constructor
  · rintro ⟨_, _, _, ⟨rfl, rfl, rfl, rfl, rfl⟩, root, rfl, nonempty, visible, rfl⟩
    exact ⟨rfl, ⟨root, nonempty, visible⟩, rfl, rfl, rfl⟩
  · rintro ⟨rfl, ⟨root, nonempty, visible⟩, rfl, rfl, rfl⟩
    exact ⟨_, _, _, ⟨rfl, rfl, rfl, rfl, rfl⟩, root, rfl, nonempty, visible, rfl⟩

theorem not_begins_of_root {label name : Option String} {id' : String} {input : Value} :
    ¬ Begins earlier (.started id none label name input) now id' node := by
  rintro ⟨parent, _, _, started, -⟩
  cases started

end Telling

namespace Publisher.Remembers

open Telling

variable {earlier : List Telling} {told : List (Option Event)}

theorem tell_eq (remembers : publisher.Remembers earlier) (opened : ¬ Closed earlier)
    (event : Option Event) : publisher.tell event = [event] := by
  rw [tell, if_neg (by rwa [remembers.closed_iff])]

theorem tell_eq_nil (remembers : publisher.Remembers earlier) (closed : Closed earlier)
    (event : Option Event) : publisher.tell event = [] := by
  rw [tell, if_pos (remembers.closed_iff.mpr closed)]

/-- A publisher that is closed tells nothing. -/
theorem step_eq_nil (remembers : publisher.Remembers earlier) (closed : Closed earlier)
    (now : Timestamp) (notice : Notice) : (publisher.step now notice).2 = [] := by
  have silent : ∀ event, publisher.tell event = [] := remembers.tell_eq_nil closed
  cases notice with
  | started id parent label name input =>
    cases parent with
    | none => rfl
    | some parent =>
      rw [Publisher.step]
      split_ifs
      · exact silent _
      · rfl
  | ended id output =>
    rw [Publisher.step, finish]
    cases publisher.running.find? id with
    | none => rfl
    | some node => exact silent _
  | failed id error =>
    rw [Publisher.step, finish]
    cases publisher.running.find? id with
    | none => rfl
    | some node => exact silent _
  | finished state error => exact silent _
  | closed => exact silent _

theorem not_isRunning (remembers : publisher.Remembers earlier)
    (absent : publisher.running.find? id = none) (node : Running) :
    ¬ IsRunning earlier id node := by
  rw [← remembers.running_iff, absent]
  exact nofun

theorem begins_iff_step (remembers : publisher.Remembers earlier) {label name : Option String}
    {id' parent : String} {input : Value} :
    Begins earlier (.started id (some parent) label name input) now id' node ↔
      id = id' ∧ (publisher.root == some parent && isPublic (nameOf label name)) = true ∧
        node = ⟨nameOf label name, input, now⟩ := by
  rw [begins_iff, remembers.root_eq, Bool.and_eq_true, beq_iff_eq]

/-- What is told of a notice follows from the notices before it. -/
theorem tells (remembers : publisher.Remembers earlier) (now : Timestamp) (notice : Notice) :
    Tells earlier ⟨notice, now, (publisher.step now notice).2⟩ := by
  -- a publisher that is closed tells nothing, whatever it still remembers
  by_cases closed : Closed earlier
  · rw [remembers.step_eq_nil closed]
    exact .closed closed
  have audible : ∀ event, publisher.tell event = [event] := remembers.tell_eq closed
  cases notice with
  | started id parent label name input =>
    cases parent with
    | none => exact .hides rfl fun _ => not_begins_of_root
    | some parent =>
      rw [Publisher.step]
      split_ifs with begins
      · rw [Publisher.begin, audible]
        exact .starts closed (remembers.begins_iff_step.mpr ⟨rfl, begins, rfl⟩)
      · exact .hides rfl fun _ begins' => begins (remembers.begins_iff_step.mp begins').2.1
  | ended id output =>
    rw [Publisher.step, finish]
    cases found : publisher.running.find? id with
    | none => exact .passes rfl (remembers.not_isRunning found)
    | some node =>
      dsimp only
      rw [audible]
      exact .ends closed ((remembers.running_iff id node).mp found)
  | failed id error =>
    rw [Publisher.step, finish]
    cases found : publisher.running.find? id with
    | none => exact .passes rfl (remembers.not_isRunning found)
    | some node =>
      dsimp only
      rw [audible]
      exact .fails closed ((remembers.running_iff id node).mp found)
  | finished state error =>
    rw [Publisher.step, audible]
    exact .finishes closed
  | closed =>
    rw [Publisher.step, audible]
    exact .closes closed

/-- What is neither the start of a node nor its end changes neither what is closed nor what is
running. -/
theorem snoc_of_quiet (remembers : publisher.Remembers earlier) {notice : Notice}
    {root : Option String} (rooted : root = publisher.root.or notice.rootId?)
    (unclosed : notice ≠ .closed) (unstarted : ∀ id node, ¬ Begins earlier notice now id node)
    (unended : notice.endedId? = none) :
    ({ publisher with root } : Publisher).Remembers (earlier ++ [⟨notice, now, told⟩]) where
  root_eq := by rw [root?_append_singleton, rooted, remembers.root_eq]
  closed_iff := by
    rw [closed_append_singleton, remembers.closed_iff]
    simp [unclosed]
  running_iff id node := by
    rw [isRunning_append_singleton, remembers.running_iff]
    simp [unstarted, unended]

/-- A node that begins is running. It did not run before, as its name is a new one. -/
theorem snoc_of_begins (remembers : publisher.Remembers earlier) {label name : Option String}
    {parent : String} {input : Value}
    (begins : (publisher.root == some parent && isPublic (nameOf label name)) = true)
    (fresh : id ∉ startedIds earlier) :
    (publisher.begin now id (nameOf label name) input).1.Remembers
      (earlier ++ [⟨.started id (some parent) label name input, now, told⟩]) where
  root_eq := by
    rw [root?_append_singleton, ← remembers.root_eq]
    exact (Option.or_none).symm
  closed_iff := by
    rw [closed_append_singleton, ← remembers.closed_iff]
    simp [Publisher.begin]
  running_iff id' node := by
    rw [isRunning_append_singleton, ← remembers.running_iff, Publisher.begin,
      Record.find?_put]
    dsimp only
    rw [remembers.begins_iff_step]
    -- the name is a new one, so no node that is running is forgotten
    by_cases same : id' = id
    · subst same
      have idle : publisher.running.find? id' ≠ some node := fun found =>
        fresh ((remembers.running_iff id' node).mp found).mem_startedIds
      simp [begins, idle, eq_comm]
    · simp [same, Ne.symm same, Notice.endedId?]

/-- A node that ends is running no more. -/
theorem snoc_of_ends (remembers : publisher.Remembers earlier) {notice : Notice}
    {make : Running → Event} (ends : notice.endedId? = some id) :
    (publisher.finish id make).1.Remembers (earlier ++ [⟨notice, now, told⟩]) := by
  have unstarted : notice.startedId? = none ∧ notice.rootId? = none ∧ notice ≠ .closed := by
    cases notice <;> simp_all [Notice.endedId?, Notice.startedId?, Notice.rootId?]
  have root : (root? (earlier ++ [⟨notice, now, told⟩])) = publisher.root := by
    rw [root?_append_singleton, remembers.root_eq, unstarted.2.1, Option.or_none]
  have closed : publisher.closed = true ↔ Closed (earlier ++ [⟨notice, now, told⟩]) := by
    rw [closed_append_singleton, remembers.closed_iff]
    simp [unstarted.2.2]
  have running : ∀ id' node, IsRunning (earlier ++ [⟨notice, now, told⟩]) id' node ↔
      publisher.running.find? id' = some node ∧ id' ≠ id := by
    intro id' node
    rw [isRunning_append_singleton, remembers.running_iff]
    simp [not_begins_of_startedId?_eq_none unstarted.1, ends, eq_comm]
  rw [finish]
  cases found : publisher.running.find? id with
  -- no node of that name was running, so there is none to forget
  | none =>
    refine ⟨root.symm, closed, fun id' node => ?_⟩
    rw [running]
    by_cases same : id' = id
    · simp [same, found]
    · simp [same]
  | some _ =>
    refine ⟨root.symm, closed, fun id' node => ?_⟩
    rw [running]
    by_cases same : id' = id
    · simp [same]
    · simp [same, Record.find?_remove_of_ne _ same]

/-- What is remembered after a notice follows from the notices before it, and from it. -/
theorem step (remembers : publisher.Remembers earlier) (now : Timestamp) (notice : Notice)
    (fresh : ∀ id, notice.startedId? = some id → id ∉ startedIds earlier) :
    (publisher.step now notice).1.Remembers (earlier ++ [⟨notice, now, told⟩]) := by
  cases notice with
  | started id parent label name input =>
    cases parent with
    | none =>
      refine remembers.snoc_of_quiet ?_ nofun (fun _ _ => not_begins_of_root) rfl
      cases publisher.root <;> rfl
    | some parent =>
      rw [Publisher.step]
      split_ifs with begins
      · exact remembers.snoc_of_begins begins (fresh id rfl)
      · exact remembers.snoc_of_quiet Option.or_none.symm nofun
          (fun _ _ begins' => begins (remembers.begins_iff_step.mp begins').2.1) rfl
  | ended id output => exact remembers.snoc_of_ends rfl
  | failed id error => exact remembers.snoc_of_ends rfl
  | finished state error =>
    exact remembers.snoc_of_quiet Option.or_none.symm nofun
      (fun _ _ => not_begins_of_startedId?_eq_none rfl) rfl
  | closed =>
    refine ⟨?_, ?_, fun id node => ?_⟩
    · rw [root?_append_singleton, ← remembers.root_eq]
      exact Option.or_none.symm
    · rw [closed_append_singleton]
      exact ⟨fun _ => Or.inr rfl, fun _ => rfl⟩
    · have unstarted : ¬ Begins earlier .closed now id node := not_begins_of_startedId?_eq_none rfl
      rw [isRunning_append_singleton, ← remembers.running_iff]
      simp [unstarted, Notice.endedId?, Publisher.step]

end Publisher.Remembers

end AgentWorkflow.Run
