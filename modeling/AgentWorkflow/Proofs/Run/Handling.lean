import AgentWorkflow.Proofs.Run.Recording
import AgentWorkflow.Proofs.Since
import AgentWorkflow.Proofs.Store.Steps

/-!
# How events are recorded

For each event at most one write is due. Which one is known from the events before it: a node that
begins gets the next number, and a node that ends completes the row that is in flight under its
identifier. A row is in flight from the write that adds it until a node with the same identifier
ends, or gets a row of its own. So the rows of a run can be read off its events and off which of
the writes succeeded.

## Main definitions

* `Handling`, `Handling.Follows`: what was done about an event, as it follows from what was done
  before
* `Handles`: what was done about events, one after another
* `InFlight`: the row that the next end of a node completes
* `rowsOf`: the rows of the steps of a run

## Main results

* `pairwise_order_rowsOf`: steps are numbered in the order in which their nodes begin
* `rowsOf_append_of_added`, `rowsOf_append_of_completed`: how the rows change with one more event
* `InFlight.identified`: which of the rows that were added is in flight
* `Handles.follows`: what is done about each event follows from what was done before
-/

namespace AgentWorkflow.Run

variable {τ : Type} {recorder : Recorder τ} {run id step : String} {event : Event}
  {now : Timestamp} {before : τ} {delta : Value}

/-- What an event about the end of a node completes its row with. -/
def Event.delta? (event : Event) : Option Value :=
  match event.kind with
  | .nodeEnd => some event.state.plain
  | .nodeError => some (Tracker.failureDelta event)
  | .nodeStart | .graphEnd => none

/-- The step whose row is written, if a write about one succeeds. -/
def Write.row? (recorder : Recorder τ) (before : τ) : Write → Option String
  | createStep run node order startedAt =>
    ((recorder.createStep run node order startedAt).outcome before).1.toOption
  | finishStep step delta finishedAt =>
    ((recorder.finishStep step delta finishedAt).outcome before).1.toOption.map fun _ => step
  | finishRun .. => none

/-- What was done about an event. -/
structure Handling (τ : Type) where
  event : Event
  /-- When it was handled. -/
  now : Timestamp
  /-- The write that was attempted. -/
  write : Option Write
  /-- The step whose row was written. -/
  row : Option String
  before : τ
  after : τ

namespace Handling

/-- The time that a row is completed with. -/
def time (h : Handling τ) : Timestamp := h.event.endedAt.getD h.now

/-- A node begins. -/
def begins (h : Handling τ) : Bool := h.event.kind == .nodeStart

/-- The row that was added. -/
def added? (h : Handling τ) : Option String := if h.begins then h.row else none

/-- The row that it was attempted to complete. -/
def completing? (h : Handling τ) : Option String :=
  match h.write with
  | some (.finishStep step _ _) => some step
  | _ => none

/-- It concerns the row in flight under an identifier: that row ends, or gives way to another. -/
def Touches (h : Handling τ) (id : String) : Prop :=
  h.event.id = id ∧ (h.event.delta? ≠ none ∨ h.row ≠ none)

end Handling

/-- The row in flight under an identifier: it was added for a node with that identifier, and nothing
has concerned it since. -/
def InFlight (earlier : List (Handling τ)) (id step : String) : Prop :=
  Since (fun _ start => start.event.id = id ∧ start.added? = some step) (Handling.Touches · id)
    earlier

/-- How many nodes have begun. -/
def begun (earlier : List (Handling τ)) : Nat := earlier.countP Handling.begins

/-- What completes the row in flight under an identifier: the first event that concerns it, if that
is about an end and the row could be written. -/
def completion? (id : String) : List (Handling τ) → Option (Value × Timestamp)
  | [] => none
  | h :: later =>
    if h.event.id = id then
      match h.event.delta?, h.row with
      | some delta, some _ => some (delta, h.time)
      | some _, none => none
      | none, some _ => none
      | none, none => completion? id later
    else completion? id later

/-- The row of a step, as it is after what follows its start. -/
def Handling.stepRow (run : String) (order : Nat) (later : List (Handling τ)) (h : Handling τ)
    (step : String) : Store.StepRow :=
  let row : Store.StepRow :=
    { id := step, run, node := h.event.node, order, startedAt := h.event.startedAt }
  match completion? h.event.id later with
  | some (delta, time) => row.finish delta time
  | none => row

/-- The rows of the steps of a run. The node that begins first gets the given number, whether its
row can be written or not. -/
def rowsOf (run : String) (order : Nat) : List (Handling τ) → List Store.StepRow
  | [] => []
  | h :: later =>
    (h.added?.map (h.stepRow run order later)).toList ++
      rowsOf run (if h.begins then order + 1 else order) later

/-- What is done about an event follows from what was done before. -/
structure Handling.Follows (recorder : Recorder τ) (run : String) (earlier : List (Handling τ))
    (h : Handling τ) : Prop where
  /-- A node that begins gets the next number, whether the rows before it could be added or not. -/
  begins : h.event.kind = .nodeStart →
    h.write = some (.createStep run h.event.node (begun earlier + 1) h.event.startedAt)
  /-- A node that ends completes the row in flight under its identifier. -/
  completes : ∀ {delta step}, h.event.delta? = some delta → InFlight earlier h.event.id step →
    h.write = some (.finishStep step delta h.time)
  /-- Nothing is written if there is no such row. -/
  passes : h.event.delta? ≠ none → (∀ step, ¬ InFlight earlier h.event.id step) → h.write = none
  concludes : h.event.kind = .graphEnd → h.write = some
    (match h.event.error with
    | some error => .finishRun run .failed .null (some error) h.time
    | none => .finishRun run .completed h.event.state.plain none h.time)
  row_eq : h.row = h.write.bind (Write.row? recorder h.before)
  after_eq : h.after = h.write.elim h.before (Write.leaves recorder h.before)

/-- What is done about events, each in the world that the one before left. -/
inductive Handles (recorder : Recorder τ) (run : String) :
    List (Handling τ) → τ → List (Event × Timestamp) → List (Handling τ) → τ → Prop
  | nil (earlier : List (Handling τ)) (world : τ) : Handles recorder run earlier world [] [] world
  | cons {earlier later : List (Handling τ)} {h : Handling τ} {inputs : List (Event × Timestamp)}
      {after : τ} : h.Follows recorder run earlier →
      Handles recorder run (earlier ++ [h]) h.after inputs later after →
      Handles recorder run earlier h.before ((h.event, h.now) :: inputs) (h :: later) after

theorem Event.delta?_eq_none_iff :
    event.delta? = none ↔ event.kind = .nodeStart ∨ event.kind = .graphEnd := by
  rw [delta?]
  cases event.kind <;> simp

/-! ### The rows that can be read off -/

section Rows

variable {earlier later : List (Handling τ)} {h : Handling τ} {order : Nat}

theorem Handling.begins_iff : h.begins = true ↔ h.event.kind = .nodeStart := beq_iff_eq

theorem Handling.begins_of_added (added : h.added? = some step) : h.begins = true := by
  rw [added?] at added
  split_ifs at added with begins
  exact begins

theorem Handling.row_of_added (added : h.added? = some step) : h.row = some step := by
  rw [added?, if_pos (begins_of_added added)] at added
  exact added

theorem Handling.touches_of_added (added : h.added? = some step) : h.Touches h.event.id :=
  ⟨rfl, Or.inr (by simp [row_of_added added])⟩

/-- A start is not about an end. -/
theorem Handling.delta?_eq_none_of_added (added : h.added? = some step) :
    h.event.delta? = none :=
  Event.delta?_eq_none_iff.mpr (Or.inl (begins_iff.mp (begins_of_added added)))

theorem Handling.added?_eq_none_of_delta? (ends : h.event.delta? = some delta) :
    h.added? = none := by
  cases added : h.added? with
  | none => rfl
  | some step =>
    rw [delta?_eq_none_of_added added] at ends
    cases ends

/-- What is in flight after one more event: the row that was added for it, or one that it does not
concern. -/
theorem inFlight_append_singleton :
    InFlight (earlier ++ [h]) id step ↔
      (h.event.id = id ∧ h.added? = some step) ∨ InFlight earlier id step ∧ ¬ h.Touches id :=
  since_append_singleton

theorem completion?_append_of_untouched (untouched : ∀ h ∈ earlier, ¬ h.Touches id) :
    completion? id (earlier ++ later) = completion? id later := by
  induction earlier with
  | nil => rfl
  | cons h earlier ih =>
    have rest := ih fun h' member => untouched h' (List.mem_cons_of_mem _ member)
    have apart := untouched h List.mem_cons_self
    rw [List.cons_append, completion?]
    split_ifs with named
    · have quiet : h.event.delta? = none ∧ h.row = none := by
        simpa [Handling.Touches, named] using apart
      rw [quiet.1, quiet.2]
      exact rest
    · exact rest

theorem completion?_append_of_touched (touched : ∃ h ∈ earlier, h.Touches id) :
    completion? id (earlier ++ later) = completion? id earlier := by
  induction earlier with
  | nil => simp at touched
  | cons h earlier ih =>
    rw [List.cons_append, completion?, completion?]
    -- the first event that concerns the row decides, and what follows it is not looked at
    split_ifs with named
    · split
      · rfl
      · rfl
      · rfl
      · rename_i ends writes
        obtain ⟨h', member, touches⟩ := touched
        rcases List.mem_cons.mp member with rfl | later'
        · exact absurd touches (by simp [Handling.Touches, ends, writes])
        · exact ih ⟨h', later', touches⟩
    · obtain ⟨h', member, touches⟩ := touched
      rcases List.mem_cons.mp member with rfl | later'
      · exact absurd touches.1 named
      · exact ih ⟨h', later', touches⟩

theorem completion?_eq_none (untouched : ∀ h ∈ earlier, ¬ h.Touches id) :
    completion? id earlier = none := by
  rw [← List.append_nil earlier, completion?_append_of_untouched untouched]
  rfl

/-- An event that would complete nothing by itself makes no difference at the end. -/
theorem completion?_append_of_idle (idle : completion? id [h] = none) :
    completion? id (earlier ++ [h]) = completion? id earlier := by
  by_cases touched : ∃ h' ∈ earlier, h'.Touches id
  · exact completion?_append_of_touched touched
  · have untouched : ∀ h' ∈ earlier, ¬ h'.Touches id := by simpa using touched
    rw [completion?_append_of_untouched untouched, completion?_eq_none untouched, idle]

/-- Completing the row of a step leaves what it was added with. -/
theorem Handling.stepRow_added (run : String) (order : Nat) (later : List (Handling τ))
    (h : Handling τ) (step : String) :
    (h.stepRow run order later step).id = step ∧ (h.stepRow run order later step).run = run ∧
      (h.stepRow run order later step).order = order := by
  rw [stepRow]
  split <;> exact ⟨rfl, rfl, rfl⟩

/-- The row of the first step, or one of the others. -/
theorem mem_rowsOf_cons {row : Store.StepRow} :
    row ∈ rowsOf run order (h :: later) ↔
      (∃ step, h.added? = some step ∧ h.stepRow run order later step = row) ∨
        row ∈ rowsOf run (if h.begins then order + 1 else order) later := by
  rw [rowsOf, List.mem_append, Option.mem_toList, Option.map_eq_some_iff]

theorem map_id_rowsOf (run : String) (order : Nat) (earlier : List (Handling τ)) :
    (rowsOf run order earlier).map Store.StepRow.id = earlier.filterMap Handling.added? := by
  induction earlier generalizing order with
  | nil => rfl
  | cons h later ih =>
    rw [rowsOf, List.map_append, ih, List.filterMap_cons]
    cases h.added? with
    | none => rfl
    | some step =>
      rw [Option.map_some, Option.toList_some, List.map_singleton, (h.stepRow_added ..).1]
      rfl

theorem run_eq_of_mem_rowsOf {row : Store.StepRow} (member : row ∈ rowsOf run order earlier) :
    row.run = run := by
  induction earlier generalizing order with
  | nil => cases member
  | cons h later ih =>
    rcases mem_rowsOf_cons.mp member with ⟨step, -, rfl⟩ | after
    · exact (h.stepRow_added ..).2.1
    · exact ih after

theorem le_order_of_mem_rowsOf {row : Store.StepRow} (member : row ∈ rowsOf run order earlier) :
    (order : Int) ≤ row.order := by
  induction earlier generalizing order with
  | nil => cases member
  | cons h later ih =>
    rcases mem_rowsOf_cons.mp member with ⟨step, -, rfl⟩ | after
    · exact (h.stepRow_added ..).2.2.ge
    · have above := ih after
      split_ifs at above <;> omega

/-- Steps are numbered in the order in which their nodes begin. -/
theorem pairwise_order_rowsOf (run : String) (order : Nat) (earlier : List (Handling τ)) :
    (rowsOf run order earlier).Pairwise fun a b => a.order < b.order := by
  induction earlier generalizing order with
  | nil => exact .nil
  | cons h later ih =>
    rw [rowsOf, List.pairwise_append]
    refine ⟨?_, ih _, ?_⟩
    · cases h.added? with
      | none => exact .nil
      | some step => exact List.pairwise_singleton _ _
    · intro row here row' after
      obtain ⟨step, added, rfl⟩ := Option.map_eq_some_iff.mp (Option.mem_toList.mp here)
      -- the start of this row has used its number up, so the later ones have higher numbers
      have above := le_order_of_mem_rowsOf after
      rw [if_pos (Handling.begins_of_added added)] at above
      have own := (h.stepRow_added run order later step).2.2
      omega

/-- If the next event completes nothing, it leaves the row of a step as it is. -/
theorem Handling.stepRow_append_of_idle {s : Handling τ}
    (idle : completion? s.event.id [h] = none) :
    s.stepRow run order (earlier ++ [h]) = s.stepRow run order earlier := by
  funext step
  rw [stepRow, stepRow, completion?_append_of_idle idle]

/-- What writes no row leaves the rows as they are. -/
theorem rowsOf_append_of_unwritten (unwritten : h.row = none) :
    rowsOf run order (earlier ++ [h]) = rowsOf run order earlier := by
  induction earlier generalizing order with
  | nil => simp [rowsOf, Handling.added?, unwritten]
  | cons s earlier ih =>
    have idle : completion? s.event.id [h] = none := by
      simp only [completion?, unwritten]
      cases h.event.delta? <;> simp
    rw [List.cons_append, rowsOf, rowsOf, ih, Handling.stepRow_append_of_idle idle]

/-- A start that is recorded adds a row with the next number. -/
theorem rowsOf_append_of_added (added : h.added? = some step) :
    rowsOf run order (earlier ++ [h]) = rowsOf run order earlier ++
      [{ id := step, run, node := h.event.node, order := (order + begun earlier : Nat),
         startedAt := h.event.startedAt }] := by
  have start : h.event.delta? = none := Handling.delta?_eq_none_of_added added
  induction earlier generalizing order with
  | nil => simp [rowsOf, added, Handling.stepRow, completion?, begun]
  | cons s earlier ih =>
    have idle : completion? s.event.id [h] = none := by
      simp only [completion?, start]
      cases h.row <;> simp
    -- the next number is the one after all that were used up, with rows or without
    have counted : (if s.begins then order + 1 else order) + begun earlier =
        order + begun (s :: earlier) := by
      rw [begun, begun, List.countP_cons]
      split_ifs <;> omega
    rw [List.cons_append, rowsOf, rowsOf, ih, Handling.stepRow_append_of_idle idle, counted,
      List.append_assoc]

/-- An end that is recorded completes the row of a step, if that is in flight under its identifier,
and leaves the row of any other as it is. -/
theorem Handling.stepRow_append_of_completed {s : Handling τ} {step' : String}
    (ends : h.event.delta? = some delta) (wrote : h.row = some step)
    (identified : step' = step ↔
      s.event.id = h.event.id ∧ ∀ h' ∈ earlier, ¬ h'.Touches h.event.id) :
    s.stepRow run order (earlier ++ [h]) step' =
      if step' == step then (s.stepRow run order earlier step').finish delta h.time
      else s.stepRow run order earlier step' := by
  rw [stepRow, stepRow]
  by_cases named : s.event.id = h.event.id
  · rw [named]
    -- a row that was concerned before is in flight no more, so it is not the one that is completed
    by_cases touched : ∃ h' ∈ earlier, h'.Touches h.event.id
    · have other : step' ≠ step := fun same => by
        obtain ⟨h', member, touches⟩ := touched
        exact (identified.mp same).2 h' member touches
      rw [completion?_append_of_touched touched, if_neg (by simpa using other)]
    · have untouched : ∀ h' ∈ earlier, ¬ h'.Touches h.event.id := by simpa using touched
      rw [completion?_append_of_untouched untouched, completion?_eq_none untouched,
        identified.mpr ⟨named, untouched⟩]
      simp [completion?, ends, wrote]
  · have other : step' ≠ step := fun same => named (identified.mp same).1
    have idle : completion? s.event.id [h] = none := by
      simp [completion?, Ne.symm named]
    rw [completion?_append_of_idle idle, if_neg (by simpa using other)]

/-- An end that is recorded completes the row that is in flight. -/
theorem rowsOf_append_of_completed (ends : h.event.delta? = some delta) (wrote : h.row = some step)
    (identified : ∀ sooner s between step', earlier = sooner ++ s :: between →
      s.added? = some step' → (step' = step ↔
        s.event.id = h.event.id ∧ ∀ h' ∈ between, ¬ h'.Touches h.event.id)) :
    rowsOf run order (earlier ++ [h]) =
      Store.finishedSteps step delta h.time (rowsOf run order earlier) := by
  induction earlier generalizing order with
  | nil => simp [rowsOf, Handling.added?_eq_none_of_delta? ends, Store.finishedSteps]
  | cons s earlier ih =>
    -- what identifies the row in flight does so among the later starts, too
    have rest : rowsOf run (if s.begins then order + 1 else order) (earlier ++ [h]) = _ :=
      ih fun sooner s' between step' split => identified (s :: sooner) s' between step'
        (by rw [split, List.cons_append])
    rw [List.cons_append, rowsOf, rowsOf, Store.finishedSteps_append, rest]
    cases added : s.added? with
    | none => rfl
    | some step' =>
      have own := identified [] s earlier step' rfl added
      simp only [Option.map_some, Option.toList_some,
        Handling.stepRow_append_of_completed ends wrote own, Store.finishedSteps, List.map_cons,
        List.map_nil]
      congr 2
      rw [show (s.stepRow run order earlier step').id = step' by
        rw [Handling.stepRow]; split <;> rfl]

/-- A row that is in flight was added. -/
theorem InFlight.mem_added (inFlight : InFlight earlier id step) :
    step ∈ earlier.filterMap Handling.added? := by
  obtain ⟨sooner, start, between, rfl, ⟨-, added⟩, -⟩ := inFlight
  exact List.mem_filterMap.mpr ⟨start, by simp, added⟩

/-- Rows that are told apart by their identifiers are added once. -/
theorem eq_of_added {sooner sooner' between between' : List (Handling τ)} {s s' : Handling τ}
    (distinct : (earlier.filterMap Handling.added?).Nodup)
    (split : earlier = sooner ++ s :: between) (split' : earlier = sooner' ++ s' :: between')
    (added : s.added? = some step) (added' : s'.added? = some step) :
    s = s' ∧ between = between' := by
  induction earlier generalizing sooner sooner' with
  | nil => simp at split
  | cons first earlier ih =>
    -- a row that is added first is not added later
    have once : first.added? = some step → step ∉ earlier.filterMap Handling.added? := by
      intro here
      rw [List.filterMap_cons_some here] at distinct
      exact (List.nodup_cons.mp distinct).1
    have rest : (earlier.filterMap Handling.added?).Nodup :=
      distinct.sublist ((List.sublist_cons_self first earlier).filterMap _)
    rcases sooner with _ | ⟨x, sooner⟩ <;> rcases sooner' with _ | ⟨x', sooner'⟩ <;>
      simp only [List.nil_append, List.cons_append, List.cons.injEq] at split split'
    · obtain ⟨rfl, rfl⟩ := split
      exact split'
    · obtain ⟨rfl, rfl⟩ := split
      obtain ⟨rfl, rfl⟩ := split'
      exact absurd (List.mem_filterMap.mpr ⟨s', by simp, added'⟩) (once added)
    · obtain ⟨rfl, rfl⟩ := split'
      obtain ⟨rfl, rfl⟩ := split
      exact absurd (List.mem_filterMap.mpr ⟨s, by simp, added⟩) (once added')
    · exact ih rest split.2 split'.2

/-- The row that is in flight is the one whose start has its identifier and has not been concerned
since. -/
theorem InFlight.identified (inFlight : InFlight earlier id step)
    (distinct : (earlier.filterMap Handling.added?).Nodup) {sooner between : List (Handling τ)}
    {s : Handling τ} {step' : String} (split : earlier = sooner ++ s :: between)
    (added : s.added? = some step') :
    step' = step ↔ s.event.id = id ∧ ∀ h ∈ between, ¬ h.Touches id := by
  obtain ⟨sooner', start, between', split', ⟨named, added'⟩, untouched⟩ := inFlight
  constructor
  · rintro rfl
    obtain ⟨rfl, rfl⟩ := eq_of_added distinct split split' added added'
    exact ⟨named, untouched⟩
  · rintro ⟨named', untouched'⟩
    -- of two starts with the same identifier the first one is concerned by the second
    rw [split] at split'
    rcases List.append_eq_append_iff.mp split' with ⟨more, rfl, same⟩ | ⟨more, rfl, same⟩
    · rcases more with _ | ⟨x, more⟩
      · cases same
        exact Option.some.inj (added.symm.trans added')
      · cases same
        exact absurd (Handling.touches_of_added added') (by simpa [named] using untouched' start)
    · rcases more with _ | ⟨x, more⟩
      · cases same
        exact Option.some.inj (added.symm.trans added')
      · cases same
        exact absurd (Handling.touches_of_added added) (by simpa [named'] using untouched s)

end Rows

/-! ### What follows for one event -/

theorem begun_append_singleton (earlier : List (Handling τ)) (h : Handling τ) :
    begun (earlier ++ [h]) = if h.begins then begun earlier + 1 else begun earlier := by
  rw [begun, List.countP_append, List.countP_singleton]
  split_ifs <;> rfl

namespace Handling.Follows

variable {earlier : List (Handling τ)} {h : Handling τ}

theorem row?_eq (follows : h.Follows recorder run earlier) {write : Write}
    (due : h.write = some write) : write.row? recorder h.before = h.row := by
  rw [follows.row_eq, due, Option.bind_some]

theorem leaves_eq (follows : h.Follows recorder run earlier) {write : Write}
    (due : h.write = some write) : write.leaves recorder h.before = h.after := by
  rw [follows.after_eq, due, Option.elim_some]

/-- A row that it is attempted to complete is in flight under the identifier of the event. -/
theorem inFlight_of_completing (follows : h.Follows recorder run earlier)
    (completing : h.completing? = some step) :
    InFlight earlier h.event.id step ∧
      ∃ delta, h.event.delta? = some delta ∧ h.write = some (.finishStep step delta h.time) := by
  -- it is attempted only if the event is about an end and there is a row in flight
  rw [completing?] at completing
  cases ends : h.event.delta? with
  | some delta =>
    by_cases inFlight : ∃ step, InFlight earlier h.event.id step
    · obtain ⟨step', inFlight⟩ := inFlight
      have write : h.write = some (.finishStep step' delta h.time) :=
        follows.completes ends inFlight
      rw [write] at completing
      cases completing
      exact ⟨inFlight, delta, rfl, write⟩
    · rw [follows.passes (by simp [ends]) (not_exists.mp inFlight)] at completing
      cases completing
  | none =>
    rcases Event.delta?_eq_none_iff.mp ends with kind | kind
    · rw [follows.begins kind] at completing
      cases completing
    · rw [follows.concludes kind] at completing
      cases error : h.event.error <;> rw [error] at completing <;> cases completing

/-- A row that was written was added for a node that begins, or completed for one that ends. -/
theorem added_or_completed (follows : h.Follows recorder run earlier) (wrote : h.row = some step) :
    h.added? = some step ∨
      ∃ delta, h.event.delta? = some delta ∧ h.completing? = some step := by
  cases ends : h.event.delta? with
  | none =>
    rcases Event.delta?_eq_none_iff.mp ends with kind | kind
    · left
      rw [added?, if_pos (begins_iff.mpr kind), wrote]
    · have row : h.row = none := by
        rw [follows.row_eq, follows.concludes kind]
        cases h.event.error <;> rfl
      rw [row] at wrote
      cases wrote
  | some delta =>
    right
    refine ⟨delta, rfl, ?_⟩
    by_cases inFlight : ∃ step, InFlight earlier h.event.id step
    · obtain ⟨step', inFlight⟩ := inFlight
      have write : h.write = some (.finishStep step' delta h.time) :=
        follows.completes ends inFlight
      rw [follows.row_eq, write, Option.bind_some] at wrote
      obtain ⟨_, -, rfl⟩ := Option.map_eq_some_iff.mp wrote
      rw [completing?, write]
    · rw [follows.row_eq, follows.passes (by simp [ends]) (not_exists.mp inFlight)] at wrote
      cases wrote

end Handling.Follows

/-- What is done about each event follows from what was done before. -/
theorem Handles.follows {earlier later sooner rest : List (Handling τ)} {h : Handling τ}
    {inputs : List (Event × Timestamp)} {after : τ}
    (handles : Handles recorder run earlier before inputs later after)
    (split : later = sooner ++ h :: rest) : h.Follows recorder run (earlier ++ sooner) := by
  induction handles generalizing sooner with
  | nil => simp at split
  | cons follows _ ih =>
    rcases sooner with _ | ⟨first, sooner⟩
    · cases split
      rw [List.append_nil]
      exact follows
    · cases split
      rw [List.append_cons]
      exact ih rfl

/-- Something is done about each event. -/
theorem Handles.map_event {earlier later : List (Handling τ)} {inputs : List (Event × Timestamp)}
    {after : τ} (handles : Handles recorder run earlier before inputs later after) :
    later.map Handling.event = inputs.map Prod.fst := by
  induction handles with
  | nil => rfl
  | cons _ _ ih => rw [List.map_cons, List.map_cons, ih]

end AgentWorkflow.Run
