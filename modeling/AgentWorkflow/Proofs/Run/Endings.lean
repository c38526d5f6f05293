import AgentWorkflow.Proofs.Run.Steps

/-!
# How the row of a run ends

The row of a run is written again for every event that the run is over, and each such write takes
the place of the one before. So the row is known from the writes that succeeded: it is running as
long as there is none, and otherwise says what the last one said. It always agrees with itself, and
a run that has ended is never running again. But it is the last ending that stays, and not the
first: the row stays as it is from its first ending on exactly when all its endings are the same.

## Main definitions

* `Ending`: how a run is said to have ended
* `Handling.ended?`, `endings`: the endings that were written
* `Store.RunRow.concludedBy`: the row of a run, as it is after some endings
* `Store.RunRow.Coherent`: a row that agrees with itself
* `RecordsEndings`: what the store says about a run while its tracker handles events
* `Reached`: the worlds that trackers can lead to

## Main results

* `Handling.Follows.runs_after`: one event changes the row of its run as it says, and no other row
* `Handles.runs_eq`: the row of a run after any events
* `settled_iff`: when a row stays as it is from its first ending on
* `Reached.coherent`: every row agrees with itself, whatever trackers do
* `Tracker.keeps_last_ending`: the row of a run from its start
-/

namespace AgentWorkflow

namespace Run

/-- How a run is said to have ended. -/
inductive Ending
  | completed (final : Value) (time : Timestamp)
  | failed (error : String) (time : Timestamp)

namespace Ending

variable {τ : Type}

/-- The write of an ending. -/
def write (run : String) : Ending → Write
  | completed final time => .finishRun run .completed final none time
  | failed error time => .finishRun run .failed .null (some error) time

/-- The attempt to write an ending. -/
def attempt (recorder : Recorder τ) (run : String) : Ending → Act τ Unit
  | completed final time => recorder.finishRun run .completed final none time
  | failed error time => recorder.finishRun run .failed .null (some error) time

end Ending

/-- What an event says about how the run ended, if it is handled at a time. -/
def Event.ending? (event : Event) (now : Timestamp) : Option Ending :=
  match event.kind with
  | .graphEnd => some <|
      match event.error with
      | some error => .failed error (event.endedAt.getD now)
      | none => .completed event.state.plain (event.endedAt.getD now)
  | .nodeStart | .nodeEnd | .nodeError => none

end Run

namespace Store

namespace RunRow

/-- The row of a run that has ended. -/
def ended (row : RunRow) : Run.Ending → RunRow
  | .completed final time => row.finish .completed final none time
  | .failed error time => row.finish .failed .null (some error) time

/-- The row of a run, as it is after some endings: the last one counts. -/
def concludedBy (row : RunRow) (endings : List Run.Ending) : RunRow :=
  endings.getLast?.elim row row.ended

/-- A row agrees with itself: what it says beside its status is what there is to say. -/
def Coherent (row : RunRow) : Prop :=
  match row.status with
  | .running => row.final = .null ∧ row.error = none ∧ row.finishedAt = none
  | .completed => row.error = none ∧ row.finishedAt ≠ none
  | .failed => row.final = .null ∧ row.error ≠ none ∧ row.finishedAt ≠ none

variable {row : RunRow} {ending other : Run.Ending} {endings : List Run.Ending}

@[simp] theorem id_ended : (row.ended ending).id = row.id := by
  cases ending <;> rfl

theorem status_ended_ne : (row.ended ending).status ≠ .running := by
  cases ending <;> nofun

theorem coherent_ended : (row.ended ending).Coherent := by
  cases ending with
  | completed final time => exact ⟨rfl, nofun⟩
  | failed error time => exact ⟨rfl, nofun, nofun⟩

/-- An ending takes the place of the one before. -/
theorem ended_ended : (row.ended ending).ended other = row.ended other := by
  cases ending <;> cases other <;> rfl

/-- Different endings leave different rows. -/
theorem ended_inj : row.ended ending = row.ended other ↔ ending = other := by
  constructor
  · intro same
    cases ending <;> cases other <;> cases same <;> rfl
  · rintro rfl
    rfl

theorem ended_concludedBy : (row.concludedBy endings).ended ending = row.ended ending := by
  rw [concludedBy]
  cases endings.getLast? with
  | none => rfl
  | some last => exact ended_ended

/-- What is written last takes the place of what was there; if nothing is written, that stays. -/
theorem concludedBy_append_toList (last : Option Run.Ending) :
    row.concludedBy (endings ++ last.toList) =
      last.elim (row.concludedBy endings) (row.concludedBy endings).ended := by
  cases last with
  | none => rw [Option.toList_none, List.append_nil, Option.elim_none]
  | some last =>
    rw [Option.toList_some, Option.elim_some, ended_concludedBy, concludedBy, List.getLast?_concat,
      Option.elim_some]

@[simp] theorem id_concludedBy : (row.concludedBy endings).id = row.id := by
  rw [concludedBy]
  cases endings.getLast? with
  | none => rfl
  | some last => exact id_ended

/-- The last ending is the one that the row of a run has. -/
theorem concludedBy_of_ne_nil (ends : endings ≠ []) :
    row.concludedBy endings = row.ended (endings.getLast ends) := by
  rw [concludedBy, List.getLast?_eq_some_getLast ends, Option.elim_some]

/-- A run is running until something is written about its end. -/
theorem status_concludedBy_iff (running : row.status = .running) :
    (row.concludedBy endings).status = .running ↔ endings = [] := by
  constructor
  · intro still
    by_contra ends
    rw [concludedBy_of_ne_nil ends] at still
    exact status_ended_ne still
  · rintro rfl
    exact running

theorem Coherent.concludedBy (coherent : row.Coherent) (endings : List Run.Ending) :
    (row.concludedBy endings).Coherent := by
  rw [RunRow.concludedBy]
  cases endings.getLast? with
  | none => exact coherent
  | some last => exact coherent_ended

end RunRow

/-- The row of a run that begins agrees with itself. -/
theorem coherent_of_createRun {naming : Naming} {now : Timestamp} {graphId : String}
    {initial : Value} {db next : Database} {row : RunRow}
    (created : createRun naming now graphId initial db = .ok (row, next)) : row.Coherent := by
  rw [createRun] at created
  split at created
  · cases created
  · obtain ⟨-, rfl, -⟩ := Database.bind_checked_eq_ok_iff.mp created
    exact ⟨rfl, rfl, rfl⟩

end Store

namespace Run

section Endings

variable {τ : Type} {recorder : Recorder τ} {naming : Store.Naming} {view : τ → Store.Database}
  {run : String} {before : τ} {event : Event} {now : Timestamp} {ending : Ending}
  {row : Store.RunRow}

/-- The ending that was written for an event. -/
def Handling.ended? (recorder : Recorder τ) (run : String) (h : Handling τ) : Option Ending :=
  (h.event.ending? h.now).bind fun ending =>
    ((ending.attempt recorder run).outcome h.before).1.toOption.map fun _ => ending

/-- The endings that were written for events. -/
def endings (recorder : Recorder τ) (run : String) (hs : List (Handling τ)) : List Ending :=
  hs.filterMap (Handling.ended? recorder run)

/-- The row of a run stays as it is from its first ending on. -/
def Settled (recorder : Recorder τ) (row : Store.RunRow) (hs : List (Handling τ)) : Prop :=
  ∀ earlier between later, hs = earlier ++ between ++ later →
    (row.concludedBy (endings recorder row.id earlier)).status ≠ .running →
    row.concludedBy (endings recorder row.id (earlier ++ between)) =
      row.concludedBy (endings recorder row.id earlier)

/-- The worlds that trackers can lead to, whichever of them does what. -/
inductive Reached (recorder : Recorder τ) (base : τ) : τ → Prop
  | base : Reached recorder base base
  | start {world : τ} (tracker : Tracker) (graphId : String) (initial : State) :
      Reached recorder base world →
      Reached recorder base ((Tracker.start recorder tracker graphId initial).outcome world).2
  | handle {world : τ} (tracker : Tracker) (now : Timestamp) (event : Event) :
      Reached recorder base world →
      Reached recorder base ((tracker.handle recorder now event).outcome world).2

theorem endings_append (recorder : Recorder τ) (run : String) (earlier later : List (Handling τ)) :
    endings recorder run (earlier ++ later) =
      endings recorder run earlier ++ endings recorder run later :=
  List.filterMap_append

theorem endings_singleton (recorder : Recorder τ) (run : String) (h : Handling τ) :
    endings recorder run [h] = (h.ended? recorder run).toList := by
  rw [endings]
  cases wrote : h.ended? recorder run with
  | none =>
    rw [List.filterMap_cons_none wrote]
    rfl
  | some ending =>
    rw [List.filterMap_cons_some wrote]
    rfl

/-! ### Single writes -/

namespace Ending

theorem succeeds_iff :
    (ending.write run).Succeeds recorder before ↔
      ∃ after, (ending.attempt recorder run).Gives before () after := by
  cases ending <;> rfl

/-- An ending that is written changes the row of its run, and no other row of a run. -/
theorem runs_leaves (stores : recorder.Stores naming view)
    (succeeds : (ending.write run).Succeeds recorder before) :
    (view ((ending.write run).leaves recorder before)).runs =
      (view before).runs.map fun row => if row.id == run then row.ended ending else row := by
  cases ending <;> exact Write.runs_leaves_finishRun succeeds stores

end Ending

/-- The writes that trackers attempt are about steps, or about an ending. -/
theorem Write.mem_runs_leaves {write : Write} (stores : recorder.Stores naming view)
    (known : write.AboutStep ∨ ∃ run ending, write = Ending.write run ending)
    (member : row ∈ (view (write.leaves recorder before)).runs) :
    row ∈ (view before).runs ∨ ∃ old ending, row = Store.RunRow.ended old ending := by
  rcases known with about | ⟨run, ending, rfl⟩
  · rw [about.runs_leaves stores] at member
    exact Or.inl member
  · by_cases succeeds : (ending.write run).Succeeds recorder before
    · rw [Ending.runs_leaves stores succeeds] at member
      obtain ⟨old, there, rfl⟩ := List.mem_map.mp member
      split_ifs
      · exact Or.inr ⟨old, ending, rfl⟩
      · exact Or.inl there
    · rw [view_leaves_of_refused stores succeeds] at member
      exact Or.inl member

/-! ### One event -/

theorem Event.ending?_of_graphEnd (kind : event.kind = .graphEnd) (now : Timestamp) :
    event.ending? now = some
      (match event.error with
      | some error => .failed error (event.endedAt.getD now)
      | none => .completed event.state.plain (event.endedAt.getD now)) := by
  rw [ending?, kind]

theorem Event.ending?_eq_none_iff : event.ending? now = none ↔ event.kind ≠ .graphEnd := by
  rw [ending?]
  cases event.kind <;> simp

theorem Handling.ended?_eq_some_iff {h : Handling τ} :
    h.ended? recorder run = some ending ↔
      h.event.ending? h.now = some ending ∧ (ending.write run).Succeeds recorder h.before := by
  rw [ended?, Option.bind_eq_some_iff, Ending.succeeds_iff]
  constructor
  · rintro ⟨said, tells, wrote⟩
    rcases came : (said.attempt recorder run).outcome h.before with ⟨_ | ⟨⟩, after⟩
    · rw [came] at wrote
      cases wrote
    · rw [came] at wrote
      cases wrote
      exact ⟨tells, after, came⟩
  · rintro ⟨tells, after, gives⟩
    exact ⟨ending, tells, by rw [gives]; rfl⟩

/-- What an event says about the end of a run is what is to be written for it. -/
theorem Event.concludes_of_ending (run : String) (tells : event.ending? now = some ending) :
    event.kind = .graphEnd ∧
      (match event.error with
      | some error => Write.finishRun run .failed .null (some error) (event.endedAt.getD now)
      | none => .finishRun run .completed event.state.plain none (event.endedAt.getD now)) =
        ending.write run := by
  have kind : event.kind = .graphEnd := by
    by_contra other
    cases tells.symm.trans (ending?_eq_none_iff.mpr other)
  rw [ending?_of_graphEnd kind] at tells
  refine ⟨kind, ?_⟩
  cases error : event.error <;> rw [error] at tells <;> cases tells <;> rfl

/-- What is due for an event about the end of a run is the write of that ending. -/
theorem Tracker.due_of_ending (tracker : Tracker) (run : String)
    (tells : event.ending? now = some ending) :
    tracker.due run now event = some (ending.write run) := by
  obtain ⟨kind, same⟩ := Event.concludes_of_ending run tells
  rw [due, kind]
  exact congrArg some same

/-- What is due for any other event is about a step. -/
theorem Tracker.aboutStep_of_due {tracker : Tracker} {write : Write}
    (silent : event.ending? now = none) (due : tracker.due run now event = some write) :
    write.AboutStep := by
  have kind := Event.ending?_eq_none_iff.mp silent
  cases ends : event.delta? with
  | some delta =>
    rw [due_of_ends tracker run now ends, Option.map_eq_some_iff] at due
    obtain ⟨step, -, rfl⟩ := due
    exact trivial
  | none =>
    have start : event.kind = .nodeStart := (Event.delta?_eq_none_iff.mp ends).resolve_right kind
    rw [Tracker.due, start] at due
    cases due
    exact trivial

namespace Handling.Follows

variable {earlier : List (Handling τ)} {h : Handling τ}

/-- An event about the end of the run is written as that ending. -/
theorem write_of_ending (follows : h.Follows recorder run earlier)
    (tells : h.event.ending? h.now = some ending) : h.write = some (ending.write run) := by
  obtain ⟨kind, same⟩ := Event.concludes_of_ending run tells
  rw [follows.concludes kind]
  exact congrArg some same

/-- Any other event is written as one about a step, if at all. -/
theorem aboutStep_of_silent (follows : h.Follows recorder run earlier)
    (silent : h.event.ending? h.now = none) {write : Write} (due : h.write = some write) :
    write.AboutStep := by
  have kind := Event.ending?_eq_none_iff.mp silent
  cases ends : h.event.delta? with
  | none =>
    have start : h.event.kind = .nodeStart := (Event.delta?_eq_none_iff.mp ends).resolve_right kind
    rw [follows.begins start] at due
    cases due
    exact trivial
  | some delta =>
    by_cases inFlight : ∃ step, InFlight earlier h.event.id step
    · obtain ⟨step, inFlight⟩ := inFlight
      rw [follows.completes ends inFlight] at due
      cases due
      exact trivial
    · rw [follows.passes (by simp [ends]) (not_exists.mp inFlight)] at due
      cases due

/-- An event changes the row of its run by the ending that is written for it, and no other row of a
run. If none is written it changes no row of a run. -/
theorem runs_after (follows : h.Follows recorder run earlier)
    (stores : recorder.Stores naming view) :
    (view h.after).runs = (h.ended? recorder run).elim (view h.before).runs fun ending =>
      (view h.before).runs.map fun row => if row.id == run then row.ended ending else row := by
  cases wrote : h.ended? recorder run with
  | some ending =>
    obtain ⟨tells, succeeds⟩ := Handling.ended?_eq_some_iff.mp wrote
    rw [← follows.leaves_eq (follows.write_of_ending tells)]
    exact Ending.runs_leaves stores succeeds
  | none =>
    rw [Option.elim_none]
    -- nothing was written about the end: there was nothing to write, or the write was refused
    cases tells : h.event.ending? h.now with
    | some ending =>
      have refused : ¬ (ending.write run).Succeeds recorder h.before := fun succeeds => by
        rw [Handling.ended?_eq_some_iff.mpr ⟨tells, succeeds⟩] at wrote
        cases wrote
      rw [← follows.leaves_eq (follows.write_of_ending tells),
        Write.view_leaves_of_refused stores refused]
    | none =>
      cases due : h.write with
      | none => rw [follows.after_eq, due, Option.elim_none]
      | some write =>
        rw [← follows.leaves_eq due]
        exact (follows.aboutStep_of_silent tells due).runs_leaves stores h.before

/-- The row of the run that began last, after one more event. -/
theorem runs_after_append {rows : List Store.RunRow} (follows : h.Follows recorder row.id earlier)
    (stores : recorder.Stores naming view) (fresh : ∀ other ∈ rows, other.id ≠ row.id)
    (present : (view h.before).runs =
      rows ++ [row.concludedBy (endings recorder row.id earlier)]) :
    (view h.after).runs =
      rows ++ [row.concludedBy (endings recorder row.id (earlier ++ [h]))] := by
  rw [follows.runs_after stores, present, endings_append, endings_singleton,
    Store.RunRow.concludedBy_append_toList]
  cases h.ended? recorder row.id with
  | none => rfl
  | some ending =>
    have others : rows.map (fun other => if other.id == row.id then other.ended ending else other) =
        rows := by
      conv_rhs => rw [← List.map_id rows]
      exact List.map_congr_left fun other member => by simp [fresh other member]
    rw [Option.elim_some, Option.elim_some, List.map_append, others]
    simp

end Handling.Follows

/-! ### All events -/

/-- The row of the run that began last, after any events. -/
theorem Handles.runs_eq {earlier later : List (Handling τ)} {inputs : List (Event × Timestamp)}
    {after : τ} {rows : List Store.RunRow}
    (handles : Handles recorder row.id earlier before inputs later after)
    (stores : recorder.Stores naming view) (fresh : ∀ other ∈ rows, other.id ≠ row.id)
    (present : (view before).runs =
      rows ++ [row.concludedBy (endings recorder row.id earlier)]) :
    (view after).runs = rows ++ [row.concludedBy (endings recorder row.id (earlier ++ later))] := by
  induction handles with
  | nil earlier world =>
    rw [List.append_nil]
    exact present
  | cons follows _ ih =>
    have next := ih (follows.runs_after_append stores fresh present)
    rw [List.append_assoc] at next
    exact next

/-- What is done about the first events is done whatever comes after them. -/
theorem Handles.until {earlier later sooner rest : List (Handling τ)} {h : Handling τ}
    {inputs : List (Event × Timestamp)} {after : τ}
    (handles : Handles recorder run earlier before inputs later after)
    (split : later = sooner ++ h :: rest) :
    ∃ first, Handles recorder run earlier before first (sooner ++ [h]) h.after := by
  induction handles generalizing sooner with
  | nil => simp at split
  | @cons earlier later first inputs after follows handles ih =>
    rcases sooner with _ | ⟨_, sooner⟩
    · cases split
      exact ⟨[(h.event, h.now)], .cons follows (.nil _ _)⟩
    · cases split
      obtain ⟨inputs', until'⟩ := ih rfl
      exact ⟨(first.event, first.now) :: inputs', .cons follows until'⟩

/-- A row that has ended and stays as it is has one ending, whatever is written afterwards. -/
theorem Settled.concludedBy_eq {hs : List (Handling τ)} (settled : Settled recorder row hs)
    (member : ending ∈ endings recorder row.id hs) :
    row.concludedBy (endings recorder row.id hs) = row.ended ending := by
  obtain ⟨h, there, wrote⟩ := List.mem_filterMap.mp member
  obtain ⟨sooner, later, rfl⟩ := List.append_of_mem there
  -- the row is looked at right after this ending was written, and at the end
  have here : row.concludedBy (endings recorder row.id (sooner ++ [h])) = row.ended ending := by
    rw [endings_append, endings_singleton, wrote, Store.RunRow.concludedBy_append_toList,
      Option.elim_some]
    exact Store.RunRow.ended_concludedBy
  have stays := settled (sooner ++ [h]) later [] (by simp) (by
    rw [here]
    exact Store.RunRow.status_ended_ne)
  rw [List.append_assoc, List.singleton_append] at stays
  rw [stays, here]

/-- The row of a run stays as it is from its first ending on exactly when all its endings are the
same. -/
theorem settled_iff {hs : List (Handling τ)} (running : row.status = .running) :
    Settled recorder row hs ↔
      ∀ ending ∈ endings recorder row.id hs, ∀ other ∈ endings recorder row.id hs,
        ending = other := by
  constructor
  · intro settled ending member other member'
    exact Store.RunRow.ended_inj.mp
      ((settled.concludedBy_eq member).symm.trans (settled.concludedBy_eq member'))
  · rintro same earlier between later rfl ended
    have ends : endings recorder row.id earlier ≠ [] :=
      mt (Store.RunRow.status_concludedBy_iff running).mpr ended
    have more : endings recorder row.id (earlier ++ between) ≠ [] := by
      simp [endings_append, ends]
    have sublist : endings recorder row.id (earlier ++ between) ⊆
        endings recorder row.id (earlier ++ between ++ later) := by
      rw [endings_append _ _ (earlier ++ between)]
      exact List.subset_append_left _ _
    rw [Store.RunRow.concludedBy_of_ne_nil ends, Store.RunRow.concludedBy_of_ne_nil more,
      same _ (sublist (List.getLast_mem more)) _ (sublist ?_)]
    rw [endings_append]
    exact List.mem_append_left _ (List.getLast_mem ends)

/-! ### Whatever trackers do -/

/-- An event leaves rows that agree with themselves, if they did before. -/
theorem Tracker.coherent_handle (stores : recorder.Stores naming view) (tracker : Tracker)
    (now : Timestamp) (event : Event) (coherent : ∀ row ∈ (view before).runs, row.Coherent) :
    ∀ row ∈ (view ((tracker.handle recorder now event).outcome before).2).runs,
      row.Coherent := by
  rw [handle]
  cases tracker.run with
  | none => exact coherent
  | some run =>
    intro row member
    change row ∈ (view (tracker.left recorder run before (event, now)).2).runs at member
    rw [left_snd] at member
    cases due : tracker.due run now event with
    | none =>
      rw [due] at member
      exact coherent row member
    | some write =>
      have known : write.AboutStep ∨ ∃ run ending, write = Ending.write run ending := by
        cases tells : event.ending? now with
        | none => exact Or.inl (aboutStep_of_due tells due)
        | some ending =>
          rw [due_of_ending tracker run tells] at due
          cases due
          exact Or.inr ⟨run, ending, rfl⟩
      rw [due] at member
      rcases Write.mem_runs_leaves stores known member with there | ⟨old, ending, rfl⟩
      · exact coherent row there
      · exact Store.RunRow.coherent_ended

/-- Every row agrees with itself, whatever trackers do. -/
theorem Reached.coherent {world : τ} (reached : Reached recorder before world)
    (stores : recorder.Stores naming view) (coherent : ∀ row ∈ (view before).runs, row.Coherent) :
    ∀ row ∈ (view world).runs, row.Coherent := by
  induction reached with
  | base => exact coherent
  | @start world tracker graphId initial _ ih =>
    rw [Tracker.outcome_start]
    rcases came : (recorder.createRun graphId (Value.object initial).plain).outcome world with
      ⟨failure | run, after⟩
    · change ∀ row ∈ (view after).runs, row.Coherent
      rw [(stores.createRun _ _).of_fails came]
      exact ih
    · obtain ⟨now, row, made, -⟩ := (stores.createRun _ _).of_gives came
      change ∀ row ∈ (view after).runs, row.Coherent
      rw [(Store.createRun_eq_ok made).1, List.forall_mem_append]
      exact ⟨ih, List.forall_mem_singleton.mpr (Store.coherent_of_createRun made)⟩
  | handle tracker now event _ ih => exact tracker.coherent_handle stores now event ih

/-! ### A run from its start -/

/-- The row of a run is known from the endings that were written. -/
structure RecordsEndings (recorder : Recorder τ) (view : τ → Store.Database)
    (rows : List Store.RunRow) (row : Store.RunRow) (created : τ)
    (inputs : List (Event × Timestamp)) (hs : List (Handling τ)) (after : τ) : Prop where
  begun : (view created).runs = rows ++ [row] ∧ row.status = .running
  handled : Handles recorder row.id [] created inputs hs after
  /-- At any time the row is as the last ending so far says, and no other row has changed. -/
  meanwhile : ∀ earlier h later, hs = earlier ++ h :: later → (view h.after).runs =
    rows ++ [row.concludedBy (endings recorder row.id (earlier ++ [h]))]
  finally_eq : (view after).runs = rows ++ [row.concludedBy (endings recorder row.id hs)]
  /-- What the row says agrees with its status, and it is running until there is an ending. -/
  coherent : ∀ earlier later, hs = earlier ++ later →
    (row.concludedBy (endings recorder row.id earlier)).Coherent ∧
      ((row.concludedBy (endings recorder row.id earlier)).status = .running ↔
        endings recorder row.id earlier = [])
  /-- The first ending stays exactly when no other one is written. -/
  settled : Settled recorder row hs ↔
    ∀ ending ∈ endings recorder row.id hs, ∀ other ∈ endings recorder row.id hs, ending = other

/-- The row of a run is known from the endings that were written, at any time while its tracker
handles events: it is running as long as there is none, and says what the last of them said after
that. So a run that has ended is never running again, but its row stays as it is from the first
ending on exactly when all endings that were written are the same. In any world that trackers can
lead to, what a row says agrees with its status. -/
theorem Tracker.keeps_last_ending {graphId : String} {initial : State} {tracker : Tracker}
    {created : τ} (stores : recorder.Stores naming view)
    (started : (Tracker.start recorder {} graphId initial).Gives before tracker created)
    (inputs : List (Event × Timestamp)) :
    (∃ row hs last after, tracker.run = some row.id ∧
      (tracker.handleAll recorder inputs).Gives created last after ∧
      RecordsEndings recorder view (view before).runs row created inputs hs after) ∧
    ((∀ row ∈ (view before).runs, row.Coherent) →
      ∀ world, Reached recorder before world → ∀ row ∈ (view world).runs, row.Coherent) := by
  refine ⟨?_, fun coherent world reached => reached.coherent stores coherent⟩
  obtain ⟨run, creates, rfl⟩ := Tracker.gives_start_iff.mp started
  obtain ⟨time, row, made, rfl⟩ :=
    (stores.createRun graphId (Value.object initial).plain).of_gives creates
  obtain ⟨added, running, -, -, fresh⟩ := Store.createRun_eq_ok made
  obtain ⟨hs, last, after, gives, handles, -⟩ :=
    (remembers_start row.id).exists_handles recorder inputs created
  refine ⟨row, hs, last, after, rfl, gives, ⟨added, running⟩, handles, ?_,
    handles.runs_eq stores fresh added, ?_, settled_iff running⟩
  · intro earlier h later split
    obtain ⟨first, until'⟩ := handles.until split
    exact until'.runs_eq stores fresh added
  · intro earlier later _
    exact ⟨(Store.coherent_of_createRun made).concludedBy _,
      Store.RunRow.status_concludedBy_iff running⟩

end Endings

/-! ### An ending that is overtaken

A run is said to be completed, and then to have failed. -/

namespace Overtaken

def recorder : Recorder Store.Database := Store.recorder Rehearsal.naming Rehearsal.now

def completion : Event := { kind := .graphEnd, startedAt := Rehearsal.now, state := .str "done" }

def breakdown : Event := { kind := .graphEnd, startedAt := Rehearsal.now, error := some "lost" }

def inputs : List (Event × Timestamp) :=
  [(completion, Rehearsal.now), (breakdown, Rehearsal.now)]

/-- The store with the row of the run. -/
def created : Store.Database := { Draft.store with runs := [Draft.row] }

theorem stores : recorder.Stores Rehearsal.naming id :=
  Store.recorder_stores Rehearsal.naming Rehearsal.now

theorem gives_start :
    (Tracker.start recorder {} Draft.graphId []).Gives Draft.store { run := some "<run1>" }
      created := rfl

end Overtaken

/-- The tracker of the run that is overtaken keeps its last ending. -/
theorem Tracker.keeps_last_ending_overtaken :
    Overtaken.recorder.Stores Rehearsal.naming id ∧
      (Tracker.start Overtaken.recorder {} Draft.graphId []).Gives Draft.store
        { run := some "<run1>" } Overtaken.created ∧
      (∃ row hs last after, some "<run1>" = some row.id ∧
        (Tracker.handleAll Overtaken.recorder { run := some "<run1>" } Overtaken.inputs).Gives
          Overtaken.created last after ∧
        RecordsEndings Overtaken.recorder id [] row Overtaken.created Overtaken.inputs hs after) ∧
      ∀ world, Reached Overtaken.recorder Draft.store world → ∀ row ∈ world.runs, row.Coherent := by
  obtain ⟨recorded, coherent⟩ := Tracker.keeps_last_ending Overtaken.stores Overtaken.gives_start
    Overtaken.inputs
  exact ⟨Overtaken.stores, Overtaken.gives_start, recorded, coherent nofun⟩

/-- A run that was completed is said to have failed by the event after that. -/
theorem Tracker.breakdown_overtakes_completion :
    ∃ first begun tracker middle last after,
      (Tracker.start Overtaken.recorder {} Draft.graphId []).Gives Draft.store first begun ∧
      (first.handle Overtaken.recorder Rehearsal.now Overtaken.completion).Gives begun tracker
        middle ∧
      (tracker.handle Overtaken.recorder Rehearsal.now Overtaken.breakdown).Gives middle last
        after ∧
      middle.runs.map (fun row => (row.id, row.status, row.error)) =
        [("<run1>", .completed, none)] ∧
      after.runs.map (fun row => (row.id, row.status, row.error)) =
        [("<run1>", .failed, some "lost")] :=
  ⟨_, _, _, _, _, _, Overtaken.gives_start, rfl, rfl, rfl, rfl⟩

end Run

end AgentWorkflow
