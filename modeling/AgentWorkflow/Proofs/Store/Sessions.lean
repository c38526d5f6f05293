import AgentWorkflow.Proofs.Store.Runs

/-!
# Sessions that are interrupted

Each change of the store is made in a session of its own. A session works on a copy of the tables,
which takes their place when it is committed; a session that fails before is rolled back. It can
fail for reasons that have nothing to do with the change: it cannot be opened, the connection is
lost while it works, or the commit fails. A plan says which of the sessions are interrupted, and
where.

Whatever the plan is, a change is in the store if its session succeeds, and otherwise the store is
as before. So a recorder that writes in such sessions writes to the store, as far as it writes at
all.

## Main definitions

* `Session`: the tables in the store, and the copy that is worked on
* `inSession`: a change that is made in a session of its own
* `interrupted`: the store as what runs are recorded in, with sessions that are interrupted

## Main results

* `interrupted_stores`: whichever sessions are interrupted, what is not refused is in the store
-/

namespace AgentWorkflow.Store

/-- A session: the tables in the store, and the copy that is worked on. -/
structure Session where
  kept : Database
  working : Database

namespace Session

/-- A session begins with a copy of what is in the store. -/
def opened (db : Database) : Session := ⟨db, db⟩

def commit (session : Session) : Session := { session with kept := session.working }

def rollback (session : Session) : Session := { session with working := session.kept }

end Session

/-- Where a session can be interrupted. -/
inductive Stage
  | opening
  | working
  | committing
  deriving DecidableEq

/-- An interruption of a session: an error or a fault at a stage of it. -/
structure Interruption where
  stage : Stage
  failure : Failure
  handled : failure.isHandled = true

/-- A fault as an interruption. -/
def Interruption.ofFault (stage : Stage) (fault : Fault) : Interruption :=
  ⟨stage, .fault fault, rfl⟩

/-- Fails when a session is interrupted at a stage. -/
def Stage.pass (interruption : Option Interruption) (stage : Stage) : Except Failure Unit :=
  match interruption with
  | none => .ok ()
  | some i => if i.stage = stage then .error i.failure else .ok ()

/-- Makes a change in the copy. -/
def Session.work {α : Type} (change : Database → Except Fault (α × Database)) : Act Session α :=
  ExceptT.mk fun session =>
    match change session.working with
    | .error fault => (.error (.fault fault), session)
    | .ok (a, working) => (.ok a, { session with working })

/-- What is done in a session before it is committed. A connection that is lost while a change is
made is lost after it was made in the copy. -/
def Session.perform {α : Type} (interruption : Option Interruption)
    (change : Database → Except Fault (α × Database)) : Act Session α := do
  Act.ofExcept (Stage.opening.pass interruption)
  let a ← Session.work change
  Act.ofExcept (Stage.working.pass interruption)
  Act.ofExcept (Stage.committing.pass interruption)
  return a

/-- Makes a change in a session of its own. -/
def inSession {α : Type} (interruption : Option Interruption)
    (change : Database → Except Fault (α × Database)) : Act Database α :=
  ExceptT.mk fun db =>
    match (Session.perform interruption change).run (Session.opened db) with
    | (.ok a, session) => (.ok a, session.commit.kept)
    | (.error failure, session) => (.error failure, session.rollback.kept)

/-- Makes a change in the next session, with whatever interruption is planned for it. -/
def inNextSession {α : Type} (plan : Nat → Option Interruption)
    (change : Database → Except Fault (α × Database)) : Act (Database × Nat) α :=
  ExceptT.mk fun (db, number) =>
    let (outcome, db) := (inSession (plan number) change).run db
    (outcome, db, number + 1)

variable {α : Type} {change : Database → Except Fault (α × Database)} {db next : Database}
  {interruption : Option Interruption} {naming : Naming} {now : Timestamp}

theorem Session.outcome_work (change : Database → Except Fault (α × Database))
    (session : Session) :
    (Session.work change).outcome session =
      match change session.working with
      | .error fault => (.error (.fault fault), session)
      | .ok (a, working) => (.ok a, { session with working }) := rfl

theorem Session.outcome_perform (interruption : Option Interruption)
    (change : Database → Except Fault (α × Database)) (session : Session) :
    (Session.perform interruption change).outcome session =
      match Stage.opening.pass interruption with
      | .error failure => (.error failure, session)
      | .ok () =>
        match change session.working with
        | .error fault => (.error (.fault fault), session)
        | .ok (a, working) =>
          ((Stage.working.pass interruption).bind fun _ =>
            (Stage.committing.pass interruption).map fun _ => a, { session with working }) := by
  rw [perform, Act.outcome_bind, Act.outcome_ofExcept]
  cases Stage.opening.pass interruption with
  | error failure => rfl
  | ok _ =>
    dsimp only
    rw [Act.outcome_bind, outcome_work]
    cases change session.working with
    | error fault => rfl
    | ok made =>
      dsimp only
      rw [Act.outcome_bind, Act.outcome_ofExcept]
      cases Stage.working.pass interruption with
      | error failure => rfl
      | ok _ =>
        dsimp only
        rw [Act.outcome_bind, Act.outcome_ofExcept]
        cases Stage.committing.pass interruption <;> rfl

/-- A session is committed if everything went well, and the store is as before otherwise. -/
theorem outcome_inSession (interruption : Option Interruption)
    (change : Database → Except Fault (α × Database)) (db : Database) :
    (inSession interruption change).outcome db =
      match Stage.opening.pass interruption with
      | .error failure => (.error failure, db)
      | .ok () =>
        match change db with
        | .error fault => (.error (.fault fault), db)
        | .ok (a, next) =>
          match (Stage.working.pass interruption).bind fun _ =>
            Stage.committing.pass interruption with
          | .error failure => (.error failure, db)
          | .ok () => (.ok a, next) := by
  have ran : (inSession interruption change).outcome db =
      match (Session.perform interruption change).outcome (Session.opened db) with
      | (.ok a, session) => (.ok a, session.commit.kept)
      | (.error failure, session) => (.error failure, session.rollback.kept) := rfl
  -- whatever is done to the copy, the tables are those from before until the commit
  rw [ran, Session.outcome_perform, Session.opened]
  cases Stage.opening.pass interruption with
  | error failure => rfl
  | ok _ =>
    dsimp only
    cases change db with
    | error fault => rfl
    | ok made =>
      cases Stage.working.pass interruption with
      | error failure => rfl
      | ok _ => cases Stage.committing.pass interruption <;> rfl

theorem Stage.isHandled_of_pass {stage : Stage} {failure : Failure}
    (fails : stage.pass interruption = .error failure) : failure.isHandled = true := by
  cases interruption with
  | none => cases fails
  | some i =>
    rw [pass] at fails
    split at fails
    · cases fails
      exact i.handled
    · cases fails

/-- An interrupted session fails with an error or a fault. -/
theorem inSession_settles (interruption : Option Interruption)
    (change : Database → Except Fault (α × Database)) :
    (inSession interruption change).Settles := by
  intro db failure fails
  change ((inSession interruption change).outcome db).1 = .error failure at fails
  rw [outcome_inSession] at fails
  split at fails
  · rename_i unopened
    cases fails
    exact Stage.isHandled_of_pass unopened
  · split at fails
    · cases fails
      rfl
    · split at fails
      · rename_i interrupted
        cases fails
        rcases bind_eq_error_iff.mp interrupted with working | ⟨_, -, committing⟩
        · exact Stage.isHandled_of_pass working
        · exact Stage.isHandled_of_pass committing
      · cases fails

theorem inNextSession_settles (plan : Nat → Option Interruption)
    (change : Database → Except Fault (α × Database)) : (inNextSession plan change).Settles :=
  fun (db, number) failure fails => inSession_settles (plan number) change db failure fails

/-- The store as what runs are recorded in, with sessions that are interrupted. -/
def interrupted (naming : Naming) (now : Timestamp) (plan : Nat → Option Interruption) :
    Run.Recorder (Database × Nat) :=
  { createRun := fun graphId initial => do
      return (← inNextSession plan (createRun naming now graphId initial)).id
    createStep := fun run node order startedAt => do
      return (← inNextSession plan (createStep naming run node order startedAt)).id
    finishStep := fun step delta time => do
      let _ ← inNextSession plan (finishStep step delta time)
    finishRun := fun run status final error time => do
      let _ ← inNextSession plan (finishRun run status.word final error time)
    createStep_settles := fun _ _ _ _ => (inNextSession_settles plan _).bind fun _ => .pure _
    finishStep_settles := fun _ _ _ => (inNextSession_settles plan _).bind fun _ => .pure _
    finishRun_settles := fun _ _ _ _ _ => (inNextSession_settles plan _).bind fun _ => .pure _ }

/-- A session makes its change, or leaves the store as it is. -/
theorem makes_inSession (interruption : Option Interruption)
    (change : Database → Except Fault (α × Database)) :
    (inSession interruption change).Makes id fun db a next => change db = .ok (a, next) := by
  constructor
  · intro db a next gives
    rw [Act.Gives, outcome_inSession] at gives
    split at gives
    · cases gives
    · split at gives
      · cases gives
      · rename_i made
        split at gives
        · cases gives
        · cases gives
          exact made
  · intro db failure next fails
    rw [outcome_inSession] at fails
    split at fails
    · cases fails
      rfl
    · split at fails
      · cases fails
        rfl
      · split at fails
        · cases fails
          rfl
        · cases fails

/-- The next session makes its change, too, or leaves the store as it is. -/
theorem makes_inNextSession (plan : Nat → Option Interruption)
    (change : Database → Except Fault (α × Database)) :
    (inNextSession plan change).Makes Prod.fst fun db a next => change db = .ok (a, next) where
  of_gives {before a after} gives := by
    obtain ⟨made, same⟩ := Prod.ext_iff.mp gives
    refine (makes_inSession (plan before.2) change).of_gives (Prod.ext made ?_)
    exact congrArg Prod.fst same
  of_fails {before failure after} fails := by
    obtain ⟨failed, same⟩ := Prod.ext_iff.mp fails
    refine (makes_inSession (plan before.2) change).of_fails (Prod.ext failed ?_)
    exact congrArg Prod.fst same

/-- Whichever sessions are interrupted, what is not refused is in the store, and what is refused is
not. -/
theorem interrupted_stores (naming : Naming) (now : Timestamp) (plan : Nat → Option Interruption) :
    (interrupted naming now plan).Stores naming Prod.fst where
  createRun graphId initial :=
    ((makes_inNextSession plan (createRun naming now graphId initial)).map RunRow.id).mono
      fun ⟨row, created, same⟩ => ⟨now, row, created, same⟩
  createStep run node order startedAt :=
    (makes_inNextSession plan (createStep naming run node order startedAt)).map StepRow.id
  finishStep step delta time :=
    ((makes_inNextSession plan (finishStep step delta time)).map fun _ => ()).mono
      fun ⟨known, finished, _⟩ => ⟨known, finished⟩
  finishRun run status final error time :=
    ((makes_inNextSession plan (finishRun run status.word final error time)).map fun _ => ()).mono
      fun ⟨known, finished, _⟩ => ⟨known, finished⟩

end AgentWorkflow.Store
