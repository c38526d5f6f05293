import AgentWorkflow.Proofs.Config.Limits
import AgentWorkflow.Proofs.Node.Metering

/-!
# Supervisors that reach their model

A supervisor that has decided nothing yet asks its model once when its limits are above zero. When
one of them is zero or less, it never does: the deadline has passed before it begins, or it has made
all the decisions that it may make.

## Main definitions

* `Node.modelCalls`: how often a supervisor calls its model in one run under its deadline
* `Node.IsFresh`: nothing is decided yet

## Main results

* `Node.modelCalls_of_fresh`, `Node.modelCalls_of_not_above`: when the model is called
* `Node.limits_reach_model`: which documents make supervisors that reach their model
-/

namespace AgentWorkflow.Node

variable {σ : Type} {prepare : ImagePreparer σ} {node : GraphNode} {config : SupervisorConfig}
  {respond : Chat.Responder σ} {state : State} {before : σ}

/-- How often a supervisor calls its model when it runs once, under its deadline. -/
def modelCalls (prepare : ImagePreparer σ) (node : GraphNode) (config : SupervisorConfig)
    (respond : Chat.Responder σ) (state : State) (before : σ) : Nat :=
  ((withDeadline node.key config.timeoutSeconds
    (supervisorStep prepare.onFirst node config respond.counted) state).outcome (before, 0)).2.2

/-- A supervisor has decided nothing in a state, and can make the turn of the human of it. -/
structure IsFresh (prepare : ImagePreparer σ) (node : GraphNode) (config : SupervisorConfig)
    (state : State) (before : σ) : Prop where
  undecided : readIteration state = .ok 0
  readable : ∃ conversation, history state = .ok conversation
  opens : ∃ turn middle, (humanTurn prepare config.input defaultSupervisorPrompt
    (inputText node.inputKey state)).Gives before turn middle

/-- What is described is counted all the same. -/
theorem calls_withDeadline {step : Step (σ × Nat)} {key : String} {seconds : Float}
    (not_past : ¬ seconds ≤ 0.0) :
    ((withDeadline key seconds step state).outcome (before, 0)).2 =
      ((step state).outcome (before, 0)).2 := by
  have begun : isPast seconds = false := by simp [isPast, not_past]
  rw [withDeadline, begun]
  exact Act.world_describe _ _ _

/-- A model that is asked is called, whatever comes of it. -/
theorem calls_askModel {conversation : List Value} {turn : Message} {calls : Nat} :
    ((askModel node config respond.counted conversation (some turn)).outcome (before, calls)).2.2 =
      calls + 1 := by
  simp only [askModel, pure_bind, Act.world_describe]
  rfl

/-- A fresh supervisor with a decision left calls its model. -/
theorem calls_consult (fresh : IsFresh prepare node config state before)
    (left : 1 ≤ config.maxIterations) :
    ((consult prepare.onFirst node config respond.counted state).outcome (before, 0)).2.2 = 1 := by
  obtain ⟨undecided, ⟨conversation, readable⟩, turn, middle, opens⟩ := fresh
  have plain : (openingTurn prepare node config state ((0 : Nat) + 1)).Gives before (some turn)
      middle := gives_openingTurn_iff.mpr (.inl ⟨rfl, turn, rfl, opens⟩)
  have opened : (openingTurn prepare.onFirst node config state (0 + 1)).Gives (before, 0)
      (some turn) (middle, 0) := (meters_openingTurn prepare node config state _).gives plain
  rw [consult, undecided, Act.outcome_bind_of_gives (Act.gives_ofFault_iff.mpr ⟨rfl, rfl⟩),
    if_neg (by omega), readable, Act.outcome_bind_of_gives (Act.gives_ofFault_iff.mpr ⟨rfl, rfl⟩),
    Act.outcome_bind_of_gives opened, Act.count_bind fun _ _ => rfl]
  exact calls_askModel

/-- With limits above zero a fresh supervisor calls its model once. -/
theorem modelCalls_of_fresh (fresh : IsFresh prepare node config state before)
    (left : 1 ≤ config.maxIterations) (ahead : 0.0 < config.timeoutSeconds) :
    modelCalls prepare node config respond state before = 1 := by
  have not_past : ¬ config.timeoutSeconds ≤ 0.0 := Decimal.not_le_zero_iff.mpr (.inl ahead)
  rw [modelCalls, calls_withDeadline not_past, supervisorStep_eq,
    Act.count_bind fun _ _ => by rw [Act.outcome_ofExcept]]
  exact calls_consult fresh left

/-- With a limit that is not above zero a fresh supervisor never calls its model. -/
theorem modelCalls_of_not_above (undecided : readIteration state = .ok 0)
    (low : config.maxIterations ≤ 0 ∨ config.timeoutSeconds ≤ 0.0) :
    modelCalls prepare node config respond state before = 0 := by
  by_cases past : config.timeoutSeconds ≤ 0.0
  · have never_begun : isPast config.timeoutSeconds = true := by simp [isPast, past]
    rw [modelCalls, withDeadline, never_begun]
    rfl
  · rw [modelCalls, calls_withDeadline past]
    have spent : config.maxIterations ≤ 0 := low.resolve_right past
    obtain ⟨made, none_made, same⟩ :=
      meters_supervisorStep prepare node config respond state before 0
    have allowed : allowance config state = 0 := by
      simp only [allowance, undecided]
      exact if_neg (by omega)
    rw [same]
    simp only
    omega

/-- The limits of a configuration that is accepted are above zero, unless the text of a number says
otherwise or the deadline is no number; what is left out, null or a number not above zero takes the
default. With such limits a fresh supervisor calls its model, and otherwise it does not. A worker
may always call its model. -/
theorem limits_reach_model {settings : Settings} {key : String} {document : Stored}
    (iterations_pos : 1 ≤ settings.supervisorMaxIterations)
    (seconds_pos : 0.0 < settings.supervisorTimeoutSeconds)
    (workers_pos : 1 ≤ settings.workerMaxIterations)
    (parsed : SupervisorConfig.parse settings key document = .ok config) :
    (∃ fields, document.fields (SupervisorConfig.label key) = .ok fields ∧
      (1 ≤ config.maxIterations ↔
        ¬ Field.EscapesAsWhole (SupervisorConfig.limitValue fields "max_iterations")) ∧
      (0.0 < config.timeoutSeconds ↔
        ¬ Field.EscapesAsNumber (SupervisorConfig.limitValue fields "timeout_seconds")) ∧
      (Field.Defaulted (SupervisorConfig.limitValue fields "max_iterations") →
        config.maxIterations = settings.supervisorMaxIterations) ∧
      (Field.Defaulted (SupervisorConfig.limitValue fields "timeout_seconds") →
        config.timeoutSeconds = settings.supervisorTimeoutSeconds)) ∧
    (∀ node state before, IsFresh prepare node config state before →
      (1 ≤ config.maxIterations → 0.0 < config.timeoutSeconds →
        modelCalls prepare node config respond state before = 1) ∧
      (config.maxIterations ≤ 0 ∨ config.timeoutSeconds ≤ 0.0 →
        modelCalls prepare node config respond state before = 0)) ∧
    ∀ document what config, WorkerConfig.parse document what = .ok config →
      1 ≤ config.effectiveMaxIterations settings := by
  refine ⟨?_, fun node state before fresh => ⟨modelCalls_of_fresh fresh,
    modelCalls_of_not_above fresh.undecided⟩, fun _ _ config _ =>
      config.one_le_effectiveMaxIterations workers_pos⟩
  obtain ⟨fields, decoded, iterations, seconds⟩ :=
    SupervisorConfig.exists_limits_of_parse parsed
  obtain ⟨iterations_iff, iterations_default⟩ :=
    SupervisorConfig.maxIterations_spec iterations_pos iterations
  obtain ⟨seconds_iff, seconds_default⟩ :=
    SupervisorConfig.timeoutSeconds_spec seconds_pos seconds
  exact ⟨fields, decoded, iterations_iff, seconds_iff, iterations_default, seconds_default⟩

/-- A supervisor without limits of its own, whose limits are null or zero, calls its model once. -/
theorem default_limits_reach_model :
    ∃ config, SupervisorConfig.parse {} "s" (.object [("members", .list [.str "a"]),
        ("max_iterations", .int 0), ("timeout_seconds", .null)]) = .ok config ∧
      config.maxIterations = 10 ∧
      modelCalls (fun _ => throw .unanswered) { key := "s", type := "supervisor" } config
        (fun _ => throw .unanswered) [] () = 1 := by
  have parsed : SupervisorConfig.parse {} "s" (.object [("members", .list [.str "a"]),
      ("max_iterations", .int 0), ("timeout_seconds", .null)]) =
        .ok { members := ["a"], maxIterations := 10, timeoutSeconds := 60 } := rfl
  obtain ⟨⟨fields, decoded, -, -, iterations_default, -⟩, reaches, -⟩ :=
    @limits_reach_model Unit (fun _ => throw .unanswered) _ (fun _ => throw .unanswered) {} "s" _
      (by decide) (by decide) (by decide) parsed
  cases decoded
  refine ⟨_, parsed, iterations_default (.inr rfl), (reaches _ [] () ?_).1 (by decide) (by decide)⟩
  exact ⟨rfl, ⟨[], rfl⟩, _, (), rfl⟩

/-- The text of zero is accepted as a limit, and the model is never called. -/
theorem text_limit_never_reaches_model :
    ∃ config, SupervisorConfig.parse {} "s"
        (.object [("max_iterations", .str "0"), ("members", .list [.str "a"])]) = .ok config ∧
      ¬ 1 ≤ config.maxIterations ∧
      modelCalls (fun _ => throw .unanswered) { key := "s", type := "supervisor" } config
        (fun _ => throw .unanswered) [] () = 0 := by
  refine ⟨{ members := ["a"], maxIterations := 0, timeoutSeconds := 60 }, rfl, by decide, ?_⟩
  exact modelCalls_of_not_above rfl (.inl (by decide))

end AgentWorkflow.Node
