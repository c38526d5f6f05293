import AgentWorkflow.Proofs.Node.Consultation

/-!
# Counting the calls of a supervisor's model

Calls are counted beside the world, by a responder that answers as before. An act on the wider world
does the same as one on the world alone, and it is said how many calls it counts at most. A
supervisor calls its model at most once when it runs, and not at all when it has made all the
decisions that it may make.

## Main definitions

* `Chat.Responder.counted`: a responder that counts its calls
* `Act.Meters`: the same act, with a bound on the calls that it counts

## Main results

* `Node.meters_supervisorStep`: how many calls a supervisor makes
-/

namespace AgentWorkflow

variable {σ α β : Type}

/-- A responder that counts how often it is called. -/
def Chat.Responder.counted (respond : Chat.Responder σ) : Chat.Responder (σ × Nat) := fun prompt =>
  ExceptT.mk fun (world, calls) =>
    let (outcome, world) := (respond prompt).run world
    (outcome, (world, calls + 1))

namespace Act

variable {metered : Act (σ × Nat) α} {act : Act σ α} {most more : Nat}

/-- An act that also counts calls does what another one does, and it counts at most so many. -/
def Meters (metered : Act (σ × Nat) α) (act : Act σ α) (most : Nat) : Prop :=
  ∀ world calls, ∃ made ≤ most,
    metered.outcome (world, calls) =
      ((act.outcome world).1, (act.outcome world).2, calls + made)

theorem Meters.mono (meters : Meters metered act most) (le : most ≤ more) :
    Meters metered act more := by
  intro world calls
  obtain ⟨made, bound, same⟩ := meters world calls
  exact ⟨made, Nat.le_trans bound le, same⟩

/-- An act that counts no calls leaves their number alone. -/
theorem Meters.gives {a : α} {before after : σ} {calls : Nat} (meters : Meters metered act 0)
    (given : act.Gives before a after) : metered.Gives (before, calls) a (after, calls) := by
  obtain ⟨made, none_made, same⟩ := meters before calls
  rw [Gives, same, given, Nat.le_zero.mp none_made]
  rfl

/-- What follows an act and counts no calls leaves their number as the act has left it. -/
theorem count_bind {act : Act (σ × Nat) α} {next : α → Act (σ × Nat) β} {before : σ × Nat}
    (quiet : ∀ a world, ((next a).outcome world).2.2 = world.2) :
    ((act >>= next).outcome before).2.2 = (act.outcome before).2.2 := by
  rw [outcome_bind]
  rcases act.outcome before with ⟨failure | a, middle⟩
  · rfl
  · exact quiet a middle

theorem meters_pure (a : α) : Meters (pure a : Act (σ × Nat) α) (pure a) 0 :=
  fun _ _ => ⟨0, Nat.le_refl _, rfl⟩

theorem meters_fail (error : GraphError) : Meters (fail error : Act (σ × Nat) α) (fail error) 0 :=
  fun _ _ => ⟨0, Nat.le_refl _, rfl⟩

theorem meters_ofExcept (outcome : Except Failure α) :
    Meters (ofExcept outcome : Act (σ × Nat) α) (ofExcept outcome) 0 := by
  intro world calls
  cases outcome <;> exact ⟨0, Nat.le_refl _, rfl⟩

theorem meters_ofFault (outcome : Except Fault α) :
    Meters (ofFault outcome : Act (σ × Nat) α) (ofFault outcome) 0 := by
  intro world calls
  cases outcome <;> exact ⟨0, Nat.le_refl _, rfl⟩

/-- An act that touches the world alone counts nothing. -/
theorem meters_onFirst (act : Act σ α) : Meters act.onFirst act 0 :=
  fun _ _ => ⟨0, Nat.le_refl _, rfl⟩

theorem meters_counted (respond : Chat.Responder σ) (prompt : List Message) :
    Meters (respond.counted prompt) (respond prompt) 1 :=
  fun _ _ => ⟨1, Nat.le_refl _, rfl⟩

/-- The calls of two acts add up. -/
theorem Meters.bind {next' : α → Act (σ × Nat) β} {next : α → Act σ β}
    (first : Meters metered act most) (rest : ∀ a, Meters (next' a) (next a) more) :
    Meters (metered >>= next') (act >>= next) (most + more) := by
  intro world calls
  obtain ⟨made, bound, same⟩ := first world calls
  rw [outcome_bind, outcome_bind, same]
  rcases act.outcome world with ⟨failure | a, middle⟩
  · exact ⟨made, by omega, rfl⟩
  · obtain ⟨later, bound', same'⟩ := rest a middle (calls + made)
    refine ⟨made + later, by omega, ?_⟩
    dsimp only
    rw [same', Nat.add_assoc]

/-- What counts nothing may come first. -/
theorem Meters.bind_right {next' : α → Act (σ × Nat) β} {next : α → Act σ β}
    (first : Meters metered act 0) (rest : ∀ a, Meters (next' a) (next a) most) :
    Meters (metered >>= next') (act >>= next) most := by
  have both := first.bind rest
  rwa [Nat.zero_add] at both

/-- What counts nothing may come last. -/
theorem Meters.bind_left {next' : α → Act (σ × Nat) β} {next : α → Act σ β}
    (first : Meters metered act most) (rest : ∀ a, Meters (next' a) (next a) 0) :
    Meters (metered >>= next') (act >>= next) most := first.bind rest

theorem Meters.describe (meters : Meters metered act most) (description : Failure → Failure) :
    Meters (metered.describe description) (act.describe description) most := by
  intro world calls
  obtain ⟨made, bound, same⟩ := meters world calls
  refine ⟨made, bound, ?_⟩
  rw [outcome_describe, outcome_describe, same]
  rcases act.outcome world with ⟨failure | a, middle⟩ <;> rfl

theorem Meters.ite {c : Prop} [Decidable c] {metered' : Act (σ × Nat) α} {act' : Act σ α}
    (yes : c → Meters metered act most) (no : ¬ c → Meters metered' act' most) :
    Meters (if c then metered else metered') (if c then act else act') most := by
  by_cases h : c
  · rw [if_pos h, if_pos h]
    exact yes h
  · rw [if_neg h, if_neg h]
    exact no h

end Act

namespace Node

variable {node : GraphNode} {config : SupervisorConfig} {state : State}

/-- What prepares images on the world alone. -/
def ImagePreparer.onFirst (prepare : ImagePreparer σ) : ImagePreparer (σ × Nat) :=
  fun address => (prepare address).onFirst

theorem meters_imageTurn (prepare : ImagePreparer σ) (input prompt : String) :
    Act.Meters (imageTurn prepare.onFirst input prompt) (imageTurn prepare input prompt) 0 := by
  refine .ite (fun _ => Act.meters_pure _) fun _ => ?_
  refine ((Act.meters_onFirst (prepare _)).describe _).bind_right fun image => ?_
  exact .ite (fun _ => Act.meters_fail _) fun _ => Act.meters_pure _

theorem meters_humanTurn (prepare : ImagePreparer σ) (config : InputConfig)
    (default input : String) :
    Act.Meters (humanTurn prepare.onFirst config default input)
      (humanTurn prepare config default input) 0 := by
  simp only [humanTurn]
  refine Act.Meters.ite (fun _ => ?_) fun _ => ?_
  · exact (meters_imageTurn prepare input _).bind_right fun _ => Act.meters_pure _
  · exact (Act.meters_pure _).bind_right fun _ => Act.meters_pure _

theorem meters_openingTurn (prepare : ImagePreparer σ) (node : GraphNode)
    (config : SupervisorConfig) (state : State) (iteration : Int) :
    Act.Meters (openingTurn prepare.onFirst node config state iteration)
      (openingTurn prepare node config state iteration) 0 := by
  simp only [openingTurn]
  refine Act.Meters.ite (fun _ => ?_) fun _ => Act.meters_pure _
  exact (meters_humanTurn prepare _ _ _).bind_right fun _ => Act.meters_pure _

/-- However the model is asked, it is called once. -/
theorem meters_askModel (node : GraphNode) (config : SupervisorConfig)
    (respond : Chat.Responder σ) (conversation : List Value) (turn : Option Message) :
    Act.Meters (askModel node config respond.counted conversation turn)
      (askModel node config respond conversation turn) 1 := by
  simp only [askModel]
  refine Act.Meters.describe ?_ _
  cases turn with
  | some turn => exact (Act.meters_pure [turn]).bind_right fun _ => Act.meters_counted _ _
  | none => exact (Act.meters_ofFault _).bind_right fun _ => Act.meters_counted _ _

/-- How often a supervisor may call its model in a state, going by the decisions it has seen. -/
def allowance (config : SupervisorConfig) (state : State) : Nat :=
  match readIteration state with
  | .ok made => if made + 1 ≤ config.maxIterations then 1 else 0
  | .error _ => 0

theorem meters_consult (prepare : ImagePreparer σ) (node : GraphNode) (config : SupervisorConfig)
    (respond : Chat.Responder σ) (state : State) :
    Act.Meters (consult prepare.onFirst node config respond.counted state)
      (consult prepare node config respond state) (allowance config state) := by
  simp only [consult, allowance]
  cases readIteration state with
  | error fault =>
    -- it fails before it asks
    exact fun _ _ => ⟨0, Nat.le_refl _, rfl⟩
  | ok made =>
    have read : ∀ τ : Type, (Act.ofFault (.ok made) : Act τ Int) = pure made := fun _ => rfl
    simp only [read, pure_bind]
    by_cases spent : config.maxIterations < made + 1
    · rw [if_pos spent, if_pos spent]
      exact (Act.meters_fail _).mono (Nat.zero_le _)
    · rw [if_neg spent, if_neg spent, if_pos (by omega)]
      refine (Act.meters_ofFault _).bind_right fun conversation => ?_
      refine (meters_openingTurn prepare node config state _).bind_right fun turn => ?_
      exact (meters_askModel node config respond conversation turn).bind_left fun _ =>
        Act.meters_pure _

/-- A supervisor calls its model once at most, and not at all when it has made all its decisions. -/
theorem meters_supervisorStep (prepare : ImagePreparer σ) (node : GraphNode)
    (config : SupervisorConfig) (respond : Chat.Responder σ) (state : State) :
    Act.Meters (supervisorStep prepare.onFirst node config respond.counted state)
      (supervisorStep prepare node config respond state) (allowance config state) := by
  rw [supervisorStep_eq, supervisorStep_eq]
  exact (meters_consult prepare node config respond state).bind_left fun _ => Act.meters_ofExcept _

end Node

end AgentWorkflow
