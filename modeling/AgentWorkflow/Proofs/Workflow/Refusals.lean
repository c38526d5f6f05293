import AgentWorkflow.Proofs.Workflow.Ownership
import AgentWorkflow.Proofs.Workflow.Tasks

/-!
# How an assembly fails

Whatever is wrong with a snapshot, with its configurations or with what its nodes are built from is
told as an error about the graph, and so is whatever a collaborator does. There are two ways around
this. A stored schema that declares a list or an object in the place of a word is not told as an
error at all, it is a fault. So is a text in which a whole number is too long, wherever it is read:
as the schema of the state or the configuration of a supervisor, before any collaborator is asked,
or as the configuration of a worker or the schema of a tool, when their node is built.

Nothing else is left out, either: a node has a task once all nodes have been built, whether the
engine takes them or not. Supervisors are built in a round of their own, and the two rounds agree on
which nodes those are.

## Main definitions

* `GraphError.IsRefusal`: errors about the graph
* `Stored.DeclaresFault`: schemas whose declarations cannot even be looked up, or not be told
* `Blueprint.Undrawable`: how an assembly ends in a fault before any collaborator is asked
* `PlanNode.Obscured`, `Workflow.HaltsBuilding`: how it does when a node is built

## Main results

* `Schema.parse_eq_fault_iff`: when a stored schema is a fault
* `Workflow.fails_build_fault_iff`: where the building of a blueprint ends in a fault
* `Workflow.map_key_arrangeTasks`: every node that was built has its task
* `Workflow.assemble_fails_as_refusal`: how an assembly fails
-/

namespace AgentWorkflow

/-- An error about the graph: it is not valid, is configured wrongly, or cannot be built. -/
def GraphError.IsRefusal (e : GraphError) : Prop :=
  ∃ kind ∈ [ErrorKind.validation, .config, .build], kind ∈ e.kind.lineage

theorem GraphError.isRefusal_snapshot (issue : SnapshotIssue) : (snapshot issue).IsRefusal := by
  have kind : (snapshot issue).kind = .validation ∨ (snapshot issue).kind = .unreachableEnd := by
    cases issue <;> simp [GraphError.kind]
  refine ⟨.validation, by decide, ?_⟩
  rcases kind with kind | kind <;> rw [kind] <;> decide

theorem GraphError.isRefusal_config (issue : ConfigIssue) : (config issue).IsRefusal := by
  refine ⟨.config, by decide, ?_⟩
  change ErrorKind.config ∈ ErrorKind.config.lineage
  decide

theorem GraphError.isRefusal_build (issue : BuildIssue) : (build issue).IsRefusal := by
  refine ⟨.build, by decide, ?_⟩
  change ErrorKind.build ∈ ErrorKind.build.lineage
  decide

/-- A failure that a step may handle is an error about the graph. Interruptions are not handled, so
they stay what they are. -/
def Failure.IsRefusal (failure : Failure) : Prop :=
  failure.isHandled = true → ∃ e, failure = .error e ∧ e.IsRefusal

/-- A refusal, or else a fault. -/
def Failure.IsRefusalOrFault (failure : Failure) : Prop :=
  failure.IsRefusal ∨ ∃ fault, failure = .fault fault

/-- How a document is refused. -/
theorem Stored.Refuses.isRefusalOrFault {document : Stored} {failure : Failure}
    (refuses : document.Refuses failure) : failure.IsRefusalOrFault := by
  cases refuses with
  | issue => exact Or.inl fun _ => ⟨_, rfl, GraphError.isRefusal_config _⟩
  | fault => exact Or.inr ⟨_, rfl⟩

namespace Failure

variable {failure : Failure}

theorem isRefusal_error {e : GraphError} (refusal : e.IsRefusal) : (error e).IsRefusal :=
  fun _ => ⟨e, rfl, refusal⟩

theorem not_isRefusal_fault {f : Fault} : ¬ (fault f).IsRefusal := by
  intro refusal
  obtain ⟨e, impossible, -⟩ := refusal rfl
  cases impossible

theorem isRefusal_causing {e : Failure → GraphError} (refusal : ∀ cause, (e cause).IsRefusal) :
    (failure.causing e).IsRefusal := by
  intro handled
  rw [causing] at handled ⊢
  split_ifs at handled ⊢ with was
  · exact ⟨_, rfl, refusal failure⟩
  · exact absurd handled was

end Failure

namespace Chat

theorem isRefusal_of_explainsItself {failure : Failure}
    (explained : explainsItself failure = true) : failure.IsRefusal := by
  cases failure with
  | error e =>
    cases e with
    | config issue => exact Failure.isRefusal_error (GraphError.isRefusal_config issue)
    | build issue => exact Failure.isRefusal_error (GraphError.isRefusal_build issue)
    | _ => cases explained
  | _ => cases explained

/-- A client that cannot be made is told as an error about the graph. -/
theorem failsOnly_get {σ α : Type} (factory : String → String → Act σ α) (arena : Arena α)
    (provider name : String) :
    (arena.get factory provider name).FailsOnly Failure.IsRefusal := by
  rw [Arena.get]
  cases arena.find? (normalized provider name) with
  | some client => exact .pure _
  | none =>
    refine .bind ((Act.FailsOnly.any _).describe fun failure _ => ?_) fun _ => .pure _
    rw [clientFailure]
    split_ifs with explained
    · exact isRefusal_of_explainsItself explained
    · exact Failure.isRefusal_causing fun _ => GraphError.isRefusal_build _

end Chat

/-! ### Stored schemas -/

/-- A value that cannot be the word for anything. -/
def Value.IsCompound : Value → Prop
  | .list _ => True
  | .object _ => True
  | _ => False

/-- A value in the place of a word is at fault: it cannot be looked up as one, or it cannot be
written out to be told. -/
def Value.FaultsAsWord (value : Value) (fault : Fault) : Prop :=
  value.IsCompound ∧ fault = .wrongType ∨
    ¬ value.IsCompound ∧ value.isWritable = false ∧ fault = .badValue

/-- The first declaration of a stored schema that names no way of merging is at fault. -/
def Stored.DeclaresFault (document : Stored) (fault : Fault) : Prop :=
  ∃ fields earlier key value later, document.fields "state_schema" = .ok fields ∧
    fields = earlier ++ (key, value) :: later ∧
    (∀ pair ∈ earlier, ∃ r, Schema.readReducer pair.1 pair.2 = .ok r) ∧ value.FaultsAsWord fault

namespace Schema

variable {key : String} {value : Value} {document : Stored} {fault : Fault} {failure : Failure}

theorem readReducer_of_compound (key : String) (compound : value.IsCompound) :
    readReducer key value = .error (.fault .wrongType) := by
  cases value with
  | list items => rfl
  | object fields => rfl
  | _ => exact compound.elim

/-- A declaration that is no word, list or object is told, if it can be written out. -/
theorem readReducer_of_writable (key : String) (plain : ¬ value.IsCompound)
    (no_word : ∀ s, value ≠ .str s) (writable : value.isWritable = true) :
    readReducer key value = .error (.error (.config (.unknownReducer value.shown key))) := by
  cases value with
  | list items => exact absurd trivial plain
  | object fields => exact absurd trivial plain
  | str s => exact absurd rfl (no_word s)
  | _ => simp only [readReducer, Value.written, writable, if_true]

theorem readReducer_of_unwritable (key : String) (plain : ¬ value.IsCompound)
    (unwritable : value.isWritable = false) :
    readReducer key value = .error (.fault .badValue) := by
  cases value with
  | list items => exact absurd trivial plain
  | object fields => exact absurd trivial plain
  | str s => cases unwritable
  | _ => simp only [readReducer, Value.written, unwritable, Bool.false_eq_true, if_false]

/-- A declaration is read, is a matter of configuration, or is at fault. -/
theorem readReducer_cases (key : String) (value : Value) :
    (∃ r, readReducer key value = .ok r) ∨
      (∃ issue, readReducer key value = .error (.error (.config issue))) ∨
      ∃ fault, value.FaultsAsWord fault ∧ readReducer key value = .error (.fault fault) := by
  by_cases compound : value.IsCompound
  · exact Or.inr (Or.inr ⟨_, Or.inl ⟨compound, rfl⟩, readReducer_of_compound key compound⟩)
  by_cases word : ∃ s, value = .str s
  · obtain ⟨s, rfl⟩ := word
    rw [readReducer]
    cases Reducer.ofWord? s with
    | some r => exact Or.inl ⟨r, rfl⟩
    | none => exact Or.inr (Or.inl ⟨_, rfl⟩)
  · cases writable : value.isWritable with
    | true =>
      exact Or.inr (Or.inl ⟨_, readReducer_of_writable key compound
        (fun s same => word ⟨s, same⟩) writable⟩)
    | false =>
      exact Or.inr (Or.inr ⟨_, Or.inr ⟨compound, writable, rfl⟩,
        readReducer_of_unwritable key compound writable⟩)

theorem readReducer_of_faults (key : String) (faults : value.FaultsAsWord fault) :
    readReducer key value = .error (.fault fault) := by
  rcases faults with ⟨compound, rfl⟩ | ⟨plain, unwritable, rfl⟩
  · exact readReducer_of_compound key compound
  · exact readReducer_of_unwritable key plain unwritable

theorem readReducer_eq_fault_iff :
    readReducer key value = .error (.fault fault) ↔ value.FaultsAsWord fault := by
  constructor
  · intro fails
    rcases readReducer_cases key value with ⟨r, read⟩ | ⟨issue, told⟩ | ⟨fault', faults, same⟩
    · cases read.symm.trans fails
    · cases told.symm.trans fails
    · cases same.symm.trans fails
      exact faults
  · exact readReducer_of_faults key

/-- A schema cannot be read if its document cannot, or else because of the first of its declarations
that cannot. -/
theorem parse_eq_error_iff :
    parse document = .error failure ↔
      (∃ cause, document.fields "state_schema" = .error cause ∧
        cause.configCausing .stateSchema = failure) ∨
      ∃ fields earlier key value later, document.fields "state_schema" = .ok fields ∧
        fields = earlier ++ (key, value) :: later ∧
        (∀ pair ∈ earlier, ∃ r, readReducer pair.1 pair.2 = .ok r) ∧
        readReducer key value = .error failure := by
  have declared_iff {fields : Record Value} :
      (fields.mapM fun pair => (readReducer pair.1 pair.2).map fun r => (pair.1, r)) =
          .error failure ↔
        ∃ earlier key value later, fields = earlier ++ (key, value) :: later ∧
          (∀ pair ∈ earlier, ∃ r, readReducer pair.1 pair.2 = .ok r) ∧
          readReducer key value = .error failure := by
    simp only [mapM_eq_error_iff, map_eq_error_iff, map_eq_ok_iff, Prod.exists]
    constructor
    · rintro ⟨earlier, key, value, later, split, passed, fails⟩
      refine ⟨earlier, key, value, later, split, fun pair member => ?_, fails⟩
      obtain ⟨_, _, r, passes, -⟩ := passed pair member
      exact ⟨r, passes⟩
    · rintro ⟨earlier, key, value, later, split, passed, fails⟩
      refine ⟨earlier, key, value, later, split, fun pair member => ?_, fails⟩
      obtain ⟨r, passes⟩ := passed pair member
      exact ⟨_, _, r, passes, rfl⟩
  rw [parse, bind_eq_error_iff, mapError_eq_error_iff]
  refine or_congr_right ?_
  simp only [mapError_eq_ok_iff, bind_eq_error_iff]
  constructor
  · rintro ⟨fields, read, undeclared | ⟨_, -, impossible⟩⟩
    · obtain ⟨earlier, key, value, later, rest⟩ := declared_iff.mp undeclared
      exact ⟨fields, earlier, key, value, later, read, rest⟩
    · cases impossible
  · rintro ⟨fields, earlier, key, value, later, read, rest⟩
    exact ⟨fields, read, Or.inl (declared_iff.mpr ⟨earlier, key, value, later, rest⟩)⟩

/-- A schema is a fault exactly when its text is illegible, or the first of its declarations that
cannot be read is at fault. -/
theorem parse_eq_fault_iff :
    parse document = .error (.fault fault) ↔
      fault = .badValue ∧ document.IsIllegible ∨ document.DeclaresFault fault := by
  rw [parse_eq_error_iff]
  simp only [Failure.configCausing_eq_fault_iff, exists_eq_right, readReducer_eq_fault_iff,
    (Stored.reads_fields document "state_schema").eq_fault_iff]
  exact Iff.rfl

theorem isRefusalOrFault_of_parse (fails : parse document = .error failure) :
    failure.IsRefusalOrFault := by
  rcases parse_eq_error_iff.mp fails with
    ⟨cause, unread, rfl⟩ | ⟨_, _, key, value, _, -, -, -, fails⟩
  · rcases ((Stored.reads_fields document "state_schema").refuses unread).cases_on with
      ⟨rfl, -⟩ | ⟨issue, rfl, -⟩
    · exact Or.inr ⟨_, rfl⟩
    · exact Or.inl (Failure.isRefusal_error (GraphError.isRefusal_config _))
  · rcases readReducer_cases key value with ⟨r, read⟩ | ⟨issue, told⟩ | ⟨fault, -, faulty⟩
    · cases read.symm.trans fails
    · cases told.symm.trans fails
      exact Or.inl (Failure.isRefusal_error (GraphError.isRefusal_config _))
    · cases faulty.symm.trans fails
      exact Or.inr ⟨_, rfl⟩

end Schema

/-! ### Blueprints -/

namespace Supervision

theorem isRefusal_of_memberIssue {nodes : List PlanNode} {earlier : Supervision}
    {supervisor member : String} {e : GraphError}
    (issue : MemberIssue nodes earlier supervisor member e) : e.IsRefusal := by
  cases issue with
  | own => exact GraphError.isRefusal_config _
  | unknown | supervisor | shared => exact GraphError.isRefusal_build _

end Supervision

namespace Blueprint

variable {settings : Settings} {snapshot : Option Snapshot} {plan : GraphPlan} {failure : Failure}
  {fault : Fault}

/-- A snapshot has no blueprint if it does not pass the check, if its schema cannot be read, or if
its supervisors are not in order. -/
theorem ofSnapshot_eq_error_iff :
    ofSnapshot settings snapshot = .error failure ↔
      validate snapshot = .error failure ∨
      ∃ plan, validate snapshot = .ok plan ∧
        (Schema.parse plan.graph.stateSchema = .error failure ∨
          ∃ declared, Schema.parse plan.graph.stateSchema = .ok declared ∧
            Supervision.collect settings plan.nodes = .error failure) := by
  simp only [ofSnapshot, bind_eq_error_iff]
  refine or_congr_right (exists_congr fun plan => and_congr_right fun _ => or_congr_right ?_)
  constructor
  · rintro ⟨declared, parsed, fails | ⟨_, -, impossible⟩⟩
    · exact ⟨declared, parsed, fails⟩
    · cases impossible
  · rintro ⟨declared, parsed, fails⟩
    exact ⟨declared, parsed, Or.inl fails⟩

/-- The supervisors of a graph that passes the check can all be read or are a matter of
configuration, since an illegible one is found by the check. -/
theorem isRefusal_of_collect (valid : validate snapshot = .ok plan)
    (fails : Supervision.collect settings plan.nodes = .error failure) : failure.IsRefusal := by
  obtain ⟨-, good, legible, -⟩ := validate_eq_ok_iff.mp valid
  cases (Supervision.collect_eq_error_iff good.keys_nodup).mp fails with
  | unreadable => exact Failure.isRefusal_error (GraphError.isRefusal_config _)
  | illegible split staffs illegible =>
    exact absurd ⟨_, by simp [split], illegible⟩ legible
  | member split staffs supervises listed passed issue =>
    exact Failure.isRefusal_error (Supervision.isRefusal_of_memberIssue issue)

/-- Without a blueprint there is an error about the graph, or a fault. -/
theorem isRefusalOrFault_of_ofSnapshot (fails : ofSnapshot settings snapshot = .error failure) :
    failure.IsRefusalOrFault := by
  rcases ofSnapshot_eq_error_iff.mp fails with invalid | ⟨plan, valid, unread | ⟨_, -, refused⟩⟩
  · rcases issue_or_fault_of_validate invalid with ⟨issue, rfl⟩ | rfl
    · exact Or.inl (Failure.isRefusal_error (GraphError.isRefusal_snapshot issue))
    · exact Or.inr ⟨_, rfl⟩
  · exact Schema.isRefusalOrFault_of_parse unread
  · exact Or.inl (isRefusal_of_collect valid refused)

/-- A snapshot has no blueprint because of a fault: it is well formed but the configuration of a
supervisor is illegible, or it passes the check but its schema is illegible or declares something
that is at fault. -/
inductive Undrawable (snapshot : Option Snapshot) : Fault → Prop
  | supervisor {plan : GraphPlan} (present : snapshot = some plan.toSnapshot)
      (good : plan.WellFormed) (illegible : plan.IsIllegible) : Undrawable snapshot .badValue
  | schema {plan : GraphPlan} (valid : validate snapshot = .ok plan)
      (illegible : plan.graph.stateSchema.IsIllegible) : Undrawable snapshot .badValue
  | declaration {plan : GraphPlan} {fault : Fault} (valid : validate snapshot = .ok plan)
      (declares : plan.graph.stateSchema.DeclaresFault fault) : Undrawable snapshot fault

theorem ofSnapshot_eq_fault_iff :
    ofSnapshot settings snapshot = .error (.fault fault) ↔ Undrawable snapshot fault := by
  rw [ofSnapshot_eq_error_iff, validate_eq_fault_iff]
  constructor
  · rintro (⟨rfl, plan, present, good, illegible⟩ | ⟨plan, valid, unread | ⟨_, -, refused⟩⟩)
    · exact .supervisor present good illegible
    · rcases Schema.parse_eq_fault_iff.mp unread with ⟨rfl, illegible⟩ | declares
      · exact .schema valid illegible
      · exact .declaration valid declares
    · exact absurd (isRefusal_of_collect valid refused) Failure.not_isRefusal_fault
  · intro undrawable
    cases undrawable with
    | supervisor present good illegible => exact Or.inl ⟨rfl, _, present, good, illegible⟩
    | schema valid illegible =>
      exact Or.inr ⟨_, valid, Or.inl (Schema.parse_eq_fault_iff.mpr (Or.inl ⟨rfl, illegible⟩))⟩
    | declaration valid declares =>
      exact Or.inr ⟨_, valid, Or.inl (Schema.parse_eq_fault_iff.mpr (Or.inr declares))⟩

end Blueprint

/-! ### Building -/

theorem Act.FailsOnly.orFault {σ α : Type} {act : Act σ α}
    (only : act.FailsOnly Failure.IsRefusal) : act.FailsOnly Failure.IsRefusalOrFault where
  of_fails fails := Or.inl (only.of_fails fails)

/-- An act whose failures are refusals ends in no fault. -/
theorem Act.FailsOnly.not_fails_fault {σ α : Type} {act : Act σ α} {before after : σ}
    {fault : Fault} (only : act.FailsOnly Failure.IsRefusal) :
    ¬ act.Fails before (.fault fault) after := fun fails =>
  Failure.not_isRefusal_fault (only.of_fails fails)

namespace Node

variable {σ α : Type} {before after : σ} {failure : Failure}

theorem failsOnly_ofBuild (result : Except BuildIssue α) :
    (ofBuild result : Act σ α).FailsOnly Failure.IsRefusal where
  of_fails fails := by
    obtain ⟨issue, -, rfl, -⟩ := fails_ofBuild_iff.mp fails
    exact Failure.isRefusal_error (GraphError.isRefusal_build issue)

/-- A document that is read is refused with an error about the graph, or it is illegible. -/
theorem failsOnly_reading {document : Stored} {outcome : Except Failure α}
    (reads : document.Reads outcome) :
    (Act.ofExcept outcome : Act σ α).FailsOnly Failure.IsRefusalOrFault :=
  .ofExcept fun _ fails => (reads.refuses fails).isRefusalOrFault

theorem failsOnly_fail (issue : BuildIssue) :
    (Act.fail (.build issue) : Act σ α).FailsOnly Failure.IsRefusal :=
  .fail (Failure.isRefusal_error (GraphError.isRefusal_build issue))

/-- What builds agents tells of errors of the library only if they are about the configuration or
the build. -/
def ExplainsItself (builder : Agent.Builder σ) : Prop :=
  ∀ model tools maxIterations systemMessage,
    (builder model tools maxIterations systemMessage).FailsOnly fun failure =>
      ∀ e, failure = .error e → Chat.explainsItself failure = true

variable {builder : Agent.Builder σ}

theorem failsOnly_offeredAll (transport : Option (Tool.Transport σ)) (tools : List ToolRef) :
    (Act.ofExcept (Tool.offeredAll transport tools) : Act σ (List (Tool.Offered σ))).FailsOnly
      Failure.IsRefusalOrFault := by
  refine .ofExcept fun failure fails => ?_
  cases transport with
  | none => cases fails
  | some server =>
    obtain ⟨_, tool, _, -, -, refused⟩ := mapM_eq_error_iff.mp fails
    exact ((reads_offered server tool).refuses refused).isRefusalOrFault

/-- An agent that cannot be built is told as an error about the graph, unless a document is
illegible. -/
theorem failsOnly_buildAgent (explains : ExplainsItself builder) (settings : Settings)
    (label : String) (node : PlanNode) (client : Option (Chat.Client σ))
    (transport : Option (Tool.Transport σ)) :
    (buildAgent settings builder label node client transport).FailsOnly
      Failure.IsRefusalOrFault := by
  have agent (model tools turns message) :
      ((builder model tools turns message).describe
        (Failure.faultCausing fun cause => .build (.agentFailed label cause))).FailsOnly
          Failure.IsRefusal := by
    refine (explains model tools turns message).describe fun failure explained => ?_
    -- what the builder tells of is left as it is, and any fault is told as an error of the build
    cases failure with
    | error e => exact Chat.isRefusal_of_explainsItself (explained e rfl)
    | fault f => exact Failure.isRefusal_error (GraphError.isRefusal_build _)
    | cancelled => nofun
    | unanswered => nofun
  have rest (model : Chat.Model σ) : (do
      let config ← Act.ofExcept (WorkerConfig.parse node.node.config label)
      let tools ← Act.ofExcept (Tool.offeredAll transport node.tools)
      let agent ← (builder model tools (config.effectiveMaxIterations settings)
        config.systemMessage).describe
          (Failure.faultCausing fun cause => .build (.agentFailed label cause))
      return (config, agent) : Act σ (WorkerConfig × Agent.Reasoner σ)).FailsOnly
        Failure.IsRefusalOrFault :=
    (failsOnly_reading (Stored.reads_parse _ _ _)).bind fun _ =>
      (failsOnly_offeredAll _ _).bind fun _ => (agent _ _ _ _).orFault.bind fun _ => .pure _
  rw [buildAgent]
  refine (failsOnly_ofBuild _).orFault.bind fun model => ?_
  dsimp only
  split_ifs
  · exact (failsOnly_fail _).orFault.bind fun _ => rest model
  · exact rest model

theorem failsOnly_buildMember (explains : ExplainsItself builder) (settings : Settings)
    (node : PlanNode) (client : Option (Chat.Client σ)) (transport : Option (Tool.Transport σ)) :
    (buildMember settings builder node client transport).FailsOnly
      Failure.IsRefusalOrFault := by
  rw [buildMember]
  exact (failsOnly_buildAgent explains ..).bind fun _ => .pure _

theorem failsOnly_buildWorker (explains : ExplainsItself builder) (settings : Settings)
    (prepare : ImagePreparer σ) (node : PlanNode) (client : Option (Chat.Client σ))
    (transport : Option (Tool.Transport σ)) :
    (buildWorker settings builder prepare node client transport).FailsOnly
      Failure.IsRefusalOrFault := by
  rw [buildWorker]
  exact (failsOnly_buildAgent explains ..).bind fun _ => .pure _

theorem failsOnly_buildTool (node : PlanNode) (transport : Option (Tool.Transport σ)) :
    (buildTool node transport).FailsOnly Failure.IsRefusalOrFault := by
  rw [buildTool.eq_def]
  dsimp only
  split
  · cases transport with
    | none => exact (failsOnly_fail _).orFault
    | some transport =>
      exact (failsOnly_reading (Stored.reads_parse _ _ _)).bind fun _ =>
        (failsOnly_reading ((Tool.reads_fieldNames _ _).mapError _)).bind fun _ =>
          (failsOnly_reading ((Tool.reads_fieldNames _ _).mapError _)).bind fun _ => .pure _
  · exact (failsOnly_fail _).orFault

theorem failsOnly_toolStateKeys (node : PlanNode) :
    (Act.ofExcept (toolStateKeys node) : Act σ (List String)).FailsOnly
      Failure.IsRefusalOrFault := by
  refine .ofExcept fun failure fails => ?_
  rw [toolStateKeys] at fails
  split at fails
  · rcases bind_eq_error_iff.mp fails with unread | ⟨config, -, rest⟩
    · exact ((Stored.reads_parse _ _ _).refuses unread).isRefusalOrFault
    rcases bind_eq_error_iff.mp rest with unread | ⟨inputs, -, rest⟩
    · exact ((Tool.reads_fieldNames _ _).refuses unread).isRefusalOrFault
    rcases bind_eq_error_iff.mp rest with unread | ⟨outputs, -, impossible⟩
    · exact ((Tool.reads_fieldNames _ _).refuses unread).isRefusalOrFault
    · cases impossible
  · cases fails

theorem failsOnly_buildSupervisor (settings : Settings) (prepare : ImagePreparer σ)
    (node : PlanNode) (client : Option (Chat.Client σ)) (config : SupervisorConfig) :
    (buildSupervisor settings prepare node client (some config)).FailsOnly Failure.IsRefusal := by
  rw [buildSupervisor]
  refine (failsOnly_ofBuild _).bind fun model => .bind (.pure _) fun config =>
    .bind ?_ fun _ => .pure _
  exact (Act.FailsOnly.any _).describe fun _ _ =>
    Failure.isRefusal_causing fun _ => GraphError.isRefusal_build _

end Node

/-- A node that is no supervisor is not built since a document is illegible. -/
inductive PlanNode.Obscured {σ : Type} (owners : Record String) (client : Option (Chat.Client σ))
    (transport : Option (Tool.Transport σ)) (n : PlanNode) : Prop
  | member (classified : classify n.key (some n.node.type) owners = .ok .member)
      (obscured : Node.AgentObscured (Node.memberLabel n.key) n client transport)
  | worker (classified : classify n.key (some n.node.type) owners = .ok .worker)
      (obscured : Node.AgentObscured (Node.workerLabel n.key) n client transport)
  | tool (classified : classify n.key (some n.node.type) owners = .ok .tool)
      (obscured : Node.ToolObscured n transport)

namespace Workflow

variable {σ : Type} {settings : Settings} {services : Services σ} {snapshot : Option Snapshot}
  {transport : Option (Tool.Transport σ)} {stateKeys : List String} {blueprint : Blueprint}

theorem failsOnly_makeClients (factory : Chat.ClientFactory σ)
    (arena : Chat.Arena (Chat.Client σ)) (nodes : List PlanNode) :
    (makeClients factory arena nodes).FailsOnly Failure.IsRefusal := by
  induction nodes generalizing arena with
  | nil => exact .pure _
  | cons n nodes ih =>
    rw [makeClients]
    cases n.model with
    | none => exact ih arena
    | some model =>
      dsimp only
      refine (Chat.failsOnly_get factory arena model.provider model.name).bind ?_
      rintro ⟨client, arena⟩
      exact (ih arena).bind fun _ => .pure _

theorem failsOnly_buildPart (explains : Node.ExplainsItself services.buildAgent)
    (settings : Settings) (transport : Option (Tool.Transport σ)) (owners : Record String)
    (clients : Record (Chat.Client σ)) (n : PlanNode) :
    (buildPart settings services transport owners clients n).FailsOnly
      Failure.IsRefusalOrFault := by
  rw [buildPart]
  refine (Node.failsOnly_ofBuild _).orFault.bind fun kind => ?_
  cases kind with
  | supervisor => exact .pure _
  | member => exact (Node.failsOnly_buildMember explains ..).bind fun _ => .pure _
  | worker => exact (Node.failsOnly_buildWorker explains ..).bind fun _ => .pure _
  | tool =>
    exact (Node.failsOnly_buildTool n transport).bind fun _ =>
      (Node.failsOnly_toolStateKeys n).bind fun _ => .pure _

theorem failsOnly_buildRouting (settings : Settings) (services : Services σ)
    (supervision : Supervision) (clients : Record (Chat.Client σ)) (n : PlanNode) :
    (buildRouting settings services supervision clients n).FailsOnly Failure.IsRefusal := by
  rw [buildRouting]
  cases supervision.find? n.key with
  | none => exact .pure _
  | some config => exact (Node.failsOnly_buildSupervisor ..).bind fun _ => .pure _

theorem failsOnly_buildEach {build : PlanNode → Act σ (Option (Part σ))}
    {allowed : Failure → Prop} (each : ∀ n, (build n).FailsOnly allowed) (nodes : List PlanNode) :
    (buildEach build nodes).FailsOnly allowed := by
  induction nodes with
  | nil => exact .pure _
  | cons n nodes ih => exact (each n).bind fun _ => ih.bind fun _ => .pure _

/-- Building a blueprint fails with errors about the graph, or with a fault. -/
theorem failsOnly_build (explains : Node.ExplainsItself services.buildAgent) :
    (build settings services transport stateKeys blueprint).FailsOnly
      Failure.IsRefusalOrFault := by
  rw [build]
  exact (failsOnly_makeClients _ _ _).orFault.bind fun clients =>
    (failsOnly_buildEach (failsOnly_buildPart explains _ _ _ _) _).bind fun parts =>
      (failsOnly_buildEach (failsOnly_buildRouting _ _ _ _) _).orFault.bind fun routings =>
        (Node.failsOnly_ofBuild _).orFault

/-! ### Illegible documents -/

section Obscured

variable {owners : Record String} {client : Option (Chat.Client σ)}
  {clients : Record (Chat.Client σ)} {n : PlanNode} {before after : σ} {fault : Fault}

theorem fails_buildMember_fault_iff :
    (Node.buildMember settings services.buildAgent n client transport).Fails before (.fault fault)
        after ↔
      fault = .badValue ∧ before = after ∧
        Node.AgentObscured (Node.memberLabel n.key) n client transport := by
  simp only [Node.buildMember, Act.fails_bind_iff, Act.not_fails_pure, and_false, exists_false,
    or_false, Node.fails_buildAgent_fault_iff]

theorem fails_buildWorker_fault_iff :
    (Node.buildWorker settings services.buildAgent services.prepareImage n client transport).Fails
        before (.fault fault) after ↔
      fault = .badValue ∧ before = after ∧
        Node.AgentObscured (Node.workerLabel n.key) n client transport := by
  simp only [Node.buildWorker, Act.fails_bind_iff, Act.not_fails_pure, and_false, exists_false,
    or_false, Node.fails_buildAgent_fault_iff]

/-- Once a tool node has been built, the keys that are noted for it can be told. -/
theorem exists_toolStateKeys {built : Node.Built σ}
    (gives : (Node.buildTool n transport).Gives before built after) :
    ∃ keys, Node.toolStateKeys n = .ok keys := by
  obtain ⟨server, plan, -, ⟨tool, only, -, -, parsed, input, output⟩, -, -⟩ :=
    Node.gives_buildTool_iff.mp gives
  rw [Node.toolStateKeys, only]
  exact ⟨_, bind_eq_ok_iff.mpr ⟨_, parsed, bind_eq_ok_iff.mpr ⟨_, input,
    bind_eq_ok_iff.mpr ⟨_, output, rfl⟩⟩⟩⟩

theorem fails_buildPart_fault_iff :
    (buildPart settings services transport owners clients n).Fails before (.fault fault) after ↔
      fault = .badValue ∧ before = after ∧
        n.Obscured owners (clients.find? n.key) transport := by
  rw [buildPart, Act.fails_bind_iff]
  constructor
  · rintro (unclassified | ⟨kind, _, got, rest⟩)
    · exact absurd unclassified (Node.failsOnly_ofBuild _).not_fails_fault
    obtain ⟨classified, rfl⟩ := Node.gives_ofBuild_iff.mp got
    cases kind with
    | supervisor => exact absurd rest Act.not_fails_pure
    | member =>
      simp only [Act.fails_bind_iff, Act.not_fails_pure, and_false, exists_false, or_false,
        fails_buildMember_fault_iff] at rest
      obtain ⟨rfl, rfl, obscured⟩ := rest
      exact ⟨rfl, rfl, .member classified obscured⟩
    | worker =>
      simp only [Act.fails_bind_iff, Act.not_fails_pure, and_false, exists_false, or_false,
        fails_buildWorker_fault_iff] at rest
      obtain ⟨rfl, rfl, obscured⟩ := rest
      exact ⟨rfl, rfl, .worker classified obscured⟩
    | tool =>
      simp only [Act.fails_bind_iff, Act.not_fails_pure, and_false, exists_false, or_false,
        Node.fails_buildTool_fault_iff, Act.fails_ofExcept_iff] at rest
      rcases rest with ⟨rfl, rfl, obscured⟩ | ⟨built, _, made, unnoted, -⟩
      · exact ⟨rfl, rfl, .tool classified obscured⟩
      -- once the tool has been built its schemas have been read, so its keys can be noted
      · obtain ⟨keys, noted⟩ := exists_toolStateKeys made
        cases noted.symm.trans unnoted
  · rintro ⟨rfl, rfl, obscured⟩
    cases obscured with
    | member classified obscured =>
      refine Or.inr ⟨_, before, Node.gives_ofBuild_iff.mpr ⟨classified, rfl⟩, ?_⟩
      exact Act.fails_bind_iff.mpr (Or.inl (fails_buildMember_fault_iff.mpr ⟨rfl, rfl, obscured⟩))
    | worker classified obscured =>
      refine Or.inr ⟨_, before, Node.gives_ofBuild_iff.mpr ⟨classified, rfl⟩, ?_⟩
      exact Act.fails_bind_iff.mpr (Or.inl (fails_buildWorker_fault_iff.mpr ⟨rfl, rfl, obscured⟩))
    | tool classified obscured =>
      refine Or.inr ⟨_, before, Node.gives_ofBuild_iff.mpr ⟨classified, rfl⟩, ?_⟩
      exact Act.fails_bind_iff.mpr
        (Or.inl (Node.fails_buildTool_fault_iff.mpr ⟨rfl, rfl, obscured⟩))

/-- Going through nodes fails at one of them, after those before it have been built. -/
theorem fails_buildEach_iff {build : PlanNode → Act σ (Option (Part σ))} {nodes : List PlanNode}
    {failure : Failure} :
    (buildEach build nodes).Fails before failure after ↔
      ∃ earlier n later parts middle, nodes = earlier ++ n :: later ∧
        (buildEach build earlier).Gives before parts middle ∧
        (build n).Fails middle failure after := by
  induction nodes generalizing before with
  | nil =>
    refine iff_of_false Act.not_fails_pure ?_
    rintro ⟨earlier, n, later, _, _, split, -⟩
    simp at split
  | cons first nodes ih =>
    simp only [buildEach, Act.fails_bind_iff, Act.not_fails_pure, and_false, exists_false, or_false]
    constructor
    · rintro (fails | ⟨part, _, built, among⟩)
      · exact ⟨[], first, nodes, [], before, rfl, Act.gives_pure_iff.mpr ⟨rfl, rfl⟩, fails⟩
      · obtain ⟨earlier, n, later, parts, middle, rfl, gone, fails⟩ := ih.mp among
        refine ⟨first :: earlier, n, later, part.toList ++ parts, middle, rfl, ?_, fails⟩
        exact Act.gives_bind_iff.mpr ⟨part, _, built, Act.gives_bind_iff.mpr
          ⟨parts, _, gone, Act.gives_pure_iff.mpr ⟨rfl, rfl⟩⟩⟩
    · rintro ⟨earlier, n, later, parts, middle, split, gone, fails⟩
      rcases earlier with _ | ⟨_, earlier⟩
      · cases split
        obtain ⟨-, rfl⟩ := Act.gives_pure_iff.mp gone
        exact Or.inl fails
      · cases split
        simp only [buildEach, Act.gives_bind_iff, Act.gives_pure_iff] at gone
        obtain ⟨part, _, built, others, _, gone, -, rfl⟩ := gone
        exact Or.inr ⟨part, _, built, ih.mpr ⟨earlier, n, later, others, _, rfl, gone, fails⟩⟩

/-- Building ends in a fault at a node: the clients have been made and the nodes before it built,
and then a document is illegible. -/
def HaltsBuilding (settings : Settings) (services : Services σ)
    (transport : Option (Tool.Transport σ)) (blueprint : Blueprint) (before after : σ) : Prop :=
  ∃ clients made earlier n later parts,
    (makeClients services.makeClient {} blueprint.plan.nodes).Gives before clients made ∧
    blueprint.plan.nodes = earlier ++ n :: later ∧
    (buildEach (buildPart settings services transport blueprint.supervision.owners clients)
      earlier).Gives made parts after ∧
    n.Obscured blueprint.supervision.owners (clients.find? n.key) transport

theorem fails_build_fault_iff :
    (build settings services transport stateKeys blueprint).Fails before (.fault fault) after ↔
      fault = .badValue ∧ HaltsBuilding settings services transport blueprint before after := by
  simp only [build, Act.fails_bind_iff, (failsOnly_makeClients _ _ _).not_fails_fault,
    (failsOnly_buildEach (failsOnly_buildRouting _ _ _ _) _).not_fails_fault,
    (Node.failsOnly_ofBuild _).not_fails_fault, fails_buildEach_iff, fails_buildPart_fault_iff,
    and_false, exists_false, or_false, false_or, HaltsBuilding]
  constructor
  · rintro ⟨clients, made, given, earlier, n, later, parts, _, split, gone, rfl, rfl, obscured⟩
    exact ⟨rfl, clients, made, earlier, n, later, parts, given, split, gone, obscured⟩
  · rintro ⟨rfl, clients, made, earlier, n, later, parts, given, split, gone, obscured⟩
    exact ⟨clients, made, given, earlier, n, later, parts, _, split, gone, rfl, rfl, obscured⟩

end Obscured

/-! ### Every node is built -/

section Registered

variable {nodes : List PlanNode} {parts : List (Part σ)} {n : PlanNode} {before after : σ}
  {owners : Record String} {clients : Record (Chat.Client σ)}

/-- The nodes of a blueprint have been built: first those that are no supervisors, and then the
supervisors. -/
def BuildsParts (settings : Settings) (services : Services σ)
    (transport : Option (Tool.Transport σ)) (blueprint : Blueprint) (before : σ)
    (parts : List (Part σ)) (after : σ) : Prop :=
  ∃ clients made plain middle routings,
    (makeClients services.makeClient {} blueprint.plan.nodes).Gives before clients made ∧
    (buildEach (buildPart settings services transport blueprint.supervision.owners clients)
      blueprint.plan.nodes).Gives made plain middle ∧
    (buildEach (buildRouting settings services blueprint.supervision clients)
      blueprint.plan.nodes).Gives middle routings after ∧
    parts = plain ++ routings

/-- A node that is no supervisor is not passed over. -/
theorem exists_part_of_buildPart {result : Option (Part σ)}
    (built : (buildPart settings services transport owners clients n).Gives before result after)
    (type_ne : normalizeType n.node.type ≠ "supervisor") : ∃ part, result = some part := by
  simp only [buildPart, Act.gives_bind_iff, Node.gives_ofBuild_iff] at built
  obtain ⟨kind, _, ⟨classified, rfl⟩, rest⟩ := built
  cases kind with
  | supervisor => exact absurd ((type_of_classify classified).1.mp rfl) type_ne
  | member =>
    simp only [Act.gives_bind_iff, Act.gives_pure_iff] at rest
    obtain ⟨_, _, -, same, -⟩ := rest
    exact ⟨_, same.symm⟩
  | worker =>
    simp only [Act.gives_bind_iff, Act.gives_pure_iff] at rest
    obtain ⟨_, _, -, same, -⟩ := rest
    exact ⟨_, same.symm⟩
  | tool =>
    simp only [Act.gives_bind_iff, Act.gives_pure_iff] at rest
    obtain ⟨_, _, -, _, _, -, same, -⟩ := rest
    exact ⟨_, same.symm⟩

/-- Every node is built in one of the rounds: both agree on which nodes are supervisors. -/
theorem BuildsParts.exists_part (builds : BuildsParts settings services transport blueprint before
      parts after) (faithful : blueprint.Faithful settings) (node : n ∈ blueprint.plan.nodes) :
    ∃ part ∈ parts, part.task.key = n.key := by
  obtain ⟨clients, made, plain, middle, routings, -, first, second, rfl⟩ := builds
  by_cases type : normalizeType n.node.type = "supervisor"
  · -- it is passed over in the first round, so it has to be known as a supervisor in the second
    obtain ⟨config, supervises⟩ := faithful.exists_supervises n node type
    have found := Record.find?_of_mem faithful.keys_nodup
      (faithful.mem_supervision_iff.mpr ⟨n, node, rfl, supervises⟩)
    obtain ⟨result, _, _, built, kept⟩ := exists_gives_of_mem_nodes second node
    rcases gives_buildRouting built with
      ⟨missing, -⟩ | ⟨_, part, respond, -, rfl, task_eq, -⟩
    · cases found.symm.trans missing
    · refine ⟨part, List.mem_append_right _ (kept (Option.mem_toList.mpr rfl)), ?_⟩
      rw [task_eq]
      rfl
  · obtain ⟨result, _, _, built, kept⟩ := exists_gives_of_mem_nodes first node
    obtain ⟨part, rfl⟩ := exists_part_of_buildPart built type
    exact ⟨part, List.mem_append_left _ (kept (Option.mem_toList.mpr rfl)),
      (plainPart_of_buildPart built).2.1⟩

/-- If there is a part for every node, then every node has a task, in the order of the nodes. -/
theorem map_key_arrangeTasks (each : ∀ n ∈ nodes, ∃ part ∈ parts, part.task.key = n.key) :
    (arrangeTasks nodes parts).map Task.key = nodes.map PlanNode.key := by
  induction nodes with
  | nil => rfl
  | cons n nodes ih =>
    obtain ⟨part, among, same⟩ := each n List.mem_cons_self
    cases found : (parts.map Part.task).find? fun task => task.key == n.key with
    | none =>
      have other := List.find?_eq_none.mp found part.task (List.mem_map_of_mem among)
      exact absurd (beq_iff_eq.mpr same) other
    | some task =>
      have named : task.key = n.key := by simpa using List.find?_some found
      have rest := ih fun n node => each n (List.mem_cons_of_mem _ node)
      rw [arrangeTasks, List.filterMap_cons]
      simp only [found]
      rw [List.map_cons, List.map_cons, named]
      exact congrArg (n.key :: ·) rest

end Registered

/-! ### Assemblies -/

theorem fails_assemble_iff {before after : σ} {failure : Failure} :
    (assemble settings services snapshot transport stateKeys).Fails before failure after ↔
      (Blueprint.ofSnapshot settings snapshot = .error failure ∧ before = after) ∨
      ∃ blueprint, Blueprint.ofSnapshot settings snapshot = .ok blueprint ∧
        (build settings services transport stateKeys blueprint).Fails before failure after := by
  simp only [assemble, Act.fails_bind_iff, Act.fails_ofExcept_iff, Act.gives_ofExcept_iff]
  refine or_congr_right (exists_congr fun blueprint => ?_)
  constructor
  · rintro ⟨_, ⟨drawn, rfl⟩, fails⟩
    exact ⟨drawn, fails⟩
  · rintro ⟨drawn, fails⟩
    exact ⟨before, ⟨drawn, rfl⟩, fails⟩

/-- An assembly gives a workflow, or fails with an error about the graph unless it is interrupted
or fails with a fault. A fault it is exactly in two cases. The graph is well formed, but the
configuration of a supervisor is illegible, or what the stored schema holds is at fault; then no
collaborator has been asked. Or there is a blueprint, and a document is illegible when its node is
built. When the nodes have been built every one of them has its task, so none is missing when they
are taken over by the engine. -/
theorem assemble_fails_as_refusal (explains : Node.ExplainsItself services.buildAgent)
    (before : σ) :
    ((∃ workflow after,
        (assemble settings services snapshot transport stateKeys).Gives before workflow after) ∨
      ∃ failure after,
        (assemble settings services snapshot transport stateKeys).Fails before failure after ∧
        (failure.IsRefusal ∨ ∃ fault, failure = .fault fault)) ∧
    (∀ fault after,
      (assemble settings services snapshot transport stateKeys).Fails before (.fault fault) after ↔
        Blueprint.Undrawable snapshot fault ∧ after = before ∨
          fault = .badValue ∧ ∃ blueprint, Blueprint.ofSnapshot settings snapshot = .ok blueprint ∧
            HaltsBuilding settings services transport blueprint before after) ∧
    ∀ blueprint parts after, Blueprint.ofSnapshot settings snapshot = .ok blueprint →
      BuildsParts settings services transport blueprint before parts after →
        (arrangeTasks blueprint.plan.nodes parts).map Task.key =
          blueprint.plan.nodes.map PlanNode.key := by
  refine ⟨?_, ?_, ?_⟩
  · rcases came : (assemble settings services snapshot transport stateKeys).outcome before with
      ⟨failure | workflow, after⟩
    · refine Or.inr ⟨failure, after, came, ?_⟩
      rcases fails_assemble_iff.mp came with ⟨undrawn, -⟩ | ⟨blueprint, -, unbuilt⟩
      · exact Blueprint.isRefusalOrFault_of_ofSnapshot undrawn
      · exact (failsOnly_build explains).of_fails unbuilt
    · exact Or.inl ⟨workflow, after, came⟩
  · intro fault after
    rw [fails_assemble_iff, Blueprint.ofSnapshot_eq_fault_iff]
    simp only [fails_build_fault_iff]
    constructor
    · rintro (⟨undrawable, rfl⟩ | ⟨blueprint, drawn, rfl, halts⟩)
      · exact Or.inl ⟨undrawable, rfl⟩
      · exact Or.inr ⟨rfl, blueprint, drawn, halts⟩
    · rintro (⟨undrawable, rfl⟩ | ⟨rfl, blueprint, drawn, halts⟩)
      · exact Or.inl ⟨undrawable, rfl⟩
      · exact Or.inr ⟨blueprint, drawn, rfl, halts⟩
  · intro blueprint parts after drawn builds
    exact map_key_arrangeTasks fun n => builds.exists_part (Blueprint.faithful_of_ofSnapshot drawn)

/-- The agents of the newsroom can always be built. -/
theorem newsroom_explainsItself : Node.ExplainsItself Newsroom.services.buildAgent :=
  fun _ _ _ _ => .pure _

/-- The newsroom is assembled, or fails in one of these ways. -/
theorem newsroom_fails_as_refusal :
    Node.ExplainsItself Newsroom.services.buildAgent ∧
      ((∃ workflow after, (assemble {} Newsroom.services
          (some (Newsroom.plan .absent).toSnapshot) none []).Gives [] workflow after) ∨
        ∃ failure after, (assemble {} Newsroom.services
            (some (Newsroom.plan .absent).toSnapshot) none []).Fails [] failure after ∧
          (failure.IsRefusal ∨ ∃ fault, failure = .fault fault)) ∧
      (∀ fault after, (assemble {} Newsroom.services
          (some (Newsroom.plan .absent).toSnapshot) none []).Fails [] (.fault fault) after ↔
        Blueprint.Undrawable (some (Newsroom.plan .absent).toSnapshot) fault ∧ after = [] ∨
          fault = .badValue ∧ ∃ blueprint,
            Blueprint.ofSnapshot {} (some (Newsroom.plan .absent).toSnapshot) = .ok blueprint ∧
            HaltsBuilding {} Newsroom.services none blueprint [] after) ∧
      ∀ blueprint parts after,
        Blueprint.ofSnapshot {} (some (Newsroom.plan .absent).toSnapshot) = .ok blueprint →
        BuildsParts {} Newsroom.services none blueprint [] parts after →
          (arrangeTasks blueprint.plan.nodes parts).map Task.key =
            blueprint.plan.nodes.map PlanNode.key :=
  ⟨newsroom_explainsItself, assemble_fails_as_refusal newsroom_explainsItself []⟩

/-- A newsroom whose stored schema declares a list is refused with a fault. -/
theorem newsroom_listing_is_fault :
    (assemble {} Newsroom.services
      (some (Newsroom.plan (.object [("notes", .list [.str "append"])])).toSnapshot) none []).Fails
        [] (.fault .wrongType) [] := by
  refine fails_assemble_iff.mpr (Or.inl ⟨Blueprint.ofSnapshot_eq_fault_iff.mpr ?_, rfl⟩)
  refine .declaration (Newsroom.validate_plan _) ?_
  exact ⟨_, [], "notes", .list [.str "append"], [], rfl, rfl, by simp, Or.inl ⟨trivial, rfl⟩⟩

end Workflow

end AgentWorkflow
