import AgentWorkflow.Proofs.Workflow.Keeping
import AgentWorkflow.Proofs.Workflow.Requests

/-!
# When collaborators are called in an assembly

An assembly goes through stages. It reads the snapshot, and calls nobody before this has succeeded.
Then it requests clients, and only when all of them are there it builds agents and binds tools.

What is called can be read off a log, if the world of the collaborators keeps one. What is not asked
for a client does not change which clients were asked for, so building, once the clients are there,
is a matter of what it keeps.

## Main definitions

* `Services.BuildKeeping`: what building agents and binding tools keeps
* `Services.Logs`: the collaborators write down when they are called
* `Workflow.Stages`: how far an assembly gets, what comes of it, and who was called

## Main results

* `Workflow.construct_keepsWorld`: what building keeps, once the clients are there
* `Workflow.exists_log_construct`: no client is requested then
* `Workflow.assemble_stages`: the calls of an assembly
-/

namespace AgentWorkflow

variable {σ : Type} {settings : Settings} {services : Services σ} {snapshot : Option Snapshot}
  {transport : Option (Tool.Transport σ)} {stateKeys : List String} {blueprint : Blueprint}
  {before after : σ} {n : PlanNode} {client : Option (Chat.Client σ)}

/-- To build an agent and to put tools on offer keeps a property of worlds. -/
structure Services.BuildKeeping (services : Services σ) (I : σ → Prop) : Prop where
  offer : ∀ {model}, services.Makes (.chat model) → ∀ tools forced,
    (model.offer tools forced).KeepsWorld I
  buildAgent : ∀ {model}, services.Makes (.chat model) → ∀ tools maxIterations systemMessage,
    (services.buildAgent model tools maxIterations systemMessage).KeepsWorld I

section Building

variable {I : σ → Prop}

namespace Node

theorem chatModel_keeps_makes (made : ∀ client' ∈ client, services.Makes client')
    (label : String) :
    (ofBuild (chatModel label client) : Act σ (Chat.Model σ)).Keeps I fun model =>
      services.Makes (.chat model) :=
  ⟨(keeps_ofBuild _).world, fun _ gives => makes_of_chatModel made ⟨_, _, gives⟩⟩

theorem buildTool_keepsWorld (n : PlanNode) (transport : Option (Tool.Transport σ)) :
    (buildTool n transport).KeepsWorld I := by
  rw [buildTool]
  split
  · cases transport with
    | none => exact .fail _
    | some transport =>
      refine (Act.Keeps.ofExcept _).bind fun config _ => ?_
      refine (Act.Keeps.ofExcept _).bind fun inputs _ => ?_
      exact (Act.Keeps.ofExcept _).bind fun outputs _ => .pure trivial
  · exact .fail _

variable (kept : services.BuildKeeping I) (made : ∀ client' ∈ client, services.Makes client')

include kept made

theorem buildAgent_keepsWorld (label : String) :
    (buildAgent settings services.buildAgent label n client transport).KeepsWorld I := by
  rw [buildAgent]
  refine (chatModel_keeps_makes made label).bind fun model model_made => ?_
  refine .ite (fun _ => ?_) fun _ => ?_
  · rw [Act.fail_bind]
    exact .fail _
  refine (Act.Keeps.ofExcept _).bind fun config _ => ?_
  refine (Act.Keeps.ofExcept _).bind fun tools _ => ?_
  exact ((kept.buildAgent model_made _ _ _).describe _).bind fun agent _ => .pure trivial

theorem buildMember_keepsWorld :
    (buildMember settings services.buildAgent n client transport).KeepsWorld I :=
  (buildAgent_keepsWorld kept made _).bind fun _ _ => .pure trivial

theorem buildWorker_keepsWorld :
    (buildWorker settings services.buildAgent services.prepareImage n client transport).KeepsWorld
      I :=
  (buildAgent_keepsWorld kept made _).bind fun _ _ => .pure trivial

theorem buildSupervisor_keepsWorld (given : Option SupervisorConfig) :
    (buildSupervisor settings services.prepareImage n client given).KeepsWorld I := by
  refine (chatModel_keeps_makes made _).bind fun model model_made => ?_
  refine (Act.Keeps.ofExcept _).bind fun config _ => ?_
  exact ((kept.offer model_made _ _).describe _).bind fun respond _ => .pure trivial

end Node

namespace Workflow

variable {owners : Record String} {supervision : Supervision} {clients : Record (Chat.Client σ)}

theorem buildEach_keepsWorld {build : PlanNode → Act σ (Option (Part σ))}
    (each : ∀ n, (build n).KeepsWorld I) (nodes : List PlanNode) :
    (buildEach build nodes).KeepsWorld I := by
  induction nodes with
  | nil => exact .pure trivial
  | cons n nodes ih => exact (each n).bind fun first _ => ih.bind fun rest _ => .pure trivial

variable (kept : services.BuildKeeping I) (made : ∀ pair ∈ clients, services.Makes pair.2)

include kept made

theorem buildPart_keepsWorld (n : PlanNode) :
    (buildPart settings services transport owners clients n).KeepsWorld I := by
  have client_made : ∀ client ∈ clients.find? n.key, services.Makes client :=
    fun client found => made (n.key, client) (Record.mem_of_find? found)
  refine (Node.keeps_ofBuild _).bind fun kind _ => ?_
  cases kind with
  | supervisor => exact .pure trivial
  | member => exact (Node.buildMember_keepsWorld kept client_made).bind fun _ _ => .pure trivial
  | worker => exact (Node.buildWorker_keepsWorld kept client_made).bind fun _ _ => .pure trivial
  | tool =>
    refine (Node.buildTool_keepsWorld n transport).bind fun _ _ => ?_
    exact (Act.Keeps.ofExcept _).bind fun _ _ => .pure trivial

theorem buildRouting_keepsWorld (n : PlanNode) :
    (buildRouting settings services supervision clients n).KeepsWorld I := by
  have client_made : ∀ client ∈ clients.find? n.key, services.Makes client :=
    fun client found => made (n.key, client) (Record.mem_of_find? found)
  rw [buildRouting]
  cases supervision.find? n.key with
  | none => exact .pure trivial
  | some config =>
    exact (Node.buildSupervisor_keepsWorld kept client_made _).bind fun _ _ => .pure trivial

/-- Once the clients are there, an assembly keeps what building agents and putting tools on offer
keeps. -/
theorem construct_keepsWorld :
    (construct settings services transport stateKeys blueprint clients).KeepsWorld I := by
  refine (buildEach_keepsWorld (buildPart_keepsWorld kept made) _).bind fun parts _ => ?_
  refine (buildEach_keepsWorld (buildRouting_keepsWorld kept made) _).bind fun routings _ => ?_
  exact Node.keeps_ofBuild _

end Workflow

end Building

/-! ### The log -/

/-- A call of a collaborator in an assembly. -/
inductive Services.Call
  | client (key : String × String)
  | agent
  | binding
  deriving DecidableEq, Repr

open Services (Call)

/-- Whether a call does more than ask for a client. -/
def Services.Call.isFurther : Call → Bool
  | .client _ => false
  | .agent => true
  | .binding => true

/-- The world of the collaborators has a log. A request for a client is written to it, a model
writes down that tools are bound to it, and who builds an agent may bind tools besides. -/
structure Services.Logs (services : Services σ) (log : σ → List Call) : Prop where
  makeClient : ∀ key before,
    log ((services.makeClient key.1 key.2).outcome before).2 = log before ++ [.client key]
  offer : ∀ {model}, services.Makes (.chat model) → ∀ tools forced before,
    log ((model.offer tools forced).outcome before).2 = log before ++ [.binding]
  buildAgent : ∀ {model}, services.Makes (.chat model) →
    ∀ tools maxIterations systemMessage before, ∃ bindings, (∀ call ∈ bindings, call = .binding) ∧
      log ((services.buildAgent model tools maxIterations systemMessage).outcome before).2 =
        log before ++ .agent :: bindings

namespace Workflow

open Chat (Supplies supply)

/-- How far an assembly gets from a world, what comes of it, and which calls are made. -/
inductive Stages (settings : Settings) (services : Services σ) (snapshot : Option Snapshot)
    (transport : Option (Tool.Transport σ)) (stateKeys : List String) (before : σ) :
    Except Failure (Workflow σ) × σ → List Call → Prop
  /-- The snapshot is refused, and nobody is called. -/
  | refused {failure : Failure}
      (refused : Blueprint.ofSnapshot settings snapshot = .error failure) :
      Stages settings services snapshot transport stateKeys before (.error failure, before) []
  /-- A client cannot be made. The requests behind it are not made. -/
  | unserved {blueprint : Blueprint} {supplied : List ((String × String) × Chat.Client σ)}
      {key : String × String} {later : List (String × String)} {middle after : σ} {cause : Failure}
      (drawn : Blueprint.ofSnapshot settings snapshot = .ok blueprint)
      (requests : requested blueprint.plan.nodes = supplied.map Prod.fst ++ key :: later)
      (supplies : Supplies services.makeClient before supplied middle)
      (fails : (services.makeClient key.1 key.2).Fails middle cause after) :
      Stages settings services snapshot transport stateKeys before
        (.error (Chat.clientFailure key cause), after)
        ((supplied.map Prod.fst).map .client ++ [.client key])
  /-- All clients are made, and the nodes are built with them. -/
  | served {blueprint : Blueprint} {supplied : List ((String × String) × Chat.Client σ)}
      {clients : Record (Chat.Client σ)} {middle : σ} {further : List Call}
      (drawn : Blueprint.ofSnapshot settings snapshot = .ok blueprint)
      (requests : requested blueprint.plan.nodes = supplied.map Prod.fst)
      (supplies : Supplies services.makeClient before supplied middle)
      (shared : ∀ n ∈ blueprint.plan.nodes, clients.find? n.key = suppliedTo supplied n)
      (all_further : ∀ call ∈ further, call.isFurther = true) :
      Stages settings services snapshot transport stateKeys before
        ((construct settings services transport stateKeys blueprint clients).outcome middle)
        ((supplied.map Prod.fst).map .client ++ further)

/-- Nobody is called before the snapshot has been read. -/
theorem Stages.exists_read {outcome : Except Failure (Workflow σ) × σ} {calls : List Call}
    (stages : Stages settings services snapshot transport stateKeys before outcome calls)
    (called : calls ≠ []) :
    ∃ plan, validate snapshot = .ok plan ∧
      (∃ declared, Schema.parse plan.graph.stateSchema = .ok declared) ∧
      ∃ supervision, Supervision.collect settings plan.nodes = .ok supervision := by
  have read : ∀ {blueprint}, Blueprint.ofSnapshot settings snapshot = .ok blueprint →
      ∃ plan, validate snapshot = .ok plan ∧
        (∃ declared, Schema.parse plan.graph.stateSchema = .ok declared) ∧
        ∃ supervision, Supervision.collect settings plan.nodes = .ok supervision := by
    intro blueprint drawn
    obtain ⟨valid, collected, declared, parsed, -⟩ := Blueprint.ofSnapshot_eq_ok_iff.mp drawn
    exact ⟨_, valid, ⟨declared, parsed⟩, _, collected⟩
  cases stages with
  | refused refused => exact absurd rfl called
  | unserved drawn requests supplies fails => exact read drawn
  | served drawn requests supplies shared all_further => exact read drawn

variable {log : σ → List Call} {supplied : List ((String × String) × Chat.Client σ)}

/-- A request for a client is in the log, however it ends. -/
theorem log_of_request {key : String × String} {result : Except Failure (Chat.Client σ)}
    (logs : services.Logs log)
    (ends : (services.makeClient key.1 key.2).outcome before = (result, after)) :
    log after = log before ++ [.client key] := by
  have written := logs.makeClient key before
  rwa [ends] at written

theorem log_of_supplies (logs : services.Logs log)
    (supplies : Supplies services.makeClient before supplied after) :
    log after = log before ++ (supplied.map Prod.fst).map .client := by
  induction supplies with
  | nil => exact (List.append_nil _).symm
  | @cons before middle after key client supplied made rest ih =>
    rw [ih, log_of_request logs made, List.append_assoc]
    rfl

/-- Building adds further calls to the log, and no request for a client. -/
theorem exists_log_construct {clients : Record (Chat.Client σ)} (logs : services.Logs log)
    (made : ∀ pair ∈ clients, services.Makes pair.2) (middle : σ) :
    ∃ further, (∀ call ∈ further, call.isFurther = true) ∧
      log ((construct settings services transport stateKeys blueprint clients).outcome middle).2 =
        log middle ++ further := by
  -- what building keeps is that the log has grown by further calls only
  let I (world : σ) : Prop :=
    ∃ further, (∀ call ∈ further, call.isFurther = true) ∧ log world = log middle ++ further
  have grows : ∀ {α : Type} {act : Act σ α}, (∀ before, ∃ more,
      (∀ call ∈ more, Call.isFurther call = true) ∧
        log (act.outcome before).2 = log before ++ more) → act.KeepsWorld I := by
    intro α act adds
    refine ⟨?_, fun _ _ => trivial⟩
    rintro before ⟨further, all_further, so_far⟩
    obtain ⟨more, all_more, added⟩ := adds before
    refine ⟨further ++ more, List.forall_mem_append.mpr ⟨all_further, all_more⟩, ?_⟩
    rw [added, so_far, List.append_assoc]
  have kept : services.BuildKeeping I := {
    offer := fun model_made tools forced => grows fun before =>
      ⟨[.binding], by simp [Services.Call.isFurther], logs.offer model_made tools forced before⟩
    buildAgent := fun model_made tools maxIterations systemMessage => grows fun before => by
      obtain ⟨bindings, all_bindings, added⟩ :=
        logs.buildAgent model_made tools maxIterations systemMessage before
      refine ⟨_, List.forall_mem_cons.mpr ⟨rfl, fun call member => ?_⟩, added⟩
      rw [all_bindings call member]
      rfl }
  exact (construct_keepsWorld kept made).world ⟨[], nofun, (List.append_nil _).symm⟩

/-- An assembly goes through the stages, and the log tells which calls are made in them. -/
theorem exists_stages_assemble (logs : services.Logs log) (settings : Settings)
    (snapshot : Option Snapshot) (transport : Option (Tool.Transport σ)) (stateKeys : List String)
    (before : σ) :
    ∃ calls,
      log ((assemble settings services snapshot transport stateKeys).outcome before).2 =
        log before ++ calls ∧
      Stages settings services snapshot transport stateKeys before
        ((assemble settings services snapshot transport stateKeys).outcome before) calls := by
  rw [assemble]
  cases drawn : Blueprint.ofSnapshot settings snapshot with
  | error failure => exact ⟨[], (List.append_nil _).symm, .refused drawn⟩
  | ok blueprint =>
    rw [Act.ofExcept, pure_bind, build_eq]
    rcases asked : (supply services.makeClient (requested blueprint.plan.nodes)).outcome before with
      ⟨failure | supplied, middle⟩
    · obtain ⟨supplied, key, later, last, cause, requests, supplies, fails, rfl⟩ :=
        Chat.fails_supply_iff.mp asked
      rw [Act.outcome_bind, asked]
      refine ⟨_, ?_, .unserved drawn requests supplies fails⟩
      rw [← List.append_assoc, ← log_of_supplies logs supplies]
      exact log_of_request logs fails
    · obtain ⟨supplies, requests⟩ := Chat.gives_supply_iff.mp asked
      rw [Act.outcome_bind_of_gives asked]
      have made : ∀ pair ∈ assign supplied blueprint.plan.nodes, services.Makes pair.2 := by
        intro pair member
        obtain ⟨key, among⟩ := exists_of_mem_assign member
        exact supplies.makes _ among
      obtain ⟨further, all_further, written⟩ := exists_log_construct logs made middle
      -- the clients come first in the log, since nothing else was called for them
      refine ⟨_, ?_, .served drawn requests.symm supplies (fun n node => ?_) all_further⟩
      · rw [written, log_of_supplies logs supplies, List.append_assoc]
      · exact find?_assign (Blueprint.faithful_of_ofSnapshot drawn).wellFormed.keys_nodup node

/-- The calls of an assembly. Nobody is called unless the check of the snapshot, the reading of its
schema and the collection of its supervisors have succeeded. Then every request that occurs among
the nodes is made once, in the order in which the requests first occur, until one fails; nodes with
equal requests have the same client. No agent is built and no tool is bound before all clients are
there. -/
theorem assemble_stages (logs : services.Logs log) (settings : Settings)
    (snapshot : Option Snapshot) (transport : Option (Tool.Transport σ)) (stateKeys : List String)
    (before : σ) :
    ∃ calls,
      log ((assemble settings services snapshot transport stateKeys).outcome before).2 =
        log before ++ calls ∧
      Stages settings services snapshot transport stateKeys before
        ((assemble settings services snapshot transport stateKeys).outcome before) calls ∧
      (calls ≠ [] → ∃ plan, validate snapshot = .ok plan ∧
        (∃ declared, Schema.parse plan.graph.stateSchema = .ok declared) ∧
        ∃ supervision, Supervision.collect settings plan.nodes = .ok supervision) ∧
      ∀ nodes, (requested nodes).Nodup ∧
        (∀ key, key ∈ requested nodes ↔ ∃ n ∈ nodes, n.request? = some key) ∧
        ∀ earlier key later, requested nodes = earlier ++ key :: later →
          ∃ front n back, nodes = front ++ n :: back ∧ n.request? = some key ∧
            requested front = earlier := by
  obtain ⟨calls, written, stages⟩ :=
    exists_stages_assemble logs settings snapshot transport stateKeys before
  exact ⟨calls, written, stages, stages.exists_read, fun nodes =>
    ⟨nodup_requested nodes, fun key => mem_requested_iff, fun _ _ _ => exists_front_of_requested⟩⟩

end Workflow

/-! ### A newsroom that writes down its calls -/

namespace Newsroom

/-- Adds a call to the log. -/
def note (call : Call) : Act (List Call) Unit := modify fun log => log ++ [call]

/-- Collaborators whose world is the log of their calls. Models never answer. -/
def clerks : Services (List Call) where
  makeClient provider name := do
    note (.client (provider, name))
    return .chat {
      respond := fun _ => throw .unanswered
      offer := fun _ _ => do
        note .binding
        return fun _ => throw .unanswered }
  buildAgent _ _ _ _ := do
    note .agent
    return { run := pure }
  prepareImage _ := throw .unanswered

theorem clerks_logs : clerks.Logs id where
  makeClient _ _ := rfl
  offer := by
    rintro model ⟨provider, name, before, after, gives⟩ tools forced world
    cases gives
    rfl
  buildAgent _ _ _ _ _ := ⟨[], nofun, rfl⟩

/-- A supervisor that spells its model with blanks and capitals. -/
def annexLead : PlanNode :=
  { supervisor "lead" "writer" with model := some ⟨" OpenAI", "gpt "⟩ }

/-- A bureau with a second worker. Its supervisor and its first worker carry the same model, spelled
in two ways. The name of the model of the second worker differs from it in case. -/
def annex : GraphPlan where
  graph := { entry := "lead", stateSchema := .absent }
  nodes := [annexLead,
    { worker "writer" with model := some ⟨"openai", "gpt"⟩ },
    { worker "reader" with model := some ⟨"openai", "GPT"⟩ }]
  edges := [⟨"writer", "reader"⟩]

theorem annex_wellFormed : annex.WellFormed :=
  .of_listing ["lead", "writer", "reader"] [⟨"writer", "reader"⟩] rfl rfl (by decide) (by decide)
    List.mem_cons_self (by decide) (by decide)

theorem annex_legible : ¬ annex.IsIllegible :=
  GraphPlan.not_isIllegible (List.forall_mem_cons.mpr
    ⟨nofun, List.forall_mem_cons.mpr ⟨nofun, List.forall_mem_singleton.mpr nofun⟩⟩)

theorem validate_annex : validate (some annex.toSnapshot) = .ok annex := by
  have supervises : annexLead.Supervises {} (config "writer") := ⟨by decide +kernel, rfl⟩
  have reaches : annex.ReachesEnd := .single (.toEnd List.mem_cons_self supervises.lists)
  exact validate_eq_ok_iff.mpr ⟨rfl, annex_wellFormed, annex_legible, reaches⟩

theorem ofSnapshot_annex : Blueprint.ofSnapshot {} (some annex.toSnapshot) =
    .ok ⟨annex, Record.put [] messagesKey .append, [("lead", config "writer")]⟩ :=
  Blueprint.ofSnapshot_eq_ok_iff.mpr ⟨validate_annex, rfl, [], rfl, rfl⟩

/-- One client serves the supervisor and its first worker, and another one the second worker. Then
two agents are built, and the supervisor is given its tool. -/
theorem assemble_calls :
    ∃ calls, ((Workflow.assemble {} clerks (some annex.toSnapshot) none []).outcome []).2 =
        [] ++ calls ∧
      calls = [.client ("openai", "gpt"), .client ("openai", "GPT"), .agent, .agent, .binding] ∧
      Workflow.requested annex.nodes = [("openai", "gpt"), ("openai", "GPT")] := by
  obtain ⟨calls, written, -⟩ :=
    Workflow.assemble_stages clerks_logs {} (some annex.toSnapshot) none [] []
  obtain ⟨workflow, gives⟩ : ∃ workflow,
      (Workflow.assemble {} clerks (some annex.toSnapshot) none []).Gives [] workflow
        [.client ("openai", "gpt"), .client ("openai", "GPT"), .agent, .agent, .binding] :=
    ⟨_, Workflow.gives_assemble_iff.mpr ⟨_, ofSnapshot_annex,
      Workflow.gives_build_iff.mpr ⟨_, _, rfl, _, _, rfl, _, rfl,
        Workflow.join_eq_ok_of_free (by decide +kernel) (by decide +kernel)⟩⟩⟩
  refine ⟨calls, written, ?_, by decide +kernel⟩
  rw [gives] at written
  exact written.symm

end Newsroom

end AgentWorkflow
