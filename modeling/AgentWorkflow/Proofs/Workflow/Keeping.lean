import AgentWorkflow.Proofs.Keeping
import AgentWorkflow.Proofs.Node.Consultation
import AgentWorkflow.Proofs.Workflow.Tasks

/-!
# What a workflow keeps

A workflow touches the world through its collaborators and through the tools of its transport. So
what all of these keep is kept by building its nodes, and by every step of every node that was
built.

## Main definitions

* `Services.Keeps`: what the collaborators of a workflow keep
* `Workflow.Keeps`: what the steps of a workflow keep

## Main results

* `Workflow.assemble_keeps`: an assembly keeps what the collaborators and the tools keep, and so
  does every step of the workflow
-/

namespace AgentWorkflow

variable {σ : Type} {I : σ → Prop} {settings : Settings} {services : Services σ}
  {transport : Option (Tool.Transport σ)} {n : PlanNode} {client : Option (Chat.Client σ)}

/-- Collaborators keep a property of worlds: the clients that are made do, the image preparer does,
and an agent keeps it if its model and its tools do. -/
structure Services.Keeps (services : Services σ) (I : σ → Prop) : Prop where
  makeClient : ∀ provider name, (services.makeClient provider name).Keeps I fun client =>
    client.Keeps I
  prepareImage : ∀ url, (services.prepareImage url).KeepsWorld I
  buildAgent : ∀ {model tools}, model.Keeps I → (∀ tool ∈ tools, tool.Keeps I) →
    ∀ maxIterations systemMessage,
      (services.buildAgent model tools maxIterations systemMessage).Keeps I fun agent =>
        agent.Keeps I

/-- A step keeps a property of worlds. -/
def Node.Step.Keeps (step : Node.Step σ) (I : σ → Prop) : Prop :=
  ∀ state, (step state).KeepsWorld I

/-! ### Tools -/

namespace Tool

/-- The tools of a transport that keeps a property are offered as tools that do. -/
theorem offeredAll_keeps {tools : List ToolRef} {offers : List (Offered σ)}
    (kept : ∀ server ∈ transport, server.Keeps I)
    (read : offeredAll transport tools = .ok offers) : ∀ tool ∈ offers, tool.Keeps I := by
  cases transport with
  | none =>
    cases read
    intro tool member
    cases member
  | some transport =>
    have server_kept := kept transport rfl
    rw [offeredAll] at read
    induction tools generalizing offers with
    | nil =>
      cases read
      intro tool member
      cases member
    | cons first rest ih =>
      simp only [List.mapM_cons, bind_eq_ok_iff, offered] at read
      obtain ⟨_, ⟨parameters, -, same⟩, others, offered_rest, all⟩ := read
      cases same
      cases all
      refine List.forall_mem_cons.mpr ⟨?_, ih offered_rest⟩
      intro arguments
      exact (server_kept _ _).bind fun result _ => .pure trivial

end Tool

/-! ### Nodes -/

namespace Node

theorem keeps_ofBuild {α : Type} (outcome : Except BuildIssue α) :
    (ofBuild outcome : Act σ α).KeepsWorld I := by
  cases outcome with
  | error issue => exact .fail _
  | ok a => exact .pure trivial

theorem humanTurn_keepsWorld {prepare : ImagePreparer σ}
    (kept : ∀ url, (prepare url).KeepsWorld I) (config : InputConfig) (default input : String) :
    (humanTurn prepare config default input).KeepsWorld I := by
  have image : ∀ input prompt, (imageTurn prepare input prompt).KeepsWorld I := by
    intro input prompt
    rw [imageTurn]
    refine .ite (fun _ => .pure trivial) fun _ => ?_
    refine ((kept _).describe _).bind fun image _ => ?_
    exact .ite (fun _ => .fail _) fun _ => .pure trivial
  rw [humanTurn]
  refine .ite (fun _ => ?_) fun _ => ?_
  · exact (image _ _).bind fun parts _ => .pure trivial
  · rw [pure_bind]
    exact .pure trivial

theorem runAgent_keepsWorld {agent : Agent.Reasoner σ} (kept : agent.Keeps I) (label : String)
    (conversation : List Value) : (runAgent label agent conversation).KeepsWorld I :=
  (kept conversation).describe _

theorem finalText_keepsWorld (label : String) (conversation : List Value) :
    (finalText label conversation : Act σ Value).KeepsWorld I := by
  rw [finalText]
  refine (Act.Keeps.ofFault _).bind fun output _ => ?_
  refine (Act.Keeps.ofFault _).bind fun cutOff _ => ?_
  exact .ite (fun _ => .fail _) fun _ => .pure trivial

theorem workerStep_keeps {prepare : ImagePreparer σ} {agent : Agent.Reasoner σ}
    (prepare_kept : ∀ url, (prepare url).KeepsWorld I) (agent_kept : agent.Keeps I)
    (node : GraphNode) (config : WorkerConfig) :
    Step.Keeps (workerStep prepare node config agent) I := by
  intro state
  refine (humanTurn_keepsWorld prepare_kept _ _ _).bind fun turn _ => ?_
  refine (runAgent_keepsWorld agent_kept _ _).bind fun conversation _ => ?_
  refine (finalText_keepsWorld _ _).bind fun output _ => ?_
  cases node.outputKey with
  | none => exact .pure trivial
  | some key => exact .pure trivial

theorem memberStep_keeps {agent : Agent.Reasoner σ} (agent_kept : agent.Keeps I) (key : String) :
    Step.Keeps (memberStep key agent) I := by
  intro state
  refine (Act.Keeps.ofFault _).bind fun conversation _ => ?_
  refine (runAgent_keepsWorld agent_kept _ _).bind fun result _ => ?_
  refine .ite (fun _ => .pure trivial) fun _ => ?_
  exact (finalText_keepsWorld _ _).bind fun _ _ => .pure trivial

/-- A consultation keeps what the image preparer and the model keep. -/
theorem consult_keepsWorld {prepare : ImagePreparer σ} {respond : Chat.Responder σ}
    (prepare_kept : ∀ url, (prepare url).KeepsWorld I)
    (respond_kept : Chat.Responder.Keeps respond I) (node : GraphNode) (config : SupervisorConfig)
    (state : State) : (consult prepare node config respond state).KeepsWorld I := by
  have opening : ∀ iteration, (openingTurn prepare node config state iteration).KeepsWorld I := by
    intro iteration
    rw [openingTurn]
    refine .ite (fun _ => ?_) fun _ => .pure trivial
    exact (humanTurn_keepsWorld prepare_kept _ _ _).bind fun turn _ => .pure trivial
  have asking : ∀ conversation turn,
      (askModel node config respond conversation turn).KeepsWorld I := by
    intro conversation turn
    refine Act.Keeps.describe _ ?_
    cases turn with
    | some turn => exact .bind (P := fun _ => True) (.pure trivial) fun rest _ => respond_kept _
    | none => exact (Act.Keeps.ofFault _).bind fun rest _ => respond_kept _
  refine (Act.Keeps.ofFault _).bind fun made _ => ?_
  refine .ite (fun _ => .fail _) fun _ => ?_
  refine (Act.Keeps.ofFault _).bind fun conversation _ => ?_
  refine (opening _).bind fun turn _ => ?_
  exact (asking _ _).bind fun reply _ => .pure trivial

theorem supervisorStep_keeps {prepare : ImagePreparer σ} {respond : Chat.Responder σ}
    (prepare_kept : ∀ url, (prepare url).KeepsWorld I)
    (respond_kept : Chat.Responder.Keeps respond I) (node : GraphNode)
    (config : SupervisorConfig) : Step.Keeps (supervisorStep prepare node config respond) I := by
  intro state
  rw [supervisorStep_eq]
  exact (consult_keepsWorld prepare_kept respond_kept _ _ _).bind fun c _ => .ofExcept _

theorem toolStep_keeps {transport : Tool.Transport σ} (kept : transport.Keeps I)
    (plan : ToolPlan) : Step.Keeps (toolStep plan transport) I := by
  have call : ∀ arguments, (plan.call transport arguments).KeepsWorld I := by
    intro arguments
    rw [ToolPlan.call]
    exact (kept _ _).bind fun result _ => .ofExcept _
  intro state
  exact ((call _).describe _).bind fun output _ => .pure trivial

/-! ### Building nodes -/

/-- The chat model of a client keeps what the client keeps. -/
theorem chatModel_keeps {label : String} (kept : ∀ client' ∈ client, client'.Keeps I) :
    (ofBuild (chatModel label client) : Act σ (Chat.Model σ)).Keeps I fun model =>
      model.Keeps I := by
  match client with
  | some (.chat model) => exact .pure (kept _ rfl model rfl)
  | some .other => exact .fail _
  | none => exact .fail _

theorem buildAgent_keeps (services_kept : services.Keeps I)
    (client_kept : ∀ client' ∈ client, client'.Keeps I)
    (server_kept : ∀ server ∈ transport, server.Keeps I) (label : String) :
    (buildAgent settings services.buildAgent label n client transport).Keeps I fun made =>
      made.2.Keeps I := by
  rw [buildAgent]
  refine (chatModel_keeps client_kept).bind fun model model_kept => ?_
  refine .ite (fun _ => ?_) fun _ => ?_
  · rw [Act.fail_bind]
    exact .fail _
  refine (Act.Keeps.ofExcept _).bind fun config _ => ?_
  have tools : (Act.ofExcept (Tool.offeredAll transport n.tools)).Keeps I fun offers =>
      ∀ tool ∈ offers, tool.Keeps I := by
    refine ⟨(Act.Keeps.ofExcept _).world, fun _ gives => ?_⟩
    exact Tool.offeredAll_keeps server_kept (Act.gives_ofExcept_iff.mp gives).1
  refine tools.bind fun offers offers_kept => ?_
  have agent_built := services_kept.buildAgent model_kept offers_kept
  exact ((agent_built _ _).describe _).bind fun agent kept => .pure kept

variable (services_kept : services.Keeps I) (client_kept : ∀ client' ∈ client, client'.Keeps I)
  (server_kept : ∀ server ∈ transport, server.Keeps I)

include services_kept client_kept server_kept

theorem buildMember_keeps :
    (buildMember settings services.buildAgent n client transport).Keeps I fun built =>
      Step.Keeps built.step I := by
  refine (buildAgent_keeps services_kept client_kept server_kept _).bind fun made kept => .pure ?_
  exact memberStep_keeps kept _

theorem buildWorker_keeps :
    (buildWorker settings services.buildAgent services.prepareImage n client transport).Keeps I
      fun built => Step.Keeps built.step I := by
  refine (buildAgent_keeps services_kept client_kept server_kept _).bind fun made kept => .pure ?_
  exact workerStep_keeps services_kept.prepareImage kept _ _

omit services_kept client_kept in
theorem buildTool_keeps :
    (buildTool n transport).Keeps I fun built => Step.Keeps built.step I := by
  rw [buildTool]
  split
  · cases transport with
    | none => exact .fail _
    | some transport =>
      refine (Act.Keeps.ofExcept _).bind fun config _ => ?_
      refine (Act.Keeps.ofExcept _).bind fun inputs _ => ?_
      refine (Act.Keeps.ofExcept _).bind fun outputs _ => .pure ?_
      exact toolStep_keeps (server_kept transport rfl) _
  · exact .fail _

omit server_kept in
theorem buildSupervisor_keeps (given : Option SupervisorConfig) :
    (buildSupervisor settings services.prepareImage n client given).Keeps I fun built =>
      Step.Keeps built.node.step I := by
  refine (chatModel_keeps client_kept).bind fun model model_kept => ?_
  refine (Act.Keeps.ofExcept _).bind fun config _ => ?_
  refine ((model_kept.offer _ _).describe _).bind fun respond kept => .pure ?_
  exact supervisorStep_keeps services_kept.prepareImage kept _ _

end Node

/-- The client of a request keeps what the factory keeps, whether it is made for it or not. -/
theorem Chat.Arena.get_keeps {arena : Chat.Arena (Chat.Client σ)} (services_kept : services.Keeps I)
    (arena_kept : ∀ entry ∈ arena.clients, entry.2.Keeps I) (provider name : String) :
    (arena.get services.makeClient provider name).Keeps I fun made =>
      made.1.Keeps I ∧ ∀ entry ∈ made.2.clients, entry.2.Keeps I := by
  rw [Chat.Arena.get]
  cases found : arena.find? (Chat.normalized provider name) with
  | some client =>
    -- it was put there before
    obtain ⟨_, _, same, -⟩ := List.lookup_eq_some_iff.mp found
    refine .pure ⟨arena_kept (Chat.normalized provider name, client) ?_, arena_kept⟩
    rw [same]
    exact List.mem_append_right _ List.mem_cons_self
  | none =>
    refine ((services_kept.makeClient _ _).describe _).bind fun client client_kept => .pure ?_
    refine ⟨client_kept, List.forall_mem_append.mpr ⟨arena_kept, ?_⟩⟩
    exact List.forall_mem_singleton.mpr client_kept

namespace Workflow

variable {stateKeys : List String} {owners : Record String} {supervision : Supervision}
  {clients : Record (Chat.Client σ)} {nodes : List PlanNode} {blueprint : Blueprint}

/-- The steps of a workflow keep a property of worlds. -/
def Keeps (workflow : Workflow σ) (I : σ → Prop) : Prop :=
  ∀ task ∈ workflow.tasks, Node.Step.Keeps task.node.step I

/-- The step of a part keeps a property of worlds. -/
def Part.Keeps (part : Part σ) (I : σ → Prop) : Prop := Node.Step.Keeps part.task.node.step I

/-- The clients that are made for the nodes keep what the factory keeps. -/
theorem makeClients_keeps (services_kept : services.Keeps I) (arena : Chat.Arena (Chat.Client σ))
    (arena_kept : ∀ entry ∈ arena.clients, entry.2.Keeps I) :
    (makeClients services.makeClient arena nodes).Keeps I fun clients =>
      ∀ pair ∈ clients, pair.2.Keeps I := by
  induction nodes generalizing arena with
  | nil =>
    refine .pure ?_
    intro pair member
    cases member
  | cons n nodes ih =>
    rw [makeClients]
    cases n.model with
    | none => exact ih arena arena_kept
    | some model =>
      refine (Chat.Arena.get_keeps services_kept arena_kept _ _).bind fun made kept => ?_
      refine (ih made.2 kept.2).bind fun clients clients_kept => .pure ?_
      exact List.forall_mem_cons.mpr ⟨kept.1, clients_kept⟩

theorem buildPart_keeps (services_kept : services.Keeps I)
    (clients_kept : ∀ pair ∈ clients, pair.2.Keeps I)
    (server_kept : ∀ server ∈ transport, server.Keeps I) (n : PlanNode) :
    (buildPart settings services transport owners clients n).Keeps I fun result =>
      ∀ part ∈ result, part.Keeps I := by
  have client_kept : ∀ client ∈ clients.find? n.key, client.Keeps I :=
    fun client found => clients_kept (n.key, client) (Record.mem_of_find? found)
  rw [buildPart]
  refine (Node.keeps_ofBuild _).bind fun kind _ => ?_
  cases kind with
  | supervisor => exact .pure fun part impossible => by cases impossible
  | member =>
    refine (Node.buildMember_keeps services_kept client_kept server_kept).bind fun built kept => ?_
    exact .pure fun part same => by cases same; exact kept
  | worker =>
    refine (Node.buildWorker_keeps services_kept client_kept server_kept).bind fun built kept => ?_
    exact .pure fun part same => by cases same; exact kept
  | tool =>
    refine (Node.buildTool_keeps server_kept).bind fun built kept => ?_
    refine (Act.Keeps.ofExcept _).bind fun keys _ => ?_
    exact .pure fun part same => by cases same; exact kept

theorem buildRouting_keeps (services_kept : services.Keeps I)
    (clients_kept : ∀ pair ∈ clients, pair.2.Keeps I) (n : PlanNode) :
    (buildRouting settings services supervision clients n).Keeps I fun result =>
      ∀ part ∈ result, part.Keeps I := by
  have client_kept : ∀ client ∈ clients.find? n.key, client.Keeps I :=
    fun client found => clients_kept (n.key, client) (Record.mem_of_find? found)
  rw [buildRouting]
  cases supervision.find? n.key with
  | none => exact .pure fun part impossible => by cases impossible
  | some config =>
    refine (Node.buildSupervisor_keeps services_kept client_kept _).bind fun built kept => ?_
    exact .pure fun part same => by cases same; exact kept

theorem buildEach_keeps {build : PlanNode → Act σ (Option (Part σ))}
    (each : ∀ n, (build n).Keeps I fun result => ∀ part ∈ result, part.Keeps I) :
    (buildEach build nodes).Keeps I fun parts => ∀ part ∈ parts, part.Keeps I := by
  induction nodes with
  | nil =>
    refine .pure ?_
    intro part member
    cases member
  | cons n nodes ih =>
    refine (each n).bind fun first first_kept => ih.bind fun rest rest_kept => .pure ?_
    refine List.forall_mem_append.mpr ⟨fun part member => ?_, rest_kept⟩
    exact first_kept part (Option.mem_toList.mp member)

/-- An assembly keeps what the collaborators and the tools keep, and so does every step of the
workflow that is assembled. -/
theorem assemble_keeps (services_kept : services.Keeps I)
    (server_kept : ∀ server ∈ transport, server.Keeps I) (snapshot : Option Snapshot) :
    (assemble settings services snapshot transport stateKeys).Keeps I fun workflow =>
      workflow.Keeps I := by
  refine (Act.Keeps.ofExcept _).bind fun blueprint _ => ?_
  have no_clients : ∀ entry ∈ ({} : Chat.Arena (Chat.Client σ)).clients, entry.2.Keeps I := by
    intro entry member
    cases member
  refine (makeClients_keeps services_kept {} no_clients).bind fun clients clients_kept => ?_
  refine (buildEach_keeps (buildPart_keeps services_kept clients_kept server_kept)).bind
    fun parts parts_kept => ?_
  refine (buildEach_keeps (buildRouting_keeps services_kept clients_kept)).bind
    fun routings routings_kept => ?_
  refine ⟨(Node.keeps_ofBuild _).world, fun _ gives => ?_⟩
  obtain ⟨rfl, -⟩ := join_eq_ok_iff.mp (Node.gives_ofBuild_iff.mp gives).1
  intro task member
  obtain ⟨part, among, rfl⟩ := mem_arrangeTasks member
  exact List.forall_mem_append.mpr ⟨parts_kept, routings_kept⟩ part among

end Workflow

end AgentWorkflow
