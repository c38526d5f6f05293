import AgentWorkflow.Proofs.Agreement
import AgentWorkflow.Proofs.Workflow.Tasks

/-!
# What is built by collaborators that do not look at the world

A model factory and an agent builder may depend on nothing but what they are asked for. Then so does
every node that is built by them, and it makes no difference when it is built, or after which other
nodes.

Requests for the same model share a client. For such a factory, sharing is not to be noticed: every
node has the client that the factory makes for it alone.

## Main definitions

* `Services.IsFixed`: collaborators that depend on nothing but what they are asked for
* `Workflow.clientOf`: the client of one node, made for it alone

## Main results

* `Workflow.makeClients_agrees`: sharing clients is not to be noticed
* `Workflow.buildPart_isSteady`, `Workflow.buildRouting_isSteady`: so it is with nodes
-/

namespace AgentWorkflow

variable {σ : Type} {settings : Settings} {services : Services σ}
  {transport : Option (Tool.Transport σ)} {n : PlanNode} {client : Option (Chat.Client σ)}

/-- A client that the factory makes. -/
def Services.Makes (services : Services σ) (client : Chat.Client σ) : Prop :=
  ∃ provider name before after, (services.makeClient provider name).Gives before client after

/-- The collaborators that take part in building depend on nothing but what they are asked for. -/
structure Services.IsFixed (services : Services σ) : Prop where
  makeClient : ∀ provider name, (services.makeClient provider name).IsFixed
  offer : ∀ {model}, services.Makes (.chat model) → ∀ tools forced,
    (model.offer tools forced).IsFixed
  buildAgent : ∀ {model}, services.Makes (.chat model) → ∀ tools maxIterations systemMessage,
    (services.buildAgent model tools maxIterations systemMessage).IsFixed

/-! ### Nodes -/

namespace Node

theorem ofBuild_agrees {α β : Type} {related : α → β → Prop} {x : Except BuildIssue α}
    {y : Except BuildIssue β} (alike : Alike AnyFailure related x y) :
    (ofBuild x : Act σ α).Agrees AnyFailure related (ofBuild y) := by
  cases alike with
  | error _ => exact .throw trivial
  | ok results => exact .pure results

theorem ofBuild_isSteady {α : Type} (outcome : Except BuildIssue α) :
    (ofBuild outcome : Act σ α).IsSteady :=
  ofBuild_agrees (.refl (fun _ => trivial) outcome)

/-- The chat model of a client that was made. -/
theorem makes_of_chatModel {label : String} {model : Chat.Model σ}
    (made : ∀ client' ∈ client, services.Makes client')
    (gives : ∃ before after, (ofBuild (chatModel label client) : Act σ (Chat.Model σ)).Gives before
      model after) : services.Makes (.chat model) := by
  obtain ⟨before, after, gives⟩ := gives
  have found := (gives_ofBuild_iff.mp gives).1
  match client with
  | some (.chat _) =>
    cases found
    exact made _ rfl
  | some .other => cases found
  | none => cases found

theorem buildTool_isSteady (n : PlanNode) (transport : Option (Tool.Transport σ)) :
    (buildTool n transport).IsSteady := by
  rw [buildTool]
  split
  · cases transport with
    | none => exact .fail _
    | some transport =>
      refine (Act.IsSteady.ofExcept _).bind fun config _ => ?_
      refine (Act.IsSteady.ofExcept _).bind fun inputs _ => ?_
      exact (Act.IsSteady.ofExcept _).bind fun outputs _ => .pure _
  · exact .fail _

variable (fixed : services.IsFixed) (made : ∀ client' ∈ client, services.Makes client')

include fixed made

theorem buildAgent_isSteady (label : String) :
    (buildAgent settings services.buildAgent label n client transport).IsSteady := by
  rw [buildAgent]
  refine (ofBuild_isSteady _).bind fun model gives => ?_
  have agent_fixed := fixed.buildAgent (makes_of_chatModel made gives)
  refine .ite ?_ ?_
  · rw [Act.fail_bind]
    exact .fail _
  refine (Act.IsSteady.ofExcept _).bind fun config _ => ?_
  refine (Act.IsSteady.ofExcept _).bind fun tools _ => ?_
  exact ((agent_fixed _ _ _).isSteady.describe _).bind fun agent _ => .pure _

theorem buildMember_isSteady :
    (buildMember settings services.buildAgent n client transport).IsSteady :=
  (buildAgent_isSteady fixed made _).bind fun _ _ => .pure _

theorem buildWorker_isSteady :
    (buildWorker settings services.buildAgent services.prepareImage n client transport).IsSteady :=
  (buildAgent_isSteady fixed made _).bind fun _ _ => .pure _

theorem buildSupervisor_isSteady (given : Option SupervisorConfig) :
    (buildSupervisor settings services.prepareImage n client given).IsSteady := by
  refine (ofBuild_isSteady _).bind fun model gives => ?_
  have offer_fixed := fixed.offer (makes_of_chatModel made gives)
  refine (Act.IsSteady.ofExcept _).bind fun config _ => ?_
  exact ((offer_fixed _ _).isSteady.describe _).bind fun respond _ => .pure _

end Node

/-! ### Clients -/

/-- An arena serves a factory if every client in it is the one that the factory makes. -/
def Chat.Arena.Serves (arena : Arena (Client σ)) (factory : ClientFactory σ) : Prop :=
  ∀ key client, arena.find? key = some client →
    ∀ before, ((factory key.1 key.2).outcome before).1 = .ok client

theorem Chat.Arena.serves_empty (factory : ClientFactory σ) :
    Serves ({} : Arena (Client σ)) factory := by
  intro key client found
  cases found

theorem Chat.Arena.Serves.append {arena : Arena (Client σ)} {factory : ClientFactory σ}
    (serves : arena.Serves factory) {key : String × String} {client : Client σ}
    (made : ∀ before, ((factory key.1 key.2).outcome before).1 = .ok client) :
    Serves { clients := arena.clients ++ [(key, client)] } factory := by
  intro other client' found
  rw [find?, List.lookup_append, Option.or_eq_some_iff] at found
  rcases found with held | ⟨-, last⟩
  · exact serves other client' held
  · rw [List.lookup_cons] at last
    split at last
    · rename_i same
      rw [beq_iff_eq.mp same]
      cases last
      exact made
    · cases last

/-- The client of a request is the one that the factory makes for it. -/
theorem Chat.Arena.get_agrees {arena : Arena (Client σ)} {factory : ClientFactory σ}
    (fixed : ∀ provider name, (factory provider name).IsFixed) (serves : arena.Serves factory)
    (provider name : String) :
    (arena.get factory provider name).Agrees AnyFailure
      (fun made client => made.1 = client ∧ made.2.Serves factory)
      ((factory (normalized provider name).1 (normalized provider name).2).describe
        (clientFailure (normalized provider name))) := by
  intro before before'
  rw [get, Act.outcome_describe]
  generalize normalized provider name = key
  cases found : arena.find? key with
  | some client =>
    have made := serves key client found before'
    generalize (factory key.1 key.2).outcome before' = came at made ⊢
    obtain ⟨_, after⟩ := came
    cases made
    exact .ok ⟨rfl, serves⟩
  | none =>
    -- the request of the arena and the one for the node alone are made in different worlds
    have same := fixed key.1 key.2 before
    have again := same before'
    simp only [Act.outcome_bind, Act.outcome_describe]
    generalize (factory key.1 key.2).outcome before = came at same again ⊢
    generalize (factory key.1 key.2).outcome before' = came' at again ⊢
    obtain ⟨failure | client, after⟩ := came <;> obtain ⟨_, after'⟩ := came' <;> cases again
    · exact .error trivial
    · exact .ok ⟨rfl, serves.append same⟩

namespace Workflow

/-- The client of a node that carries a model, made for it alone. -/
def clientOf (factory : Chat.ClientFactory σ) (n : PlanNode) :
    Act σ (Option (String × Chat.Client σ)) :=
  match n.model with
  | none => pure none
  | some model => do
    let key := Chat.normalized model.provider model.name
    let client ← (factory key.1 key.2).describe (Chat.clientFailure key)
    return some (n.key, client)

theorem gives_clientOf {factory : Chat.ClientFactory σ} {before after : σ} {key : String}
    {client : Chat.Client σ}
    (gives : (clientOf factory n).Gives before (some (key, client)) after) :
    key = n.key ∧ ∃ provider name, (factory provider name).Gives before client after := by
  rw [clientOf] at gives
  cases carried : n.model with
  | none =>
    rw [carried] at gives
    cases (Act.gives_pure_iff.mp gives).1
  | some model =>
    rw [carried] at gives
    simp only [Act.gives_bind_iff, Act.gives_describe_iff, Act.gives_pure_iff] at gives
    obtain ⟨_, _, made, same, rfl⟩ := gives
    cases same
    exact ⟨rfl, _, _, made⟩

theorem clientOf_isSteady {factory : Chat.ClientFactory σ}
    (fixed : ∀ provider name, (factory provider name).IsFixed) (n : PlanNode) :
    (clientOf factory n).IsSteady := by
  rw [clientOf]
  cases n.model with
  | none => exact .pure none
  | some model => exact ((fixed _ _).isSteady.describe _).bind fun client _ => .pure _

/-- Sharing clients is not to be noticed: every node has the client that is made for it alone. -/
theorem makeClients_agrees {factory : Chat.ClientFactory σ}
    (fixed : ∀ provider name, (factory provider name).IsFixed)
    {arena : Chat.Arena (Chat.Client σ)} (serves : arena.Serves factory) (nodes : List PlanNode) :
    (makeClients factory arena nodes).Agrees AnyFailure Eq
      (Act.gather (clientOf factory) nodes) := by
  induction nodes generalizing arena with
  | nil => exact .pure rfl
  | cons n nodes ih =>
    rw [makeClients, Act.gather, clientOf]
    cases n.model with
    | none =>
      simp only [pure_bind, Option.toList_none, List.nil_append, bind_pure]
      exact ih serves
    | some model =>
      simp only [bind_assoc, pure_bind, Option.toList_some, List.singleton_append]
      refine (Chat.Arena.get_agrees fixed serves _ _).bind fun made client same => ?_
      obtain ⟨rfl, serves'⟩ := same
      refine (ih serves').bind fun clients _ same => .pure ?_
      rw [same]

/-! ### Nodes, with the clients of all of them -/

variable {owners : Record String} {supervision : Supervision} {clients : Record (Chat.Client σ)}

theorem buildPart_isSteady (fixed : services.IsFixed)
    (made : ∀ pair ∈ clients, services.Makes pair.2) (n : PlanNode) :
    (buildPart settings services transport owners clients n).IsSteady := by
  have client_made : ∀ client ∈ clients.find? n.key, services.Makes client :=
    fun client found => made (n.key, client) (Record.mem_of_find? found)
  refine (Node.ofBuild_isSteady _).bind fun kind _ => ?_
  cases kind with
  | supervisor => exact .pure none
  | member => exact (Node.buildMember_isSteady fixed client_made).bind fun _ _ => .pure _
  | worker => exact (Node.buildWorker_isSteady fixed client_made).bind fun _ _ => .pure _
  | tool =>
    refine (Node.buildTool_isSteady n transport).bind fun _ _ => ?_
    exact (Act.IsSteady.ofExcept _).bind fun _ _ => .pure _

theorem buildRouting_isSteady (fixed : services.IsFixed)
    (made : ∀ pair ∈ clients, services.Makes pair.2) (n : PlanNode) :
    (buildRouting settings services supervision clients n).IsSteady := by
  have client_made : ∀ client ∈ clients.find? n.key, services.Makes client :=
    fun client found => made (n.key, client) (Record.mem_of_find? found)
  rw [buildRouting]
  cases supervision.find? n.key with
  | none => exact .pure none
  | some config =>
    exact (Node.buildSupervisor_isSteady fixed client_made _).bind fun _ _ => .pure _

end Workflow

end AgentWorkflow
