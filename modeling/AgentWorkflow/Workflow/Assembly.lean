import AgentWorkflow.Chat.Arena
import AgentWorkflow.Node.Supervisor
import AgentWorkflow.Node.ToolCall
import AgentWorkflow.Node.Worker
import AgentWorkflow.Text.Order
import AgentWorkflow.Workflow.Basic
import AgentWorkflow.Workflow.Supervision

/-!
Workflows assembled from snapshots.

First comes everything that asks no collaborator: the check of the snapshot, its schema, and who
supervises whom. Then the model clients are made, in the order of the nodes; then workers and tool
nodes are built, and then supervisors. The first failure ends the assembly.

An explicit edge that leaves a supervisor is dropped, since supervisors have routes instead. Each
member has an edge back to its supervisor.
-/

namespace AgentWorkflow

/-- The collaborators that workflows are assembled from. -/
structure Services (σ : Type) where
  makeClient : Chat.ClientFactory σ
  buildAgent : Agent.Builder σ
  prepareImage : Node.ImagePreparer σ

/-- What a snapshot asks for, before any collaborator is asked: the graph, the declared keys of its
state, and its supervisors. -/
structure Blueprint where
  plan : GraphPlan
  declared : Schema
  supervision : Supervision

namespace Blueprint

/-- The declared keys. With supervisors, the shared conversation is appended to. -/
def declare (supervision : Supervision) (declared : Schema) : Schema :=
  if supervision.isEmpty then declared else declared.put messagesKey .append

/-- The blueprint of a snapshot. -/
def ofSnapshot (settings : Settings) (snapshot : Option Snapshot) : Except Failure Blueprint := do
  let plan ← validate snapshot
  let declared ← Schema.parse plan.graph.stateSchema
  let supervision ← Supervision.collect settings plan.nodes
  return { plan, declared := declare supervision declared, supervision }

end Blueprint

/-- Keys that the engine keeps for itself. -/
def reservedKeys : List String :=
  ["__input__", "__interrupt__", "__resume__", "__error__", "__no_writes__", "__pregel_push",
    "__pregel_pull"]

/-- The key that stands for the start of a workflow. -/
def startMark : String := "__start__"

/-- The key that stands for the end of a workflow. -/
def endMark : String := "__end__"

/-- Whether a node may have a key. -/
def isNodeKey (key : String) : Bool :=
  key != startMark && key != endMark && key.toList.all fun c => c != '|' && c != ':'

namespace Workflow

variable {σ : Type}

/-- The clients of the nodes that carry a model, by node key. -/
def makeClients (factory : Chat.ClientFactory σ) :
    Chat.Arena (Chat.Client σ) → List PlanNode → Act σ (Record (Chat.Client σ))
  | _, [] => pure []
  | arena, node :: nodes =>
    match node.model with
    | none => makeClients factory arena nodes
    | some model => do
      let (client, arena) ← arena.get factory model.provider model.name
      let clients ← makeClients factory arena nodes
      return (node.key, client) :: clients

/-- The state keys that the stored node itself names. -/
def ownKeys (node : GraphNode) : List String :=
  (node.inputKey.toList ++ node.outputKey.toList).filter (· != "")

/-- A node that has been built, with its deadline and the state keys that it uses. -/
structure Part (σ : Type) where
  task : Task σ
  keys : List String

/-- Builds a node that is no supervisor. Supervisors are passed over. -/
def buildPart (settings : Settings) (services : Services σ) (transport : Option (Tool.Transport σ))
    (owners : Record String) (clients : Record (Chat.Client σ)) (node : PlanNode) :
    Act σ (Option (Part σ)) := do
  let kind ← Node.ofBuild (classify node.key (some node.node.type) owners)
  let client := clients.find? node.key
  let seconds :=
    if owners.has node.key then settings.memberTimeoutSeconds else settings.nodeTimeoutSeconds
  match kind with
  | .supervisor => return none
  | .member =>
    let built ← Node.buildMember settings services.buildAgent node client transport
    return some { task := ⟨built, seconds⟩, keys := ownKeys node.node }
  | .worker =>
    let built ←
      Node.buildWorker settings services.buildAgent services.prepareImage node client transport
    return some { task := ⟨built, seconds⟩, keys := ownKeys node.node }
  | .tool =>
    let built ← Node.buildTool node transport
    let keys ← Act.ofExcept (Node.toolStateKeys node)
    return some { task := ⟨built, seconds⟩, keys := keys ++ ownKeys node.node }

/-- Builds a supervisor. Other nodes are passed over. -/
def buildRouting (settings : Settings) (services : Services σ) (supervision : Supervision)
    (clients : Record (Chat.Client σ)) (node : PlanNode) : Act σ (Option (Part σ)) :=
  match supervision.find? node.key with
  | none => pure none
  | some config => do
    let built ← Node.buildSupervisor settings services.prepareImage node (clients.find? node.key)
      (some config)
    return some { task := ⟨built.node, built.config.timeoutSeconds⟩, keys := ownKeys node.node }

/-- Goes through nodes and keeps what is built. -/
def buildEach (build : PlanNode → Act σ (Option (Part σ))) : List PlanNode → Act σ (List (Part σ))
  | [] => pure []
  | node :: nodes => do
    let part ← build node
    let parts ← buildEach build nodes
    return part.toList ++ parts

/-- The edges of a workflow: from members back to their supervisors, and the explicit ones that
leave no supervisor. -/
def edgesOf (blueprint : Blueprint) : List Edge :=
  (blueprint.supervision.owners.map fun (member, supervisor) => ⟨member, .node supervisor⟩) ++
  (blueprint.plan.edges.filter fun edge => !blueprint.supervision.has edge.source).map fun edge =>
    ⟨edge.source, if edge.target == endKey then .finish else .node edge.target⟩

/-- The state keys that are carried besides the declared ones, in order. -/
def furtherKeys (blueprint : Blueprint) (parts : List (Part σ)) (stateKeys : List String) :
    List String :=
  Text.sortedSet (stateKeys ++ parts.flatMap Part.keys ++
    (if blueprint.supervision.isEmpty then [] else [decisionKey, iterationKey]) ++ [messagesKey])

/-- The tasks of a workflow in the order of the nodes. -/
def arrangeTasks (nodes : List PlanNode) (parts : List (Part σ)) : List (Task σ) :=
  nodes.filterMap fun node => (parts.map Part.task).find? fun task => task.key == node.key

/-- Joins what has been built. The engine refuses keys that it needs itself. -/
def join (blueprint : Blueprint) (parts : List (Part σ)) (stateKeys : List String) :
    Except BuildIssue (Workflow σ) := do
  let tasks := arrangeTasks blueprint.plan.nodes parts
  let schema := Schema.build blueprint.declared (furtherKeys blueprint parts stateKeys)
  match tasks.find? fun task => !isNodeKey task.key with
  | some task => throw (.nodeRefused task.key)
  | none => pure ()
  if (tasks.map Task.key ++ Record.keys schema).any reservedKeys.contains then throw .graphRefused
  return {
    entry := blueprint.plan.graph.entry
    tasks
    edges := (edgesOf blueprint).eraseDups
    routes := blueprint.supervision.map fun (supervisor, config) => (supervisor, config.members)
    schema }

/-- Builds the nodes of a blueprint and joins them. -/
def build (settings : Settings) (services : Services σ) (transport : Option (Tool.Transport σ))
    (stateKeys : List String) (blueprint : Blueprint) : Act σ (Workflow σ) := do
  let nodes := blueprint.plan.nodes
  let clients ← makeClients services.makeClient {} nodes
  let parts ← buildEach
    (buildPart settings services transport blueprint.supervision.owners clients) nodes
  let routings ← buildEach (buildRouting settings services blueprint.supervision clients) nodes
  Node.ofBuild (join blueprint (parts ++ routings) stateKeys)

/-- Assembles a workflow from a snapshot. `stateKeys` are further keys that the state carries. -/
def assemble (settings : Settings) (services : Services σ) (snapshot : Option Snapshot)
    (transport : Option (Tool.Transport σ)) (stateKeys : List String) : Act σ (Workflow σ) := do
  let blueprint ← Act.ofExcept (Blueprint.ofSnapshot settings snapshot)
  build settings services transport stateKeys blueprint

end Workflow

end AgentWorkflow
