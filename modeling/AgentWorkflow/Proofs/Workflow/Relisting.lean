import AgentWorkflow.Proofs.Graph.Relisting
import AgentWorkflow.Proofs.Workflow.Refusals
import AgentWorkflow.Proofs.Workflow.Steadiness

/-!
# Assembling graphs whose parts are listed in another order

An assembly goes through the nodes of a graph four times: it collects the supervisors, it makes the
clients, and it builds the nodes that are no supervisors and then those that are. Which failure ends
the assembly depends on the order of the nodes, and so does the order in which tasks, edges and
routes are listed. Nothing else does, if the collaborators depend on nothing but what they are asked
for.

## Main definitions

* `Blueprint.RelistedAs`, `Workflow.RelistedAs`: the same, listed in another order
* `Blueprint.kind?`: the kind of a node

## Main results

* `Supervision.collect_of_perm`: who supervises whom does not depend on the order of the nodes
* `Workflow.assemble_agrees`: a snapshot is assembled in every order or in none
-/

namespace AgentWorkflow

/-- In a list of items with distinct keys, their order does not tell in what is found. -/
theorem find?_eq_of_perm {α : Type} {keyOf : α → String} {items items' : List α}
    (nodup : (items.map keyOf).Nodup) (perm : items'.Perm items) (key : String) :
    items'.find? (fun a => keyOf a == key) = items.find? fun a => keyOf a == key := by
  have looked_up (items : List α) : items.find? (fun a => keyOf a == key) =
      Record.find? (items.map fun a => (keyOf a, a)) key := by
    induction items with
    | nil => rfl
    | cons a items ih =>
      rw [List.map_cons, Record.find?_cons, List.find?_cons, ih, BEq.comm (a := key)]
      cases keyOf a == key <;> rfl
  rw [looked_up, looked_up]
  refine Record.find?_eq_of_perm ?_ (perm.map _) key
  simpa [Record.keys, Function.comp_def] using nodup

/-! ### Who supervises whom -/

namespace Supervision

variable {settings : Settings} {nodes nodes' : List PlanNode}
  {supervision : Supervision}

/-- The supervisors of a graph are collected in every order of its nodes or in none, and in another
order they are the same. -/
theorem collect_of_perm (perm : nodes'.Perm nodes) (nodup : (nodes.map PlanNode.key).Nodup)
    (collected : collect settings nodes = .ok supervision) :
    ∃ supervision', collect settings nodes' = .ok supervision' ∧ supervision'.Perm supervision := by
  have types_eq (key : String) : (nodeTypes nodes').find? key = (nodeTypes nodes).find? key := by
    refine Record.find?_eq_of_perm ?_ (perm.map _) key
    simpa [Record.keys, nodeTypes, Function.comp_def] using nodup
  obtain ⟨reads, may, distinct, free⟩ := collectFrom_eq_ok_iff.mp collected
  have supervisors :
      (nodes'.filter fun n => (nodeTypes nodes').find? n.key = some "supervisor").Perm
        (nodes.filter fun n => (nodeTypes nodes).find? n.key = some "supervisor") := by
    simp only [types_eq]
    exact perm.filter _
  obtain ⟨supervision', reads', perm'⟩ : Relation.Comp (List.Forall₂ (Reads settings)) List.Perm
      _ supervision := List.perm_comp_forall₂ supervisors reads
  have owners_perm : (owners supervision').keys.Perm supervision.owners.keys :=
    (perm'.flatMap_right _).map _
  refine ⟨supervision', collectFrom_eq_ok_iff.mpr ⟨reads', ?_, owners_perm.nodup_iff.mpr distinct,
    fun member named => free member (owners_perm.mem_iff.mp named)⟩, perm'⟩
  intro entry among member named
  obtain ⟨ne, type, found, kind⟩ := may entry (perm'.mem_iff.mp among) member named
  exact ⟨ne, type, (types_eq member).trans found, kind⟩

end Supervision

/-! ### Blueprints -/

/-- The same blueprint, with its nodes, its edges and its supervisors listed in another order. -/
structure Blueprint.RelistedAs (blueprint other : Blueprint) : Prop where
  plan : blueprint.plan.RelistedAs other.plan
  declared_eq : other.declared = blueprint.declared
  supervision : List.Perm other.supervision blueprint.supervision

/-- A snapshot has a blueprint in every order or in none. -/
theorem Blueprint.ofSnapshot_relisted {snapshot other : Snapshot} (settings : Settings)
    (relisted : snapshot.RelistedAs other) :
    Alike AnyFailure Blueprint.RelistedAs (ofSnapshot settings (some snapshot))
      (ofSnapshot settings (some other)) := by
  have valid := relisted.validate_alike.mono fun plan plan' valid relisted =>
    And.intro relisted (validate_eq_ok_iff.mp valid).2.1
  refine valid.bind fun plan plan' both => ?_
  obtain ⟨relisted, wellFormed⟩ := both
  rw [relisted.graph_eq]
  refine (Alike.refl (fun _ => trivial) _).bind fun declared _ same => ?_
  subst same
  have collected : Alike AnyFailure (fun supervision other => List.Perm other supervision)
      (Supervision.collect settings plan.nodes) (Supervision.collect settings plan'.nodes) := by
    refine .of_ok (fun supervision collected => ?_) fun supervision collected => ?_
    · exact Supervision.collect_of_perm relisted.nodes wellFormed.keys_nodup collected
    · have distinct := (relisted.wellFormed wellFormed).keys_nodup
      obtain ⟨supervision', collected', -⟩ :=
        Supervision.collect_of_perm relisted.nodes.symm distinct collected
      exact ⟨supervision', collected'⟩
  refine collected.bind fun supervision supervision' perm => ?_
  refine .ok ⟨relisted, ?_, perm⟩
  simp only [declare, perm.isEmpty_eq]

/-- The kind of the node with a key. -/
def Blueprint.kind? (blueprint : Blueprint) (key : String) : Option NodeKind :=
  (blueprint.plan.nodes.find? fun n => n.key == key).bind fun n =>
    (classify key (some n.node.type) blueprint.supervision.owners).toOption

/-- Every node keeps its kind. -/
theorem Blueprint.RelistedAs.kind?_eq {blueprint blueprint' : Blueprint}
    (relisted : blueprint.RelistedAs blueprint') (distinct : blueprint.plan.keys.Nodup)
    (key : String) : blueprint'.kind? key = blueprint.kind? key := by
  have owners_perm : List.Perm blueprint'.supervision.owners blueprint.supervision.owners :=
    relisted.supervision.flatMap_right _
  have node_eq := find?_eq_of_perm distinct relisted.plan.nodes key
  simp only [kind?, node_eq, classify, Record.has_eq_of_perm owners_perm]

/-! ### Joining -/

namespace Workflow

variable {σ : Type} {nodes nodes' : List PlanNode} {parts parts' routings routings' : List (Part σ)}
  {blueprint blueprint' : Blueprint} {stateKeys : List String} {workflow workflow' : Workflow σ}

/-- The same workflow, with its tasks, its edges and its routes listed in another order. -/
structure RelistedAs (workflow other : Workflow σ) : Prop where
  entry_eq : other.entry = workflow.entry
  tasks : other.tasks.Perm workflow.tasks
  task?_eq : ∀ key, other.task? key = workflow.task? key
  edges : other.edges.Perm workflow.edges
  routes : List.Perm other.routes workflow.routes
  route?_eq : ∀ key, other.routes.find? key = workflow.routes.find? key
  schema_eq : other.schema = workflow.schema

/-- The same parts, listed in another order. -/
structure PartsRelisted (parts other : List (Part σ)) : Prop where
  perm : other.Perm parts
  find?_eq : ∀ key, ((other.map Part.task).find? fun task => task.key == key) =
    (parts.map Part.task).find? fun task => task.key == key

theorem PartsRelisted.of_perm (perm : parts'.Perm parts)
    (nodup : (parts.map fun part => part.task.key).Nodup) : PartsRelisted parts parts' := by
  refine ⟨perm, find?_eq_of_perm ?_ (perm.map _)⟩
  rwa [List.map_map]

theorem PartsRelisted.append (relisted : PartsRelisted parts parts')
    (others : PartsRelisted routings routings') :
    PartsRelisted (parts ++ routings) (parts' ++ routings') where
  perm := relisted.perm.append others.perm
  find?_eq key := by
    simp only [List.map_append, List.find?_append, relisted.find?_eq, others.find?_eq]

theorem keys_arrangeTasks_sublist (nodes : List PlanNode) (parts : List (Part σ)) :
    ((arrangeTasks nodes parts).map Task.key).Sublist (nodes.map PlanNode.key) := by
  induction nodes with
  | nil => exact .slnil
  | cons n nodes ih =>
    rw [arrangeTasks, List.filterMap_cons]
    cases found : (parts.map Part.task).find? fun task => task.key == n.key with
    | none => exact ih.cons _
    | some task =>
      have named : task.key = n.key := by simpa using List.find?_some found
      rw [List.map_cons, List.map_cons, named]
      exact ih.cons_cons _

theorem edgesOf_perm (relisted : blueprint.RelistedAs blueprint') :
    (edgesOf blueprint').Perm (edgesOf blueprint) := by
  have owners_perm : List.Perm blueprint'.supervision.owners blueprint.supervision.owners :=
    relisted.supervision.flatMap_right _
  simp only [edgesOf, Record.has_eq_of_perm relisted.supervision]
  exact (owners_perm.map _).append ((relisted.plan.edges.filter _).map _)

theorem furtherKeys_eq_of_relisted (relisted : blueprint.RelistedAs blueprint')
    (parts_relisted : PartsRelisted parts parts') :
    furtherKeys blueprint' parts' stateKeys = furtherKeys blueprint parts stateKeys := by
  have keys_perm : (parts'.flatMap Part.keys).Perm (parts.flatMap Part.keys) :=
    parts_relisted.perm.flatMap_right _
  rw [furtherKeys, furtherKeys, relisted.supervision.isEmpty_eq]
  refine Text.sortedSet_congr fun key => ?_
  simp only [List.mem_append, keys_perm.mem_iff]

/-- Parts that are listed in another order are joined to the same workflow, listed in another
order. -/
theorem joined_relisted (relisted : blueprint.RelistedAs blueprint')
    (distinct : blueprint.plan.keys.Nodup) (supervisors_distinct : blueprint.supervision.keys.Nodup)
    (parts_relisted : PartsRelisted parts parts') (stateKeys : List String) :
    (joined blueprint parts stateKeys).RelistedAs (joined blueprint' parts' stateKeys) := by
  have tasks : (joined blueprint' parts' stateKeys).tasks.Perm
      (joined blueprint parts stateKeys).tasks := by
    simp only [joined, arrangeTasks, parts_relisted.find?_eq]
    exact relisted.plan.nodes.filterMap _
  have routes : List.Perm (joined blueprint' parts' stateKeys).routes
      (joined blueprint parts stateKeys).routes :=
    relisted.supervision.map _
  have edges_perm := edgesOf_perm relisted
  exact {
    entry_eq := congrArg GraphMeta.entry relisted.plan.graph_eq
    tasks
    task?_eq := find?_eq_of_perm ((keys_arrangeTasks_sublist _ _).nodup distinct) tasks
    edges := by
      -- repeated edges are dropped, so that it is not the lists that are permuted
      refine (List.perm_ext_iff_of_nodup (Text.nodup_eraseDups _) (Text.nodup_eraseDups _)).mpr ?_
      intro edge
      rw [List.mem_eraseDups, List.mem_eraseDups, edges_perm.mem_iff]
    routes
    route?_eq := by
      refine Record.find?_eq_of_perm ?_ routes
      simpa [joined, Record.keys, Function.comp_def] using supervisors_distinct
    schema_eq := by
      rw [joined, joined, furtherKeys_eq_of_relisted relisted parts_relisted,
        relisted.declared_eq] }

/-- The engine takes a workflow in every order or in none. -/
theorem join_eq_ok_of_relisted
    (relisted : (joined blueprint parts stateKeys).RelistedAs (joined blueprint' parts' stateKeys))
    (joins : join blueprint parts stateKeys = .ok workflow) :
    join blueprint' parts' stateKeys = .ok (joined blueprint' parts' stateKeys) := by
  obtain ⟨rfl, taken, free⟩ := join_eq_ok_iff.mp joins
  refine join_eq_ok_iff.mpr ⟨rfl, fun task member => taken task (relisted.tasks.mem_iff.mp member),
    fun key member => free key ?_⟩
  rw [relisted.schema_eq] at member
  have keys_perm := (relisted.tasks.map Task.key).append_right
    (Record.keys (joined blueprint parts stateKeys).schema)
  exact keys_perm.mem_iff.mp member

theorem RelistedAs.symm (relisted : workflow.RelistedAs workflow') :
    workflow'.RelistedAs workflow where
  entry_eq := relisted.entry_eq.symm
  tasks := relisted.tasks.symm
  task?_eq key := (relisted.task?_eq key).symm
  edges := relisted.edges.symm
  routes := relisted.routes.symm
  route?_eq key := (relisted.route?_eq key).symm
  schema_eq := relisted.schema_eq.symm

theorem join_alike (relisted : blueprint.RelistedAs blueprint')
    (distinct : blueprint.plan.keys.Nodup) (supervisors_distinct : blueprint.supervision.keys.Nodup)
    (parts_relisted : PartsRelisted parts parts') (stateKeys : List String) :
    Alike AnyFailure RelistedAs (join blueprint parts stateKeys)
      (join blueprint' parts' stateKeys) := by
  have same := joined_relisted relisted distinct supervisors_distinct parts_relisted stateKeys
  refine .of_ok (fun workflow joins => ?_) fun workflow' joins => ?_
  · obtain ⟨rfl, -⟩ := join_eq_ok_iff.mp joins
    exact ⟨_, join_eq_ok_of_relisted same joins, same⟩
  · exact ⟨_, join_eq_ok_of_relisted same.symm joins⟩

/-! ### Building -/

variable {settings : Settings} {services : Services σ} {transport : Option (Tool.Transport σ)}
  {owners owners' : Record String} {clients clients' : Record (Chat.Client σ)}
  {supervision supervision' : Supervision}

/-- A node that is no supervisor is built from its own client and from whether it is owned. -/
theorem buildPart_congr {n : PlanNode} (owned : owners'.has n.key = owners.has n.key)
    (served : clients'.find? n.key = clients.find? n.key) :
    buildPart settings services transport owners' clients' n =
      buildPart settings services transport owners clients n := by
  simp only [buildPart, classify, owned, served]

/-- A supervisor is built from its own client and its own configuration. -/
theorem buildRouting_congr {n : PlanNode}
    (configured : supervision'.find? n.key = supervision.find? n.key)
    (served : clients'.find? n.key = clients.find? n.key) :
    buildRouting settings services supervision' clients' n =
      buildRouting settings services supervision clients n := by
  rw [buildRouting, buildRouting, configured, served]

theorem key_of_buildRouting {n : PlanNode} {part : Part σ} {before after : σ}
    (built : (buildRouting settings services supervision clients n).Gives before (some part)
      after) : part.task.key = n.key := by
  rcases gives_buildRouting built with ⟨-, impossible⟩ | ⟨config, _, respond, -, same, task_eq, -⟩
  · cases impossible
  · cases same
    rw [task_eq]
    rfl

/-- Clients that were made for nodes, in the order of these. -/
structure ClientsRelisted (services : Services σ) (clients other : Record (Chat.Client σ)) :
    Prop where
  perm : List.Perm other clients
  keys_nodup : clients.keys.Nodup
  made : ∀ pair ∈ clients, services.Makes pair.2

theorem makeClients_relisted (fixed : services.IsFixed) (perm : nodes'.Perm nodes)
    (distinct : (nodes.map PlanNode.key).Nodup) :
    (makeClients services.makeClient {} nodes).Agrees AnyFailure (ClientsRelisted services)
      (makeClients services.makeClient {} nodes') := by
  have serves := Chat.Arena.serves_empty services.makeClient
  have alone := fun nodes => makeClients_agrees fixed.makeClient serves nodes
  have gathered : (Act.gather (clientOf services.makeClient) nodes).Agrees AnyFailure
      (ClientsRelisted services) (Act.gather (clientOf services.makeClient) nodes') := by
    have steady := clientOf_isSteady fixed.makeClient
    refine (Act.gather_agrees_of_perm perm.symm fun n _ => steady n).mono
      fun clients clients' gives listed => ?_
    obtain ⟨before, after, gives⟩ := gives
    have named : (clients.map Prod.fst).Sublist (nodes.map PlanNode.key) :=
      Act.map_sublist_of_gather (fun gives => (gives_clientOf gives).1) gives
    refine ⟨listed.symm, named.nodup distinct, fun pair member => ?_⟩
    obtain ⟨n, -, before, after, one⟩ := Act.exists_of_mem_gather gives member
    obtain ⟨-, provider, name, made⟩ := gives_clientOf one
    exact ⟨provider, name, before, after, made⟩
  -- without sharing the clients, with the nodes in the other order, and sharing them again
  have here := (alone nodes).trans gathered fun _ _ _ same listed => same ▸ listed
  exact here.trans (alone nodes').symm fun _ _ _ listed same => same ▸ listed

/-- Nodes are built in every order or in none. -/
theorem buildEach_relisted {build : PlanNode → Act σ (Option (Part σ))} (perm : nodes'.Perm nodes)
    (distinct : (nodes.map PlanNode.key).Nodup) (steady : ∀ n, (build n).IsSteady)
    (named : ∀ {n part before after}, (build n).Gives before (some part) after →
      part.task.key = n.key) :
    (buildEach build nodes).Agrees AnyFailure PartsRelisted (buildEach build nodes') := by
  rw [buildEach_eq_gather, buildEach_eq_gather]
  have gathered := Act.gather_agrees_of_perm perm.symm fun n _ => steady n
  refine gathered.mono fun parts parts' gives listed => ?_
  obtain ⟨before, after, gives⟩ := gives
  exact .of_perm listed.symm ((Act.map_sublist_of_gather named gives).nodup distinct)

theorem build_relisted (fixed : services.IsFixed) (relisted : blueprint.RelistedAs blueprint')
    (distinct : blueprint.plan.keys.Nodup) (supervisors_distinct : blueprint.supervision.keys.Nodup)
    (stateKeys : List String) :
    (build settings services transport stateKeys blueprint).Agrees AnyFailure RelistedAs
      (build settings services transport stateKeys blueprint') := by
  have nodes_perm := relisted.plan.nodes
  have owners_perm : List.Perm blueprint'.supervision.owners blueprint.supervision.owners :=
    relisted.supervision.flatMap_right _
  refine (makeClients_relisted fixed nodes_perm distinct).bind fun clients clients' served => ?_
  -- every node is built by the same act as before, since it is built from its own entries
  have client_eq := Record.find?_eq_of_perm served.keys_nodup served.perm
  have part_eq : buildPart settings services transport blueprint'.supervision.owners clients' =
      buildPart settings services transport blueprint.supervision.owners clients :=
    funext fun n => buildPart_congr (Record.has_eq_of_perm owners_perm n.key) (client_eq n.key)
  have routing_eq : buildRouting settings services blueprint'.supervision clients' =
      buildRouting settings services blueprint.supervision clients :=
    funext fun n => buildRouting_congr
      (Record.find?_eq_of_perm supervisors_distinct relisted.supervision n.key) (client_eq n.key)
  rw [part_eq, routing_eq]
  refine (buildEach_relisted nodes_perm distinct (buildPart_isSteady fixed served.made)
    fun gives => (builtAs_of_buildPart gives).2.1).bind fun parts parts' parts_relisted => ?_
  refine (buildEach_relisted nodes_perm distinct (buildRouting_isSteady fixed served.made)
    key_of_buildRouting).bind fun routings routings' routings_relisted => ?_
  exact Node.ofBuild_agrees (join_alike relisted distinct supervisors_distinct
    (parts_relisted.append routings_relisted) stateKeys)

/-- A snapshot is assembled in every order or in none. -/
theorem assemble_agrees {snapshot other : Snapshot} (fixed : services.IsFixed)
    (relisted : snapshot.RelistedAs other) (stateKeys : List String) :
    (assemble settings services (some snapshot) transport stateKeys).Agrees AnyFailure RelistedAs
      (assemble settings services (some other) transport stateKeys) := by
  have drawn := (Blueprint.ofSnapshot_relisted settings relisted).mono
    fun blueprint blueprint' drawn same => And.intro same (Blueprint.faithful_of_ofSnapshot drawn)
  refine (Act.Agrees.ofExcept drawn).bind fun blueprint blueprint' both => ?_
  obtain ⟨same, faithful⟩ := both
  exact build_relisted fixed same faithful.wellFormed.keys_nodup faithful.keys_nodup stateKeys

end Workflow

end AgentWorkflow
