import AgentWorkflow.Proofs.Run.Faults
import AgentWorkflow.Proofs.Store.Ordering

/-!
# What the snapshot of a stored graph says

A snapshot has an order that is told by what is in the rows: nodes stand in the order of their keys,
edges in that of their ends, and the tools of a node in that of their names and identifiers. The
constraints of the tables see to it that no two of them have the same place. So a store that has the
same rows in another order gives the same snapshot.

What a snapshot says about a graph can then be described without the functions that load it: which
rows are told, that each of them is told once, and in which order they stand.

## Main definitions

* `Store.Database.IsKeyed`: the constraints that loading relies on
* `Store.Database.RelistedAs`: the same rows in another order
* `Store.Database.Tells`: what the snapshot of a graph says

## Main results

* `Store.snapshotOf_eq_ok_iff`: the snapshot of a graph is what tells of it
* `Store.snapshotOf_relisted`: it does not depend on the order of the rows
* `Store.loadSnapshot_tells`: what is loaded
-/

namespace AgentWorkflow

namespace Store

namespace Database

/-- The constraints that loading relies on: rows are told apart by their identifiers, nodes by
their graph and their key, tools by their names, too, and no tool is assigned and no edge is drawn
twice. What rows refer to is there. -/
structure IsKeyed (db : Database) : Prop where
  models : (db.models.map ModelRow.id).Nodup
  tools : (db.tools.map ToolRow.id).Nodup
  tool_names : (db.tools.map ToolRow.name).Nodup
  graphs : (db.graphs.map GraphRow.id).Nodup
  nodes : (db.nodes.map fun row => (row.graph, row.key)).Nodup
  nodeTools : db.nodeTools.Nodup
  edges : db.edges.Nodup
  exists_tool : ∀ link ∈ db.nodeTools, ∃ tool ∈ db.tools, tool.id = link.tool

theorem isKeyed_of_isConsistent {db : Database} (consistent : db.isConsistent = true) :
    db.IsKeyed := by
  simp only [isConsistent, isUnique, isClosed, Bool.and_eq_true, List.all_eq_true, List.any_eq_true,
    beq_iff_eq, and_assoc] at consistent
  obtain ⟨models, -, tools, tool_names, graphs, -, nodes, nodeTools, edges, -, -, -, -, known, -⟩ :=
    consistent
  exact {
    models := nodup_of_distinctBy models
    tools := nodup_of_distinctBy tools
    tool_names := nodup_of_distinctBy tool_names
    graphs := nodup_of_distinctBy graphs
    nodes := nodup_of_distinctBy nodes
    nodeTools := by simpa using nodup_of_distinctBy nodeTools
    edges := by simpa using nodup_of_distinctBy edges
    exists_tool := fun link member => (known link member).2 }

/-- Another database has the same rows in the tables that graphs are loaded from, in some order. -/
structure RelistedAs (db other : Database) : Prop where
  models : other.models.Perm db.models
  tools : other.tools.Perm db.tools
  graphs : other.graphs.Perm db.graphs
  nodes : other.nodes.Perm db.nodes
  nodeTools : other.nodeTools.Perm db.nodeTools
  edges : other.edges.Perm db.edges

end Database

/-! ### What a snapshot says -/

/-- A tool in a snapshot tells of a stored one. -/
def ToolRow.ToldAs (row : ToolRow) (ref : ToolRef) : Prop :=
  ∃ inputSchema outputSchema, Stored.ofValue? row.inputSchema = some inputSchema ∧
    Stored.ofValue? row.outputSchema = some outputSchema ∧
    ref = { name := row.name, description := row.description, inputSchema, outputSchema }

namespace Database

/-- The tools of a node in the order in which they are told: each one that is assigned to it, once,
by name and identifier. -/
structure ToolsInOrder (db : Database) (node : NodeRow) (rows : List ToolRow) : Prop where
  stored : ∀ tool ∈ rows, tool ∈ db.tools
  assigned : (rows.map fun tool => (⟨node.id, tool.id⟩ : NodeToolRow)).Perm
    (db.nodeTools.filter fun link => link.node == node.id)
  ordered : rows.Pairwise fun a b => Precedes (a.name, a.id.text) (b.name, b.id.text)

/-- The model that a node refers to. -/
def HasModel (db : Database) (node : NodeRow) (ref : ModelRef) : Prop :=
  ∃ model ∈ db.models, node.model = some model.id ∧
    ref = { provider := model.provider, name := model.name }

/-- A part of a snapshot tells of a stored node, with its model and its tools. -/
structure TellsNode (db : Database) (row : NodeRow) (part : SnapshotNode) : Prop where
  node : ∃ config, Stored.ofValue? row.config = some config ∧ part.node = some {
    id := row.id.text
    key := row.key
    type := row.type
    config
    inputKey := row.inputKey
    outputKey := row.outputKey }
  model : ∀ ref, part.model = some ref ↔ db.HasModel row ref
  tools : ∃ rows, db.ToolsInOrder row rows ∧ List.Forall₂ ToolRow.ToldAs rows part.tools

/-- A snapshot tells of a stored graph: of its nodes, each one once and by key, and of its edges,
each one once and by its ends. -/
structure Tells (db : Database) (graph : GraphRow) (snapshot : Snapshot) : Prop where
  described : ∃ stateSchema, Stored.ofValue? graph.stateSchema = some stateSchema ∧
    snapshot.graph = some
      { id := graph.id.text, name := graph.name, entry := graph.entry, stateSchema }
  nodes : ∃ rows : List NodeRow, rows.Perm (db.nodes.filter fun row => row.graph == graph.id) ∧
    (rows.Pairwise fun a b => a.key < b.key) ∧
    List.Forall₂ (fun row told => ∃ part, told = some part ∧ db.TellsNode row part) rows
      snapshot.nodes
  edges : ∃ rows : List EdgeRow, rows.Perm (db.edges.filter fun row => row.graph == graph.id) ∧
    (rows.Pairwise fun a b => Precedes (a.source, a.target) (b.source, b.target)) ∧
    snapshot.edges = rows.map fun row => some ⟨row.source, row.target⟩

end Database

variable {db other : Database} {graph : GraphRow} {node : NodeRow} {graphId : String}

theorem column_eq_ok_iff {name : String} {value : Value} {document : Stored} :
    column name value = .ok document ↔ Stored.ofValue? value = some document := by
  simp only [column, Checked.under_eq_ok_iff, Field.stored]
  cases Stored.ofValue? value <;> simp

theorem toolRef_eq_ok_iff {row : ToolRow} {ref : ToolRef} :
    toolRef row = .ok ref ↔ row.ToldAs ref := by
  simp only [toolRef, map_eq_ok_iff, Prod.exists, Checked.both_eq_ok_iff, column_eq_ok_iff,
    ToolRow.ToldAs]
  constructor
  · rintro ⟨inputSchema, outputSchema, ⟨input, output⟩, rfl⟩
    exact ⟨inputSchema, outputSchema, input, output, rfl⟩
  · rintro ⟨inputSchema, outputSchema, input, output, rfl⟩
    exact ⟨inputSchema, outputSchema, ⟨input, output⟩, rfl⟩

/-- The tools that are assigned to a node, in the order of the assignments. -/
def assignedTo (db : Database) (node : NodeRow) : List ToolRow :=
  (db.nodeTools.filter fun link => link.node == node.id).filterMap fun link =>
    db.tools.find? fun tool => tool.id == link.tool

theorem toolsOf_eq_sortByPair (db : Database) (node : NodeRow) :
    toolsOf db node = sortByPair (fun tool => (tool.name, tool.id.text)) (assignedTo db node) := rfl

theorem mem_tools_of_mem_assignedTo {tool : ToolRow} (member : tool ∈ assignedTo db node) :
    tool ∈ db.tools := by
  obtain ⟨link, -, found⟩ := List.mem_filterMap.mp member
  exact List.mem_of_find?_eq_some found

section Keyed

variable (keyed : db.IsKeyed)

include keyed

/-! ### No two rows have the same place -/

theorem nodup_keys_of_graph (graph : Uuid) :
    ((db.nodes.filter fun row => row.graph == graph).map NodeRow.key).Nodup := by
  refine (keyed.nodes.of_map.filter _).map_on fun a here b there same => ?_
  simp only [List.mem_filter, beq_iff_eq] at here there
  refine List.inj_on_of_nodup_map keyed.nodes here.1 there.1 (Prod.ext ?_ same)
  exact here.2.trans there.2.symm

theorem nodup_ends_of_graph (graph : Uuid) :
    ((db.edges.filter fun row => row.graph == graph).map fun row =>
      (row.source, row.target)).Nodup := by
  refine (keyed.edges.filter _).map_on fun a here b there same => ?_
  simp only [List.mem_filter, beq_iff_eq] at here there
  obtain ⟨graph_a, source, target⟩ := a
  cases same
  cases here.2.trans there.2.symm
  rfl

/-- The assignments of a node are those of the tools that are found for them. -/
theorem map_assignedTo (node : NodeRow) :
    ((assignedTo db node).map fun tool => (⟨node.id, tool.id⟩ : NodeToolRow)) =
      db.nodeTools.filter fun link => link.node == node.id := by
  rw [assignedTo, List.map_filterMap]
  refine (List.filterMap_congr fun link member => ?_).trans List.filterMap_some
  obtain ⟨among, same⟩ := List.mem_filter.mp member
  obtain ⟨tool, stored, named⟩ := keyed.exists_tool link among
  rw [(find?_eq_some_iff_of_nodup keyed.tools).mpr ⟨stored, named⟩, Option.map_some, named,
    ← beq_iff_eq.mp same]

theorem nodup_places_of_node (node : NodeRow) :
    ((assignedTo db node).map fun tool => (tool.name, tool.id.text)).Nodup := by
  have once : (assignedTo db node).Nodup := by
    refine List.Nodup.of_map (fun tool => (⟨node.id, tool.id⟩ : NodeToolRow)) ?_
    rw [map_assignedTo keyed]
    exact keyed.nodeTools.filter _
  -- the name tells the tool already; its identifier never decides
  refine once.map_on fun a here b there same => ?_
  exact List.inj_on_of_nodup_map keyed.tool_names (mem_tools_of_mem_assignedTo here)
    (mem_tools_of_mem_assignedTo there) (congrArg Prod.fst same)

/-- Tools are those that are assigned to a node if their assignments are. -/
theorem perm_assignedTo_iff {rows : List ToolRow} :
    rows.Perm (assignedTo db node) ↔ (∀ tool ∈ rows, tool ∈ db.tools) ∧
      (rows.map fun tool => (⟨node.id, tool.id⟩ : NodeToolRow)).Perm
        (db.nodeTools.filter fun link => link.node == node.id) := by
  constructor
  · intro perm
    refine ⟨fun tool member => mem_tools_of_mem_assignedTo (perm.mem_iff.mp member), ?_⟩
    rw [← map_assignedTo keyed]
    exact perm.map _
  · rintro ⟨stored, perm⟩
    -- every tool is found again by its identifier
    have found : (rows.map fun tool => (⟨node.id, tool.id⟩ : NodeToolRow)).filterMap
        (fun link => db.tools.find? fun tool => tool.id == link.tool) = rows := by
      rw [List.filterMap_map]
      refine (List.filterMap_congr fun tool member => ?_).trans List.filterMap_some
      exact (find?_eq_some_iff_of_nodup keyed.tools).mpr ⟨stored tool member, rfl⟩
    rw [← found]
    exact perm.filterMap _

theorem toolsOf_eq_iff {rows : List ToolRow} :
    toolsOf db node = rows ↔ db.ToolsInOrder node rows := by
  rw [toolsOf_eq_sortByPair, sortByPair_eq_iff (nodup_places_of_node keyed node),
    perm_assignedTo_iff keyed]
  constructor
  · rintro ⟨⟨stored, assigned⟩, ordered⟩
    exact ⟨stored, assigned, ordered⟩
  · rintro ⟨stored, assigned, ordered⟩
    exact ⟨⟨stored, assigned⟩, ordered⟩

theorem modelOf_eq_some_iff {ref : ModelRef} :
    modelOf db node = some ref ↔ db.HasModel node ref := by
  simp only [modelOf, Option.map_eq_some_iff, Option.bind_eq_some_iff,
    find?_eq_some_iff_of_nodup keyed.models, Database.HasModel]
  constructor
  · rintro ⟨model, ⟨_, refers, member, rfl⟩, rfl⟩
    exact ⟨model, member, refers, rfl⟩
  · rintro ⟨model, member, refers, rfl⟩
    exact ⟨model, ⟨_, refers, member, rfl⟩, rfl⟩

/-! ### Snapshots -/

theorem snapshotNode_eq_ok_iff {told : Option SnapshotNode} :
    snapshotNode db node = .ok told ↔ ∃ part, told = some part ∧ db.TellsNode node part := by
  simp only [snapshotNode, bind_eq_ok_iff, mapM_eq_ok_iff, toolRef_eq_ok_iff, column_eq_ok_iff]
  constructor
  · rintro ⟨refs, tools, config, read, same⟩
    cases same
    exact ⟨_, rfl, ⟨config, read, rfl⟩, fun ref => modelOf_eq_some_iff keyed, _,
      (toolsOf_eq_iff keyed).mp rfl, tools⟩
  · rintro ⟨⟨_, model, refs⟩, rfl, ⟨config, read, rfl⟩, refers, rows, inOrder, tools⟩
    obtain rfl := (toolsOf_eq_iff keyed).mpr inOrder
    have same : modelOf db node = model := by
      ext ref
      rw [modelOf_eq_some_iff keyed]
      exact (refers ref).symm
    rw [← same]
    exact ⟨refs, tools, config, read, rfl⟩

/-- The snapshot of a graph is what tells of it. -/
theorem snapshotOf_eq_ok_iff {snapshot : Snapshot} :
    snapshotOf db graph = .ok snapshot ↔ db.Tells graph snapshot := by
  have nodes_eq {rows : List NodeRow} : nodesOf db graph.id = rows ↔
      rows.Perm (db.nodes.filter fun row => row.graph == graph.id) ∧
        rows.Pairwise fun a b => a.key < b.key :=
    sortByText_eq_iff (nodup_keys_of_graph keyed graph.id)
  have edges_eq {rows : List EdgeRow} : edgesOf db graph.id = rows ↔
      rows.Perm (db.edges.filter fun row => row.graph == graph.id) ∧
        rows.Pairwise fun a b => Precedes (a.source, a.target) (b.source, b.target) :=
    sortByPair_eq_iff (nodup_ends_of_graph keyed graph.id)
  simp only [snapshotOf, bind_eq_ok_iff, mapM_eq_ok_iff, column_eq_ok_iff,
    snapshotNode_eq_ok_iff keyed]
  constructor
  · rintro ⟨stateSchema, read, parts, told, same⟩
    cases same
    obtain ⟨node_rows, node_order⟩ := nodes_eq.mp rfl
    obtain ⟨edge_rows, edge_order⟩ := edges_eq.mp rfl
    exact ⟨⟨stateSchema, read, rfl⟩, ⟨_, node_rows, node_order, told⟩, _, edge_rows, edge_order,
      rfl⟩
  · -- rows in this order are the ones that are sorted for the graph
    rintro ⟨⟨stateSchema, read, described⟩, ⟨nodes, node_rows, node_order, told⟩, edges, edge_rows,
      edge_order, drawn⟩
    obtain rfl := nodes_eq.mpr ⟨node_rows, node_order⟩
    obtain rfl := edges_eq.mpr ⟨edge_rows, edge_order⟩
    obtain ⟨_, parts, _⟩ := snapshot
    cases described
    cases drawn
    exact ⟨stateSchema, read, parts, told, rfl⟩

/-! ### The same rows in another order -/

variable (relisted : db.RelistedAs other)

include relisted

theorem toolsOf_relisted (node : NodeRow) : toolsOf other node = toolsOf db node := by
  have looked_up : ∀ link : NodeToolRow, (other.tools.find? fun tool => tool.id == link.tool) =
      db.tools.find? fun tool => tool.id == link.tool :=
    fun link => find?_relisted keyed.tools relisted.tools link.tool
  have perm : (assignedTo other node).Perm (assignedTo db node) := by
    simp only [assignedTo, looked_up]
    exact (relisted.nodeTools.filter _).filterMap _
  exact sortByPair_congr (nodup_places_of_node keyed node) perm

theorem modelOf_relisted (node : NodeRow) : modelOf other node = modelOf db node := by
  simp only [modelOf, find?_relisted keyed.models relisted.models]

theorem snapshotNode_relisted : snapshotNode other = snapshotNode db := by
  funext node
  rw [snapshotNode, snapshotNode, toolsOf_relisted keyed relisted, modelOf_relisted keyed relisted]

/-- The snapshot of a graph does not depend on the order of the rows. -/
theorem snapshotOf_relisted (graph : GraphRow) : snapshotOf other graph = snapshotOf db graph := by
  have nodes : nodesOf other graph.id = nodesOf db graph.id :=
    sortByText_congr (nodup_keys_of_graph keyed graph.id) (relisted.nodes.filter _)
  have edges : edgesOf other graph.id = edgesOf db graph.id :=
    sortByPair_congr (nodup_ends_of_graph keyed graph.id) (relisted.edges.filter _)
  rw [snapshotOf, snapshotOf, nodes, edges, snapshotNode_relisted keyed relisted]

theorem loadSnapshot_relisted (graphId : String) :
    loadSnapshot other graphId = loadSnapshot db graphId := by
  simp only [loadSnapshot, find?_relisted keyed.graphs relisted.graphs,
    snapshotOf_relisted keyed relisted]

end Keyed

/-! ### Loading -/

theorem isStored_iff (keyed : db.IsKeyed) :
    IsStored db graphId graph ↔ graph ∈ db.graphs ∧ Uuid.ofText? graphId = some graph.id := by
  simp only [IsStored, Option.bind_eq_some_iff, find?_eq_some_iff_of_nodup keyed.graphs]
  constructor
  · rintro ⟨_, read, member, rfl⟩
    exact ⟨member, read⟩
  · rintro ⟨member, read⟩
    exact ⟨_, read, member, rfl⟩

theorem loadSnapshot_eq_some_iff {snapshot : Snapshot} :
    loadSnapshot db graphId = .ok (some snapshot) ↔
      ∃ graph, IsStored db graphId graph ∧ snapshotOf db graph = .ok snapshot := by
  rw [loadSnapshot]
  cases named : (Uuid.ofText? graphId).bind fun id =>
      db.graphs.find? fun graph => graph.id == id with
  | none => simp [IsStored, named]
  | some graph => simp [IsStored, named, mapError_eq_ok_iff, map_eq_ok_iff]

theorem loadSnapshot_eq_none_iff :
    loadSnapshot db graphId = .ok none ↔ ∀ graph, ¬ IsStored db graphId graph := by
  rw [loadSnapshot]
  cases named : (Uuid.ofText? graphId).bind fun id =>
      db.graphs.find? fun graph => graph.id == id with
  | none => simp [IsStored, named]
  | some graph => simp [IsStored, named, mapError_eq_ok_iff, map_eq_ok_iff]

/-- What is loaded from a store that keeps the constraints of its tables. It does not depend on the
order of the rows. It is a snapshot that tells of the graph with that identifier, and of nothing
else; there is none if there is no such graph; and there is one if there is, unless a JSON column of
the graph holds what a snapshot has no place for. -/
theorem loadSnapshot_tells (consistent : db.isConsistent = true) (graphId : String) :
    (∀ other, db.RelistedAs other → loadSnapshot other graphId = loadSnapshot db graphId) ∧
    (∀ snapshot, loadSnapshot db graphId = .ok (some snapshot) ↔
      ∃ graph ∈ db.graphs, Uuid.ofText? graphId = some graph.id ∧ db.Tells graph snapshot) ∧
    (loadSnapshot db graphId = .ok none ↔
      ∀ graph ∈ db.graphs, Uuid.ofText? graphId ≠ some graph.id) ∧
    ∀ graph ∈ db.graphs, Uuid.ofText? graphId = some graph.id →
      ((∃ snapshot, loadSnapshot db graphId = .ok (some snapshot)) ↔
        ∀ value ∈ documentsOf db graph, value.IsDocument) := by
  have keyed := Database.isKeyed_of_isConsistent consistent
  refine ⟨fun other relisted => loadSnapshot_relisted keyed relisted graphId, fun snapshot => ?_,
    ?_, fun graph member read => ?_⟩
  · simp only [loadSnapshot_eq_some_iff, isStored_iff keyed, snapshotOf_eq_ok_iff keyed, and_assoc]
  · simp only [loadSnapshot_eq_none_iff, isStored_iff keyed, not_and, ne_eq]
  · have stored := (isStored_iff keyed).mpr ⟨member, read⟩
    have only : ∀ {graph'}, IsStored db graphId graph' → graph' = graph :=
      fun stored' => Option.some.inj (stored'.symm.trans stored)
    rw [← exists_snapshotOf_iff]
    refine exists_congr fun snapshot => loadSnapshot_eq_some_iff.trans ?_
    constructor
    · rintro ⟨graph', stored', drawn⟩
      rwa [only stored'] at drawn
    · exact fun drawn => ⟨graph, stored, drawn⟩

/-! ### An archive and its copy -/

namespace Archive

def sumTool : ToolRow := { id := ⟨3⟩, name := "sum" }

def findTool : ToolRow := { id := ⟨4⟩, name := "find" }

def sums : GraphRow := ⟨⟨5⟩, "sums", "lead", .null⟩

def lead : NodeRow :=
  { id := ⟨7⟩, graph := ⟨5⟩, key := "lead", type := "worker", model := some ⟨2⟩ }

def check : NodeRow := { id := ⟨9⟩, graph := ⟨5⟩, key := "check", type := "worker" }

/-- A graph with a node that may call two tools, and another graph with a node of the same key. -/
def rows : Database where
  models := [⟨⟨1⟩, "maker", "model"⟩, ⟨⟨2⟩, "maker", "other"⟩]
  tools := [sumTool, findTool]
  graphs := [sums, ⟨⟨6⟩, "drafts", "lead", .null⟩]
  nodes := [lead, { id := ⟨8⟩, graph := ⟨6⟩, key := "lead", type := "worker" }, check]
  nodeTools := [⟨⟨7⟩, ⟨3⟩⟩, ⟨⟨7⟩, ⟨4⟩⟩, ⟨⟨8⟩, ⟨3⟩⟩]
  edges := [⟨⟨5⟩, "lead", "check"⟩, ⟨⟨6⟩, "lead", "END"⟩, ⟨⟨5⟩, "check", "END"⟩]

/-- The same rows, the latest first. -/
def copy : Database where
  models := rows.models.reverse
  tools := rows.tools.reverse
  graphs := rows.graphs.reverse
  nodes := rows.nodes.reverse
  nodeTools := rows.nodeTools.reverse
  edges := rows.edges.reverse

theorem copy_relisted : rows.RelistedAs copy where
  models := List.reverse_perm _
  tools := List.reverse_perm _
  graphs := List.reverse_perm _
  nodes := List.reverse_perm _
  nodeTools := List.reverse_perm _
  edges := List.reverse_perm _

theorem rows_consistent : rows.isConsistent = true := by decide +kernel

/-- A tool with the schemas of an object. -/
def toolNamed (name : String) : ToolRef :=
  { name, inputSchema := .object [], outputSchema := .object [] }

/-- What is told of the first graph. -/
def snapshot : Snapshot where
  graph := some { id := sums.id.text, name := "sums", entry := "lead" }
  nodes := [
    some {
      node := some
        { id := check.id.text, key := "check", type := "worker", config := .object [] } },
    some {
      node := some { id := lead.id.text, key := "lead", type := "worker", config := .object [] }
      model := some ⟨"maker", "other"⟩
      tools := [toolNamed "find", toolNamed "sum"] }]
  edges := [some ⟨"check", "END"⟩, some ⟨"lead", "check"⟩]

theorem rows_tell : rows.Tells sums snapshot where
  described := ⟨_, rfl, rfl⟩
  nodes := by
    refine ⟨[check, lead], .swap _ _ _, by decide,
      .cons ⟨_, rfl, ?check⟩ (.cons ⟨_, rfl, ?lead⟩ .nil)⟩
    case check =>
      refine ⟨⟨_, rfl, rfl⟩, fun ref => ?_, [], ⟨nofun, .refl _, .nil⟩, .nil⟩
      constructor
      · intro found
        cases found
      · rintro ⟨model, -, refers, -⟩
        cases refers
    case lead =>
      refine ⟨⟨_, rfl, rfl⟩, fun ref => ?_, [findTool, sumTool],
        ⟨by simp [rows], .swap _ _ _, by decide⟩,
        .cons ⟨_, _, rfl, rfl, rfl⟩ (.cons ⟨_, _, rfl, rfl, rfl⟩ .nil)⟩
      constructor
      · intro found
        cases found
        exact ⟨⟨⟨2⟩, "maker", "other"⟩, .tail _ List.mem_cons_self, rfl, rfl⟩
      · rintro ⟨model, member, refers, rfl⟩
        obtain _ | ⟨_, _ | ⟨_, ⟨⟩⟩⟩ := member
        · cases refers
        · rfl
  edges := ⟨[⟨⟨5⟩, "check", "END"⟩, ⟨⟨5⟩, "lead", "check"⟩], .swap _ _ _, by decide, rfl⟩

/-- The copy gives the same snapshot. -/
theorem copy_loads :
    rows.isConsistent = true ∧
      loadSnapshot copy "00000000-0000-0000-0000-000000000005" = .ok (some snapshot) := by
  obtain ⟨same, tells, -⟩ :=
    loadSnapshot_tells rows_consistent "00000000-0000-0000-0000-000000000005"
  refine ⟨rows_consistent, (same copy copy_relisted).trans ((tells snapshot).mpr ?_)⟩
  exact ⟨sums, List.mem_cons_self, by decide +kernel, rows_tell⟩

end Archive

end Store

end AgentWorkflow
