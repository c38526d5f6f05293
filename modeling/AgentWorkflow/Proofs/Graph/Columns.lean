import AgentWorkflow.Graph.Validation
import AgentWorkflow.Proofs.Agreement
import AgentWorkflow.Proofs.Config.Legibility
import Mathlib.Data.List.Forall2

/-!
# Columns that are written as text

A JSON column is stored decoded, or as a text. Two snapshots are the same up to how their columns
are written when some of the decoded columns of the one are texts in the other, and each text
decodes to the column it stands for. The check of a snapshot ends alike on both: it finds the same
issue, or it gives plans that differ only in how their columns are written.

The schemas of tools are told apart from all other columns. Whoever reads the schema of a tool takes
a missing one for that of an object without properties, but refuses the text of null; everywhere
else that text stands for no document. So how the schemas may be written that a node reads is left
open in these definitions.

## Main definitions

* `Stored.WrittenAs`, `Stored.KeepsNull`: how a column may be written
* `Snapshot.WrittenAs`, `GraphPlan.WrittenAs`: how the columns of a graph may be written

## Main results

* `Stored.WrittenAs.fields_eq`: a document has the fields it has, however it is written
* `Snapshot.WrittenAs.validate_alike`: the check of a snapshot ends alike, however it is written
-/

namespace AgentWorkflow

/-! ### Columns -/

namespace Stored

/-- How a column may be written: as it is, or as a text that decodes to it. -/
inductive WrittenAs : Stored → Stored → Prop
  | same (document : Stored) : WrittenAs document document
  | null {s : String} (decoded : Json.parse (Text.strip s) = .ok .null) :
      WrittenAs .absent (.text s)
  | object {s : String} {fields : Record Value}
      (decoded : Json.parse (Text.strip s) = .ok (.object fields)) :
      WrittenAs (.object fields) (.text s)

/-- How a column may be written when there is no text for null. -/
structure KeepsNull (document other : Stored) : Prop where
  written : document.WrittenAs other
  absent : document = .absent → other = .absent

variable {document other : Stored} {s : String}

/-- A text that decodes to anything is not blank. -/
theorem strip_ne_empty {v : Value} (decoded : Json.parse (Text.strip s) = .ok v) :
    (Text.strip s == "") = false := by
  rw [beq_eq_false_iff_ne]
  intro blank
  rw [blank, Json.parse_empty] at decoded
  cases decoded

/-- A document has the fields that it has, however it is written. -/
theorem WrittenAs.fields_eq (written : document.WrittenAs other) (what : String) :
    other.fields what = document.fields what := by
  cases written with
  | same => rfl
  | null decoded => simp [fields, strip_ne_empty decoded, decoded]
  | object decoded => simp [fields, strip_ne_empty decoded, decoded]

/-- A configuration is read as it is, however its document is written. -/
theorem WrittenAs.parse_eq {α : Type} (written : document.WrittenAs other) (what : String)
    (read : Record Value → Checked α) : other.parse what read = document.parse what read := by
  rw [parse, parse, written.fields_eq]

/-- So are the members that a supervisor names. -/
theorem WrittenAs.peekMembers_eq (written : document.WrittenAs other) :
    peekMembers other = peekMembers document := by
  rw [peekMembers, peekMembers, written.fields_eq]

end Stored

/-! ### Graphs -/

/-- How the description of a graph may be written. -/
inductive GraphMeta.WrittenAs (graph : GraphMeta) : GraphMeta → Prop
  | of {stateSchema : Stored} (written : graph.stateSchema.WrittenAs stateSchema) :
      WrittenAs graph { graph with stateSchema }

/-- How a tool may be written, given how its schemas may be. -/
inductive ToolRef.WrittenAs (inputs outputs : Stored → Stored → Prop) (tool : ToolRef) :
    ToolRef → Prop
  | of {inputSchema outputSchema : Stored} (input : inputs tool.inputSchema inputSchema)
      (output : outputs tool.outputSchema outputSchema) :
      WrittenAs inputs outputs tool { tool with inputSchema, outputSchema }

/-- How several tools may be written. -/
abbrev ToolRef.AllWrittenAs (inputs outputs : Stored → Stored → Prop) :
    List ToolRef → List ToolRef → Prop :=
  List.Forall₂ (ToolRef.WrittenAs inputs outputs)

/-- A node reads the input schemas of its tools. -/
def PlanNode.ReadsInputs (n : PlanNode) : Prop :=
  normalizeType n.node.type = "worker" ∨ normalizeType n.node.type = "tool"

/-- A node reads the output schemas of its tools. -/
def PlanNode.ReadsOutputs (n : PlanNode) : Prop := normalizeType n.node.type = "tool"

/-- How a node with its model and its tools may be written, given how the schemas may be that it
reads. -/
inductive PlanNode.WrittenAs (schemas : Stored → Stored → Prop) (n : PlanNode) : PlanNode → Prop
  | of {config : Stored} {tools : List ToolRef} (config_written : n.node.config.WrittenAs config)
      (tools_written : ToolRef.AllWrittenAs
        (fun document other => document.WrittenAs other ∧ (n.ReadsInputs → schemas document other))
        (fun document other => document.WrittenAs other ∧ (n.ReadsOutputs → schemas document other))
        n.tools tools) :
      WrittenAs schemas n { n with node := { n.node with config }, tools }

/-- How an entry of a snapshot may be written. -/
inductive SnapshotNode.WrittenAs (schemas : Stored → Stored → Prop) :
    SnapshotNode → SnapshotNode → Prop
  | missing {model : Option ModelRef} {tools tools' : List ToolRef}
      (written : ToolRef.AllWrittenAs Stored.WrittenAs Stored.WrittenAs tools tools') :
      WrittenAs schemas ⟨none, model, tools⟩ ⟨none, model, tools'⟩
  | node {n n' : PlanNode} (written : n.WrittenAs schemas n') :
      WrittenAs schemas ⟨some n.node, n.model, n.tools⟩ ⟨some n'.node, n'.model, n'.tools⟩

/-- How a snapshot may be written. -/
structure Snapshot.WrittenAs (schemas : Stored → Stored → Prop) (snapshot other : Snapshot) :
    Prop where
  graph : Option.Rel GraphMeta.WrittenAs snapshot.graph other.graph
  nodes : List.Forall₂ (Option.Rel (SnapshotNode.WrittenAs schemas)) snapshot.nodes other.nodes
  edges_eq : other.edges = snapshot.edges

/-- How a graph in which nothing is missing may be written. -/
inductive GraphPlan.WrittenAs (schemas : Stored → Stored → Prop) (plan : GraphPlan) :
    GraphPlan → Prop
  | of {graph : GraphMeta} {nodes : List PlanNode} (graph_written : plan.graph.WrittenAs graph)
      (nodes_written : List.Forall₂ (PlanNode.WrittenAs schemas) plan.nodes nodes) :
      WrittenAs schemas plan { plan with graph, nodes }

/-! ### The check of a snapshot -/

section Check

variable {schemas : Stored → Stored → Prop} {n n' : PlanNode} {nodes nodes' : List PlanNode}
  {entry entry' : Option SnapshotNode} {entries entries' : List (Option SnapshotNode)}
  {plan plan' : GraphPlan} {snapshot snapshot' : Snapshot}

theorem PlanNode.WrittenAs.key_eq (written : n.WrittenAs schemas n') : n'.key = n.key := by
  cases written
  rfl

theorem PlanNode.keys_eq_of_written
    (written : List.Forall₂ (PlanNode.WrittenAs schemas) nodes nodes') :
    nodes'.map PlanNode.key = nodes.map PlanNode.key := by
  induction written with
  | nil => rfl
  | cons first _ ih => rw [List.map_cons, List.map_cons, ih, first.key_eq]

/-- The connections that a node brings with it are the same. -/
theorem PlanNode.WrittenAs.connections_eq (written : n.WrittenAs schemas n') :
    n'.connections = n.connections := by
  cases written with
  | of config_written _ => simp only [connections, config_written.peekMembers_eq]

theorem PlanNode.mapM_connections_eq_of_written
    (written : List.Forall₂ (PlanNode.WrittenAs schemas) nodes nodes') :
    nodes'.mapM PlanNode.connections = nodes.mapM PlanNode.connections := by
  induction written with
  | nil => rfl
  | cons first _ ih => rw [List.mapM_cons, List.mapM_cons, ih, first.connections_eq]

/-- The connections along which the end has to be reached are the same. -/
theorem GraphPlan.WrittenAs.connections_eq (written : plan.WrittenAs schemas plan') :
    plan'.connections = plan.connections := by
  obtain ⟨-, nodes_written⟩ := written
  rw [connections, connections, PlanNode.mapM_connections_eq_of_written nodes_written]

theorem GraphMeta.WrittenAs.entry_eq {graph graph' : GraphMeta} (written : graph.WrittenAs graph') :
    graph'.entry = graph.entry := by
  cases written
  rfl

theorem GraphPlan.WrittenAs.entry_eq (written : plan.WrittenAs schemas plan') :
    plan'.graph.entry = plan.graph.entry := by
  obtain ⟨graph_written, -⟩ := written
  exact graph_written.entry_eq

theorem GraphPlan.WrittenAs.edges_eq (written : plan.WrittenAs schemas plan') :
    plan'.edges = plan.edges := by
  cases written
  rfl

theorem GraphPlan.WrittenAs.all_nodes (written : plan.WrittenAs schemas plan') :
    List.Forall₂ (PlanNode.WrittenAs schemas) plan.nodes plan'.nodes := by
  obtain ⟨-, nodes_written⟩ := written
  exact nodes_written

theorem checkNode_alike (written : Option.Rel (SnapshotNode.WrittenAs schemas) entry entry')
    (index : Nat) (seen : List String) :
    Alike Eq (PlanNode.WrittenAs schemas) (checkNode index seen entry)
      (checkNode index seen entry') := by
  cases written with
  | none => exact .error rfl
  | some written =>
    cases written with
    | missing _ => exact .error rfl
    | node written =>
      obtain ⟨config_written, tools_written⟩ := written
      simp only [checkNode]
      split_ifs
      · exact .error rfl
      · exact .error rfl
      · exact .error rfl
      · exact .ok (.of config_written tools_written)

theorem checkNodes_alike
    (written : List.Forall₂ (Option.Rel (SnapshotNode.WrittenAs schemas)) entries entries')
    (index : Nat) (seen : List String) :
    Alike Eq (List.Forall₂ (PlanNode.WrittenAs schemas)) (checkNodes index seen entries)
      (checkNodes index seen entries') := by
  induction written generalizing index seen with
  | nil => exact .ok .nil
  | cons first _ ih =>
    refine (checkNode_alike first index seen).bind fun n n' same => ?_
    rw [same.key_eq]
    refine (ih (index + 1) (n.key :: seen)).bind fun nodes nodes' rest => ?_
    exact .ok (.cons same rest)

theorem checkStructure_alike (written : snapshot.WrittenAs schemas snapshot') :
    Alike Eq (GraphPlan.WrittenAs schemas) (checkStructure (some snapshot))
      (checkStructure (some snapshot')) := by
  obtain ⟨graph, entries, edges⟩ := snapshot
  obtain ⟨graph', entries', edges'⟩ := snapshot'
  obtain ⟨graph_written, entries_written, rfl⟩ := written
  cases graph_written with
  | none => exact .error rfl
  | some graph_written =>
    have entry_eq := graph_written.entry_eq
    simp only [checkStructure, entry_eq]
    refine (Alike.refl (fun _ => rfl) _).bind fun _ _ _ => ?_
    refine (checkNodes_alike entries_written 0 []).bind fun nodes nodes' same => ?_
    rw [PlanNode.keys_eq_of_written same]
    split_ifs
    · exact .error rfl
    · refine (Alike.refl (fun _ => rfl) _).bind fun edges edges' same_edges => ?_
      subst same_edges
      exact .ok (.of graph_written same)

/-- The check of a snapshot ends alike, however its columns are written. -/
theorem Snapshot.WrittenAs.validate_alike (written : snapshot.WrittenAs schemas snapshot') :
    Alike Eq (GraphPlan.WrittenAs schemas) (validate (some snapshot))
      (validate (some snapshot')) := by
  refine ((checkStructure_alike written).mapError ?_).bind fun plan plan' same => ?_
  · rintro issue _ rfl
    rfl
  rw [same.connections_eq, same.entry_eq]
  refine (Alike.refl (fun _ => rfl) _).bind fun connections _ same_connections => ?_
  subst same_connections
  split_ifs
  · exact .ok same
  · exact .error rfl

end Check

end AgentWorkflow
