import AgentWorkflow.Config.Field
import AgentWorkflow.Graph.Snapshot

/-!
Snapshots read from plain data, field by field. Unknown fields are passed over; the issues of all
fields are reported in the order of the fields.
-/

namespace AgentWorkflow

namespace Field

/-- The fields of a record. -/
def record {α : Type} (read : Record Value → Checked α) : Value → Checked α
  | .object fields => read fields
  | _ => .problem .notRecord

/-- A value that may be null. -/
def nullable {α : Type} (read : Value → Checked α) : Value → Checked (Option α)
  | .null => .ok none
  | value => (read value).map some

/-- A list with a reader of its items. -/
def items {α : Type} (read : Value → Checked α) : Value → Checked (List α)
  | .list values =>
    .all ((values.zipIdx).map fun (value, index) => (read value).under (.index index))
  | _ => .problem .notList

/-- A JSON column: a text, an object or null. Anything else is neither a text nor an object. -/
def stored (value : Value) : Checked Stored :=
  match Stored.ofValue? value with
  | some document => .ok document
  | none => .error [⟨[.key "str"], .notText⟩, ⟨[.key "dict[str,any]"], .notObject⟩]

end Field

open AgentWorkflow.Field

/-- Reads the description of a graph. -/
def GraphMeta.read (fields : Record Value) : Checked GraphMeta :=
  (Checked.both (optional fields "id" "" text)
    (Checked.both (optional fields "name" "" text)
      (Checked.both (optional fields "entry_node" "" text)
        (optional fields "state_schema" .absent stored)))).map
    fun (id, name, entry, stateSchema) => { id, name, entry, stateSchema }

/-- Reads a node. -/
def GraphNode.read (fields : Record Value) : Checked GraphNode :=
  (Checked.both (optional fields "id" "" text)
    (Checked.both (required fields "node_key" text)
      (Checked.both (required fields "node_type" text)
        (Checked.both (optional fields "config" .absent stored)
          (Checked.both (optional fields "input_key" none (nullable text))
            (optional fields "output_key" none (nullable text))))))).map
    fun (id, key, type, config, inputKey, outputKey) =>
      { id, key, type, config, inputKey, outputKey }

/-- Reads the reference of a model. -/
def ModelRef.read (fields : Record Value) : Checked ModelRef :=
  (Checked.both (required fields "provider" text) (required fields "name" text)).map
    fun (provider, name) => { provider, name }

/-- Reads the reference of a tool. -/
def ToolRef.read (fields : Record Value) : Checked ToolRef :=
  (Checked.both (required fields "name" text)
    (Checked.both (optional fields "description" "" text)
      (Checked.both (optional fields "input_schema" .absent stored)
        (optional fields "output_schema" .absent stored)))).map
    fun (name, description, inputSchema, outputSchema) =>
      { name, description, inputSchema, outputSchema }

/-- Reads a node with its model and its tools. -/
def SnapshotNode.read (fields : Record Value) : Checked SnapshotNode :=
  (Checked.both (optional fields "node" none (nullable (record GraphNode.read)))
    (Checked.both (optional fields "model" none (nullable (record ModelRef.read)))
      (optional fields "tools" [] (items (record ToolRef.read))))).map
    fun (node, model, tools) => { node, model, tools }

/-- Reads an edge. -/
def GraphEdge.read (fields : Record Value) : Checked GraphEdge :=
  (Checked.both (required fields "from_node" text) (required fields "to_node" text)).map
    fun (source, target) => { source, target }

/-- Reads a snapshot. -/
def Snapshot.read (fields : Record Value) : Checked Snapshot :=
  (Checked.both (optional fields "agent_graph" none (nullable (record GraphMeta.read)))
    (Checked.both (optional fields "nodes" [] (items (nullable (record SnapshotNode.read))))
      (optional fields "edges" [] (items (nullable (record GraphEdge.read)))))).map
    fun (graph, nodes, edges) => { graph, nodes, edges }

/-- Reads a snapshot from plain data. -/
def Snapshot.ofValue (value : Value) : Checked Snapshot := record Snapshot.read value

end AgentWorkflow
