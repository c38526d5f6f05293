import AgentWorkflow.Proofs.Node.Built
import AgentWorkflow.Proofs.Node.Writes
import AgentWorkflow.Proofs.State.Schema

/-!
# The state keys that are noted for a tool node

The mappings of a tool node are read twice: when its tool is called, and when the state keys are
noted that have to be carried for it. A field that is mapped is read alike both times. A field that
is not mapped is read from the state under its own name, whatever that is, but a name that begins
like a constant is not noted. So what the tool is sent is told by the noted keys exactly when no
such field is left out of them.

## Main definitions

* `Record.AgreeOn`: records that have the same values under some keys
* `Node.ToolPlan.Overlooks`: a field is read from the state under a key that is not noted
* `Tool.Transport.noting`, `Node.sent`: what a tool is sent in a step

## Main results

* `Node.ToolPlan.arguments_told_iff`: when the noted keys tell what the tool is sent
* `Node.buildTool_notes`: both for what is built, with what it writes and what may be carried
-/

namespace AgentWorkflow

/-- Records that have the same values under some keys. -/
def Record.AgreeOn {α : Type} (keys : List String) (r s : Record α) : Prop :=
  ∀ key ∈ keys, r.find? key = s.find? key

/-- What a state is arranged to agrees with it on the keys that are carried. -/
theorem Schema.agreeOn_arrange {schema : Schema} {keys : List String}
    (carried : ∀ key ∈ keys, key ∈ Record.keys schema) (state : State) :
    Record.AgreeOn keys (schema.arrange state) state := by
  intro key noted
  rw [find?_arrange]
  cases found : Record.find? schema key with
  | none => exact absurd (carried key noted) (Record.find?_eq_none_iff.mp found)
  | some reducer => rfl

namespace ToolConfig

variable {config : ToolConfig} {field key : String}

/-- A field that is not mapped, and that has the name of a constant. -/
def Misnames (config : ToolConfig) (field : String) : Prop :=
  config.inputMapping.find? field = none ∧ marksConstant field = true

/-- Such a field is read from the state like any other one. -/
theorem Misnames.source_eq (misnamed : config.Misnames field) :
    config.source field = .key field := by
  rw [source, misnamed.1]

/-- What begins like a constant is never noted for a field of the input. -/
theorem marksConstant_of_inputKey? (noted : config.inputKey? field = some key) :
    marksConstant key = false := by
  simp only [inputKey?] at noted
  split_ifs at noted with marked
  rw [← Option.some.inj noted]
  exact Bool.eq_false_iff.mpr marked

/-- Every other field that is read from the state is noted under the key it is read from. -/
theorem inputKey?_eq_some (read : config.source field = .key key)
    (named : ¬ config.Misnames field) : config.inputKey? field = some key := by
  simp only [source] at read
  simp only [inputKey?]
  cases mapped : config.inputMapping.find? field with
  | none =>
    rw [mapped] at read
    cases read
    exact if_neg fun marked => named ⟨mapped, marked⟩
  | some name =>
    rw [mapped] at read
    dsimp only at read
    split at read
    · cases read
    · rename_i unmarked
      cases read
      exact if_neg (by simp [marksConstant, unmarked])

end ToolConfig

/-- A transport that also writes down what it is asked for. -/
def Tool.Transport.noting {σ : Type} (transport : Tool.Transport σ) :
    Tool.Transport (σ × List (String × Record Value)) where
  call tool arguments := do
    modify fun (world, asked) => (world, asked ++ [(tool, arguments)])
    (transport.call tool arguments).onFirst

namespace Node

variable {σ : Type} {transport : Tool.Transport σ} {n : PlanNode} {plan : ToolPlan}
  {built : Built σ} {before after : σ} {state other : State} {field : String}

/-! ### What is noted and what is read -/

namespace ToolPlan

/-- The state keys that are noted for a tool node. -/
def notedKeys (plan : ToolPlan) : List String :=
  plan.inputs.filterMap plan.config.inputKey? ++ plan.outputs.map plan.config.target

/-- A field of the input is read from the state under a key that is not noted. -/
structure Overlooks (plan : ToolPlan) (field : String) : Prop where
  declared : field ∈ plan.inputs
  misnamed : plan.config.Misnames field
  unwritten : field ∉ plan.outputs.map plan.config.target

/-- A key that is overlooked is not noted for any other field either. -/
theorem Overlooks.not_mem_notedKeys (overlooked : plan.Overlooks field) :
    field ∉ plan.notedKeys := by
  intro noted
  rcases List.mem_append.mp noted with read | written
  · obtain ⟨_, -, noted⟩ := List.mem_filterMap.mp read
    have unmarked := ToolConfig.marksConstant_of_inputKey? noted
    rw [overlooked.misnamed.2] at unmarked
    cases unmarked
  · exact overlooked.unwritten written

/-- An argument that is read from the state is read under a noted key or is overlooked. -/
theorem mem_notedKeys_or_overlooks {key : String} (declared : field ∈ plan.inputs)
    (read : plan.config.source field = .key key) :
    key ∈ plan.notedKeys ∨ plan.Overlooks field := by
  by_cases misnamed : plan.config.Misnames field
  -- such a field is carried by chance if the tool writes its key
  · have same : key = field := by
      rw [misnamed.source_eq] at read
      cases read
      rfl
    by_cases written : field ∈ plan.outputs.map plan.config.target
    · exact Or.inl (List.mem_append_right _ (same ▸ written))
    · exact Or.inr ⟨declared, misnamed, written⟩
  · have noted := ToolConfig.inputKey?_eq_some read misnamed
    exact Or.inl (List.mem_append_left _ (List.mem_filterMap.mpr ⟨field, declared, noted⟩))

/-- The noted keys tell the arguments, together with the fields that are overlooked. -/
theorem arguments_congr (agree : Record.AgreeOn plan.notedKeys state other)
    (alike : ∀ field, plan.Overlooks field → state.find? field = other.find? field) :
    plan.arguments state = plan.arguments other := by
  refine List.filterMap_congr fun field declared => congrArg (Option.map _) ?_
  simp only [argument?]
  cases read : plan.config.source field with
  | constant text => rfl
  | key name =>
    rcases mem_notedKeys_or_overlooks declared read with noted | overlooked
    · exact agree name noted
    · rw [overlooked.misnamed.source_eq] at read
      cases read
      exact alike field overlooked

/-- A field that is overlooked is sent if it is there, and no noted key tells whether it is. -/
theorem Overlooks.exists_arguments_ne (overlooked : plan.Overlooks field) :
    ∃ state other, Record.AgreeOn plan.notedKeys state other ∧
      plan.arguments state ≠ plan.arguments other := by
  -- the field is there in the one state and missing in the other
  refine ⟨[(field, .null)], [], ?_, ?_⟩
  · intro key noted
    have apart : key ≠ field := fun same => overlooked.not_mem_notedKeys (same ▸ noted)
    rw [Record.find?_cons, if_neg (by simpa using apart)]
  · have from_state := overlooked.misnamed.source_eq
    have present : (field, Value.null) ∈ plan.arguments [(field, .null)] := by
      refine List.mem_filterMap.mpr ⟨field, overlooked.declared, ?_⟩
      simp [argument?, from_state, Record.find?_cons]
    have absent : (field, Value.null) ∉ plan.arguments [] := by
      intro member
      obtain ⟨field', -, sent⟩ := List.mem_filterMap.mp member
      obtain ⟨value, read, same⟩ := Option.map_eq_some_iff.mp sent
      cases same
      rw [argument?, from_state] at read
      cases read
    exact fun same => absent (same ▸ present)

/-- The noted keys tell what the tool is sent exactly when no field is overlooked. -/
theorem arguments_told_iff :
    (∀ state other, Record.AgreeOn plan.notedKeys state other →
      plan.arguments state = plan.arguments other) ↔ ∀ field, ¬ plan.Overlooks field := by
  constructor
  · intro told field overlooked
    obtain ⟨state, other, agree, differ⟩ := overlooked.exists_arguments_ne
    exact differ (told state other agree)
  · intro none_overlooked state other agree
    exact arguments_congr agree fun field overlooked =>
      absurd overlooked (none_overlooked field)

end ToolPlan

/-! ### What a tool node sends -/

/-- The keys are noted by the same plan that the node is built from. -/
theorem toolStateKeys_of_plannedAs (planned : n.PlannedAs plan) :
    toolStateKeys n = .ok plan.notedKeys := by
  obtain ⟨tool, only, -, -, parsed, input, output⟩ := planned
  rw [toolStateKeys, only]
  simp only [parsed, input, output]
  rfl

/-- What tools are sent in a step of a node that writes it down. -/
def sent (built : Built (σ × List (String × Record Value))) (state : State) (before : σ) :
    List (String × Record Value) :=
  ((built.step state).outcome (before, [])).2.2

theorem outcome_noting_call (transport : Tool.Transport σ) (tool : String)
    (arguments : Record Value) (before : σ) (asked : List (String × Record Value)) :
    (transport.noting.call tool arguments).outcome (before, asked) =
      (((transport.call tool arguments).outcome before).1,
        ((transport.call tool arguments).outcome before).2, asked ++ [(tool, arguments)]) := rfl

/-- Writing down what the tool is sent changes nothing else, and it is sent its arguments once. -/
theorem outcome_toolStep_noting (plan : ToolPlan) (transport : Tool.Transport σ) (state : State)
    (before : σ) :
    (toolStep plan transport.noting state).outcome (before, []) =
      (((toolStep plan transport state).outcome before).1,
        ((toolStep plan transport state).outcome before).2,
        [(plan.tool, plan.arguments state)]) := by
  simp only [toolStep, ToolPlan.call, Act.outcome_bind, Act.outcome_describe, outcome_noting_call]
  rcases (transport.call plan.tool (plan.arguments state)).outcome before with ⟨failure | result, _⟩
  · rfl
  · dsimp only
    cases Tool.decode result plan.outputs <;> rfl

/-- A step goes by its arguments alone. -/
theorem toolStep_congr (same : plan.arguments state = plan.arguments other) :
    toolStep plan transport state = toolStep plan transport other := by
  rw [toolStep, toolStep, same]

/-- A tool node that is built writes nothing but what is noted for it. What its tool is sent is told
by the noted keys exactly when it overlooks no field, and then nothing is lost when a state is
carried by a schema that has these keys. -/
theorem buildTool_notes (gives : (buildTool n (some transport)).Gives before built after) :
    ∃ plan noting, n.PlannedAs plan ∧ toolStateKeys n = .ok plan.notedKeys ∧
      (buildTool n (some transport.noting)).Gives (before, []) noting (after, []) ∧
      WritesOnly built.step (· ∈ plan.notedKeys) ∧
      ((∀ state other, Record.AgreeOn plan.notedKeys state other →
          sent noting state = sent noting other) ↔ ∀ field, ¬ plan.Overlooks field) ∧
      ((∀ field, ¬ plan.Overlooks field) → ∀ schema : Schema,
        (∀ key ∈ plan.notedKeys, key ∈ Record.keys schema) → ∀ state,
          sent noting (schema.arrange state) = sent noting state ∧
            built.step (schema.arrange state) = built.step state) := by
  obtain ⟨_, plan, same, planned, rfl, rfl⟩ := gives_buildTool_iff.mp gives
  cases same
  have noted : (buildTool n (some transport.noting)).Gives (before, [])
      { key := n.key, description := n.key, step := toolStep plan transport.noting }
      (before, []) :=
    gives_buildTool_iff.mpr ⟨_, plan, rfl, planned, rfl, rfl⟩
  have sends : ∀ state world,
      sent { key := n.key, description := n.key, step := toolStep plan transport.noting }
        state world = [(plan.tool, plan.arguments state)] := by
    intro state world
    rw [sent, outcome_toolStep_noting]
  refine ⟨plan, _, planned, toolStateKeys_of_plannedAs planned, noted, ?writes, ?told, ?carried⟩
  case writes =>
    intro state before delta after gives key written
    exact List.mem_append_right _ (toolStep_writesOnly plan transport gives key written)
  case told =>
    rw [← ToolPlan.arguments_told_iff]
    refine forall_congr' fun state => forall_congr' fun other => imp_congr_right fun _ => ?_
    constructor
    · intro same
      -- a single world tells what is sent, and there is the one in which the node was built
      have here := congrFun same before
      rw [sends, sends] at here
      exact (Prod.mk.inj (List.cons.inj here).1).2
    · intro same
      funext world
      rw [sends, sends, same]
  case carried =>
    intro none_overlooked schema carried state
    have same : plan.arguments (schema.arrange state) = plan.arguments state :=
      ToolPlan.arguments_told_iff.mpr none_overlooked _ _
        (Schema.agreeOn_arrange carried state)
    refine ⟨funext fun world => ?_, toolStep_congr same⟩
    rw [sends, sends, same]

/-! ### A tool node and one that overlooks a field -/

namespace Exchange

/-- A transport whose tools have nothing to say. -/
def silent : Tool.Transport Unit where
  call _ _ := pure (some {})

/-- The schema of an object with properties of these names. -/
def schemaOf (fields : List String) : Stored :=
  .object [("type", .str "object"),
    ("properties", .object (fields.map fun field => (field, .object [("type", .str "string")])))]

/-- A tool node with a field that is renamed, one that is read under its own name and one that is
constant. -/
def converter : PlanNode where
  node := {
    key := "convert"
    type := "tool"
    config := .object [
      ("input_mapping", .object [("amount", .str "total"), ("to", .str "_const:EUR")]),
      ("output_mapping", .object [("rate", .str "quote")])] }
  tools := [{
    name := "exchange"
    inputSchema := schemaOf ["amount", "from", "to"]
    outputSchema := schemaOf ["rate"] }]

/-- A tool node whose field has the name of a constant, and is not mapped. -/
def misnamed : PlanNode where
  node := { key := "convert", type := "tool" }
  tools := [{
    name := "exchange"
    inputSchema := schemaOf ["_const:a"]
    outputSchema := schemaOf [] }]

def converterPlan : ToolPlan where
  key := "convert"
  tool := "exchange"
  config := {
    inputMapping := [("amount", "total"), ("to", "_const:EUR")]
    outputMapping := [("rate", "quote")] }
  inputs := ["amount", "from", "to"]
  outputs := ["rate"]

theorem converter_planned : converter.PlannedAs converterPlan :=
  ⟨_, rfl, rfl, rfl, rfl, rfl, rfl⟩

theorem converter_overlooks_nothing (field : String) : ¬ converterPlan.Overlooks field := by
  rintro ⟨declared, ⟨unmapped, marked⟩, -⟩
  simp only [converterPlan, List.mem_cons, List.not_mem_nil, or_false] at declared
  rcases declared with rfl | rfl | rfl
  · cases unmapped
  · exact absurd marked (by decide)
  · cases unmapped

/-- The tool of the converter is told by three keys what to convert. -/
theorem converter_notes_keys :
    ∃ built noting, (buildTool converter (some silent)).Gives () built () ∧
      (buildTool converter (some silent.noting)).Gives ((), []) noting ((), []) ∧
      toolStateKeys converter = .ok ["total", "from", "quote"] ∧
      WritesOnly built.step (· ∈ ["total", "from", "quote"]) ∧
      ∀ state other, Record.AgreeOn ["total", "from", "quote"] state other →
        sent noting state = sent noting other := by
  have gives : (buildTool converter (some silent)).Gives ()
      { key := "convert", description := "convert", step := toolStep converterPlan silent } () :=
    gives_buildTool_iff.mpr ⟨_, _, rfl, converter_planned, rfl, rfl⟩
  obtain ⟨plan, noting, planned, -, noted, writes, told, -⟩ := buildTool_notes gives
  cases planned.unique converter_planned
  exact ⟨_, noting, gives, noted, rfl, writes, told.mpr converter_overlooks_nothing⟩

/-- States that agree on all keys that are noted for the node, and yet its tool is sent something
else. -/
theorem misnamed_overlooks_field :
    ∃ built noting, (buildTool misnamed (some silent)).Gives () built () ∧
      (buildTool misnamed (some silent.noting)).Gives ((), []) noting ((), []) ∧
      toolStateKeys misnamed = .ok [] ∧
      Record.AgreeOn [] [("_const:a", Value.str "v")] [] ∧
      sent noting [("_const:a", .str "v")] () = [("exchange", [("_const:a", .str "v")])] ∧
      sent noting [] () = [("exchange", [])] :=
  ⟨_, _, rfl, rfl, rfl, nofun, rfl, rfl⟩

end Exchange

end Node

end AgentWorkflow
