import AgentWorkflow.Proofs.Node.NotedKeys
import AgentWorkflow.Proofs.Tool.Decoding
import Mathlib.Data.Set.Function

/-!
# What becomes of the result of a tool

A tool node writes the declared fields of a result, each under the state key that it is mapped to,
or under its own name. Nothing else is written: a field that is not declared is not even looked at.

Nothing keeps two fields from having the same state key, be it that both are mapped to it or that
one of them has its name. The fields are written in the order in which they are declared, so the
last one of them that is there counts and the others are lost. A result is delivered as a whole
exactly when the fields that share a key have the same value, and every result is delivered exactly
when no two declared fields share a key. A node is built in either case.

## Main definitions

* `Node.ToolPlan.Delivers`: a field of a result reaches the state
* `Node.ToolPlan.Clashes`: two fields of a result are written under one key with different values
* `Node.ToolPlan.Leaves`: what is written under a key in the end

## Main results

* `Node.ToolPlan.find?_delta_eq_some_iff`: what is written, key by key
* `Node.ToolPlan.delivers_iff`, `Node.ToolPlan.delivers_every_iff`: when nothing is lost
* `Node.buildTool_delivers`: all of this for what is built
-/

namespace AgentWorkflow

namespace Node

variable {σ : Type} {transport : Tool.Transport σ} {n : PlanNode} {plan : ToolPlan}
  {built : Built σ} {before after : σ} {output other : Record Value} {key field : String}
  {value : Value}

namespace ToolPlan

/-- The state has a field of a result under the key that is meant for it, if the result has it. -/
def Delivers (plan : ToolPlan) (output : Record Value) (field : String) : Prop :=
  ∀ value, output.find? field = some value →
    (plan.delta output).find? (plan.config.target field) = some value

/-- Two declared fields of a result have different values and the same state key. -/
structure Clashes (plan : ToolPlan) (output : Record Value) (field other : String) : Prop where
  declared : field ∈ plan.outputs
  other_declared : other ∈ plan.outputs
  target_eq : plan.config.target field = plan.config.target other
  differ : ∃ value value', output.find? field = some value ∧ output.find? other = some value' ∧
    value ≠ value'

/-- A value is that of the last declared field under a state key that the result has. -/
def Leaves (plan : ToolPlan) (output : Record Value) (key : String) (value : Value) : Prop :=
  ∃ earlier field later, plan.outputs = earlier ++ field :: later ∧
    plan.config.target field = key ∧ output.find? field = some value ∧
    ∀ overwriting ∈ later, plan.config.target overwriting = key →
      output.find? overwriting = none

/-- What a declared field adds to what is written. -/
def written? (plan : ToolPlan) (output : Record Value) (field : String) : Option (String × Value) :=
  (output.find? field).map fun value => (plan.config.target field, value)

theorem delta_eq_ofPairs (plan : ToolPlan) (output : Record Value) :
    plan.delta output = Record.ofPairs (plan.outputs.filterMap (plan.written? output)) := rfl

theorem written?_eq_some_iff :
    plan.written? output field = some (key, value) ↔
      plan.config.target field = key ∧ output.find? field = some value := by
  simp only [written?, Option.map_eq_some_iff, Prod.mk.injEq]
  constructor
  · rintro ⟨_, found, rfl, rfl⟩
    exact ⟨rfl, found⟩
  · rintro ⟨rfl, found⟩
    exact ⟨value, found, rfl, rfl⟩

/-- A key is written for some fields if one of them is there and has it. -/
theorem mem_keys_written_iff {fields : List String} :
    key ∈ (fields.filterMap (plan.written? output)).map Prod.fst ↔
      ∃ field ∈ fields, plan.config.target field = key ∧ output.has field = true := by
  simp only [List.mem_map, List.mem_filterMap, Prod.exists, written?_eq_some_iff, Record.has,
    Option.isSome_iff_exists]
  constructor
  · rintro ⟨_, value, ⟨field, declared, rfl, found⟩, rfl⟩
    exact ⟨field, declared, rfl, value, found⟩
  · rintro ⟨field, declared, rfl, value, found⟩
    exact ⟨_, value, ⟨field, declared, rfl, found⟩, rfl⟩

/-- Under a state key stands the last declared field that has it and is there. -/
theorem find?_delta_eq_some_iff :
    (plan.delta output).find? key = some value ↔ plan.Leaves output key value := by
  rw [delta_eq_ofPairs, Record.find?_ofPairs_eq_some_iff]
  constructor
  · rintro ⟨_, _, split, last⟩
    obtain ⟨earlier, rest, outputs_eq, -, rest_eq⟩ := List.filterMap_eq_append_iff.mp split
    obtain ⟨passed, field, later, rfl, -, here, rfl⟩ := List.filterMap_eq_cons_iff.mp rest_eq
    obtain ⟨target, found⟩ := written?_eq_some_iff.mp here
    refine ⟨earlier ++ passed, field, later, by rw [outputs_eq, List.append_assoc], target, found,
      fun overwriting among same => ?_⟩
    by_contra there
    refine last (mem_keys_written_iff.mpr ⟨overwriting, among, same, ?_⟩)
    exact Option.isSome_iff_ne_none.mpr there
  · rintro ⟨earlier, field, later, outputs_eq, target, found, last⟩
    refine ⟨earlier.filterMap (plan.written? output), later.filterMap (plan.written? output),
      ?_, ?_⟩
    · rw [outputs_eq, List.filterMap_append,
        List.filterMap_cons_some (written?_eq_some_iff.mpr ⟨target, found⟩)]
    · intro again
      obtain ⟨overwriting, among, same, there⟩ := mem_keys_written_iff.mp again
      rw [Record.has, last overwriting among same] at there
      cases there

/-- Nothing is written but what declared fields of the result are mapped to. -/
theorem mem_keys_delta_iff :
    key ∈ Record.keys (plan.delta output) ↔
      ∃ field ∈ plan.outputs, plan.config.target field = key ∧ output.has field = true := by
  rw [delta_eq_ofPairs, Record.mem_keys_ofPairs, mem_keys_written_iff]

/-- Fields that are not declared make no difference. -/
theorem delta_congr (same : ∀ field ∈ plan.outputs, output.find? field = other.find? field) :
    plan.delta output = plan.delta other := by
  rw [delta_eq_ofPairs, delta_eq_ofPairs]
  refine congrArg Record.ofPairs (List.filterMap_congr fun field declared => ?_)
  rw [written?, written?, same field declared]

/-- A result is delivered as a whole exactly when no two of its fields clash. -/
theorem delivers_iff :
    (∀ field ∈ plan.outputs, plan.Delivers output field) ↔
      ∀ field other, ¬ plan.Clashes output field other := by
  constructor
  · rintro delivers field other ⟨declared, other_declared, target_eq, value, value', found, found',
      differ⟩
    -- both are looked up under the one key they share
    have here := delivers field declared value found
    have there := delivers other other_declared value' found'
    rw [target_eq, there] at here
    exact differ (Option.some.inj here).symm
  · intro peaceful field declared value found
    have present : plan.config.target field ∈
        (plan.outputs.filterMap (plan.written? output)).map Prod.fst := by
      rw [mem_keys_written_iff]
      exact ⟨field, declared, rfl, by rw [Record.has, found]; rfl⟩
    refine Record.find?_ofPairs_of_forall (fun value' written => ?_) present
    obtain ⟨other, other_declared, entry⟩ := List.mem_filterMap.mp written
    obtain ⟨target_eq, found'⟩ := written?_eq_some_iff.mp entry
    by_contra differ
    exact peaceful other field ⟨other_declared, declared, target_eq, value', value, found', found,
      differ⟩

/-- Every result is delivered as a whole exactly when no two declared fields share a state key. -/
theorem delivers_every_iff :
    (∀ output, ∀ field ∈ plan.outputs, plan.Delivers output field) ↔
      Set.InjOn plan.config.target {field | field ∈ plan.outputs} := by
  simp only [delivers_iff]
  constructor
  · intro peaceful field declared other other_declared target_eq
    by_contra apart
    -- a result in which the two fields have different values
    refine peaceful [(field, .null), (other, .bool true)] field other ⟨declared, other_declared,
      target_eq, .null, .bool true, ?_, ?_, nofun⟩
    · rw [Record.find?_cons, if_pos (beq_self_eq_true _)]
    · rw [Record.find?_cons, if_neg (by simpa using Ne.symm apart), Record.find?_cons,
        if_pos (beq_self_eq_true _)]
  · rintro apart output field other ⟨declared, other_declared, target_eq, value, value', found,
      found', differ⟩
    obtain rfl := apart declared other_declared target_eq
    exact differ (Option.some.inj (found.symm.trans found'))

end ToolPlan

/-- A step writes what its tool has to say for the arguments that are read from the state. -/
theorem gives_toolStep_iff {state : State} {delta : Delta} :
    (toolStep plan transport state).Gives before delta after ↔
      ∃ result output, (transport.call plan.tool (plan.arguments state)).Gives before result after ∧
        Tool.decode result plan.outputs = .ok output ∧ delta = plan.delta output := by
  simp only [toolStep, Act.gives_bind_iff, Act.gives_describe_iff, Act.gives_pure_iff,
    ToolPlan.gives_call_iff]
  constructor
  · rintro ⟨output, _, ⟨result, called, decoded⟩, rfl, rfl⟩
    exact ⟨result, output, called, decoded, rfl⟩
  · rintro ⟨result, output, called, decoded, rfl⟩
    exact ⟨output, after, ⟨result, called, decoded⟩, rfl, rfl⟩

/-- A tool node that is built writes the declared fields of the result it decodes, and nothing else.
Under a key that several of them share the last one is left, so a result is delivered as a whole
exactly when no two of its fields clash, and every result is exactly when no two declared fields
share a key. -/
theorem buildTool_delivers (gives : (buildTool n (some transport)).Gives before built after) :
    ∃ plan, n.PlannedAs plan ∧
      (∀ state world delta world', (built.step state).Gives world delta world' ↔
        ∃ result output,
          (transport.call plan.tool (plan.arguments state)).Gives world result world' ∧
            Tool.decode result plan.outputs = .ok output ∧ delta = plan.delta output) ∧
      (∀ output,
        ((∀ field ∈ plan.outputs, plan.Delivers output field) ↔
          ∀ field other, ¬ plan.Clashes output field other) ∧
        (∀ key value,
          (plan.delta output).find? key = some value ↔ plan.Leaves output key value) ∧
        (∀ key, key ∈ Record.keys (plan.delta output) ↔
          ∃ field ∈ plan.outputs, plan.config.target field = key ∧ output.has field = true) ∧
        ∀ other, (∀ field ∈ plan.outputs, output.find? field = other.find? field) →
          plan.delta output = plan.delta other) ∧
      ((∀ output, ∀ field ∈ plan.outputs, plan.Delivers output field) ↔
        Set.InjOn plan.config.target {field | field ∈ plan.outputs}) := by
  obtain ⟨_, plan, same, planned, rfl, rfl⟩ := gives_buildTool_iff.mp gives
  cases same
  refine ⟨plan, planned, fun state world delta world' => gives_toolStep_iff, fun output => ?_,
    ToolPlan.delivers_every_iff⟩
  exact ⟨ToolPlan.delivers_iff, fun key value => ToolPlan.find?_delta_eq_some_iff,
    fun key => ToolPlan.mem_keys_delta_iff, fun other => ToolPlan.delta_congr⟩

/-! ### A rate that is quoted, and one that is lost -/

namespace Exchange

/-- What the exchange says when it is asked for a rate. -/
def quoted : Record Value := [("rate", .int 2), ("total", .int 20), ("note", .str "today")]

/-- A transport whose tools give this, as structured content. -/
def quoting : Tool.Transport Unit where
  call _ _ := pure (some { structured := some (.object quoted) })

/-- A tool node that writes the rate under the name of the other field. -/
def overlapping : PlanNode where
  node := {
    key := "convert"
    type := "tool"
    config := .object [("output_mapping", .object [("rate", .str "total")])] }
  tools := [{
    name := "exchange"
    inputSchema := schemaOf []
    outputSchema := schemaOf ["rate", "total"] }]

def overlappingPlan : ToolPlan where
  key := "convert"
  tool := "exchange"
  config := { inputMapping := [], outputMapping := [("rate", "total")] }
  inputs := []
  outputs := ["rate", "total"]

theorem overlapping_planned : overlapping.PlannedAs overlappingPlan :=
  ⟨_, rfl, rfl, rfl, rfl, rfl, rfl⟩

/-- The converter writes the rate, and nothing else of what the exchange says. -/
theorem converter_delivers :
    ∃ built, (buildTool converter (some quoting)).Gives () built () ∧
      (built.step []).Gives () [("quote", .int 2)] () ∧
      ∀ output, ∀ field ∈ converterPlan.outputs, converterPlan.Delivers output field := by
  have gives : (buildTool converter (some quoting)).Gives ()
      { key := "convert", description := "convert", step := toolStep converterPlan quoting } () :=
    gives_buildTool_iff.mpr ⟨_, _, rfl, converter_planned, rfl, rfl⟩
  obtain ⟨plan, planned, writes, -, every⟩ := buildTool_delivers gives
  cases planned.unique converter_planned
  refine ⟨_, gives, (writes [] () _ ()).mpr ⟨_, quoted, rfl, rfl, rfl⟩, every.mpr ?_⟩
  -- there is one field only
  intro field declared other other_declared _
  rw [List.mem_singleton.mp declared, List.mem_singleton.mp other_declared]

/-- The exchange gives a rate and a total, and the rate does not reach the state. -/
theorem overlapping_loses_rate :
    ∃ built, (buildTool overlapping (some quoting)).Gives () built () ∧
      (built.step []).Gives () [("total", .int 20)] () ∧
      overlapping.PlannedAs overlappingPlan ∧ "rate" ∈ overlappingPlan.outputs ∧
      Tool.decode (some { structured := some (.object quoted) }) overlappingPlan.outputs =
        .ok quoted ∧
      Record.find? quoted "rate" = some (.int 2) ∧
      Record.find? [("total", Value.int 20)] (overlappingPlan.config.target "rate") =
        some (.int 20) :=
  ⟨_, rfl, rfl, overlapping_planned, List.mem_cons_self, rfl, rfl, rfl⟩

end Exchange

end Node

end AgentWorkflow
