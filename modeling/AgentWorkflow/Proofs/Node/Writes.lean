import AgentWorkflow.Node.ToolCall
import AgentWorkflow.Node.Worker
import AgentWorkflow.Proofs.Outcome
import AgentWorkflow.Proofs.Record

/-!
# The keys that nodes write

Whatever the collaborators answer, a worker writes nothing but its output key, a member nothing but
the conversation, and a tool node nothing but the state keys of the declared fields of its result.

## Main definitions

* `Node.WritesOnly`: the keys that a step can write

## Main results

* `Node.workerStep_writesOnly`, `Node.memberStep_writesOnly`, `Node.toolStep_writesOnly`
-/

namespace AgentWorkflow.Node

variable {σ : Type}

/-- In every world and from every state, a step writes no other keys than these. -/
def WritesOnly (step : Step σ) (allowed : String → Prop) : Prop :=
  ∀ {state before delta after}, (step state).Gives before delta after →
    ∀ key ∈ Record.keys delta, allowed key

theorem workerStep_writesOnly (prepare : ImagePreparer σ) (node : GraphNode) (config : WorkerConfig)
    (agent : Agent.Reasoner σ) :
    WritesOnly (workerStep prepare node config agent) fun key =>
      node.outputKey = some key ∧ key ≠ "" := by
  intro state before delta after gives key written
  simp only [workerStep, Act.gives_bind_iff] at gives
  obtain ⟨_, _, -, _, _, -, output, _, -, rest⟩ := gives
  cases target : node.outputKey with
  | none =>
    rw [target] at rest
    obtain ⟨rfl, -⟩ := Act.gives_pure_iff.mp rest
    cases written
  | some outputKey =>
    rw [target] at rest
    obtain ⟨rfl, -⟩ := Act.gives_pure_iff.mp rest
    split_ifs at written with blank
    · cases written
    · rw [Record.keys, List.map_singleton, List.mem_singleton] at written
      rw [written]
      exact ⟨rfl, by simpa using blank⟩

/-- A member goes on with the conversation, and writes what its agent added to it, if anything. -/
theorem exists_of_gives_memberStep {member : String} {agent : Agent.Reasoner σ} {state : State}
    {before after : σ} {delta : Delta}
    (gives : (memberStep member agent state).Gives before delta after) :
    ∃ conversation result middle, history state = .ok conversation ∧
      (runAgent (memberLabel member) agent conversation).Gives before result middle ∧
      (result.drop conversation.length = [] ∧ delta = [] ∨
        result.drop conversation.length ≠ [] ∧
          delta = [(messagesKey, .list (result.drop conversation.length))]) := by
  simp only [memberStep, Act.gives_bind_iff, Act.gives_ofFault_iff] at gives
  obtain ⟨conversation, _, ⟨kept, rfl⟩, result, middle, ran, rest⟩ := gives
  refine ⟨conversation, result, middle, kept, ran, ?_⟩
  split_ifs at rest with nothing
  · obtain ⟨rfl, -⟩ := Act.gives_pure_iff.mp rest
    exact Or.inl ⟨List.isEmpty_iff.mp nothing, rfl⟩
  · simp only [Act.gives_bind_iff, Act.gives_pure_iff] at rest
    obtain ⟨_, _, -, rfl, -⟩ := rest
    exact Or.inr ⟨fun none_added => nothing (List.isEmpty_iff.mpr none_added), rfl⟩

theorem memberStep_writesOnly (member : String) (agent : Agent.Reasoner σ) :
    WritesOnly (memberStep member agent) fun key => key = messagesKey := by
  intro state before delta after gives key written
  obtain ⟨_, _, _, -, -, ⟨-, rfl⟩ | ⟨-, rfl⟩⟩ := exists_of_gives_memberStep gives
  · cases written
  · exact List.mem_singleton.mp written

/-- What is written for a result has the state key of one of its declared fields. -/
theorem ToolPlan.mem_of_mem_keys_delta {plan : ToolPlan} {output : Record Value} {key : String}
    (written : key ∈ Record.keys (plan.delta output)) :
    key ∈ plan.outputs.map plan.config.target := by
  rw [ToolPlan.delta, Record.mem_keys_ofPairs, List.mem_map] at written
  obtain ⟨pair, member, rfl⟩ := written
  obtain ⟨field, declared, found⟩ := List.mem_filterMap.mp member
  obtain ⟨value, -, rfl⟩ := Option.map_eq_some_iff.mp found
  exact List.mem_map_of_mem declared

theorem toolStep_writesOnly (plan : ToolPlan) (transport : Tool.Transport σ) :
    WritesOnly (toolStep plan transport) fun key => key ∈ plan.outputs.map plan.config.target := by
  intro state before delta after gives key written
  simp only [toolStep, Act.gives_bind_iff, Act.gives_pure_iff] at gives
  obtain ⟨output, _, -, rfl, -⟩ := gives
  exact ToolPlan.mem_of_mem_keys_delta written

end AgentWorkflow.Node
