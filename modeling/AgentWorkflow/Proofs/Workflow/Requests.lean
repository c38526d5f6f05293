import AgentWorkflow.Proofs.Workflow.Steadiness

/-!
# The requests for clients

Nodes that name the same provider and model share a client, so the requests for clients are fewer
than the nodes. They are told by the nodes alone: every request that occurs is made once, where it
first occurs, until one fails. So the arena, which looks up every client before it asks for one, can
be done without: asking for the requests in turn and then handing out the clients is the same
program.

## Main definitions

* `PlanNode.request?`: the request of a node
* `Workflow.requested`: the requests of some nodes, in the order in which they first occur
* `Chat.supply`, `Chat.Supplies`: asking for clients in turn, and what comes of it
* `Workflow.assign`: handing out clients to the nodes that request them

## Main results

* `Workflow.exists_front_of_requested`: when a client is asked for
* `Chat.gives_supply_iff`, `Chat.fails_supply_iff`: how asking in turn ends
* `Workflow.makeClients_eq`: making clients through an arena is asking for each of them in turn
* `Workflow.find?_assign`: nodes with the same request have the same client
* `Workflow.build_eq`: a workflow is built in two stages
-/

namespace AgentWorkflow

/-- The request of a node for a client, if it carries a model: the name of the provider without
blanks at its ends and in lower case, and the name of the model without blanks at its ends. -/
def PlanNode.request? (n : PlanNode) : Option (String × String) :=
  n.model.map fun model => (Text.lower (Text.strip model.provider), Text.strip model.name)

variable {σ : Type} {services : Services σ} {factory : Chat.ClientFactory σ} {before after : σ}
  {n : PlanNode} {nodes : List PlanNode}

/-! ### Requests -/

/-- An arena looks clients up by the requests of nodes. -/
theorem PlanNode.request?_of_model {model : ModelRef} (carried : n.model = some model) :
    n.request? = some (Chat.normalized model.provider model.name) := by
  rw [request?, carried, Option.map_some, Chat.normalized]

/-- An item that is not erased as a duplicate stands behind the items in front of it, and was not
among them. -/
theorem exists_front_of_eraseDups {α : Type} [BEq α] [LawfulBEq α] {items earlier later : List α}
    {a : α} (split : items.eraseDups = earlier ++ a :: later) :
    ∃ front back, items = front ++ a :: back ∧ front.eraseDups = earlier := by
  have member : a ∈ items := by
    rw [← List.mem_eraseDups, split]
    exact List.mem_append_right _ List.mem_cons_self
  obtain ⟨front, back, rfl, first⟩ := List.eq_append_cons_of_mem member
  refine ⟨front, back, rfl, ?_⟩
  have distinct := Text.nodup_eraseDups (front ++ a :: back)
  rw [split, List.nodup_middle, List.nodup_cons, List.mem_append, not_or] at distinct
  rw [List.eraseDups_append, List.cons_removeAll, if_pos (by simpa using first),
    List.eraseDups_cons] at split
  -- there is one way only to cut a list at an item that occurs once
  obtain ⟨same, -, -⟩ :=
    (List.append_cons_inj_of_notMem distinct.1.1 distinct.1.2).mp split.symm
  exact same.symm

namespace Workflow

/-- The requests of some nodes for clients, each one where it first occurs. -/
def requested (nodes : List PlanNode) : List (String × String) :=
  (nodes.filterMap PlanNode.request?).eraseDups

theorem nodup_requested (nodes : List PlanNode) : (requested nodes).Nodup := Text.nodup_eraseDups _

theorem mem_requested_iff {key : String × String} :
    key ∈ requested nodes ↔ ∃ n ∈ nodes, n.request? = some key := by
  rw [requested, List.mem_eraseDups, List.mem_filterMap]

/-- A client is asked for at a node that requests it, after what the nodes in front request. -/
theorem exists_front_of_requested {earlier later : List (String × String)} {key : String × String}
    (split : requested nodes = earlier ++ key :: later) :
    ∃ front n back, nodes = front ++ n :: back ∧ n.request? = some key ∧
      requested front = earlier := by
  obtain ⟨front, back, requests, rfl⟩ := exists_front_of_eraseDups split
  obtain ⟨front', rest, rfl, rfl, rest_eq⟩ := List.filterMap_eq_append_iff.mp requests
  obtain ⟨silent, n, back', rfl, none_there, here, -⟩ := List.filterMap_eq_cons_iff.mp rest_eq
  refine ⟨front' ++ silent, n, back', by rw [List.append_assoc], here, ?_⟩
  have nothing : silent.filterMap PlanNode.request? = [] := List.filterMap_eq_nil_iff.mpr none_there
  rw [requested, List.filterMap_append, nothing, List.append_nil]

end Workflow

/-! ### Clients in turn -/

namespace Chat

/-- The factory makes clients in turn, each one in the world that the one before it has left. -/
inductive Supplies (factory : ClientFactory σ) : σ → List ((String × String) × Client σ) → σ → Prop
  | nil {world : σ} : Supplies factory world [] world
  | cons {before middle after : σ} {key : String × String} {client : Client σ}
      {supplied : List ((String × String) × Client σ)}
      (made : (factory key.1 key.2).Gives before client middle)
      (rest : Supplies factory middle supplied after) :
      Supplies factory before ((key, client) :: supplied) after

/-- Asks for clients in turn. -/
def supply (factory : ClientFactory σ) :
    List (String × String) → Act σ (List ((String × String) × Client σ))
  | [] => pure []
  | key :: keys => do
    let client ← (factory key.1 key.2).describe (clientFailure key)
    let supplied ← supply factory keys
    return (key, client) :: supplied

variable {keys : List (String × String)} {supplied : List ((String × String) × Client σ)}
  {failure : Failure}

theorem gives_supply_iff :
    (supply factory keys).Gives before supplied after ↔
      Supplies factory before supplied after ∧ supplied.map Prod.fst = keys := by
  induction keys generalizing before after supplied with
  | nil =>
    rw [supply, Act.gives_pure_iff, List.map_eq_nil_iff]
    constructor
    · rintro ⟨rfl, rfl⟩
      exact ⟨.nil, rfl⟩
    · rintro ⟨supplies, rfl⟩
      cases supplies
      exact ⟨rfl, rfl⟩
  | cons key keys ih =>
    simp only [supply, Act.gives_bind_iff, Act.gives_describe_iff, Act.gives_pure_iff, ih]
    constructor
    · rintro ⟨client, _, made, rest, _, ⟨supplies, rfl⟩, rfl, rfl⟩
      exact ⟨.cons made supplies, rfl⟩
    · rintro ⟨supplies, names⟩
      cases supplies with
      | nil => cases names
      | cons made rest =>
        cases names
        exact ⟨_, _, made, _, _, ⟨rest, rfl⟩, rfl, rfl⟩

/-- The first request that fails is the last one that is made. -/
theorem fails_supply_iff :
    (supply factory keys).Fails before failure after ↔
      ∃ supplied key later middle cause, keys = supplied.map Prod.fst ++ key :: later ∧
        Supplies factory before supplied middle ∧
        (factory key.1 key.2).Fails middle cause after ∧ clientFailure key cause = failure := by
  induction keys generalizing before with
  | nil =>
    refine iff_of_false Act.not_fails_pure ?_
    rintro ⟨supplied, key, later, -, -, split, -⟩
    exact absurd split (List.append_ne_nil_of_right_ne_nil _ (List.cons_ne_nil _ _)).symm
  | cons key keys ih =>
    simp only [supply, Act.fails_bind_iff, Act.fails_describe_iff, Act.gives_describe_iff,
      Act.not_fails_pure, and_false, exists_false, or_false, ih]
    constructor
    · rintro (⟨cause, fails, described⟩ | ⟨client, _, made, supplied, other, later, middle, cause,
        rfl, rest, fails, described⟩)
      · exact ⟨[], key, keys, before, cause, rfl, .nil, fails, described⟩
      · exact ⟨(key, client) :: supplied, other, later, middle, cause, rfl, .cons made rest, fails,
          described⟩
    · rintro ⟨supplied, other, later, middle, cause, split, supplies, fails, described⟩
      cases supplies with
      | nil =>
        cases split
        exact Or.inl ⟨cause, fails, described⟩
      | cons made rest =>
        cases split
        exact Or.inr ⟨_, _, made, _, other, later, middle, cause, rfl, rest, fails, described⟩

/-- Every client that is supplied is one that the factory makes. -/
theorem Supplies.makes (supplies : Supplies services.makeClient before supplied after) :
    ∀ entry ∈ supplied, services.Makes entry.2 := by
  induction supplies with
  | nil => exact nofun
  | cons made rest ih => exact List.forall_mem_cons.mpr ⟨⟨_, _, _, _, made⟩, ih⟩

end Chat

namespace Workflow

open Chat (Supplies supply)

/-- The client that was made for the request of a node. -/
def suppliedTo (supplied : List ((String × String) × Chat.Client σ)) (n : PlanNode) :
    Option (Chat.Client σ) := n.request?.bind fun key => supplied.lookup key

/-- Hands out clients to the nodes that request them. -/
def assign (supplied : List ((String × String) × Chat.Client σ)) (nodes : List PlanNode) :
    Record (Chat.Client σ) :=
  nodes.filterMap fun n => (suppliedTo supplied n).map fun client => (n.key, client)

/-- The requests of some nodes that an arena does not hold already. -/
def pending (arena : Chat.Arena (Chat.Client σ)) (nodes : List PlanNode) :
    List (String × String) :=
  ((nodes.filterMap PlanNode.request?).filter fun key => (arena.find? key).isNone).eraseDups

theorem pending_empty (nodes : List PlanNode) :
    pending ({} : Chat.Arena (Chat.Client σ)) nodes = requested nodes := by
  rw [pending, requested]
  exact congrArg List.eraseDups (List.filter_eq_self.mpr fun key _ => rfl)

variable {arena : Chat.Arena (Chat.Client σ)} {key : String × String}
  {supplied : List ((String × String) × Chat.Client σ)}

theorem pending_cons_of_none (silent : n.request? = none) :
    pending arena (n :: nodes) = pending arena nodes := by
  rw [pending, List.filterMap_cons_none silent, pending]

theorem pending_cons_of_held (request : n.request? = some key)
    (held : (arena.find? key).isSome = true) :
    pending arena (n :: nodes) = pending arena nodes := by
  rw [pending, List.filterMap_cons_some request, List.filter_cons_of_neg, pending]
  simpa [Option.isSome_iff_ne_none] using held

/-- A request that is made is not pending any more. -/
theorem pending_cons_of_new (nodes : List PlanNode) (request : n.request? = some key)
    (new : arena.find? key = none) :
    ∃ rest, pending arena (n :: nodes) = key :: rest ∧ ∀ made : Chat.Client σ,
      pending { clients := arena.clients ++ [(key, made)] } nodes = rest := by
  have missing : ∀ (made : Chat.Client σ) (other : String × String),
      (Chat.Arena.find? { clients := arena.clients ++ [(key, made)] } other).isNone =
        (!other == key && (arena.find? other).isNone) := by
    intro made other
    rw [Chat.Arena.find?, Chat.Arena.find?, List.lookup_append, List.lookup_cons]
    cases other == key <;> cases arena.clients.lookup other <;> rfl
  refine ⟨((nodes.filterMap PlanNode.request?).filter fun other =>
    !other == key && (arena.find? other).isNone).eraseDups, ?_, fun made => ?_⟩
  · rw [pending, List.filterMap_cons_some request, List.filter_cons_of_pos (by rw [new]; rfl),
      List.eraseDups_cons, List.filter_filter]
  · simp only [pending, missing]

theorem assign_cons_of_none (missing : suppliedTo supplied n = none) :
    assign supplied (n :: nodes) = assign supplied nodes := by
  rw [assign, List.filterMap_cons_none (by rw [missing]; rfl), assign]

theorem assign_cons_of_some {client : Chat.Client σ} (held : suppliedTo supplied n = some client) :
    assign supplied (n :: nodes) = (n.key, client) :: assign supplied nodes := by
  rw [assign, List.filterMap_cons_some (by rw [held]; rfl), assign]

theorem suppliedTo_append (request : n.request? = some key) :
    suppliedTo (arena.clients ++ supplied) n = (arena.find? key).or (supplied.lookup key) := by
  rw [suppliedTo, request, Option.bind_some, List.lookup_append, Chat.Arena.find?]

/-- To make clients through an arena is to ask in turn for those that it does not hold, and to hand
out all of them. -/
theorem makeClients_eq (factory : Chat.ClientFactory σ) (arena : Chat.Arena (Chat.Client σ))
    (nodes : List PlanNode) :
    makeClients factory arena nodes = (do
      let supplied ← supply factory (pending arena nodes)
      return assign (arena.clients ++ supplied) nodes) := by
  induction nodes generalizing arena with
  | nil => rfl
  | cons n nodes ih =>
    rw [makeClients]
    cases carried : n.model with
    | none =>
      have silent : n.request? = none := by rw [PlanNode.request?, carried]; rfl
      have missing : ∀ supplied : List ((String × String) × Chat.Client σ),
          suppliedTo supplied n = none := fun supplied => by rw [suppliedTo, silent]; rfl
      simp only [ih, pending_cons_of_none silent, assign_cons_of_none (missing _)]
    | some model =>
      have request : n.request? = some (Chat.normalized model.provider model.name) :=
        PlanNode.request?_of_model carried
      dsimp only
      rw [Chat.Arena.get]
      -- which request it is makes no difference from here on
      generalize Chat.normalized model.provider model.name = key at request
      cases found : arena.find? key with
      | some client =>
        -- the client is there, and stays the one that is found
        have held : ∀ supplied, suppliedTo (arena.clients ++ supplied) n = some client := by
          intro supplied
          rw [suppliedTo_append request, found, Option.some_or]
        simp only [pure_bind, ih, pending_cons_of_held request (by rw [found]; rfl), bind_assoc,
          assign_cons_of_some (held _)]
      | none =>
        -- the client is asked for now, and is in the arena for the nodes behind
        obtain ⟨rest, now, later⟩ := pending_cons_of_new nodes request found
        have held : ∀ client supplied,
            suppliedTo (arena.clients ++ (key, client) :: supplied) n = some client := by
          intro client supplied
          rw [suppliedTo_append request, found, Option.none_or, List.lookup_cons_self]
        simp only [bind_assoc, pure_bind, ih, later, now, supply, List.append_assoc,
          List.singleton_append, assign_cons_of_some (held _ _)]

theorem mem_assign_iff {pair : String × Chat.Client σ} :
    pair ∈ assign supplied nodes ↔
      ∃ n ∈ nodes, n.key = pair.1 ∧ suppliedTo supplied n = some pair.2 := by
  simp only [assign, List.mem_filterMap, Option.map_eq_some_iff, Prod.ext_iff]
  constructor
  · rintro ⟨n, node, client, held, same, rfl⟩
    exact ⟨n, node, same, held⟩
  · rintro ⟨n, node, same, held⟩
    exact ⟨n, node, pair.2, held, same, rfl⟩

theorem keys_assign_sublist (supplied : List ((String × String) × Chat.Client σ))
    (nodes : List PlanNode) : (assign supplied nodes).keys.Sublist (nodes.map PlanNode.key) := by
  induction nodes with
  | nil => exact .slnil
  | cons n nodes ih =>
    cases held : suppliedTo supplied n with
    | none =>
      rw [assign_cons_of_none held]
      exact ih.cons _
    | some client =>
      rw [assign_cons_of_some held]
      exact ih.cons_cons _

/-- Every node has the client that was made for its request, and so do all that request the same. -/
theorem find?_assign (distinct : (nodes.map PlanNode.key).Nodup) (node : n ∈ nodes) :
    (assign supplied nodes).find? n.key = suppliedTo supplied n := by
  have keys_nodup := (keys_assign_sublist supplied nodes).nodup distinct
  cases held : suppliedTo supplied n with
  | some client =>
    exact Record.find?_of_mem keys_nodup (mem_assign_iff.mpr ⟨n, node, rfl, held⟩)
  | none =>
    rw [Record.find?_eq_none_iff]
    intro taken
    obtain ⟨pair, member, same⟩ := List.mem_map.mp taken
    obtain ⟨other, among, other_key, other_held⟩ := mem_assign_iff.mp member
    -- a node with the same key is this node, which has no client
    obtain rfl := List.inj_on_of_nodup_map distinct among node (other_key.trans same)
    rw [held] at other_held
    cases other_held

/-- A client that is handed out is one of those that were supplied. -/
theorem exists_of_mem_assign {pair : String × Chat.Client σ}
    (member : pair ∈ assign supplied nodes) : ∃ key, (key, pair.2) ∈ supplied := by
  obtain ⟨n, -, -, found⟩ := mem_assign_iff.mp member
  obtain ⟨key, -, held⟩ := Option.bind_eq_some_iff.mp found
  obtain ⟨front, back, rfl, -⟩ := List.lookup_eq_some_iff.mp held
  exact ⟨key, List.mem_append_right _ List.mem_cons_self⟩

/-! ### Building, once the clients are there -/

/-- Builds the nodes of a blueprint with their clients, and joins them. -/
def construct (settings : Settings) (services : Services σ) (transport : Option (Tool.Transport σ))
    (stateKeys : List String) (blueprint : Blueprint) (clients : Record (Chat.Client σ)) :
    Act σ (Workflow σ) := do
  let parts ← buildEach
    (buildPart settings services transport blueprint.supervision.owners clients)
    blueprint.plan.nodes
  let routings ← buildEach (buildRouting settings services blueprint.supervision clients)
    blueprint.plan.nodes
  Node.ofBuild (join blueprint (parts ++ routings) stateKeys)

/-- A workflow is built in two stages. -/
theorem build_eq (settings : Settings) (services : Services σ)
    (transport : Option (Tool.Transport σ)) (stateKeys : List String) (blueprint : Blueprint) :
    build settings services transport stateKeys blueprint = (do
      let supplied ← supply services.makeClient (requested blueprint.plan.nodes)
      construct settings services transport stateKeys blueprint
        (assign supplied blueprint.plan.nodes)) := by
  have together : build settings services transport stateKeys blueprint =
      makeClients services.makeClient {} blueprint.plan.nodes >>=
        construct settings services transport stateKeys blueprint := rfl
  rw [together, makeClients_eq, pending_empty, bind_assoc]
  simp only [pure_bind, List.nil_append]

end Workflow

end AgentWorkflow
