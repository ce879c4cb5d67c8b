/-
This file says once what each manager operation can do. An operation either refuses
its arguments and leaves the world alone, or its guards held and its effect is the
one composition of registrations, calls and agent code given here. Everything proved
later about an operation starts from these cases.
-/

import MavlinkHub.Plan

namespace MavlinkHub

namespace Manager

variable {sdk : Sdk} {name type : String} {config : Config} {world : World sdk}

/-! ### Endpoints -/

/-- The world after a name is registered with a new endpoint. -/
def registered (name : String) (world : World sdk) : World sdk :=
  { world with
    endpointDb := world.endpointDb.insert name ⟨world.nextEndpoint, ∅⟩
    endpoints := world.endpoints.insert world.nextEndpoint (sdk.createEndpoint world.env).1
    nextEndpoint := world.nextEndpoint + 1
    env := (sdk.createEndpoint world.env).2
    log := world.log ++ [.createEndpoint name world.nextEndpoint] }

theorem addMavlinkEndpoint_cases (name : String) (world : World sdk) :
    ((∃ entry, world.endpointDb.lookup name = some entry) ∧
        (addMavlinkEndpoint name world).1.success = false ∧
        (addMavlinkEndpoint name world).2 = world) ∨
      (world.endpointDb.lookup name = none ∧
        (addMavlinkEndpoint name world).1.success = true ∧
        (addMavlinkEndpoint name world).2 = registered name world) := by
  rw [addMavlinkEndpoint]
  cases world.endpointDb.lookup name with
  | none => exact Or.inr ⟨rfl, rfl, rfl⟩
  | some entry => exact Or.inl ⟨⟨entry, rfl⟩, rfl, rfl⟩

theorem connectMavlinkEndpoint_cases (name type : String) (config : Config) (world : World sdk) :
    (world.endpointDb.lookup name = none ∧
        (connectMavlinkEndpoint name type config world).1.success = false ∧
        (connectMavlinkEndpoint name type config world).2 = world) ∨
      ∃ entry, world.endpointDb.lookup name = some entry ∧
        (connectMavlinkEndpoint name type config world).1.success =
          decide (((world.record (.connect entry.endpoint type config)).useEndpoint
            entry.endpoint (sdk.connect type config)).1 = some true) ∧
        (connectMavlinkEndpoint name type config world).2 =
          ((world.record (.connect entry.endpoint type config)).useEndpoint entry.endpoint
            (sdk.connect type config)).2 := by
  rw [connectMavlinkEndpoint]
  cases world.endpointDb.lookup name with
  | none => exact Or.inl ⟨rfl, rfl, rfl⟩
  | some entry =>
    refine Or.inr ⟨entry, rfl, ?_⟩
    dsimp only
    split_ifs with connected <;> simp [connected]

theorem disconnectMavlinkEndpoint_cases (name : String) (world : World sdk) :
    (world.endpointDb.lookup name = none ∧
        (disconnectMavlinkEndpoint name world).1.success = false ∧
        (disconnectMavlinkEndpoint name world).2 = world) ∨
      ∃ entry, world.endpointDb.lookup name = some entry ∧
        (disconnectMavlinkEndpoint name world).2 =
          ((world.record (.disconnect entry.endpoint)).useEndpoint entry.endpoint
            sdk.disconnect).2 := by
  rw [disconnectMavlinkEndpoint]
  cases world.endpointDb.lookup name with
  | none => exact Or.inl ⟨rfl, rfl, rfl⟩
  | some entry =>
    refine Or.inr ⟨entry, rfl, ?_⟩
    dsimp only
    split_ifs <;> rfl

/-- The world after a name is unregistered and its endpoint destroyed. -/
def unregistered (name : String) (entry : EndpointEntry) (world : World sdk) : World sdk :=
  { world with
    endpointDb := world.endpointDb.erase name
    endpoints := world.endpoints.erase entry.endpoint
    log := world.log ++ [.destroyEndpoint name entry.endpoint] }

theorem removeMavlinkEndpoint_cases (name : String) (world : World sdk) :
    (world.endpointDb.lookup name = none ∧
        (removeMavlinkEndpoint name world).1.success = false ∧
        (removeMavlinkEndpoint name world).2 = world) ∨
      ∃ entry, world.endpointDb.lookup name = some entry ∧
        (removeMavlinkEndpoint name world).1.success = true ∧
        (removeMavlinkEndpoint name world).2 = unregistered name entry world := by
  rw [removeMavlinkEndpoint]
  cases world.endpointDb.lookup name with
  | none => exact Or.inl ⟨rfl, rfl, rfl⟩
  | some entry => exact Or.inr ⟨entry, rfl, rfl, rfl⟩

/-! ### Agents -/

/-- The world in which `create` starts to run. -/
def creating (definition : sdk.AgentDefinition) (config : sdk.AgentConfig) (world : World sdk) :
    World sdk :=
  { world with
    nextAgent := world.nextAgent + 1
    log := world.log ++ [.createAgent world.nextAgent definition definition config] }

theorem createAgent_cases (name : String) (definition : sdk.AgentDefinition)
    (parsed : sdk.AgentConfig) (world : World sdk) :
    (∃ object,
        ((sdk.create definition parsed).run world.nextAgent ⟨name⟩
          (creating definition parsed world)).1 = some object ∧
        createAgent name definition parsed world =
          (some ⟨world.nextAgent, definition, object⟩,
            ((sdk.create definition parsed).run world.nextAgent ⟨name⟩
              (creating definition parsed world)).2)) ∨
      (((sdk.create definition parsed).run world.nextAgent ⟨name⟩
          (creating definition parsed world)).1 = none ∧
        createAgent name definition parsed world =
          (none, ((sdk.create definition parsed).run world.nextAgent ⟨name⟩
            (creating definition parsed world)).2.destroyHandles world.nextAgent)) := by
  rw [createAgent, ← creating]
  cases created : ((sdk.create definition parsed).run world.nextAgent ⟨name⟩
      (creating definition parsed world)).1 with
  | none => exact Or.inr ⟨rfl, by simp only [created]⟩
  | some object => exact Or.inl ⟨object, rfl, by simp only [created]⟩

/-- Whether `addAgent` gets as far as the call of `create`. -/
def Creates (name type : String) (config : Config) (world : World sdk)
    (definition : sdk.AgentDefinition) (parsed : sdk.AgentConfig) : Prop :=
  world.agents.lookup name = none ∧ world.agentRegistry.definitionAt type = some definition ∧
    (sdk.parseConfig definition config).parsed = some parsed

theorem addAgent_cases (name type : String) (config : Config) (world : World sdk) :
    ((∀ definition parsed, ¬ Creates name type config world definition parsed) ∧
        (addAgent name type config world).1.success = false ∧
        (addAgent name type config world).2 = world) ∨
      ∃ definition parsed, Creates name type config world definition parsed ∧
        (((createAgent name definition parsed world).1 = none ∧
            (addAgent name type config world).1.success = false ∧
            (addAgent name type config world).2 = (createAgent name definition parsed world).2) ∨
          ∃ agent, (createAgent name definition parsed world).1 = some agent ∧
            (addAgent name type config world).1.success = true ∧
            (addAgent name type config world).2 =
              { (createAgent name definition parsed world).2 with
                agents := (createAgent name definition parsed world).2.agents.insert name
                  agent }) := by
  rw [addAgent]
  cases isFree : world.agents.lookup name with
  | some agent => exact Or.inl ⟨fun _ _ creates => by simp [Creates, isFree] at creates, rfl, rfl⟩
  | none =>
    cases known : world.agentRegistry.definitionAt type with
    | none => exact Or.inl ⟨fun _ _ creates => by simp [Creates, known] at creates, rfl, rfl⟩
    | some definition =>
      cases accepted : (sdk.parseConfig definition config).parsed with
      | none =>
        refine Or.inl ⟨fun other parsed creates => ?_, by simp only [accepted],
          by simp only [accepted]⟩
        obtain ⟨_, sameDefinition, sameParsed⟩ := creates
        rw [known, Option.some_inj] at sameDefinition
        rw [← sameDefinition, accepted] at sameParsed
        exact absurd sameParsed.symm (Option.some_ne_none _)
      | some parsed =>
        refine Or.inr ⟨definition, parsed, ⟨isFree, known, accepted⟩, ?_⟩
        simp only [accepted]
        cases (createAgent name definition parsed world).1 with
        | none => exact Or.inl ⟨rfl, rfl, rfl⟩
        | some agent => exact Or.inr ⟨agent, rfl, rfl, rfl⟩

/-- Whether `editAgent` gets as far as the call of `configure`. -/
def Configures (name type : String) (config : Config) (world : World sdk)
    (agent : AgentInstance sdk) (definition : sdk.AgentDefinition) (parsed : sdk.AgentConfig) :
    Prop :=
  world.agents.lookup name = some agent ∧ world.agentRegistry.definitionAt type = some definition ∧
    (sdk.parseConfig definition config).parsed = some parsed

theorem editAgent_cases (name type : String) (config : Config) (world : World sdk) :
    ((∀ agent definition parsed, ¬ Configures name type config world agent definition parsed) ∧
        (editAgent name type config world).1.success = false ∧
        (editAgent name type config world).2 = world) ∨
      ∃ agent definition parsed, Configures name type config world agent definition parsed ∧
        (editAgent name type config world).2 =
          (runAgent name agent (fun object => sdk.configure object parsed)
            (world.record (.configure agent.id definition parsed))).2 := by
  rw [editAgent]
  cases stored : world.agents.lookup name with
  | none =>
    exact Or.inl ⟨fun _ _ _ configures => by simp [Configures, stored] at configures, rfl, rfl⟩
  | some agent =>
    cases known : world.agentRegistry.definitionAt type with
    | none =>
      exact Or.inl ⟨fun _ _ _ configures => by simp [Configures, known] at configures, rfl, rfl⟩
    | some definition =>
      cases accepted : (sdk.parseConfig definition config).parsed with
      | none =>
        refine Or.inl ⟨fun _ other parsed configures => ?_, by simp [accepted], by simp [accepted]⟩
        obtain ⟨_, sameDefinition, sameParsed⟩ := configures
        rw [known, Option.some_inj] at sameDefinition
        rw [← sameDefinition, accepted] at sameParsed
        exact absurd sameParsed.symm (Option.some_ne_none _)
      | some parsed =>
        refine Or.inr ⟨agent, definition, parsed, ⟨stored, known, accepted⟩, ?_⟩
        simp only [accepted]
        split_ifs <;> rfl

theorem startAgent_cases (name : String) (world : World sdk) :
    (world.agents.lookup name = none ∧ (startAgent name world).1.success = false ∧
        (startAgent name world).2 = world) ∨
      ∃ agent, world.agents.lookup name = some agent ∧
        (startAgent name world).1.success =
          (runAgent name agent sdk.start (world.record (.start agent.id))).1 ∧
        (startAgent name world).2 =
          (runAgent name agent sdk.start (world.record (.start agent.id))).2 := by
  rw [startAgent]
  cases world.agents.lookup name with
  | none => exact Or.inl ⟨rfl, rfl, rfl⟩
  | some agent =>
    refine Or.inr ⟨agent, rfl, ?_⟩
    dsimp only
    cases started : (runAgent name agent sdk.start (world.record (.start agent.id))).1 <;> simp

theorem stopAgent_cases (name : String) (world : World sdk) :
    (world.agents.lookup name = none ∧ (stopAgent name world).1.success = false ∧
        (stopAgent name world).2 = world) ∨
      ∃ agent, world.agents.lookup name = some agent ∧
        (stopAgent name world).2 =
          (runAgent name agent sdk.stop (world.record (.stop agent.id))).2 := by
  rw [stopAgent]
  cases world.agents.lookup name with
  | none => exact Or.inl ⟨rfl, rfl, rfl⟩
  | some agent =>
    refine Or.inr ⟨agent, rfl, ?_⟩
    dsimp only
    split_ifs <;> rfl

/-- The world in which the destructor of a removed agent starts to run. -/
def destroying (name : String) (agent : AgentInstance sdk) (world : World sdk) : World sdk :=
  { world with
    agents := world.agents.erase name
    log := world.log ++ [.destroyAgent agent.id] }

theorem removeAgent_cases (name : String) (world : World sdk) :
    (world.agents.lookup name = none ∧ (removeAgent name world).1.success = false ∧
        (removeAgent name world).2 = world) ∨
      ∃ agent, world.agents.lookup name = some agent ∧
        (removeAgent name world).1.success = true ∧
        (removeAgent name world).2 =
          ((sdk.destroyAgent agent.object).run agent.id ⟨name⟩
            (destroying name agent world)).2.destroyHandles agent.id := by
  rw [removeAgent]
  cases world.agents.lookup name with
  | none => exact Or.inl ⟨rfl, rfl, rfl⟩
  | some agent => exact Or.inr ⟨agent, rfl, rfl, rfl⟩

/-! ### Plan entries -/

section Entries

variable {validation : StringMap OperationResult} {discardPlan : Bool}

/-- An endpoint entry that is invalid or discarded is only reported. -/
theorem executeEndpointEntry_of_skipped {epName : String} (epSpec : MavlinkEndpointEntry)
    (world : World sdk)
    (skipped : (resultAt validation epName).success = false ∨ discardPlan = true) :
    (executeEndpointEntry validation discardPlan epName epSpec world).1.success = false ∧
      (executeEndpointEntry validation discardPlan epName epSpec world).2 = world := by
  rw [executeEndpointEntry]
  cases valid : (resultAt validation epName).success with
  | false => exact ⟨by simpa using valid, by simp⟩
  | true =>
    have discarded : discardPlan = true := skipped.resolve_left (by simp [valid])
    exact ⟨by simp [discarded], by simp [discarded]⟩

/-- An agent entry that is invalid or discarded is only reported. -/
theorem executeAgentEntry_of_skipped {agName : String} (agSpec : AgentEntry)
    (world : World sdk)
    (skipped : (resultAt validation agName).success = false ∨ discardPlan = true) :
    (executeAgentEntry validation discardPlan agName agSpec world).1.success = false ∧
      (executeAgentEntry validation discardPlan agName agSpec world).2 = world := by
  rw [executeAgentEntry]
  cases valid : (resultAt validation agName).success with
  | false => exact ⟨by simpa using valid, by simp⟩
  | true =>
    have discarded : discardPlan = true := skipped.resolve_left (by simp [valid])
    exact ⟨by simp [discarded], by simp [discarded]⟩

/-- What the loop does with an endpoint entry that is valid and not discarded. -/
def attemptEndpoint (epName : String) (epSpec : MavlinkEndpointEntry) (world : World sdk) :
    OperationResult × World sdk :=
  let (addResult, added) := addMavlinkEndpoint epName world
  let execResult := OperationResult.merge {} addResult
  if addResult.success && epSpec.connectOnCreate then
    let (connectResult, connected) :=
      connectMavlinkEndpoint epName epSpec.type epSpec.config added
    (execResult.merge connectResult, connected)
  else
    (execResult, added)

/-- What the loop does with an agent entry that is valid and not discarded. -/
def attemptAgent (agName : String) (agSpec : AgentEntry) (world : World sdk) :
    OperationResult × World sdk :=
  let (addResult, added) := addAgent agName agSpec.type agSpec.config world
  let execResult := OperationResult.merge {} addResult
  if addResult.success && agSpec.startOnCreate then
    let (startResult, started) := startAgent agName added
    (execResult.merge startResult, started)
  else
    (execResult, added)

theorem executeEndpointEntry_of_valid {epName : String} (epSpec : MavlinkEndpointEntry)
    (valid : (resultAt validation epName).success = true) :
    executeEndpointEntry validation false epName epSpec world =
      attemptEndpoint epName epSpec world := by
  simp [executeEndpointEntry, attemptEndpoint, valid]

theorem executeAgentEntry_of_valid {agName : String} (agSpec : AgentEntry)
    (valid : (resultAt validation agName).success = true) :
    executeAgentEntry validation false agName agSpec world = attemptAgent agName agSpec world := by
  simp [executeAgentEntry, attemptAgent, valid]

/-- An entry is only reported, or attempted, in every world. -/
theorem executeEndpointEntry_cases (validation : StringMap OperationResult) (discardPlan : Bool)
    (epName : String) (epSpec : MavlinkEndpointEntry) :
    (∃ result, ∀ world : World sdk,
        executeEndpointEntry validation discardPlan epName epSpec world = (result, world)) ∨
      ∀ world : World sdk, executeEndpointEntry validation discardPlan epName epSpec world =
        attemptEndpoint epName epSpec world := by
  cases valid : (resultAt validation epName).success with
  | false => exact Or.inl ⟨_, fun _ => by rw [executeEndpointEntry, valid]; rfl⟩
  | true =>
    cases discardPlan with
    | true => exact Or.inl ⟨_, fun _ => by rw [executeEndpointEntry, valid]; rfl⟩
    | false => exact Or.inr fun _ => executeEndpointEntry_of_valid epSpec valid

theorem executeAgentEntry_cases (validation : StringMap OperationResult) (discardPlan : Bool)
    (agName : String) (agSpec : AgentEntry) :
    (∃ result, ∀ world : World sdk,
        executeAgentEntry validation discardPlan agName agSpec world = (result, world)) ∨
      ∀ world : World sdk, executeAgentEntry validation discardPlan agName agSpec world =
        attemptAgent agName agSpec world := by
  cases valid : (resultAt validation agName).success with
  | false => exact Or.inl ⟨_, fun _ => by rw [executeAgentEntry, valid]; rfl⟩
  | true =>
    cases discardPlan with
    | true => exact Or.inl ⟨_, fun _ => by rw [executeAgentEntry, valid]; rfl⟩
    | false => exact Or.inr fun _ => executeAgentEntry_of_valid agSpec valid

end Entries

/-! ### The whole plan -/

section Relates

variable (related : World sdk → World sdk → Prop)
  (transitive : ∀ {one two three}, related one two → related two three → related one three)

include transitive

/-- A reflexive and transitive relation that contains what is done for an endpoint entry and
for an agent entry contains the effect of a plan. -/
theorem executePlan_relates (reflexive : ∀ world, related world world) {plan : UserPlan}
    (endpoint : ∀ epName epSpec world, related world (attemptEndpoint epName epSpec world).2)
    (agent : ∀ agName agSpec world, related world (attemptAgent agName agSpec world).2)
    (world : World sdk) : related world (executePlan plan world).2 := by
  refine transitive (KeyedLoop.forEach_relates related reflexive transitive ?_)
    (KeyedLoop.forEach_relates related reflexive transitive ?_)
  · intro entry _ state
    rcases executeEndpointEntry_cases (validatePlan plan world).endpointPlanResult
      (discardsPlan plan (validatePlan plan world)) entry.1 entry.2 with
      ⟨result, skips⟩ | attempts
    · rw [skips]
      exact reflexive state
    · rw [attempts]
      exact endpoint entry.1 entry.2 state
  · intro entry _ state
    rcases executeAgentEntry_cases (validatePlan plan world).agentPlanResult
      (discardsPlan plan (validatePlan plan world)) entry.1 entry.2 with
      ⟨result, skips⟩ | attempts
    · rw [skips]
      exact reflexive state
    · rw [attempts]
      exact agent entry.1 entry.2 state

theorem attemptEndpoint_relates
    (add : ∀ name world, related world (addMavlinkEndpoint name world).2)
    (connect : ∀ name type config world,
      related world (connectMavlinkEndpoint name type config world).2)
    (epName : String) (epSpec : MavlinkEndpointEntry) (world : World sdk) :
    related world (attemptEndpoint epName epSpec world).2 := by
  rw [attemptEndpoint]
  dsimp only
  split_ifs
  · exact transitive (add epName world) (connect epName _ _ _)
  · exact add epName world

theorem attemptAgent_relates
    (add : ∀ name type config world, related world (addAgent name type config world).2)
    (start : ∀ name world, related world (startAgent name world).2)
    (agName : String) (agSpec : AgentEntry) (world : World sdk) :
    related world (attemptAgent agName agSpec world).2 := by
  rw [attemptAgent]
  dsimp only
  split_ifs
  · exact transitive (add agName _ _ world) (start agName _)
  · exact add agName _ _ world

end Relates

end Manager

end MavlinkHub
