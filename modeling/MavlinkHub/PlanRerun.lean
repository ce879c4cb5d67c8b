/-
This file proves that a plan executed once more, right after it was executed, does
nothing. Every name the first run registered is taken. If there is one, a second run
under `DISCARD` is discarded, and under `BEST_EFFORT` it has no valid entry left but
the agents whose creation failed. These fail again, as long as `create` answers as it
did before.
-/

import MavlinkHub.PlanFrame

namespace MavlinkHub

open KeyedLoop Manager Transition

variable {sdk : Sdk} {world before between after : World sdk} {plan : UserPlan}

/-! ### Taken names -/

/-- An entry whose name is taken is reported as failed, whatever becomes of the others. -/
theorem endpoint_failed_of_taken {epName : String} (listed : epName ∈ plan.endpointList.keys)
    (taken : instanceAt world.endpointDb epName ≠ none) :
    ∃ result, (executePlan plan world).1.endpointPlanResult.lookup epName = some result ∧
      result.success = false := by
  obtain ⟨⟨epName, epSpec⟩, member, rfl⟩ := List.mem_map.mp listed
  obtain ⟨front, back, split⟩ := List.append_of_mem member
  obtain ⟨isListed, _, notAfter⟩ := lookup_of_split split
  have invalid :
      (resultAt (validatePlan plan world).endpointPlanResult epName).success = false := by
    rw [← Bool.not_eq_true, resultAt_endpoint isListed, validateEndpointEntry_success]
    exact fun valid => taken (instanceAt_eq_none.mpr valid.1)
  rw [executePlan, split]
  exact ⟨_, lookup_forEach_of_split notAfter,
    (executeEndpointEntry_of_skipped epSpec _ (Or.inl invalid)).1⟩

theorem agent_failed_of_taken {agName : String} (listed : agName ∈ plan.agentList.keys)
    (taken : world.agents.lookup agName ≠ none) :
    ∃ result, (executePlan plan world).1.agentPlanResult.lookup agName = some result ∧
      result.success = false := by
  obtain ⟨⟨agName, agSpec⟩, member, rfl⟩ := List.mem_map.mp listed
  obtain ⟨front, back, split⟩ := List.append_of_mem member
  obtain ⟨isListed, _, notAfter⟩ := lookup_of_split split
  have invalid : (resultAt (validatePlan plan world).agentPlanResult agName).success = false := by
    rw [← Bool.not_eq_true, resultAt_agent isListed, validateAgentEntry_success]
    exact fun valid => taken valid.1
  rw [executePlan, split]
  exact ⟨_, lookup_forEach_of_split notAfter,
    (executeAgentEntry_of_skipped agSpec _ (Or.inl invalid)).1⟩

/-! ### Calls of `create` -/

/-- Executing the plan calls `create` for the entry `agName` in the world `before`. -/
structure CallsCreate (plan : UserPlan) (world : World sdk) (agName : String)
    (definition : sdk.AgentDefinition) (parsed : sdk.AgentConfig) (before : World sdk) : Prop where
  kept : discardsPlan plan (validatePlan plan world) = false
  valid : (resultAt (validatePlan plan world).agentPlanResult agName).success = true
  reached : ∃ front agSpec back, plan.agentList.entries = front ++ ⟨agName, agSpec⟩ :: back ∧
    before = (issueAgents (validatePlan plan world) front
      (issueEndpoints (validatePlan plan world) plan.endpointList.entries world).2).2 ∧
    Creates agName agSpec.type agSpec.config before definition parsed

/-- Where both runs of the plan call `create` for an entry, it answers both times the same. -/
def SameAnswers (plan : UserPlan) (world : World sdk) : Prop :=
  ∀ agName definition parsed first second,
    CallsCreate plan world agName definition parsed first →
    CallsCreate plan (executePlan plan world).2 agName definition parsed second →
      (CreateFails agName definition parsed first ↔ CreateFails agName definition parsed second)

/-- An entry whose creation fails leaves behind what the attempt does. -/
theorem attemptAgent_of_createFails {agName : String} {agSpec : AgentEntry}
    {definition : sdk.AgentDefinition} {parsed : sdk.AgentConfig}
    (creates : Creates agName agSpec.type agSpec.config world definition parsed)
    (fails : CreateFails agName definition parsed world) :
    (attemptAgent agName agSpec world).2 = (createAgent agName definition parsed world).2 := by
  rcases addAgent_of_creates creates with ⟨_, failed, effect⟩ | ⟨agent, some, _, _⟩
  · simp [attemptAgent, failed, effect]
  · exact absurd (some.symm.trans (createAgent_fst_eq_none.mpr fails)) (Option.some_ne_none _)

/-- An entry whose creation does not fail registers its agent. -/
theorem registered_attemptAgent (owned : world.Owned) {agName : String} {agSpec : AgentEntry}
    {definition : sdk.AgentDefinition} {parsed : sdk.AgentConfig}
    (creates : Creates agName agSpec.type agSpec.config world definition parsed)
    (succeeds : ¬ CreateFails agName definition parsed world) :
    ∃ agent, (attemptAgent agName agSpec world).2.agents.lookup agName = some agent := by
  have ownedAdded := owned_addAgent owned agName agSpec.type agSpec.config
  rcases addAgent_of_creates creates with ⟨none, _, _⟩ | ⟨agent, some, _, effect⟩
  · exact absurd (createAgent_fst_eq_none.mp none) succeeds
  have adds := addsAgent_addAgent owned some
  rw [← effect] at adds
  rw [attemptAgent]
  dsimp only
  split_ifs
  · exact (adds.start ownedAdded).isRegistered.imp fun _ stored => stored.1
  · exact adds.isRegistered.imp fun _ stored => stored.1

/-- An agent whose creation does not fail is registered when the plan is done. -/
theorem registered_of_created (reachable : world.Reachable) {agName : String}
    {definition : sdk.AgentDefinition} {parsed : sdk.AgentConfig}
    (calls : CallsCreate plan world agName definition parsed before)
    (succeeds : ¬ CreateFails agName definition parsed before) :
    (executePlan plan world).2.agents.lookup agName ≠ none := by
  obtain ⟨kept, valid, front, agSpec, back, split, rfl, creates⟩ := calls
  have reachableHere := (extends_issueAgents
    (reachable_issueEndpoints reachable (validatePlan plan world) plan.endpointList.entries)
    (validatePlan plan world) front).1
  obtain ⟨agent, stored⟩ := registered_attemptAgent reachableHere.owned creates succeeds
  have stays := (extends_issueAgents (reachable_attemptAgent reachableHere agName agSpec)
    (validatePlan plan world) back).2.agents agName agent stored
  rw [← issueAgents_cons_of_valid valid, ← issueAgents_append, ← split] at stays
  rw [(executePlan_eq_issuePlan kept).1]
  exact stays.symm ▸ Option.some_ne_none _

/-! ### The second run -/

/-- An event that registers, connects, configures and starts nothing. -/
def Event.isFutile : Event sdk → Bool
  | .createAgent _ _ _ _ => true
  | event => event.isUserEvent

/-- A change that leaves every registration, endpoint connection and counter alone. -/
structure Idle (before after : World sdk) : Prop where
  endpointDb : after.endpointDb = before.endpointDb
  agents : after.agents = before.agents
  log : Logs (fun event => event.isFutile = true) before after

theorem Idle.refl (world : World sdk) : Idle world world := ⟨rfl, rfl, .refl world⟩

theorem Idle.trans (front : Idle before between) (back : Idle between after) :
    Idle before after :=
  ⟨back.endpointDb.trans front.endpointDb, back.agents.trans front.agents,
    front.log.trans back.log⟩

theorem idle_createAgent_of_fails (reachable : world.Reachable) {agName : String}
    {definition : sdk.AgentDefinition} {parsed : sdk.AgentConfig}
    (fails : CreateFails agName definition parsed world) :
    Idle world (createAgent agName definition parsed world).2 := by
  obtain ⟨frame, _, _⟩ := frame_createAgent reachable.owned agName definition parsed
  refine ⟨endpointDb_createAgent_of_none reachable.owned reachable.sound.positive
    (createAgent_fst_eq_none.mpr fails), frame.agents, ?_⟩
  obtain ⟨events, log, users⟩ := frame.log
  have attempted : Logs (fun event => event.isFutile = true) world
      (creating definition parsed world) :=
    .single rfl rfl
  refine attempted.trans ⟨events, log, fun event member => ?_⟩
  have isUser := users event member
  cases event <;> first | rfl | exact isUser

/-- An entry that is valid after the plan has been executed was valid before. -/
theorem endpoint_valid_before (reachable : world.Reachable) {epName : String}
    {epSpec : MavlinkEndpointEntry} (listed : plan.endpointList.lookup epName = some epSpec)
    (valid : (resultAt (validatePlan plan (executePlan plan world).2).endpointPlanResult
      epName).success = true) :
    (resultAt (validatePlan plan world).endpointPlanResult epName).success = true := by
  rw [resultAt_endpoint listed, validateEndpointEntry_success] at valid ⊢
  obtain ⟨_, transports⟩ := executePlan_registries reachable.owned plan
  refine ⟨?_, ?_⟩
  · cases stored : world.endpointDb.lookup epName with
    | none => rfl
    | some entry =>
      have stays := (extends_executePlan reachable plan).endpoints epName entry.endpoint
        (by rw [instanceAt, stored, Option.map_some])
      rw [instanceAt_eq_none.mpr valid.1] at stays
      exact absurd stays.symm (Option.some_ne_none _)
  · have accepted := valid.2
    rwa [validateMavlinkEndpointConfig, transports] at accepted

theorem agent_valid_before (reachable : world.Reachable) {agName : String} {agSpec : AgentEntry}
    (listed : plan.agentList.lookup agName = some agSpec)
    (valid : (resultAt (validatePlan plan (executePlan plan world).2).agentPlanResult
      agName).success = true) :
    (resultAt (validatePlan plan world).agentPlanResult agName).success = true := by
  rw [resultAt_agent listed, validateAgentEntry_success] at valid ⊢
  obtain ⟨agents, _⟩ := executePlan_registries reachable.owned plan
  refine ⟨?_, ?_⟩
  · cases stored : world.agents.lookup agName with
    | none => rfl
    | some agent =>
      have stays := (extends_executePlan reachable plan).agents agName agent stored
      rw [valid.1] at stays
      exact absurd stays.symm (Option.some_ne_none _)
  · have accepted := valid.2
    rwa [validateAgentConfig, agents] at accepted

theorem reachable_executePlan (reachable : world.Reachable) (plan : UserPlan) :
    (executePlan plan world).2.Reachable :=
  reachable.perform (.executePlan plan)

/-- If a second run is not discarded, the first one was not. -/
theorem kept_before
    (kept : discardsPlan plan (validatePlan plan (executePlan plan world).2) = false) :
    discardsPlan plan (validatePlan plan world) = false := by
  cases discarded : discardsPlan plan (validatePlan plan world) with
  | false => rfl
  | true => rwa [(executePlan_of_discarded discarded).1, discarded] at kept

/-- A second run has no valid endpoint entry. -/
theorem issueEndpoints_again (reachable : world.Reachable)
    (kept : discardsPlan plan (validatePlan plan (executePlan plan world).2) = false) :
    (issueEndpoints (validatePlan plan (executePlan plan world).2) plan.endpointList.entries
      (executePlan plan world).2).2 = (executePlan plan world).2 := by
  have invalid : ∀ entry ∈ plan.endpointList.entries,
      (resultAt (validatePlan plan (executePlan plan world).2).endpointPlanResult
        entry.1).success = false := by
    rintro ⟨epName, epSpec⟩ member
    have listed : plan.endpointList.lookup epName = some epSpec :=
      (List.mem_dlookup_iff plan.endpointList.nodupKeys).mpr member
    rw [← Bool.not_eq_true]
    intro valid
    have isRegistered := registered_of_valid_endpoint reachable (kept_before kept) listed
      (endpoint_valid_before reachable listed valid)
    rw [resultAt_endpoint listed, validateEndpointEntry_success] at valid
    exact isRegistered (instanceAt_eq_none.mpr valid.1)
  rw [issueEndpoints, forEach_still (fun _ _ => false) fun entry member => by
    rw [invalid entry member]
    rfl]

theorem agentRegistry_issued (owned : world.Owned) (validation : ExecutionResultList)
    (endpoints : List (Σ _ : String, MavlinkEndpointEntry))
    (agents : List (Σ _ : String, AgentEntry)) :
    (issueAgents validation agents (issueEndpoints validation endpoints world).2).2.agentRegistry =
      world.agentRegistry := by
  have spares := issueEndpoints_spares validation endpoints world
  rw [(issueAgents_spares validation agents (spares.owned owned)).agentRegistry,
    spares.agentRegistry]

/-- An agent entry that is valid in the second run is one whose creation failed in the first,
and fails again. -/
theorem createFails_again (reachable : world.Reachable) (same : SameAnswers plan world)
    (kept : discardsPlan plan (validatePlan plan (executePlan plan world).2) = false)
    {front back : List (Σ _ : String, AgentEntry)} {agName : String} {agSpec : AgentEntry}
    (split : plan.agentList.entries = front ++ ⟨agName, agSpec⟩ :: back)
    (valid : (resultAt (validatePlan plan (executePlan plan world).2).agentPlanResult
      agName).success = true) :
    ∃ definition parsed, Creates agName agSpec.type agSpec.config
        (issueAgents (validatePlan plan (executePlan plan world).2) front
          (executePlan plan world).2).2 definition parsed ∧
      CreateFails agName definition parsed
        (issueAgents (validatePlan plan (executePlan plan world).2) front
          (executePlan plan world).2).2 := by
  have again := reachable_executePlan reachable plan
  have listed := (lookup_of_split split).1
  have validBefore := agent_valid_before reachable listed valid
  obtain ⟨definition, parsed, creates⟩ := issueAgents_creates reachable.owned split validBefore
  obtain ⟨other, otherParsed, createsAgain⟩ := issueAgents_creates again.owned split valid
  have known := creates.2.1
  have knownAgain := createsAgain.2.1
  rw [agentRegistry_issued reachable.owned] at known
  rw [agentRegistry_issued again.owned, (executePlan_registries reachable.owned plan).1, known,
    Option.some_inj] at knownAgain
  subst knownAgain
  obtain rfl := Option.some_inj.mp (creates.2.2.symm.trans createsAgain.2.2)
  have calls : CallsCreate plan world agName definition parsed _ :=
    ⟨kept_before kept, validBefore, front, agSpec, back, split, rfl, creates⟩
  have free : (executePlan plan world).2.agents.lookup agName = none := by
    rw [resultAt_agent listed, validateAgentEntry_success] at valid
    exact valid.1
  have fails := by_contra fun succeeds => registered_of_created reachable calls succeeds free
  have failsAgain := (same _ _ _ _ _ calls
    ⟨kept, valid, front, agSpec, back, split, rfl, createsAgain⟩).mp fails
  rw [issueEndpoints_again reachable kept] at createsAgain failsAgain
  exact ⟨definition, parsed, createsAgain, failsAgain⟩

/-- Executing a plan again leaves every registration, connection and counter alone. -/
theorem idle_executePlan_again (reachable : world.Reachable) (same : SameAnswers plan world) :
    Idle (executePlan plan world).2 (executePlan plan (executePlan plan world).2).2 := by
  cases kept : discardsPlan plan (validatePlan plan (executePlan plan world).2) with
  | true =>
    rw [(executePlan_of_discarded kept).1]
    exact .refl _
  | false =>
  rw [(executePlan_eq_issuePlan kept).1, issuePlan]
  dsimp only
  rw [issueEndpoints_again reachable kept]
  -- The agent entries visited so far, in `front`, have left the world idle.
  refine (forEach_rule (fun remaining _ state => ∃ front,
    plan.agentList.entries = front ++ remaining ∧
      state = (issueAgents (validatePlan plan (executePlan plan world).2) front
        (executePlan plan world).2).2 ∧ Idle (executePlan plan world).2 state)
    ?_ ⟨[], rfl, rfl, .refl _⟩).choose_spec.2.2
  rintro ⟨agName, agSpec⟩ rest _ state ⟨front, split, rfl, idle⟩
  refine ⟨front ++ [⟨agName, agSpec⟩], by rw [split, List.append_assoc, List.singleton_append],
    by rw [issueAgents_append]; rfl, ?_⟩
  cases valid : (resultAt (validatePlan plan (executePlan plan world).2).agentPlanResult
      agName).success with
  | false => exact idle
  | true =>
    obtain ⟨definition, parsed, creates, fails⟩ :=
      createFails_again reachable same kept split valid
    have reachableHere := (extends_issueAgents (reachable_executePlan reachable plan)
      (validatePlan plan (executePlan plan world).2) front).1
    rw [issueAgent_of_valid]
    dsimp only
    rw [attemptAgent_of_createFails creates fails]
    exact idle.trans (idle_createAgent_of_fails reachableHere fails)

/-! ### Executing a plan twice -/

/-- Executing a plan disturbs nothing that was there before: the endpoints and agents stay
registered as the objects they are, no call that connects, configures, starts, stops or destroys
goes to one of them, and the counters of an endpoint change only for the agents the plan has
created. Executing it again does nothing if `create` answers as before, and reports a failure for
every entry of the plan that is registered by then. -/
theorem executePlan_extends (reachable : world.Reachable) (plan : UserPlan) :
    ((∀ name endpoint, instanceAt world.endpointDb name = some endpoint →
          instanceAt (executePlan plan world).2.endpointDb name = some endpoint) ∧
        (∀ name agent, world.agents.lookup name = some agent →
          (executePlan plan world).2.agents.lookup name = some agent) ∧
        (∃ events, (executePlan plan world).2.log = world.log ++ events ∧ ∀ event ∈ events,
          (∀ name endpoint, instanceAt world.endpointDb name = some endpoint →
            event.endpoint? ≠ some endpoint) ∧
          ∀ name agent, world.agents.lookup name = some agent →
            event.agent? ≠ some agent.id) ∧
        ∀ name requester, instanceAt world.endpointDb name ≠ none →
          counterAt (executePlan plan world).2.endpointDb name requester ≠
              counterAt world.endpointDb name requester →
            world.agents.lookup requester = none ∧
              (executePlan plan world).2.agents.lookup requester ≠ none) ∧
      (SameAnswers plan world →
        Idle (executePlan plan world).2 (executePlan plan (executePlan plan world).2).2) ∧
      (∀ epName ∈ plan.endpointList.keys,
        instanceAt (executePlan plan world).2.endpointDb epName ≠ none →
          ∃ result, (executePlan plan (executePlan plan world).2).1.endpointPlanResult.lookup
            epName = some result ∧ result.success = false) ∧
      ∀ agName ∈ plan.agentList.keys,
        (executePlan plan world).2.agents.lookup agName ≠ none →
          ∃ result, (executePlan plan (executePlan plan world).2).1.agentPlanResult.lookup
            agName = some result ∧ result.success = false := by
  have adds := extends_executePlan reachable plan
  refine ⟨⟨adds.endpoints, adds.agents, ?_, fun name requester isRegistered differs => ?_⟩,
    idle_executePlan_again reachable, fun _ => endpoint_failed_of_taken,
    fun _ => agent_failed_of_taken⟩
  · obtain ⟨events, log, isNew⟩ := adds.log
    refine ⟨events, log, fun event member => ⟨fun name endpoint isRegistered touches => ?_,
      fun name agent stored touches => ?_⟩⟩
    · exact absurd ((isNew event member).1 endpoint touches)
        (not_le.mpr (reachable.sound.fresh name endpoint isRegistered))
    · exact absurd ((isNew event member).2 agent.id touches)
        (not_le.mpr (reachable.owned.created name agent.id (agentAt_of_lookup stored)))
  · have unknown := mt (adds.counters name requester isRegistered) differs
    rw [not_or, not_not] at unknown
    exact unknown

theorem sameAnswers_sample (plan : UserPlan) (world : World sampleSdk) :
    SameAnswers plan world := by
  intro agName definition parsed first second _ _
  have fails (world : World sampleSdk) :
      CreateFails agName definition parsed world ↔ definition = .doomed := by
    cases definition <;>
      simp [CreateFails, SampleDefinition.create, AgentCode.run]
  rw [fails, fails]

theorem executePlan_extends_sample :
    Idle (executePlan doomedPlan linkedWorld).2
      (executePlan doomedPlan (executePlan doomedPlan linkedWorld).2).2 :=
  (executePlan_extends linkedWorld_reachable doomedPlan).2.1 (sameAnswers_sample _ _)

end MavlinkHub
