/-
This file proves what executing a plan amounts to. A plan that is discarded changes
nothing and reports failure for every entry. Any other plan amounts to the calls a
user would make by hand, guarded by the verdicts of one validation beforehand. These
verdicts do not go stale: when an entry is reached, its name is as free and its type
as registered as it was at the start, although the entries before it have registered
endpoints and run agent code.
-/

import MavlinkHub.AgentConfigs

namespace MavlinkHub

open KeyedLoop Manager Transition

variable {sdk : Sdk} {world before after : World sdk} {plan : UserPlan}

/-! ### Verdicts -/

/-- An entry validates if its name is free and its configuration is accepted. -/
theorem validateEndpointEntry_success {epName : String} {epSpec : MavlinkEndpointEntry} :
    (validateEndpointEntry world epName epSpec).success = true ↔
      world.endpointDb.lookup epName = none ∧
        (validateMavlinkEndpointConfig epSpec.type epSpec.config world).success = true := by
  unfold validateEndpointEntry validateMavlinkEndpointConfig
  cases world.endpointDb.lookup epName <;>
    cases world.transportRegistry.lookup epSpec.type with
    | none => simp
    | some definition =>
      cases accepted : (sdk.parseTransportConfig definition epSpec.config).ok <;> simp [accepted]

theorem validateAgentEntry_success {agName : String} {agSpec : AgentEntry} :
    (validateAgentEntry world agName agSpec).success = true ↔
      world.agents.lookup agName = none ∧
        (validateAgentConfig agSpec.type agSpec.config world).success = true := by
  unfold validateAgentEntry validateAgentConfig
  cases world.agents.lookup agName <;>
    cases world.agentRegistry.definitionAt agSpec.type with
    | none => simp
    | some definition =>
      cases accepted : (sdk.parseConfig definition agSpec.config).ok <;> simp [accepted]

/-- An agent configuration is accepted if its type is registered and the definition parses
it. -/
theorem validateAgentConfig_success {type : String} {config : Config} :
    (validateAgentConfig type config world).success = true ↔
      ∃ definition parsed, world.agentRegistry.definitionAt type = some definition ∧
        (sdk.parseConfig definition config).parsed = some parsed := by
  unfold validateAgentConfig
  cases world.agentRegistry.definitionAt type with
  | none => simp
  | some definition =>
    cases accepted : (sdk.parseConfig definition config).parsed <;>
      simp [AgentConfigParseResult.ok, accepted]

theorem resultAt_endpoint {epName : String} {epSpec : MavlinkEndpointEntry}
    (listed : plan.endpointList.lookup epName = some epSpec) :
    resultAt (validatePlan plan world).endpointPlanResult epName =
      validateEndpointEntry world epName epSpec := by
  rw [resultAt, validatePlan, lookup_collect, listed, Option.map_some, Option.getD_some]

theorem resultAt_agent {agName : String} {agSpec : AgentEntry}
    (listed : plan.agentList.lookup agName = some agSpec) :
    resultAt (validatePlan plan world).agentPlanResult agName =
      validateAgentEntry world agName agSpec := by
  rw [resultAt, validatePlan, lookup_collect, listed, Option.map_some, Option.getD_some]

/-- `validatePlan` accepts every entry of the plan. -/
def AcceptsAll (plan : UserPlan) (world : World sdk) : Prop :=
  (∀ name ∈ plan.endpointList.keys,
      (resultAt (validatePlan plan world).endpointPlanResult name).success = true) ∧
    ∀ name ∈ plan.agentList.keys,
      (resultAt (validatePlan plan world).agentPlanResult name).success = true

/-- The early exit of a scan only skips entries that could not change its outcome. -/
theorem scanForDiscard_eq {Spec : Type} (policy : UserPlanPolicy)
    (validation : StringMap OperationResult) (entries : List (Σ _ : String, Spec))
    (discardPlan : Bool) :
    scanForDiscard policy validation entries discardPlan = true ↔
      discardPlan = true ∨ policy = .discard ∧
        ∃ name ∈ entries.keys, (resultAt validation name).success = false := by
  induction entries with
  | nil => simp [scanForDiscard]
  | cons entry rest inductionHypothesis =>
    rw [scanForDiscard]
    by_cases isDiscard : policy = .discard
    · subst isDiscard
      cases valid : (resultAt validation entry.1).success with
      | false => simp [valid]
      | true => simp [valid, inductionHypothesis]
    · rw [if_neg isDiscard, inductionHypothesis]
      simp [isDiscard]

/-- A plan is discarded exactly under the policy that says so and if an entry is refused. -/
theorem discardsPlan_eq : discardsPlan plan (validatePlan plan world) = false ↔
    (plan.policy = .discard → AcceptsAll plan world) := by
  rw [← Bool.not_eq_true, discardsPlan, scanForDiscard_eq, scanForDiscard_eq]
  constructor
  · intro kept isDiscard
    simp only [Bool.false_eq_true, isDiscard, true_and, false_or, not_or, not_exists, not_and,
      Bool.not_eq_false] at kept
    exact kept
  · rintro accepts
      ((⟨⟨⟩⟩ | ⟨isDiscard, name, member, refused⟩) | ⟨isDiscard, name, member, refused⟩)
    · exact absurd ((accepts isDiscard).1 name member) (by simp [refused])
    · exact absurd ((accepts isDiscard).2 name member) (by simp [refused])

/-! ### A discarded plan -/

/-- A loop whose bodies refuse every entry changes nothing and files a failure for each. -/
theorem forEach_refused {Spec : Type}
    (body : String → Spec → World sdk → OperationResult × World sdk) (entries : Traversal Spec)
    (refused : ∀ name spec,
      (body name spec world).1.success = false ∧ (body name spec world).2 = world) :
    (forEach body entries.entries ∅ world).2 = world ∧
      (forEach body entries.entries ∅ world).1.keys = entries.keys.toFinset ∧
      ∀ name result, (forEach body entries.entries ∅ world).1.lookup name = some result →
        result.success = false := by
  have filed : forEach body entries.entries ∅ world =
      (collect (fun name spec => (body name spec world).1) entries.entries, world) := by
    rw [forEach_still (fun name spec => (body name spec world).1) fun entry _ =>
      Prod.ext rfl (refused entry.1 entry.2).2]
    rfl
  refine ⟨by rw [filed], ?_, fun name result reported => ?_⟩
  · rw [keys_forEach, Finmap.keys_empty, Finset.empty_union]
    rfl
  · rw [filed, lookup_collect, Option.map_eq_some_iff] at reported
    obtain ⟨spec, _, rfl⟩ := reported
    exact (refused name spec).1

/-- A discarded plan changes nothing and reports failure for every entry. -/
theorem executePlan_of_discarded
    (discarded : discardsPlan plan (validatePlan plan world) = true) :
    (executePlan plan world).2 = world ∧
      (executePlan plan world).1.endpointPlanResult.keys = plan.endpointList.keys.toFinset ∧
      (executePlan plan world).1.agentPlanResult.keys = plan.agentList.keys.toFinset ∧
      (∀ name result, (executePlan plan world).1.endpointPlanResult.lookup name = some result →
        result.success = false) ∧
      ∀ name result, (executePlan plan world).1.agentPlanResult.lookup name = some result →
        result.success = false := by
  obtain ⟨endpointsSame, endpointKeys, endpointsFailed⟩ := forEach_refused
    (executeEndpointEntry (validatePlan plan world).endpointPlanResult
      (discardsPlan plan (validatePlan plan world))) plan.endpointList
    (fun epName epSpec => executeEndpointEntry_of_skipped epSpec world (Or.inr discarded))
  obtain ⟨agentsSame, agentKeys, agentsFailed⟩ := forEach_refused
    (executeAgentEntry (validatePlan plan world).agentPlanResult
      (discardsPlan plan (validatePlan plan world))) plan.agentList
    (fun agName agSpec => executeAgentEntry_of_skipped agSpec world (Or.inr discarded))
  rw [executePlan]
  dsimp only
  rw [endpointsSame]
  exact ⟨agentsSame, endpointKeys, agentKeys, endpointsFailed, agentsFailed⟩

/-! ### What an entry leaves alone -/

theorem useEndpoint_registries {Answer : Type} (endpoint : EndpointId)
    (use : sdk.Env → sdk.Endpoint → Answer × sdk.Endpoint × sdk.Env) (world : World sdk) :
    (world.useEndpoint endpoint use).2.toManagerImpl = world.toManagerImpl := by
  obtain ⟨endpoints, env, used, _⟩ := world.useEndpoint_eq endpoint use
  rw [used]

/-- A change that leaves the registries and the agents alone, and of the endpoints every name
that was not `touched`. -/
structure SparesEndpoints (touched : String → Prop) (before after : World sdk) : Prop where
  agentRegistry : after.agentRegistry = before.agentRegistry
  transportRegistry : after.transportRegistry = before.transportRegistry
  agents : after.agents = before.agents
  owned : before.Owned → after.Owned
  endpoints : ∀ name, ¬ touched name → after.endpointDb.lookup name = before.endpointDb.lookup name

/-- A change that leaves the registries alone, and of the agents every name that was not
`touched`. -/
structure SparesAgents (touched : String → Prop) (before after : World sdk) : Prop where
  agentRegistry : after.agentRegistry = before.agentRegistry
  transportRegistry : after.transportRegistry = before.transportRegistry
  owned : after.Owned
  agents : ∀ name, ¬ touched name → after.agents.lookup name = before.agents.lookup name

theorem SparesEndpoints.refl {touched : String → Prop} (world : World sdk) :
    SparesEndpoints touched world world := ⟨rfl, rfl, rfl, id, fun _ _ => rfl⟩

theorem SparesEndpoints.trans {touched : String → Prop} {between : World sdk}
    (front : SparesEndpoints touched before between)
    (back : SparesEndpoints touched between after) : SparesEndpoints touched before after :=
  ⟨back.agentRegistry.trans front.agentRegistry,
    back.transportRegistry.trans front.transportRegistry, back.agents.trans front.agents,
    back.owned ∘ front.owned,
    fun name spared => (back.endpoints name spared).trans (front.endpoints name spared)⟩

theorem sparesEndpoints_attempt {touched : String → Prop} {epName : String}
    (isTouched : touched epName) (epSpec : MavlinkEndpointEntry) (world : World sdk) :
    SparesEndpoints touched world (attemptEndpoint epName epSpec world).2 := by
  have added : SparesEndpoints touched world (addMavlinkEndpoint epName world).2 := by
    rcases addMavlinkEndpoint_cases epName world with ⟨_, _, same⟩ | ⟨_, _, effect⟩
    · rw [same]
      exact .refl world
    · refine ⟨?_, ?_, ?_, fun owned => owned_addMavlinkEndpoint owned epName, ?_⟩
      all_goals rw [effect]
      case refine_4 =>
        exact fun name spared => Finmap.lookup_insert_of_ne _ fun same => spared (same ▸ isTouched)
      all_goals rfl
  rw [attemptEndpoint]
  dsimp only
  split_ifs
  · refine added.trans ?_
    rcases connectMavlinkEndpoint_cases epName epSpec.type epSpec.config
      (addMavlinkEndpoint epName world).2 with ⟨_, _, same⟩ | ⟨entry, _, _, effect⟩
    · rw [same]
      exact .refl _
    · have kept := useEndpoint_registries entry.endpoint (sdk.connect epSpec.type epSpec.config)
        ((addMavlinkEndpoint epName world).2.record
          (.connect entry.endpoint epSpec.type epSpec.config))
      rw [effect]
      exact ⟨congrArg ManagerImpl.agentRegistry kept, congrArg ManagerImpl.transportRegistry kept,
        congrArg ManagerImpl.agents kept,
        fun owned => owned_useEndpoint (owned_record owned _) _ _,
        fun name _ => by rw [congrArg ManagerImpl.endpointDb kept]; rfl⟩
  · exact added

theorem SparesAgents.refl {touched : String → Prop} (owned : world.Owned) :
    SparesAgents touched world world := ⟨rfl, rfl, owned, fun _ _ => rfl⟩

theorem SparesAgents.trans {touched : String → Prop} {between : World sdk}
    (front : SparesAgents touched before between) (back : SparesAgents touched between after) :
    SparesAgents touched before after :=
  ⟨back.agentRegistry.trans front.agentRegistry,
    back.transportRegistry.trans front.transportRegistry, back.owned,
    fun name spared => (back.agents name spared).trans (front.agents name spared)⟩

theorem sparesAgents_addAgent {touched : String → Prop} {agName : String}
    (isTouched : touched agName) (owned : world.Owned) (type : String) (config : Config) :
    SparesAgents touched world (addAgent agName type config world).2 := by
  have ownedAfter := owned_addAgent owned agName type config
  rcases addAgent_cases agName type config world with
    ⟨_, _, same⟩ | ⟨definition, parsed, _, outcome⟩
  · rw [same]
    exact .refl owned
  obtain ⟨frame, _, _⟩ := frame_createAgent owned agName definition parsed
  rcases outcome with ⟨_, _, effect⟩ | ⟨agent, _, _, effect⟩
  · rw [effect] at ownedAfter ⊢
    exact ⟨frame.agentRegistry, frame.transportRegistry, ownedAfter,
      fun name _ => by rw [frame.agents]; rfl⟩
  · rw [effect] at ownedAfter ⊢
    refine ⟨frame.agentRegistry, frame.transportRegistry, ownedAfter, fun name spared => ?_⟩
    have different : name ≠ agName := fun same => spared (same ▸ isTouched)
    refine (Finmap.lookup_insert_of_ne _ different).trans ?_
    rw [frame.agents]
    rfl

theorem sparesAgents_startAgent {touched : String → Prop} {agName : String}
    (isTouched : touched agName) (owned : world.Owned) :
    SparesAgents touched world (startAgent agName world).2 := by
  have ownedAfter := owned_startAgent owned agName
  rcases startAgent_cases agName world with ⟨_, _, same⟩ | ⟨agent, stored, _, effect⟩
  · rw [same]
    exact .refl owned
  · rw [effect] at ownedAfter ⊢
    have holds := (owned_record owned (.start agent.id)).holdsAs (agentAt_of_lookup stored)
    obtain ⟨frame, _⟩ := frame_code (sdk.start agent.object) holds
    refine ⟨frame.agentRegistry, frame.transportRegistry, ownedAfter, fun name spared => ?_⟩
    have different : name ≠ agName := fun same => spared (same ▸ isTouched)
    refine (Finmap.lookup_insert_of_ne _ different).trans ?_
    rw [frame.agents]
    rfl

theorem sparesAgents_attempt {touched : String → Prop} {agName : String}
    (isTouched : touched agName) (owned : world.Owned) (agSpec : AgentEntry) :
    SparesAgents touched world (attemptAgent agName agSpec world).2 := by
  have added := sparesAgents_addAgent isTouched owned agSpec.type agSpec.config
  rw [attemptAgent]
  dsimp only
  split_ifs
  · exact added.trans (sparesAgents_startAgent isTouched added.owned)
  · exact added

/-! ### Issuing a plan by hand -/

/-- Add an endpoint, and connect it if that succeeded and the entry asks for it. An entry that
is not valid is only reported. -/
def issueEndpoint (valid : Bool) (epName : String) (epSpec : MavlinkEndpointEntry)
    (world : World sdk) : Bool × World sdk :=
  if valid then
    let (addResult, added) := addMavlinkEndpoint epName world
    if addResult.success && epSpec.connectOnCreate then
      let (connectResult, connected) :=
        connectMavlinkEndpoint epName epSpec.type epSpec.config added
      (connectResult.success, connected)
    else
      (addResult.success, added)
  else
    (false, world)

/-- Add an agent, and start it if that succeeded and the entry asks for it. An entry that is not
valid is only reported. -/
def issueAgent (valid : Bool) (agName : String) (agSpec : AgentEntry) (world : World sdk) :
    Bool × World sdk :=
  if valid then
    let (addResult, added) := addAgent agName agSpec.type agSpec.config world
    if addResult.success && agSpec.startOnCreate then
      let (startResult, started) := startAgent agName added
      (startResult.success, started)
    else
      (addResult.success, added)
  else
    (false, world)

/-- Issue endpoint entries in order, guarded by the verdicts of a validation. -/
def issueEndpoints (validation : ExecutionResultList)
    (entries : List (Σ _ : String, MavlinkEndpointEntry)) (world : World sdk) :
    StringMap Bool × World sdk :=
  forEach (fun epName => issueEndpoint (resultAt validation.endpointPlanResult epName).success
    epName) entries ∅ world

/-- Issue agent entries in order, guarded by the verdicts of a validation. -/
def issueAgents (validation : ExecutionResultList) (entries : List (Σ _ : String, AgentEntry))
    (world : World sdk) : StringMap Bool × World sdk :=
  forEach (fun agName => issueAgent (resultAt validation.agentPlanResult agName).success
    agName) entries ∅ world

/-- Validate a plan and then issue its calls by hand, endpoints before agents. -/
def issuePlan (plan : UserPlan) (world : World sdk) :
    (StringMap Bool × StringMap Bool) × World sdk :=
  let validation := validatePlan plan world
  let (endpointFlags, endpointsDone) :=
    issueEndpoints validation plan.endpointList.entries world
  let (agentFlags, agentsDone) := issueAgents validation plan.agentList.entries endpointsDone
  ((endpointFlags, agentFlags), agentsDone)

theorem issueEndpoint_of_valid (epName : String) (epSpec : MavlinkEndpointEntry)
    (world : World sdk) :
    issueEndpoint true epName epSpec world =
      ((attemptEndpoint epName epSpec world).1.success,
        (attemptEndpoint epName epSpec world).2) := by
  rw [issueEndpoint, if_pos rfl, attemptEndpoint]
  cases added : (addMavlinkEndpoint epName world).1.success <;>
    cases epSpec.connectOnCreate <;> simp [added]

theorem issueAgent_of_valid (agName : String) (agSpec : AgentEntry) (world : World sdk) :
    issueAgent true agName agSpec world =
      ((attemptAgent agName agSpec world).1.success, (attemptAgent agName agSpec world).2) := by
  rw [issueAgent, if_pos rfl, attemptAgent]
  cases added : (addAgent agName agSpec.type agSpec.config world).1.success <;>
    cases agSpec.startOnCreate <;> simp [added]

/-- An entry of a plan that is not discarded is handled as it would be by hand. -/
theorem issueEndpoint_eq (validation : StringMap OperationResult) (epName : String)
    (epSpec : MavlinkEndpointEntry) (world : World sdk) :
    issueEndpoint (resultAt validation epName).success epName epSpec world =
      ((executeEndpointEntry validation false epName epSpec world).1.success,
        (executeEndpointEntry validation false epName epSpec world).2) := by
  cases valid : (resultAt validation epName).success with
  | true => rw [executeEndpointEntry_of_valid epSpec valid, issueEndpoint_of_valid]
  | false =>
    obtain ⟨refused, same⟩ :=
      executeEndpointEntry_of_skipped epSpec world (Or.inl valid : _ ∨ false = true)
    rw [refused, same]
    rfl

theorem issueAgent_eq (validation : StringMap OperationResult) (agName : String)
    (agSpec : AgentEntry) (world : World sdk) :
    issueAgent (resultAt validation agName).success agName agSpec world =
      ((executeAgentEntry validation false agName agSpec world).1.success,
        (executeAgentEntry validation false agName agSpec world).2) := by
  cases valid : (resultAt validation agName).success with
  | true => rw [executeAgentEntry_of_valid agSpec valid, issueAgent_of_valid]
  | false =>
    obtain ⟨refused, same⟩ :=
      executeAgentEntry_of_skipped agSpec world (Or.inl valid : _ ∨ false = true)
    rw [refused, same]
    rfl

theorem issueEndpoints_spares (validation : ExecutionResultList)
    (entries : List (Σ _ : String, MavlinkEndpointEntry)) (world : World sdk) :
    SparesEndpoints (· ∈ entries.keys) world (issueEndpoints validation entries world).2 := by
  refine forEach_relates (SparesEndpoints (· ∈ entries.keys)) .refl .trans
    fun entry member state => ?_
  cases (resultAt validation.endpointPlanResult entry.1).success with
  | true =>
    rw [issueEndpoint_of_valid]
    exact sparesEndpoints_attempt (List.mem_map_of_mem member) entry.2 state
  | false => exact .refl state

theorem issueAgents_spares (validation : ExecutionResultList)
    (entries : List (Σ _ : String, AgentEntry)) (owned : world.Owned) :
    SparesAgents (· ∈ entries.keys) world (issueAgents validation entries world).2 := by
  refine forEach_relates
    (fun before after => before.Owned → SparesAgents (· ∈ entries.keys) before after)
    (fun _ => .refl) (fun front back owned => (front owned).trans (back (front owned).owned))
    (fun entry member state owned => ?_) owned
  cases (resultAt validation.agentPlanResult entry.1).success with
  | true =>
    rw [issueAgent_of_valid]
    exact sparesAgents_attempt (List.mem_map_of_mem member) owned entry.2
  | false => exact .refl owned

/-- A loop that reports the success flags of another loop's results. -/
theorem forEach_flags {Spec : Type}
    (body : String → Spec → World sdk → OperationResult × World sdk)
    (issue : String → Spec → World sdk → Bool × World sdk) (entries : List (Σ _ : String, Spec))
    (world : World sdk)
    (same : ∀ name spec state,
      issue name spec state = ((body name spec state).1.success, (body name spec state).2)) :
    (forEach issue entries ∅ world).2 = (forEach body entries ∅ world).2 ∧
      ∀ name, (forEach issue entries ∅ world).1.lookup name =
        ((forEach body entries ∅ world).1.lookup name).map (·.success) :=
  forEach_map OperationResult.success (fun entry _ => same entry.1 entry.2) fun _ => rfl

/-- A plan that is not discarded does what issuing its calls by hand does, and reports the
same flags. -/
theorem executePlan_eq_issuePlan (kept : discardsPlan plan (validatePlan plan world) = false) :
    (executePlan plan world).2 = (issuePlan plan world).2 ∧
      (∀ name, ((executePlan plan world).1.endpointPlanResult.lookup name).map (·.success) =
        (issuePlan plan world).1.1.lookup name) ∧
      ∀ name, ((executePlan plan world).1.agentPlanResult.lookup name).map (·.success) =
        (issuePlan plan world).1.2.lookup name := by
  obtain ⟨sameEndpoints, sameEndpointFlags⟩ := forEach_flags
    (executeEndpointEntry (validatePlan plan world).endpointPlanResult false) _
    plan.endpointList.entries world
    (issueEndpoint_eq (validatePlan plan world).endpointPlanResult)
  obtain ⟨sameAgents, sameAgentFlags⟩ := forEach_flags
    (executeAgentEntry (validatePlan plan world).agentPlanResult false) _ plan.agentList.entries
    (issueEndpoints (validatePlan plan world) plan.endpointList.entries world).2
    (issueAgent_eq (validatePlan plan world).agentPlanResult)
  rw [executePlan, issuePlan]
  dsimp only
  rw [kept]
  rw [issueEndpoints, sameEndpoints] at sameAgents sameAgentFlags
  rw [issueEndpoints, issueAgents, sameEndpoints]
  exact ⟨sameAgents.symm, fun name => (sameEndpointFlags name).symm,
    fun name => (sameAgentFlags name).symm⟩

/-- When a valid endpoint entry is reached, its name is still free. -/
theorem issueEndpoints_free {front back : List (Σ _ : String, MavlinkEndpointEntry)}
    {epName : String} {epSpec : MavlinkEndpointEntry}
    (split : plan.endpointList.entries = front ++ ⟨epName, epSpec⟩ :: back)
    (valid : (resultAt (validatePlan plan world).endpointPlanResult epName).success = true) :
    (issueEndpoints (validatePlan plan world) front world).2.endpointDb.lookup epName = none := by
  obtain ⟨listed, notBefore, _⟩ := lookup_of_split split
  rw [resultAt_endpoint listed, validateEndpointEntry_success] at valid
  rw [(issueEndpoints_spares (validatePlan plan world) front world).endpoints epName notBefore]
  exact valid.1

/-- When a valid agent entry is reached, its name is still free, its type still registered and
its configuration still accepted, so `create` is called. -/
theorem issueAgents_creates (owned : world.Owned) {front back : List (Σ _ : String, AgentEntry)}
    {agName : String} {agSpec : AgentEntry}
    (split : plan.agentList.entries = front ++ ⟨agName, agSpec⟩ :: back)
    (valid : (resultAt (validatePlan plan world).agentPlanResult agName).success = true) :
    ∃ definition parsed, Creates agName agSpec.type agSpec.config
      (issueAgents (validatePlan plan world) front
        (issueEndpoints (validatePlan plan world) plan.endpointList.entries world).2).2
      definition parsed := by
  obtain ⟨listed, notBefore, _⟩ := lookup_of_split split
  rw [resultAt_agent listed, validateAgentEntry_success, validateAgentConfig_success] at valid
  obtain ⟨free, definition, parsed, known, accepted⟩ := valid
  have endpoints := issueEndpoints_spares (validatePlan plan world) plan.endpointList.entries world
  have agents := issueAgents_spares (validatePlan plan world) front (endpoints.owned owned)
  refine ⟨definition, parsed, ?_, ?_, accepted⟩
  · rw [agents.agents agName notBefore, endpoints.agents]
    exact free
  · rw [agents.agentRegistry, endpoints.agentRegistry]
    exact known

/-- Whether `create` returns null for an agent of that name. -/
def CreateFails (agName : String) (definition : sdk.AgentDefinition) (parsed : sdk.AgentConfig)
    (world : World sdk) : Prop :=
  ((sdk.create definition parsed).run world.nextAgent ⟨agName⟩
    (creating definition parsed world)).1 = none

theorem createAgent_fst_eq_none {agName : String} {definition : sdk.AgentDefinition}
    {parsed : sdk.AgentConfig} :
    (createAgent agName definition parsed world).1 = none ↔
      CreateFails agName definition parsed world := by
  rw [CreateFails]
  rcases createAgent_cases agName definition parsed world with ⟨object, ran, made⟩ | ⟨ran, made⟩
  · simp [ran, made]
  · simp [ran, made]

/-- The outcomes of `addAgent` once it gets as far as the call of `create`. -/
theorem addAgent_of_creates {agName type : String} {config : Config}
    {definition : sdk.AgentDefinition} {parsed : sdk.AgentConfig}
    (creates : Creates agName type config world definition parsed) :
    ((createAgent agName definition parsed world).1 = none ∧
        (addAgent agName type config world).1.success = false ∧
        (addAgent agName type config world).2 = (createAgent agName definition parsed world).2) ∨
      ∃ agent, (createAgent agName definition parsed world).1 = some agent ∧
        (addAgent agName type config world).1.success = true ∧
        (addAgent agName type config world).2 =
          { (createAgent agName definition parsed world).2 with
            agents := (createAgent agName definition parsed world).2.agents.insert agName
              agent } := by
  obtain ⟨_, known, accepted⟩ := id creates
  rcases addAgent_cases agName type config world with
    ⟨refused, _, _⟩ | ⟨other, otherParsed, ⟨_, knownToo, acceptedToo⟩, outcome⟩
  · exact absurd creates (refused definition parsed)
  rw [known, Option.some_inj] at knownToo
  subst knownToo
  rw [accepted, Option.some_inj] at acceptedToo
  subst acceptedToo
  exact outcome

/-- Once `create` is called, adding an agent fails only if `create` returns null. -/
theorem addAgent_failed_iff {agName type : String} {config : Config}
    {definition : sdk.AgentDefinition} {parsed : sdk.AgentConfig}
    (creates : Creates agName type config world definition parsed) :
    (addAgent agName type config world).1.success = false ↔
      CreateFails agName definition parsed world := by
  rw [← createAgent_fst_eq_none]
  rcases addAgent_of_creates creates with ⟨none, failed, _⟩ | ⟨agent, some, succeeded, _⟩
  · exact iff_of_true failed none
  · simp [succeeded, some]

/-- A plan that is not discarded amounts to the calls a user would issue after validating it:
the same effect, the same flags, with invalid entries only reported. An entry validates exactly
if its name is free and its configuration is accepted. When a valid endpoint entry is reached
its addition succeeds, and that of a valid agent entry fails only if `create` returns null. -/
theorem executePlan_issues (reachable : world.Reachable)
    (accepts : plan.policy = .discard → AcceptsAll plan world) :
    ((executePlan plan world).2 = (issuePlan plan world).2 ∧
        (∀ name, ((executePlan plan world).1.endpointPlanResult.lookup name).map (·.success) =
          (issuePlan plan world).1.1.lookup name) ∧
        ∀ name, ((executePlan plan world).1.agentPlanResult.lookup name).map (·.success) =
          (issuePlan plan world).1.2.lookup name) ∧
      ((∀ epName epSpec, plan.endpointList.lookup epName = some epSpec →
          ((resultAt (validatePlan plan world).endpointPlanResult epName).success = true ↔
            world.endpointDb.lookup epName = none ∧
              (validateMavlinkEndpointConfig epSpec.type epSpec.config world).success = true)) ∧
        ∀ agName agSpec, plan.agentList.lookup agName = some agSpec →
          ((resultAt (validatePlan plan world).agentPlanResult agName).success = true ↔
            world.agents.lookup agName = none ∧
              (validateAgentConfig agSpec.type agSpec.config world).success = true)) ∧
      (∀ front epName epSpec back,
        plan.endpointList.entries = front ++ ⟨epName, epSpec⟩ :: back →
        (resultAt (validatePlan plan world).endpointPlanResult epName).success = true →
          (addMavlinkEndpoint epName
            (issueEndpoints (validatePlan plan world) front world).2).1.success = true) ∧
      ∀ front agName agSpec back before,
        plan.agentList.entries = front ++ ⟨agName, agSpec⟩ :: back →
        (resultAt (validatePlan plan world).agentPlanResult agName).success = true →
        before = (issueAgents (validatePlan plan world) front
          (issueEndpoints (validatePlan plan world) plan.endpointList.entries world).2).2 →
          ∃ definition parsed,
            Creates agName agSpec.type agSpec.config before definition parsed ∧
            ((addAgent agName agSpec.type agSpec.config before).1.success = false ↔
              CreateFails agName definition parsed before) := by
  refine ⟨executePlan_eq_issuePlan (discardsPlan_eq.mpr accepts), ⟨?_, ?_⟩, ?_, ?_⟩
  · intro epName epSpec listed
    rw [resultAt_endpoint listed]
    exact validateEndpointEntry_success
  · intro agName agSpec listed
    rw [resultAt_agent listed]
    exact validateAgentEntry_success
  · intro front epName epSpec back split valid
    have free := issueEndpoints_free split valid
    rcases addMavlinkEndpoint_cases epName
      (issueEndpoints (validatePlan plan world) front world).2 with
      ⟨⟨entry, taken⟩, _, _⟩ | ⟨_, succeeded, _⟩
    · rw [free] at taken
      exact absurd taken.symm (Option.some_ne_none _)
    · exact succeeded
  · rintro front agName agSpec back before split valid rfl
    obtain ⟨definition, parsed, creates⟩ := issueAgents_creates reachable.owned split valid
    exact ⟨definition, parsed, creates, addAgent_failed_iff creates⟩

theorem executePlan_issues_sample :
    let executed := executePlan doomedPlan sampleWorld
    let issued := issuePlan doomedPlan sampleWorld
    let validation := validatePlan doomedPlan sampleWorld
    let linked := (issueEndpoints validation doomedPlan.endpointList.entries sampleWorld).2
    (executed.2 = issued.2 ∧
        (executed.1.endpointPlanResult.lookup "link").map (·.success) = issued.1.1.lookup "link" ∧
        (executed.1.agentPlanResult.lookup "doomed").map (·.success) =
          issued.1.2.lookup "doomed") ∧
      ((resultAt validation.endpointPlanResult "link").success = true ↔
          sampleWorld.endpointDb.lookup "link" = none ∧
            (validateMavlinkEndpointConfig "udp" ∅ sampleWorld).success = true) ∧
      ((resultAt validation.agentPlanResult "doomed").success = true ↔
          sampleWorld.agents.lookup "doomed" = none ∧
            (validateAgentConfig "doomed" ∅ sampleWorld).success = true) ∧
      (addMavlinkEndpoint "link" sampleWorld).1.success = true ∧
      ∃ definition parsed, Creates "doomed" "doomed" ∅ linked definition parsed ∧
        ((addAgent "doomed" "doomed" ∅ linked).1.success = false ↔
          CreateFails "doomed" definition parsed linked) := by
  intro executed issued validation linked
  have lenient : doomedPlan.policy = .discard → AcceptsAll doomedPlan sampleWorld := by
    rintro ⟨⟩
  obtain ⟨⟨world, endpointFlags, agentFlags⟩, ⟨endpoints, agents⟩, added, created⟩ :=
    executePlan_issues (World.reachable_initial _ _ _) lenient
  exact ⟨⟨world, endpointFlags "link", agentFlags "doomed"⟩,
    endpoints "link" ⟨"udp", ∅, true⟩ (by decide), agents "doomed" ⟨"doomed", ∅, true⟩ (by decide),
    added [] "link" ⟨"udp", ∅, true⟩ [] rfl (by decide),
    created [] "doomed" ⟨"doomed", ∅, true⟩ _ _ rfl (by decide) rfl⟩

/-! ### All or nothing -/

/-- Attempt endpoint entries in order. -/
def attemptEndpoints (entries : List (Σ _ : String, MavlinkEndpointEntry)) (world : World sdk) :
    StringMap OperationResult × World sdk :=
  forEach attemptEndpoint entries ∅ world

/-- Attempt agent entries in order. -/
def attemptAgents (entries : List (Σ _ : String, AgentEntry)) (world : World sdk) :
    StringMap OperationResult × World sdk :=
  forEach attemptAgent entries ∅ world

/-- If every entry validates, every entry is attempted. -/
theorem executePlan_eq_attempts (accepts : AcceptsAll plan world) :
    executePlan plan world =
      (⟨(attemptEndpoints plan.endpointList.entries world).1,
          (attemptAgents plan.agentList.entries
            (attemptEndpoints plan.endpointList.entries world).2).1⟩,
        (attemptAgents plan.agentList.entries
          (attemptEndpoints plan.endpointList.entries world).2).2) := by
  have kept : discardsPlan plan (validatePlan plan world) = false :=
    discardsPlan_eq.mpr fun _ => accepts
  have endpoints (state : World sdk) :
      forEach (executeEndpointEntry (validatePlan plan world).endpointPlanResult false)
        plan.endpointList.entries ∅ state = attemptEndpoints plan.endpointList.entries state :=
    forEach_congr fun entry member state =>
      executeEndpointEntry_of_valid entry.2 (accepts.1 entry.1 (List.mem_map_of_mem member))
  have agents (state : World sdk) :
      forEach (executeAgentEntry (validatePlan plan world).agentPlanResult false)
        plan.agentList.entries ∅ state = attemptAgents plan.agentList.entries state :=
    forEach_congr fun entry member state =>
      executeAgentEntry_of_valid entry.2 (accepts.2 entry.1 (List.mem_map_of_mem member))
  rw [executePlan]
  dsimp only
  rw [kept, endpoints, agents]

/-- Issuing entries that all validate is attempting them. -/
theorem issueEndpoints_eq_attempts {entries : List (Σ _ : String, MavlinkEndpointEntry)}
    {validation : ExecutionResultList}
    (valid : ∀ entry ∈ entries,
      (resultAt validation.endpointPlanResult entry.1).success = true) (world : World sdk) :
    (issueEndpoints validation entries world).2 = (attemptEndpoints entries world).2 :=
  (forEach_map OperationResult.success (fun entry member state => by
    rw [valid entry member, issueEndpoint_of_valid]) fun _ => rfl).1

theorem issueAgents_eq_attempts {entries : List (Σ _ : String, AgentEntry)}
    {validation : ExecutionResultList}
    (valid : ∀ entry ∈ entries, (resultAt validation.agentPlanResult entry.1).success = true)
    (world : World sdk) :
    (issueAgents validation entries world).2 = (attemptAgents entries world).2 :=
  (forEach_map OperationResult.success (fun entry member state => by
    rw [valid entry member, issueAgent_of_valid]) fun _ => rfl).1

/-- Under the policy `DISCARD` a plan is executed whole or not at all. If `validatePlan` refuses
an entry, nothing changes and every entry is reported as failed. Otherwise every entry is
attempted: the names of the endpoints are free when they are added, and `create` is called for
every agent. -/
theorem executePlan_allOrNothing (reachable : world.Reachable)
    (isDiscard : plan.policy = .discard) :
    (¬ AcceptsAll plan world →
        (executePlan plan world).2 = world ∧
          (executePlan plan world).1.endpointPlanResult.keys = plan.endpointList.keys.toFinset ∧
          (executePlan plan world).1.agentPlanResult.keys = plan.agentList.keys.toFinset ∧
          (∀ name result, (executePlan plan world).1.endpointPlanResult.lookup name = some result →
            result.success = false) ∧
          ∀ name result, (executePlan plan world).1.agentPlanResult.lookup name = some result →
            result.success = false) ∧
      (AcceptsAll plan world →
        executePlan plan world =
            (⟨(attemptEndpoints plan.endpointList.entries world).1,
                (attemptAgents plan.agentList.entries
                  (attemptEndpoints plan.endpointList.entries world).2).1⟩,
              (attemptAgents plan.agentList.entries
                (attemptEndpoints plan.endpointList.entries world).2).2) ∧
          (∀ front epName epSpec back,
            plan.endpointList.entries = front ++ ⟨epName, epSpec⟩ :: back →
            (attemptEndpoints front world).2.endpointDb.lookup epName = none) ∧
          ∀ front agName agSpec back, plan.agentList.entries = front ++ ⟨agName, agSpec⟩ :: back →
            ∃ definition parsed, Creates agName agSpec.type agSpec.config
              (attemptAgents front (attemptEndpoints plan.endpointList.entries world).2).2
              definition parsed) := by
  refine ⟨fun refuses => ?_, fun accepts => ⟨executePlan_eq_attempts accepts, ?_, ?_⟩⟩
  · refine executePlan_of_discarded ?_
    rw [← Bool.not_eq_false, discardsPlan_eq]
    exact fun kept => refuses (kept isDiscard)
  · intro front epName epSpec back split
    have listed : ∀ entry ∈ front ++ ⟨epName, epSpec⟩ :: back,
        (resultAt (validatePlan plan world).endpointPlanResult entry.1).success = true :=
      fun entry member => accepts.1 entry.1 (List.mem_map_of_mem (split ▸ member))
    rw [← issueEndpoints_eq_attempts
      (fun entry member => listed entry (List.mem_append_left _ member)) world]
    exact issueEndpoints_free split
      (listed ⟨epName, epSpec⟩ (List.mem_append_right front List.mem_cons_self))
  · intro front agName agSpec back split
    have listed : ∀ entry ∈ front ++ ⟨agName, agSpec⟩ :: back,
        (resultAt (validatePlan plan world).agentPlanResult entry.1).success = true :=
      fun entry member => accepts.2 entry.1 (List.mem_map_of_mem (split ▸ member))
    rw [← issueEndpoints_eq_attempts
        (fun entry member => accepts.1 entry.1 (List.mem_map_of_mem member)) world,
      ← issueAgents_eq_attempts fun entry member => listed entry (List.mem_append_left _ member)]
    exact issueAgents_creates reachable.owned split
      (listed ⟨agName, agSpec⟩ (List.mem_append_right front List.mem_cons_self))

theorem executePlan_allOrNothing_sample :
    (executePlan samplePlan linkedWorld).2 = linkedWorld :=
  ((executePlan_allOrNothing linkedWorld_reachable rfl).1 fun accepts =>
    absurd (accepts.1 "link" List.mem_cons_self) (by decide)).1

end MavlinkHub
