/-
This file proves that the order in which the maps of a plan are visited does not
matter. Both orders reach the same verdicts and agree on whether the plan is
discarded; the endpoint entries, and after them the agent entries, are independent of
each other; and no agent runs before the last endpoint has been dealt with.
-/

import MavlinkHub.EntryViews

namespace MavlinkHub

open KeyedLoop Manager Transition

variable {sdk : Sdk} {sameEnv : sdk.Env → sdk.Env → Prop}
  {sameEndpoint : sdk.Endpoint → sdk.Endpoint → Prop} {world twin : World sdk}
  {plan other : UserPlan}

/-! ### Verdicts -/

/-- Verdicts do not depend on the order of the entries. -/
theorem validatePlan_perm
    (endpoints : plan.endpointList.entries.Perm other.endpointList.entries)
    (agents : plan.agentList.entries.Perm other.agentList.entries) (world : World sdk) :
    validatePlan plan world = validatePlan other world := by
  rw [validatePlan, validatePlan, ExecutionResultList.mk.injEq]
  constructor <;> refine Finmap.ext_lookup fun name => ?_ <;>
    rw [lookup_collect, lookup_collect]
  · rw [AList.perm_lookup endpoints]
  · rw [AList.perm_lookup agents]

theorem acceptsAll_perm
    (endpoints : plan.endpointList.entries.Perm other.endpointList.entries)
    (agents : plan.agentList.entries.Perm other.agentList.entries) :
    AcceptsAll plan world ↔ AcceptsAll other world := by
  have endpointNames (name : String) :
      name ∈ plan.endpointList.keys ↔ name ∈ other.endpointList.keys :=
    (endpoints.map Sigma.fst).mem_iff
  have agentNames (name : String) : name ∈ plan.agentList.keys ↔ name ∈ other.agentList.keys :=
    (agents.map Sigma.fst).mem_iff
  rw [AcceptsAll, AcceptsAll, validatePlan_perm endpoints agents]
  simp only [endpointNames, agentNames]

/-- Neither does the decision to discard, although the scans may stop at different entries. -/
theorem discardsPlan_perm (policy : plan.policy = other.policy)
    (endpoints : plan.endpointList.entries.Perm other.endpointList.entries)
    (agents : plan.agentList.entries.Perm other.agentList.entries) (world : World sdk) :
    discardsPlan plan (validatePlan plan world) =
      discardsPlan other (validatePlan other world) := by
  have same : discardsPlan plan (validatePlan plan world) = false ↔
      discardsPlan other (validatePlan other world) = false := by
    rw [discardsPlan_eq, discardsPlan_eq, policy, acceptsAll_perm endpoints agents]
  cases discarded : discardsPlan plan (validatePlan plan world) with
  | false => exact (same.mp discarded).symm
  | true =>
    cases discardedToo : discardsPlan other (validatePlan other world) with
    | true => rfl
    | false => exact absurd ((same.mpr discardedToo).symm.trans discarded) Bool.false_ne_true

/-! ### Endpoints first -/

theorem logs_attemptEndpoint (epName : String) (epSpec : MavlinkEndpointEntry)
    (world : World sdk) :
    Logs (fun event => event.agent? = none) world (attemptEndpoint epName epSpec world).2 := by
  refine attemptEndpoint_relates (Logs fun event => event.agent? = none) Logs.trans
    (fun name world => ?_) (fun name type config world => ?_) epName epSpec world
  · rcases addMavlinkEndpoint_cases name world with ⟨_, _, same⟩ | ⟨_, _, effect⟩
    · rw [same]
      exact .refl world
    · rw [effect]
      exact .single rfl rfl
  · rcases connectMavlinkEndpoint_cases name type config world with
      ⟨_, _, same⟩ | ⟨entry, _, _, effect⟩
    · rw [same]
      exact .refl world
    · obtain ⟨endpoints, env, used, _⟩ := World.useEndpoint_eq entry.endpoint
        (sdk.connect type config) (world.record (.connect entry.endpoint type config))
      rw [effect, used]
      exact .single rfl rfl

theorem Event.endpoint?_of_isUserEvent {event : Event sdk} (isUser : event.isUserEvent = true) :
    event.endpoint? = none := by
  cases event <;> first | rfl | exact absurd isUser Bool.false_ne_true

/-- Agent code works on endpoints only through handles. -/
theorem logs_of_frame {owner : AgentId} {name : String}
    (frame : AgentFrame owner name world twin) :
    Logs (fun event => event.endpoint? = none) world twin := by
  obtain ⟨events, log, users⟩ := frame.log
  exact ⟨events, log, fun event member => Event.endpoint?_of_isUserEvent (users event member)⟩

theorem logs_attemptAgent (owned : world.Owned) (agName : String) (agSpec : AgentEntry) :
    Logs (fun event => event.endpoint? = none) world (attemptAgent agName agSpec world).2 := by
  have ownedAdded := owned_addAgent owned agName agSpec.type agSpec.config
  have added : Logs (fun event => event.endpoint? = none) world
      (addAgent agName agSpec.type agSpec.config world).2 := by
    rcases addAgent_cases agName agSpec.type agSpec.config world with
      ⟨_, _, same⟩ | ⟨definition, parsed, _, outcome⟩
    · rw [same]
      exact .refl world
    · obtain ⟨frame, _, _⟩ := frame_createAgent owned agName definition parsed
      have attempted : Logs (fun event => event.endpoint? = none) world
          (creating definition parsed world) := .single rfl rfl
      obtain ⟨events, log, silent⟩ := attempted.trans (logs_of_frame frame)
      rcases outcome with ⟨_, _, effect⟩ | ⟨agent, _, _, effect⟩ <;> rw [effect] <;>
        exact ⟨events, log, silent⟩
  rw [attemptAgent]
  dsimp only
  split_ifs
  · refine added.trans ?_
    rcases startAgent_cases agName (addAgent agName agSpec.type agSpec.config world).2 with
      ⟨_, _, same⟩ | ⟨agent, stored, _, effect⟩
    · rw [same]
      exact .refl _
    · obtain ⟨frame, _⟩ := frame_code (sdk.start agent.object)
        ((owned_record ownedAdded (.start agent.id)).holdsAs (agentAt_of_lookup stored))
      have started : Logs (fun event => event.endpoint? = none)
          (addAgent agName agSpec.type agSpec.config world).2
          ((addAgent agName agSpec.type agSpec.config world).2.record (.start agent.id)) :=
        .single rfl rfl
      obtain ⟨events, log, silent⟩ := started.trans (logs_of_frame frame)
      rw [effect]
      exact ⟨events, log, silent⟩
  · exact added

/-- An endpoint entry whose name is free registers it, and connects it if it says so. -/
theorem log_attemptEndpoint_of_free {epName : String}
    (free : world.endpointDb.lookup epName = none) (epSpec : MavlinkEndpointEntry) :
    ∃ events, (attemptEndpoint epName epSpec world).2.log =
        world.log ++ .createEndpoint epName world.nextEndpoint :: events ∧
      (epSpec.connectOnCreate = true →
        .connect world.nextEndpoint epSpec.type epSpec.config ∈ events) := by
  rcases addMavlinkEndpoint_cases epName world with ⟨⟨entry, taken⟩, _, _⟩ | ⟨_, succeeded, effect⟩
  · exact absurd (free.symm.trans taken) (Option.some_ne_none _).symm
  rw [attemptEndpoint]
  dsimp only
  rw [succeeded, effect, Bool.true_and]
  split_ifs with connects
  · rcases connectMavlinkEndpoint_cases epName epSpec.type epSpec.config
      (registered epName world) with ⟨absent, _, _⟩ | ⟨entry, stored, _, connected⟩
    · rw [registered, Finmap.lookup_insert] at absent
      exact absurd absent (Option.some_ne_none _)
    rw [registered, Finmap.lookup_insert, Option.some_inj] at stored
    subst stored
    obtain ⟨endpoints, env, used, _⟩ := World.useEndpoint_eq world.nextEndpoint
      (sdk.connect epSpec.type epSpec.config)
      ((registered epName world).record (.connect world.nextEndpoint epSpec.type epSpec.config))
    rw [connected, used]
    exact ⟨[.connect world.nextEndpoint epSpec.type epSpec.config], List.append_assoc _ _ _,
      fun _ => List.mem_cons_self⟩
  · exact ⟨[], rfl, fun connectsToo => absurd connectsToo connects⟩

theorem logs_issueEndpoints (validation : ExecutionResultList)
    (entries : List (Σ _ : String, MavlinkEndpointEntry)) (world : World sdk) :
    Logs (fun event => event.agent? = none) world (issueEndpoints validation entries world).2 := by
  refine forEach_relates (Logs fun event => event.agent? = none) .refl Logs.trans
    fun entry _ state => ?_
  cases (resultAt validation.endpointPlanResult entry.1).success with
  | true =>
    rw [issueEndpoint_of_valid]
    exact logs_attemptEndpoint entry.1 entry.2 state
  | false => exact .refl state

theorem logs_issueAgents (owned : world.Owned) (validation : ExecutionResultList)
    (entries : List (Σ _ : String, AgentEntry)) :
    Logs (fun event => event.endpoint? = none) world (issueAgents validation entries world).2 := by
  let related (before after : World sdk) : Prop :=
    before.Owned → after.Owned ∧ Logs (fun event => event.endpoint? = none) before after
  have relates : related world (issueAgents validation entries world).2 := by
    refine forEach_relates related (fun world owned => ⟨owned, .refl world⟩)
      (fun front back owned =>
        ⟨(back (front owned).1).1, (front owned).2.trans (back (front owned).1).2⟩)
      fun entry _ state owned => ?_
    cases (resultAt validation.agentPlanResult entry.1).success with
    | true =>
      rw [issueAgent_of_valid]
      have spares : SparesAgents (· = entry.1) state (attemptAgent entry.1 entry.2 state).2 :=
        sparesAgents_attempt (by rfl) owned entry.2
      exact ⟨spares.owned, logs_attemptAgent owned entry.1 entry.2⟩
    | false => exact ⟨owned, .refl state⟩
  exact (relates owned).2

/-- What a plan does falls into two parts. In the first, every valid endpoint entry of a plan
that is not discarded is registered, and connected if the entry says so, and no agent is
touched. In the second no endpoint is registered, removed, connected or disconnected. -/
theorem executePlan_endpointsFirst (owned : world.Owned) (plan : UserPlan) :
    ∃ endpointEvents agentEvents,
      (executePlan plan world).2.log = world.log ++ endpointEvents ++ agentEvents ∧
        (∀ event ∈ endpointEvents, event.agent? = none) ∧
        (∀ event ∈ agentEvents, event.endpoint? = none) ∧
        (discardsPlan plan (validatePlan plan world) = false → ∀ epName epSpec,
          plan.endpointList.lookup epName = some epSpec →
          (resultAt (validatePlan plan world).endpointPlanResult epName).success = true →
            ∃ endpoint, .createEndpoint epName endpoint ∈ endpointEvents ∧
              (epSpec.connectOnCreate = true →
                .connect endpoint epSpec.type epSpec.config ∈ endpointEvents)) := by
  cases kept : discardsPlan plan (validatePlan plan world) with
  | true =>
    refine ⟨[], [], ?_, fun _ member => absurd member List.not_mem_nil,
      fun _ member => absurd member List.not_mem_nil,
      fun discarded => absurd discarded Bool.false_ne_true.symm⟩
    rw [(executePlan_of_discarded kept).1, List.append_nil, List.append_nil]
  | false =>
  have ownedIssued := (issueEndpoints_spares (validatePlan plan world)
    plan.endpointList.entries world).owned owned
  obtain ⟨endpointEvents, endpointLog, noAgent⟩ :=
    logs_issueEndpoints (validatePlan plan world) plan.endpointList.entries world
  obtain ⟨agentEvents, agentLog, noEndpoint⟩ :=
    logs_issueAgents ownedIssued (validatePlan plan world) plan.agentList.entries
  refine ⟨endpointEvents, agentEvents, ?_, noAgent, noEndpoint,
    fun _ epName epSpec listed valid => ?_⟩
  · rw [(executePlan_eq_issuePlan kept).1, ← endpointLog]
    exact agentLog
  · obtain ⟨front, back, split⟩ := List.append_of_mem
      ((List.mem_dlookup_iff plan.endpointList.nodupKeys).mp listed)
    obtain ⟨frontEvents, frontLog, _⟩ := logs_issueEndpoints (validatePlan plan world) front world
    obtain ⟨events, attemptLog, connects⟩ :=
      log_attemptEndpoint_of_free (issueEndpoints_free split valid) epSpec
    obtain ⟨backEvents, backLog, _⟩ := logs_issueEndpoints (validatePlan plan world) back
      (attemptEndpoint epName epSpec (issueEndpoints (validatePlan plan world) front world).2).2
    rw [← issueEndpoints_cons_of_valid valid, ← issueEndpoints_append, ← split, endpointLog,
      attemptLog, frontLog, List.append_assoc, List.append_assoc, List.append_cancel_left_eq]
      at backLog
    rw [backLog]
    refine ⟨(issueEndpoints (validatePlan plan world) front world).2.nextEndpoint, by simp,
      fun connectOnCreate => ?_⟩
    have member := connects connectOnCreate
    simp [member]

/-! ### Every order -/

/-- The endpoint loop leaves the agents and their definitions alone. -/
theorem endpointLoop_spares (validation : StringMap OperationResult) (discardPlan : Bool)
    (entries : List (Σ _ : String, MavlinkEndpointEntry))
    (results : StringMap OperationResult) (world : World sdk) :
    SparesEndpoints (· ∈ entries.keys) world
      (forEach (executeEndpointEntry validation discardPlan) entries results world).2 := by
  refine forEach_relates (SparesEndpoints (· ∈ entries.keys)) .refl .trans
    fun entry member state => ?_
  rcases executeEndpointEntry_cases validation discardPlan entry.1 entry.2 with
    ⟨result, skips⟩ | attempts
  · rw [skips]
    exact .refl state
  · rw [attempts]
    exact sparesEndpoints_attempt (List.mem_map_of_mem member) entry.2 state

/-- Two traversals of a plan report the same and end in worlds that look the same under every
name. -/
theorem executePlan_views (unentangled : sdk.Unentangled sameEnv sameEndpoint)
    (reachable : world.Reachable) (policy : plan.policy = other.policy)
    (endpoints : plan.endpointList.entries.Perm other.endpointList.entries)
    (agents : plan.agentList.entries.Perm other.agentList.entries) :
    (executePlan plan world).1 = (executePlan other world).1 ∧
      ∀ agName, AgentView sameEnv sameEndpoint agName (executePlan plan world).2
        (executePlan other world).2 := by
  rw [executePlan, executePlan]
  dsimp only
  rw [← discardsPlan_perm policy endpoints agents, ← validatePlan_perm endpoints agents]
  generalize validatePlan plan world = validation
  generalize discardsPlan plan validation = discardPlan
  have independent := endpoints_independent unentangled validation.endpointPlanResult discardPlan
  obtain ⟨sameEndpointReports, views⟩ :=
    (independent plan.endpointList.entries).forEach_perm plan.endpointList.nodupKeys ∅ endpoints
      reachable reachable fun name => (endpointView_equivalence unentangled name).refl world
  have reached (entries : List (Σ _ : String, MavlinkEndpointEntry)) :
      (forEach (executeEndpointEntry validation.endpointPlanResult discardPlan) entries ∅
        world).2.Reachable :=
    forEach_invariant World.Reachable (independent entries).kept reachable
  have spares := endpointLoop_spares validation.endpointPlanResult discardPlan
    plan.endpointList.entries ∅ world
  have sparesOther := endpointLoop_spares validation.endpointPlanResult discardPlan
    other.endpointList.entries ∅ world
  obtain ⟨sameAgentReports, agentViews⟩ :=
    (agents_independent unentangled validation.agentPlanResult discardPlan
      plan.agentList.entries).forEach_perm plan.agentList.nodupKeys ∅ agents
      (reached plan.endpointList.entries) (reached other.endpointList.entries)
      fun agName => ⟨⟨(views agName).env, fun target => (views target).registered,
        fun target => (views target).object⟩, fun target => (views target).counters agName,
        spares.agentRegistry.trans sparesOther.agentRegistry.symm, by
          rw [spares.agents, sparesOther.agents]⟩
  exact ⟨by rw [sameEndpointReports, sameAgentReports], agentViews⟩

theorem getMavlinkEndpointState_eq (name : String) (world : World sdk) :
    getMavlinkEndpointState name world = (objectAt name world).map (sdk.getState world.env) := by
  rw [getMavlinkEndpointState, objectAt, instanceAt]
  cases world.endpointDb.lookup name <;> rfl

/-- Endpoints that look alike are in the same state. -/
theorem AlikeEndpoints.state (unentangled : sdk.Unentangled sameEnv sameEndpoint)
    (alike : AlikeEndpoints sameEnv sameEndpoint world twin) (name : String) :
    getMavlinkEndpointState name world = getMavlinkEndpointState name twin := by
  have objects := alike.objects name
  rw [getMavlinkEndpointState_eq, getMavlinkEndpointState_eq]
  cases stored : objectAt name world <;> cases storedTwin : objectAt name twin <;>
    rw [stored, storedTwin] at objects
  · rfl
  · cases objects
  · cases objects
  · obtain @⟨_, _, object⟩ := objects
    exact congrArg some (unentangled.getState _ _ _ _ alike.env object)

theorem getMavlinkEndpointUserList_congr
    (registered : ∀ name,
      (instanceAt world.endpointDb name).isSome = (instanceAt twin.endpointDb name).isSome)
    (counters : ∀ name requester,
      counterAt world.endpointDb name requester = counterAt twin.endpointDb name requester)
    (name : String) :
    getMavlinkEndpointUserList name world = getMavlinkEndpointUserList name twin := by
  have same := registered name
  have sameCounters := counters name
  unfold instanceAt at same
  unfold counterAt at sameCounters
  rw [getMavlinkEndpointUserList, getMavlinkEndpointUserList]
  cases stored : world.endpointDb.lookup name <;>
    cases storedTwin : twin.endpointDb.lookup name <;>
      simp only [stored, storedTwin] at same sameCounters
  · rfl
  · exact absurd same Bool.false_ne_true
  · exact absurd same.symm Bool.false_ne_true
  · exact congrArg some (Finmap.ext_lookup sameCounters)

/-- The order in which the maps of a plan are visited does not matter. The reports are the same,
and so are the registered endpoints and their states, the agents with their objects and states,
and the counters. In either order, no agent is created or started before every valid endpoint
entry is registered and its connection attempted. -/
theorem executePlan_orderIndependent (unentangled : sdk.Unentangled sameEnv sameEndpoint)
    (reachable : world.Reachable) (policy : plan.policy = other.policy)
    (endpoints : plan.endpointList.entries.Perm other.endpointList.entries)
    (agents : plan.agentList.entries.Perm other.agentList.entries) :
    (executePlan plan world).1 = (executePlan other world).1 ∧
      getMavlinkEndpointList (executePlan plan world).2 =
        getMavlinkEndpointList (executePlan other world).2 ∧
      (∀ name, getMavlinkEndpointState name (executePlan plan world).2 =
        getMavlinkEndpointState name (executePlan other world).2) ∧
      (∀ name, getMavlinkEndpointUserList name (executePlan plan world).2 =
        getMavlinkEndpointUserList name (executePlan other world).2) ∧
      (∀ name, ((executePlan plan world).2.agents.lookup name).map
          (fun agent => (agent.definition, agent.object)) =
        ((executePlan other world).2.agents.lookup name).map
          fun agent => (agent.definition, agent.object)) ∧
      (∀ name, getAgentState name (executePlan plan world).2 =
        getAgentState name (executePlan other world).2) ∧
      ∃ endpointEvents agentEvents,
        (executePlan plan world).2.log = world.log ++ endpointEvents ++ agentEvents ∧
          (∀ event ∈ endpointEvents, event.agent? = none) ∧
          (∀ event ∈ agentEvents, event.endpoint? = none) ∧
          (discardsPlan plan (validatePlan plan world) = false → ∀ epName epSpec,
            plan.endpointList.lookup epName = some epSpec →
            (resultAt (validatePlan plan world).endpointPlanResult epName).success = true →
              ∃ endpoint, .createEndpoint epName endpoint ∈ endpointEvents ∧
                (epSpec.connectOnCreate = true →
                  .connect endpoint epSpec.type epSpec.config ∈ endpointEvents)) := by
  obtain ⟨sameReports, views⟩ :=
    executePlan_views unentangled reachable policy endpoints agents
  have alike := (views "").alike
  refine ⟨sameReports, Finset.ext fun name => ?_, alike.state unentangled,
    getMavlinkEndpointUserList_congr alike.registered fun name requester =>
      (views requester).counters name,
    fun name => (views name).agent, fun name => (views name).getAgentState unentangled,
    executePlan_endpointsFirst reachable.owned plan⟩
  rw [getMavlinkEndpointList, getMavlinkEndpointList, mem_keys_iff_instanceAt,
    mem_keys_iff_instanceAt, alike.registered]

/-- The endpoints of the sample are not changed by calls through handles. -/
theorem unentangled_sample : sampleSdk.Unentangled (fun _ _ => True) Eq where
  env := ⟨fun _ => trivial, fun _ => trivial, fun _ _ => trivial⟩
  endpoint := eq_equivalence
  createEndpoint _ _ _ := rfl
  createEndpoint_env _ := trivial
  connect _ _ _ _ _ _ _ _ := ⟨rfl, rfl⟩
  connect_env _ _ _ _ := trivial
  answer_endpoint request _ _ := by cases request <;> rfl
  answer_env _ _ _ := trivial
  getState _ _ _ _ _ same := by rw [same]
  getAgentState _ _ _ _ := rfl
  create definition _ := fun _ => by cases definition <;> trivial
  start _ := trivial

theorem executePlan_orderIndependent_sample :
    (executePlan doomedPlan linkedWorld).1 = (executePlan reversedPlan linkedWorld).1 :=
  have policy : doomedPlan.policy = reversedPlan.policy := rfl
  have endpoints : doomedPlan.endpointList.entries.Perm reversedPlan.endpointList.entries :=
    .refl _
  have agents : doomedPlan.agentList.entries.Perm reversedPlan.agentList.entries :=
    .swap _ _ _
  (executePlan_orderIndependent unentangled_sample linkedWorld_reachable policy endpoints agents).1

end MavlinkHub
