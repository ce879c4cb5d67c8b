/-
This file proves that executing a plan only adds. What was registered before is still
registered afterwards, as the same object, and the plan neither connects nor starts
nor configures it. The counters of an old endpoint change for the agents the plan has
created, and for no one else.

Executing the same plan once more finds every name of the first run taken. If the
first run registered anything, a second one under `DISCARD` is discarded, and under
`BEST_EFFORT` all that is left to do is to fail again in creating the agents whose
creation failed before.
-/

import MavlinkHub.PlanExecution

namespace MavlinkHub

open KeyedLoop Manager Transition

variable {sdk : Sdk} {world before between after : World sdk} {plan : UserPlan}

/-- The endpoint an event creates, destroys, connects or disconnects. -/
def Event.endpoint? : Event sdk → Option EndpointId
  | .createEndpoint _ endpoint => some endpoint
  | .destroyEndpoint _ endpoint => some endpoint
  | .connect endpoint _ _ => some endpoint
  | .disconnect endpoint => some endpoint
  | _ => none

/-- The agent an event creates, configures, starts, stops or destroys. -/
def Event.agent? : Event sdk → Option AgentId
  | .createAgent agent _ _ _ => some agent
  | .configure agent _ _ => some agent
  | .start agent => some agent
  | .stop agent => some agent
  | .destroyAgent agent => some agent
  | _ => none

/-- An event that does nothing to the endpoints and agents created before. -/
def Event.IsNew (nextEndpoint : EndpointId) (nextAgent : AgentId) (event : Event sdk) : Prop :=
  (∀ endpoint, event.endpoint? = some endpoint → nextEndpoint ≤ endpoint) ∧
    ∀ agent, event.agent? = some agent → nextAgent ≤ agent

theorem Event.isNew_of_isUserEvent {nextEndpoint : EndpointId} {nextAgent : AgentId}
    {event : Event sdk} (isUser : event.isUserEvent = true) :
    event.IsNew nextEndpoint nextAgent := by
  cases event <;>
    first
    | exact ⟨fun _ none => absurd none.symm (Option.some_ne_none _),
        fun _ none => absurd none.symm (Option.some_ne_none _)⟩
    | exact absurd isUser Bool.false_ne_true

/-- A change that only adds. -/
structure Extends (before after : World sdk) : Prop where
  endpoints : ∀ name endpoint, instanceAt before.endpointDb name = some endpoint →
    instanceAt after.endpointDb name = some endpoint
  agents : ∀ name agent, before.agents.lookup name = some agent →
    after.agents.lookup name = some agent
  counters : ∀ name requester, instanceAt before.endpointDb name ≠ none →
    (before.agents.lookup requester ≠ none ∨ after.agents.lookup requester = none) →
    counterAt after.endpointDb name requester = counterAt before.endpointDb name requester
  nextEndpoint : before.nextEndpoint ≤ after.nextEndpoint
  nextAgent : before.nextAgent ≤ after.nextAgent
  log : Logs (Event.IsNew before.nextEndpoint before.nextAgent) before after

theorem Extends.refl (world : World sdk) : Extends world world :=
  ⟨fun _ _ => id, fun _ _ => id, fun _ _ _ _ => rfl, le_refl _, le_refl _, .refl world⟩

theorem Logs.mono {allowed wider : Event sdk → Prop} (logs : Logs allowed before after)
    (included : ∀ event, allowed event → wider event) : Logs wider before after := by
  obtain ⟨events, log, isAllowed⟩ := logs
  exact ⟨events, log, fun event member => included event (isAllowed event member)⟩

theorem Extends.trans (front : Extends before between) (back : Extends between after) :
    Extends before after where
  endpoints name endpoint registered :=
    back.endpoints name endpoint (front.endpoints name endpoint registered)
  agents name agent registered := back.agents name agent (front.agents name agent registered)
  counters name requester registered known := by
    obtain ⟨endpoint, isRegistered⟩ := Option.ne_none_iff_exists'.mp registered
    have still := front.endpoints name endpoint isRegistered
    rw [back.counters name requester (still ▸ Option.some_ne_none _),
      front.counters name requester registered]
    · refine known.imp_right fun absent => ?_
      cases stored : between.agents.lookup requester with
      | none => rfl
      | some agent => rw [← absent, back.agents requester agent stored]
    · refine known.imp_left fun present => ?_
      obtain ⟨agent, stored⟩ := Option.ne_none_iff_exists'.mp present
      exact front.agents requester agent stored ▸ Option.some_ne_none _
  nextEndpoint := front.nextEndpoint.trans back.nextEndpoint
  nextAgent := front.nextAgent.trans back.nextAgent
  log := front.log.trans (back.log.mono fun _ isNew =>
    ⟨fun endpoint some => front.nextEndpoint.trans (isNew.1 endpoint some),
      fun agent some => front.nextAgent.trans (isNew.2 agent some)⟩)

/-! ### Endpoint entries -/

theorem extends_attemptEndpoint (epName : String) (epSpec : MavlinkEndpointEntry)
    (world : World sdk) : Extends world (attemptEndpoint epName epSpec world).2 := by
  rw [attemptEndpoint]
  rcases addMavlinkEndpoint_cases epName world with ⟨_, failed, same⟩ | ⟨free, succeeded, added⟩
  · simp only [failed, same, Bool.false_and, Bool.false_eq_true, if_false]
    exact .refl world
  have others : ∀ name endpoint,
      instanceAt world.endpointDb name = some endpoint → name ≠ epName := by
    rintro name endpoint isRegistered rfl
    rw [instanceAt_eq_none.mpr free] at isRegistered
    exact absurd isRegistered.symm (Option.some_ne_none _)
  have registers : Extends world (registered epName world) := by
    refine ⟨fun name endpoint isRegistered => ?_, fun _ _ => id,
      fun name requester isRegistered _ => ?_,
      Nat.le_succ _, le_refl _, .single ⟨fun endpoint same => ?_, fun _ none => ?_⟩ rfl⟩
    · exact (instanceAt_insert_of_ne (others name endpoint isRegistered) _).trans isRegistered
    · obtain ⟨endpoint, isSome⟩ := Option.ne_none_iff_exists'.mp isRegistered
      unfold counterAt registered
      rw [Finmap.lookup_insert_of_ne _ (others name endpoint isSome)]
    · exact (Option.some_inj.mp same).le
    · exact absurd none.symm (Option.some_ne_none _)
  simp only [succeeded, added, Bool.true_and]
  split_ifs
  · -- The endpoint that is connected is the new one.
    rcases connectMavlinkEndpoint_cases epName epSpec.type epSpec.config
        (registered epName world) with ⟨_, _, same⟩ | ⟨entry, stored, _, effect⟩
    · rw [same]
      exact registers
    rw [registered, Finmap.lookup_insert, Option.some_inj] at stored
    subst stored
    obtain ⟨endpoints, env, used, _⟩ := World.useEndpoint_eq world.nextEndpoint
      (sdk.connect epSpec.type epSpec.config)
      ((registered epName world).record (.connect world.nextEndpoint epSpec.type epSpec.config))
    rw [effect, used]
    refine ⟨registers.endpoints, registers.agents, registers.counters, registers.nextEndpoint,
      registers.nextAgent,
      registers.log.trans (.single ⟨fun endpoint same => ?_, fun _ none => ?_⟩ rfl)⟩
    · exact (Option.some_inj.mp same).le
    · exact absurd none.symm (Option.some_ne_none _)
  · exact registers

/-! ### Agent entries -/

/-- The events of the code of a new agent. -/
theorem logs_isNew_of_frame {self : AgentId} {name : String} {nextEndpoint : EndpointId}
    {nextAgent : AgentId} (frame : AgentFrame self name before after) :
    Logs (Event.IsNew nextEndpoint nextAgent) before after := by
  obtain ⟨events, log, users⟩ := frame.log
  exact ⟨events, log, fun event member => Event.isNew_of_isUserEvent (users event member)⟩

theorem logs_creating (definition : sdk.AgentDefinition) (parsed : sdk.AgentConfig)
    (world : World sdk) :
    Logs (Event.IsNew world.nextEndpoint world.nextAgent) world
      (creating definition parsed world) :=
  .single ⟨fun _ none => absurd none.symm (Option.some_ne_none _),
    fun agent same => by rw [← Option.some_inj.mp (same : some world.nextAgent = some agent)]⟩ rfl

/-- An agent whose creation fails leaves nothing but its attempt in the log. -/
theorem extends_createAgent_of_none (reachable : world.Reachable) {name : String}
    {definition : sdk.AgentDefinition} {parsed : sdk.AgentConfig}
    (failed : (createAgent name definition parsed world).1 = none) :
    Extends world (createAgent name definition parsed world).2 := by
  have endpointDb :=
    endpointDb_createAgent_of_none reachable.owned reachable.sound.positive failed
  obtain ⟨frame, _, _⟩ := frame_createAgent reachable.owned name definition parsed
  refine ⟨fun _ _ => ?_, fun _ _ => ?_, fun _ _ _ _ => ?_, ?_, ?_,
    (logs_creating definition parsed world).trans (logs_isNew_of_frame frame)⟩
  · rw [endpointDb]
    exact id
  · rw [frame.agents]
    exact id
  · rw [endpointDb]
  · exact frame.nextEndpoint.ge
  · rw [frame.nextAgent]
    exact Nat.le_succ _

/-- A change that registers one agent, under a new identity, and runs its code. -/
structure AddsAgent (name : String) (before after : World sdk) : Prop where
  instances : ∀ target, instanceAt after.endpointDb target = instanceAt before.endpointDb target
  counters : ∀ target requester, requester ≠ name →
    counterAt after.endpointDb target requester = counterAt before.endpointDb target requester
  agents : ∀ target, target ≠ name → after.agents.lookup target = before.agents.lookup target
  isRegistered : ∃ agent, after.agents.lookup name = some agent ∧ before.nextAgent ≤ agent.id
  nextEndpoint : after.nextEndpoint = before.nextEndpoint
  nextAgent : before.nextAgent ≤ after.nextAgent
  log : Logs (Event.IsNew before.nextEndpoint before.nextAgent) before after

theorem AddsAgent.extends {name : String} (adds : AddsAgent name before after)
    (free : before.agents.lookup name = none) : Extends before after where
  endpoints target endpoint registered := (adds.instances target).trans registered
  agents target agent stored := by
    refine (adds.agents target ?_).trans stored
    rintro rfl
    exact absurd (free.symm.trans stored) (Option.some_ne_none _).symm
  counters target requester _ known := by
    refine adds.counters target requester ?_
    rintro rfl
    obtain ⟨agent, stored, _⟩ := adds.isRegistered
    rcases known with present | absent
    · exact present free
    · exact absurd (absent.symm.trans stored) (Option.some_ne_none _).symm
  nextEndpoint := adds.nextEndpoint.ge
  nextAgent := adds.nextAgent
  log := adds.log

theorem addsAgent_addAgent (owned : world.Owned) {name : String} {definition : sdk.AgentDefinition}
    {parsed : sdk.AgentConfig} {agent : AgentInstance sdk}
    (created : (createAgent name definition parsed world).1 = some agent) :
    AddsAgent name world
      { (createAgent name definition parsed world).2 with
        agents := (createAgent name definition parsed world).2.agents.insert name agent } := by
  obtain ⟨frame, _, _⟩ := frame_createAgent owned name definition parsed
  have isNew : agent.id = world.nextAgent := by
    rcases createAgent_cases name definition parsed world with ⟨object, _, made⟩ | ⟨_, made⟩
    · rw [made, Option.some_inj] at created
      rw [← created]
    · rw [made] at created
      exact absurd created.symm (Option.some_ne_none _)
  refine ⟨frame.instances, frame.counters, fun target different => ?_,
    ⟨agent, Finmap.lookup_insert _, isNew.ge⟩, frame.nextEndpoint, ?_,
    (logs_creating definition parsed world).trans ?_⟩
  · refine (Finmap.lookup_insert_of_ne _ different).trans ?_
    rw [frame.agents]
    rfl
  · exact (Nat.le_succ _).trans frame.nextAgent.ge
  · have ran : Logs (Event.IsNew world.nextEndpoint world.nextAgent)
        (creating definition parsed world) _ := logs_isNew_of_frame frame
    obtain ⟨events, log, isAllowed⟩ := ran
    exact ⟨events, log, isAllowed⟩

theorem AddsAgent.start {name : String} (adds : AddsAgent name before between)
    (owned : between.Owned) : AddsAgent name before (startAgent name between).2 := by
  obtain ⟨agent, stored, isNew⟩ := adds.isRegistered
  rcases startAgent_cases name between with ⟨absent, _, _⟩ | ⟨other, storedToo, _, effect⟩
  · exact absurd (absent.symm.trans stored) (Option.some_ne_none _).symm
  rw [stored, Option.some_inj] at storedToo
  subst storedToo
  obtain ⟨frame, _⟩ := frame_code (sdk.start agent.object)
    ((owned_record owned (.start agent.id)).holdsAs (agentAt_of_lookup stored))
  rw [effect]
  refine ⟨fun target => (frame.instances target).trans (adds.instances target),
    fun target requester different => (frame.counters target requester different).trans
      (adds.counters target requester different),
    fun target different => ?_, ⟨_, Finmap.lookup_insert _, isNew⟩,
    frame.nextEndpoint.trans adds.nextEndpoint, adds.nextAgent.trans frame.nextAgent.ge, ?_⟩
  · refine (Finmap.lookup_insert_of_ne _ different).trans ?_
    rw [frame.agents]
    exact adds.agents target different
  · have started : Logs (Event.IsNew before.nextEndpoint before.nextAgent) between
        (between.record (.start agent.id)) :=
      .single ⟨fun _ none => absurd none.symm (Option.some_ne_none _),
        fun other same => by rwa [← Option.some_inj.mp (same : some agent.id = some other)]⟩ rfl
    have ran : Logs (Event.IsNew before.nextEndpoint before.nextAgent)
        (between.record (.start agent.id)) _ := logs_isNew_of_frame frame
    obtain ⟨events, log, isAllowed⟩ := ran
    exact adds.log.trans (started.trans ⟨events, log, isAllowed⟩)

theorem extends_attemptAgent (reachable : world.Reachable) (agName : String)
    (agSpec : AgentEntry) : Extends world (attemptAgent agName agSpec world).2 := by
  have ownedAdded := owned_addAgent reachable.owned agName agSpec.type agSpec.config
  rw [attemptAgent]
  rcases addAgent_cases agName agSpec.type agSpec.config world with
    ⟨_, failed, same⟩ |
      ⟨definition, parsed, creates, ⟨none, failed, effect⟩ | ⟨agent, some, succeeded, effect⟩⟩
  · simp only [failed, same, Bool.false_and, Bool.false_eq_true, if_false]
    exact .refl world
  · simp only [failed, effect, Bool.false_and, Bool.false_eq_true, if_false]
    exact extends_createAgent_of_none reachable none
  · have adds := addsAgent_addAgent reachable.owned some
    rw [← effect] at adds
    simp only [succeeded, Bool.true_and]
    split_ifs
    · exact (adds.start ownedAdded).extends creates.1
    · exact adds.extends creates.1

/-! ### The whole plan -/

theorem reachable_attemptEndpoint (reachable : world.Reachable) (epName : String)
    (epSpec : MavlinkEndpointEntry) : (attemptEndpoint epName epSpec world).2.Reachable :=
  attemptEndpoint_relates (fun before after => before.Reachable → after.Reachable)
    (fun first second => second ∘ first)
    (fun name _ reachable => reachable.perform (.invoke (.addMavlinkEndpoint name) 0))
    (fun name type config _ reachable =>
      reachable.perform (.invoke (.connectMavlinkEndpoint name type config) 0))
    epName epSpec world reachable

theorem reachable_attemptAgent (reachable : world.Reachable) (agName : String)
    (agSpec : AgentEntry) : (attemptAgent agName agSpec world).2.Reachable :=
  attemptAgent_relates (fun before after => before.Reachable → after.Reachable)
    (fun first second => second ∘ first)
    (fun name type config _ reachable => reachable.perform (.invoke (.addAgent name type config) 0))
    (fun name _ reachable => reachable.perform (.invoke (.startAgent name) 0))
    agName agSpec world reachable

/-- Executing a plan only adds. -/
theorem extends_executePlan (reachable : world.Reachable) (plan : UserPlan) :
    Extends world (executePlan plan world).2 :=
  (executePlan_relates
    (fun before after => before.Reachable → after.Reachable ∧ Extends before after)
    (fun front back reachable =>
      ⟨(back (front reachable).1).1, (front reachable).2.trans (back (front reachable).1).2⟩)
    (fun world reachable => ⟨reachable, .refl world⟩)
    (fun epName epSpec world reachable =>
      ⟨reachable_attemptEndpoint reachable epName epSpec,
        extends_attemptEndpoint epName epSpec world⟩)
    (fun agName agSpec _ reachable =>
      ⟨reachable_attemptAgent reachable agName agSpec,
        extends_attemptAgent reachable agName agSpec⟩)
    world reachable).2

/-! ### What a plan has registered -/

theorem executePlan_registries (owned : world.Owned) (plan : UserPlan) :
    (executePlan plan world).2.agentRegistry = world.agentRegistry ∧
      (executePlan plan world).2.transportRegistry = world.transportRegistry :=
  (executePlan_relates
    (fun before after => before.Owned → after.Owned ∧
      after.agentRegistry = before.agentRegistry ∧
      after.transportRegistry = before.transportRegistry)
    (fun front back owned => ⟨(back (front owned).1).1,
      (back (front owned).1).2.1.trans (front owned).2.1,
      (back (front owned).1).2.2.trans (front owned).2.2⟩)
    (fun _ owned => ⟨owned, rfl, rfl⟩)
    (fun epName epSpec world owned =>
      have spares : SparesEndpoints (· = epName) world (attemptEndpoint epName epSpec world).2 :=
        sparesEndpoints_attempt (by rfl) epSpec world
      ⟨spares.owned owned, spares.agentRegistry, spares.transportRegistry⟩)
    (fun agName agSpec world owned =>
      have spares : SparesAgents (· = agName) world (attemptAgent agName agSpec world).2 :=
        sparesAgents_attempt (by rfl) owned agSpec
      ⟨spares.owned, spares.agentRegistry, spares.transportRegistry⟩)
    world owned).2

theorem issueEndpoints_append (validation : ExecutionResultList)
    (front back : List (Σ _ : String, MavlinkEndpointEntry)) (world : World sdk) :
    (issueEndpoints validation (front ++ back) world).2 =
      (issueEndpoints validation back (issueEndpoints validation front world).2).2 := by
  rw [issueEndpoints, forEach_append]
  exact forEach_state ∅

theorem issueAgents_append (validation : ExecutionResultList)
    (front back : List (Σ _ : String, AgentEntry)) (world : World sdk) :
    (issueAgents validation (front ++ back) world).2 =
      (issueAgents validation back (issueAgents validation front world).2).2 := by
  rw [issueAgents, forEach_append]
  exact forEach_state ∅

theorem issueEndpoints_cons_of_valid {validation : ExecutionResultList} {epName : String}
    (valid : (resultAt validation.endpointPlanResult epName).success = true)
    (epSpec : MavlinkEndpointEntry) (back : List (Σ _ : String, MavlinkEndpointEntry))
    (world : World sdk) :
    (issueEndpoints validation (⟨epName, epSpec⟩ :: back) world).2 =
      (issueEndpoints validation back (attemptEndpoint epName epSpec world).2).2 := by
  rw [issueEndpoints, forEach_cons]
  dsimp only
  rw [valid, issueEndpoint_of_valid]
  exact forEach_state ∅

theorem issueAgents_cons_of_valid {validation : ExecutionResultList} {agName : String}
    (valid : (resultAt validation.agentPlanResult agName).success = true) (agSpec : AgentEntry)
    (back : List (Σ _ : String, AgentEntry)) (world : World sdk) :
    (issueAgents validation (⟨agName, agSpec⟩ :: back) world).2 =
      (issueAgents validation back (attemptAgent agName agSpec world).2).2 := by
  rw [issueAgents, forEach_cons]
  dsimp only
  rw [valid, issueAgent_of_valid]
  exact forEach_state ∅

theorem extends_issueEndpoints (validation : ExecutionResultList)
    (entries : List (Σ _ : String, MavlinkEndpointEntry)) (world : World sdk) :
    Extends world (issueEndpoints validation entries world).2 := by
  refine forEach_relates Extends .refl .trans fun entry _ state => ?_
  cases (resultAt validation.endpointPlanResult entry.1).success with
  | true =>
    rw [issueEndpoint_of_valid]
    exact extends_attemptEndpoint entry.1 entry.2 state
  | false => exact .refl state

theorem reachable_issueEndpoints (reachable : world.Reachable) (validation : ExecutionResultList)
    (entries : List (Σ _ : String, MavlinkEndpointEntry)) :
    (issueEndpoints validation entries world).2.Reachable := by
  refine forEach_invariant World.Reachable (fun entry _ state reachable => ?_) reachable
  cases (resultAt validation.endpointPlanResult entry.1).success with
  | true =>
    rw [issueEndpoint_of_valid]
    exact reachable_attemptEndpoint reachable entry.1 entry.2
  | false => exact reachable

theorem extends_issueAgents (reachable : world.Reachable) (validation : ExecutionResultList)
    (entries : List (Σ _ : String, AgentEntry)) :
    (issueAgents validation entries world).2.Reachable ∧
      Extends world (issueAgents validation entries world).2 := by
  let related (before after : World sdk) : Prop :=
    before.Reachable → after.Reachable ∧ Extends before after
  have relates : related world (issueAgents validation entries world).2 := by
    refine forEach_relates related (fun world reachable => ⟨reachable, .refl world⟩)
      (fun front back reachable =>
        ⟨(back (front reachable).1).1, (front reachable).2.trans (back (front reachable).1).2⟩)
      fun entry _ state reachable => ?_
    cases (resultAt validation.agentPlanResult entry.1).success with
    | true =>
      rw [issueAgent_of_valid]
      exact ⟨reachable_attemptAgent reachable entry.1 entry.2,
        extends_attemptAgent reachable entry.1 entry.2⟩
    | false => exact ⟨reachable, .refl state⟩
  exact relates reachable

theorem instanceAt_attemptEndpoint (epName : String) (epSpec : MavlinkEndpointEntry)
    (world : World sdk) :
    instanceAt (attemptEndpoint epName epSpec world).2.endpointDb epName ≠ none := by
  rw [attemptEndpoint]
  dsimp only
  have added : instanceAt (addMavlinkEndpoint epName world).2.endpointDb epName ≠ none := by
    rcases addMavlinkEndpoint_cases epName world with ⟨⟨entry, taken⟩, _, same⟩ | ⟨_, _, effect⟩
    · rw [same, instanceAt, taken]
      exact Option.some_ne_none _
    · rw [effect, registered, instanceAt, Finmap.lookup_insert]
      exact Option.some_ne_none _
  split_ifs
  · rcases connectMavlinkEndpoint_cases epName epSpec.type epSpec.config
      (addMavlinkEndpoint epName world).2 with ⟨_, _, same⟩ | ⟨entry, _, _, effect⟩
    · rw [same]
      exact added
    · rw [effect, congrArg ManagerImpl.endpointDb (useEndpoint_registries _ _ _)]
      exact added
  · exact added

/-- A valid endpoint entry of a plan that is not discarded ends up registered. -/
theorem registered_of_valid_endpoint (reachable : world.Reachable)
    (kept : discardsPlan plan (validatePlan plan world) = false) {epName : String}
    {epSpec : MavlinkEndpointEntry} (listed : plan.endpointList.lookup epName = some epSpec)
    (valid : (resultAt (validatePlan plan world).endpointPlanResult epName).success = true) :
    instanceAt (executePlan plan world).2.endpointDb epName ≠ none := by
  obtain ⟨front, back, split⟩ := List.append_of_mem
    ((List.mem_dlookup_iff plan.endpointList.nodupKeys).mp listed)
  obtain ⟨endpoint, isRegistered⟩ := Option.ne_none_iff_exists'.mp
    (instanceAt_attemptEndpoint epName epSpec
      (issueEndpoints (validatePlan plan world) front world).2)
  have stays := (extends_issueEndpoints (validatePlan plan world) back
    (attemptEndpoint epName epSpec
      (issueEndpoints (validatePlan plan world) front world).2).2).endpoints _ _ isRegistered
  rw [← issueEndpoints_cons_of_valid valid, ← issueEndpoints_append, ← split] at stays
  have still := (extends_issueAgents
    (reachable_issueEndpoints reachable (validatePlan plan world) plan.endpointList.entries)
    (validatePlan plan world) plan.agentList.entries).2.endpoints _ _ stays
  rw [(executePlan_eq_issuePlan kept).1]
  exact still.symm ▸ Option.some_ne_none _

end MavlinkHub
