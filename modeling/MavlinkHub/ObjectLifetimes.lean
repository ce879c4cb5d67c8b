/-
This file follows the lives of agent objects and endpoint objects through the log. An
agent is born in `create`, used when it is configured, started or stopped, and dies when
it is removed; an endpoint is born and dies with its registration, and is used when it is
connected, disconnected or called through a handle. Agent code runs in the middle of all
this and re-enters the manager, but what it causes is never the birth or death of
anything, and it reaches an endpoint only as long as that lives.

So every operation continues both censuses: what is registered is alive, nothing dead is
used, and whoever leaves the manager has died.
-/

import MavlinkHub.ElementarySteps
import MavlinkHub.Library.Lifetimes

namespace MavlinkHub

open Manager Transition

variable {sdk : Sdk} {name : String} {before between after world : World sdk}

/-! ### The two censuses -/

/-- What an event is for an agent. -/
def Event.agentMoment : Moments (Event sdk) AgentId
  | .createAgent agent _ _ _ => some (agent, .birth)
  | .configure agent _ _ => some (agent, .use)
  | .start agent => some (agent, .use)
  | .stop agent => some (agent, .use)
  | .destroyAgent agent => some (agent, .death)
  | _ => none

/-- What an event is for an endpoint. -/
def Event.endpointMoment : Moments (Event sdk) EndpointId
  | .createEndpoint _ endpoint => some (endpoint, .birth)
  | .connect endpoint _ _ => some (endpoint, .use)
  | .disconnect endpoint => some (endpoint, .use)
  | .endpointCall endpoint _ => some (endpoint, .use)
  | .destroyEndpoint _ endpoint => some (endpoint, .death)
  | _ => none

/-- The agents: those registered are present. -/
def World.agentCensus (world : World sdk) : Census (Event sdk) AgentId where
  log := world.log
  fresh agent := world.nextAgent ≤ agent
  present agent := ∃ name, agentAt world.agents name = some agent

/-- The endpoints: those whose object is there are present. -/
def World.endpointCensus (world : World sdk) : Census (Event sdk) EndpointId where
  log := world.log
  fresh endpoint := world.nextEndpoint ≤ endpoint
  present endpoint := endpoint ∈ world.endpoints

/-- The second world continues the lives of the agents of the first. -/
def AgentsContinue (before after : World sdk) : Prop :=
  Census.Continues Event.agentMoment before.agentCensus after.agentCensus

/-- The second world continues the lives of the endpoints of the first. -/
def EndpointsContinue (before after : World sdk) : Prop :=
  Census.Continues Event.endpointMoment before.endpointCensus after.endpointCensus

theorem Event.agentMoment_of_isUserEvent {event : Event sdk} (isUser : event.isUserEvent = true) :
    event.agentMoment = none := by
  cases event <;> first | rfl | exact absurd isUser Bool.false_ne_true

/-! ### Agents -/

/-- A member function of a registered agent changes no registration, and logs only what its code
does with handles. -/
theorem registrations_runAgent {Answer : Type} {agent : AgentInstance sdk} (owned : world.Owned)
    (stored : world.agents.lookup name = some agent)
    (code : sdk.Agent → AgentCode sdk.toSdkTypes (sdk.Agent × Answer)) :
    (∀ target, agentAt (runAgent name agent code world).2.agents target =
        agentAt world.agents target) ∧
      (runAgent name agent code world).2.nextAgent = world.nextAgent ∧
      ∃ events, (runAgent name agent code world).2.log = world.log ++ events ∧
        ∀ event ∈ events, event.isUserEvent = true := by
  obtain ⟨frame, _⟩ := frame_code (code agent.object) (owned.holdsAs (agentAt_of_lookup stored))
  refine ⟨fun target => ?_, frame.nextAgent, frame.log⟩
  have same := agentAt_insert_same (frame.agents ▸ stored)
    ((code agent.object).run agent.id ⟨name⟩ world).1.1 target
  exact same.trans (by rw [frame.agents])

namespace AgentsContinue

/-- A change that neither registers nor unregisters agents and logs nothing about them. -/
theorem quiet (agents : ∀ target, agentAt after.agents target = agentAt before.agents target)
    (nextAgent : after.nextAgent = before.nextAgent)
    (log : Logs (fun event => event.agentMoment = none) before after) :
    AgentsContinue before after := by
  obtain ⟨events, appended, silent⟩ := log
  refine Census.Continues.silent appended silent (fun agent isFresh => ?_) fun agent => ?_
  · have fresh : after.nextAgent ≤ agent := isFresh
    rw [nextAgent] at fresh
    exact fresh
  · exact exists_congr fun target => by rw [agents]

theorem of_eq (agents : after.agents = before.agents)
    (nextAgent : after.nextAgent = before.nextAgent)
    (log : Logs (fun event => event.agentMoment = none) before after) :
    AgentsContinue before after := quiet (fun _ => by rw [agents]) nextAgent log

theorem refl (world : World sdk) : AgentsContinue world world := Census.Continues.refl _

theorem trans (front : AgentsContinue before between) (back : AgentsContinue between after) :
    AgentsContinue before after := Census.Continues.trans front back

/-- An elementary step on endpoints and handles is nothing to the agents. -/
theorem endpointStep (step : EndpointStep before after) : AgentsContinue before after := by
  cases step with
  | environment step world => exact of_eq rfl rfl (.refl _)
  | register name world => exact of_eq rfl rfl (.single rfl rfl)
  | unregister name alive => exact of_eq rfl rfl (.single rfl rfl)
  | @use _ endpoint _ event alive uses use =>
    obtain ⟨endpoints, env, used, _⟩ := (before.record event).useEndpoint_eq endpoint use
    rw [used]
    refine of_eq rfl rfl (.single ?_ rfl)
    cases event <;> cases uses <;> rfl
  | issue endpointName requester world =>
    cases registered : before.endpointDb.lookup endpointName with
    | none =>
      rw [createMavlinkEndpointUser_of_absent registered]
      exact refl before
    | some entry =>
      rw [createMavlinkEndpointUser_of_registered registered]
      exact of_eq rfl rfl (.single rfl rfl)
  | release endpointName requester world =>
    rw [removeMavlinkEndpointUser_eq]
    exact of_eq rfl rfl (.refl _)
  | assign place user world =>
    rw [World.assign_eq]
    refine of_eq rfl rfl ⟨_, rfl, fun event member => ?_⟩
    obtain ⟨old, registered, rfl⟩ := World.mem_releaseEvents member
    rfl
  | take place world => exact of_eq rfl rfl (.refl _)

theorem endpointSteps (steps : EndpointSteps before after) : AgentsContinue before after :=
  relates_of_steps refl trans endpointStep steps

/-- A member function of a registered agent, after an event that says which one it is. -/
theorem used {Answer : Type} {agent : AgentInstance sdk} {event : Event sdk}
    (owned : world.Owned) (stored : world.agents.lookup name = some agent)
    (happens : event.agentMoment = some (agent.id, .use))
    (code : sdk.Agent → AgentCode sdk.toSdkTypes (sdk.Agent × Answer)) :
    AgentsContinue world (Manager.runAgent name agent code (world.record event)).2 := by
  have registered : agentAt (world.record event).agents name = some agent.id :=
    agentAt_of_lookup stored
  obtain ⟨agents, nextAgent, events, log, users⟩ :=
    registrations_runAgent (owned_record owned event) stored code
  refine Census.Continues.use happens
    (fun other member => Event.agentMoment_of_isUserEvent (users other member))
    (log.trans (List.append_assoc world.log [event] events)) ⟨name, registered⟩
    (fun other isFresh => ?_) fun other => exists_congr fun target => by rw [agents]; rfl
  have fresh : _ ≤ other := isFresh
  rw [nextAgent] at fresh
  exact fresh

/-- A registered agent runs code of its own accord. -/
theorem ran {Answer : Type} {agent : AgentInstance sdk} (owned : world.Owned)
    (stored : world.agents.lookup name = some agent)
    (code : sdk.Agent → AgentCode sdk.toSdkTypes (sdk.Agent × Answer)) :
    AgentsContinue world (Manager.runAgent name agent code world).2 := by
  obtain ⟨agents, nextAgent, events, log, users⟩ := registrations_runAgent owned stored code
  exact quiet agents nextAgent
    ⟨events, log, fun event member => Event.agentMoment_of_isUserEvent (users event member)⟩

theorem addAgent (owned : world.Owned) (name type : String) (config : Config) :
    AgentsContinue world (Manager.addAgent name type config world).2 := by
  rcases addAgent_cases name type config world with
    ⟨_, _, same⟩ | ⟨definition, parsed, creates, outcome⟩
  · rw [same]
    exact refl world
  obtain ⟨frame, _, _⟩ := frame_createAgent owned name definition parsed
  obtain ⟨events, log, users⟩ := frame.log
  have grown : (createAgent name definition parsed world).2.log =
      world.log ++ .createAgent world.nextAgent definition definition parsed :: events :=
    log.trans (List.append_assoc world.log [_] events)
  have next : (createAgent name definition parsed world).2.nextAgent = world.nextAgent + 1 :=
    frame.nextAgent
  have agents : (createAgent name definition parsed world).2.agents = world.agents :=
    frame.agents
  -- Whether `create` succeeds decides only if the new object is present.
  have born : (∀ target owner,
        agentAt (Manager.addAgent name type config world).2.agents target = some owner →
          agentAt world.agents target = some owner ∨ owner = world.nextAgent) ∧
      (∀ target owner, agentAt world.agents target = some owner →
        agentAt (Manager.addAgent name type config world).2.agents target = some owner) ∧
      (Manager.addAgent name type config world).2.nextAgent = world.nextAgent + 1 ∧
      (Manager.addAgent name type config world).2.log =
        world.log ++ .createAgent world.nextAgent definition definition parsed :: events := by
    rcases outcome with ⟨_, _, effect⟩ | ⟨agent, created, _, effect⟩
    · rw [effect, agents]
      exact ⟨fun _ _ => .inl, fun _ _ => id, next, grown⟩
    · rw [effect, agents]
      refine ⟨fun target owner present => ?_, fun target owner present => ?_, next, grown⟩
      · rcases agentAt_insert_iff.mp present with ⟨_, isNew⟩ | ⟨_, isOld⟩
        · exact .inr (isNew.symm.trans (createAgent_id created))
        · exact .inl isOld
      · refine agentAt_insert_iff.mpr (.inr ⟨?_, present⟩)
        rintro rfl
        rw [agentAt, creates.1] at present
        cases present
  obtain ⟨present, stays, nextAgent, appended⟩ := born
  refine Census.Continues.birth rfl
    (fun event member => Event.agentMoment_of_isUserEvent (users event member)) appended
    (le_refl world.nextAgent) (fun other isFresh => ?_) ?_ ?_
  · have fresh : _ ≤ other := isFresh
    rw [nextAgent] at fresh
    exact ⟨Nat.le_of_succ_le fresh, (Nat.lt_of_succ_le fresh).ne'⟩
  · rintro other ⟨target, registered⟩
    exact (present target other registered).imp_left fun isOld => ⟨target, isOld⟩
  · rintro other ⟨target, registered⟩
    exact ⟨target, stays target other registered⟩

theorem editAgent (owned : world.Owned) (name type : String) (config : Config) :
    AgentsContinue world (Manager.editAgent name type config world).2 := by
  rcases editAgent_cases name type config world with
    ⟨_, _, same⟩ | ⟨agent, definition, parsed, ⟨stored, _, _⟩, edited⟩
  · rw [same]
    exact refl world
  · rw [edited]
    exact used owned stored rfl _

theorem startAgent (owned : world.Owned) (name : String) :
    AgentsContinue world (Manager.startAgent name world).2 := by
  rcases startAgent_cases name world with ⟨_, _, same⟩ | ⟨agent, stored, _, started⟩
  · rw [same]
    exact refl world
  · rw [started]
    exact used owned stored rfl _

theorem stopAgent (owned : world.Owned) (name : String) :
    AgentsContinue world (Manager.stopAgent name world).2 := by
  rcases stopAgent_cases name world with ⟨_, _, same⟩ | ⟨agent, stored, stopped⟩
  · rw [same]
    exact refl world
  · rw [stopped]
    exact used owned stored rfl _

theorem removeAgent (owned : world.Owned) (name : String) :
    AgentsContinue world (Manager.removeAgent name world).2 := by
  rcases removeAgent_cases name world with ⟨_, _, same⟩ | ⟨agent, stored, _, _⟩
  · rw [same]
    exact refl world
  obtain ⟨frame, _⟩ := frame_removeAgent owned stored
  obtain ⟨events, log, users⟩ := frame.log
  have registered := agentAt_of_lookup stored
  have agents : (Manager.removeAgent name world).2.agents = world.agents.erase name :=
    frame.agents
  refine Census.Continues.death rfl
    (fun event member => Event.agentMoment_of_isUserEvent (users event member))
    (log.trans (List.append_assoc world.log [_] events)) ⟨name, registered⟩
    (fun other isFresh => ?_) fun other => ?_
  · have fresh : _ ≤ other := isFresh
    rw [frame.nextAgent] at fresh
    exact fresh
  · show (∃ target, agentAt (Manager.removeAgent name world).2.agents target = some other) ↔ _
    rw [agents]
    constructor
    · rintro ⟨target, still⟩
      obtain ⟨different, isOld⟩ := agentAt_erase_iff.mp still
      refine ⟨⟨target, isOld⟩, ?_⟩
      rintro rfl
      exact different (owned.distinct _ _ _ isOld registered)
    · rintro ⟨⟨target, isOld⟩, different⟩
      refine ⟨target, agentAt_erase_iff.mpr ⟨?_, isOld⟩⟩
      rintro rfl
      rw [registered, Option.some_inj] at isOld
      exact different isOld.symm

end AgentsContinue

/-! ### Endpoints -/

namespace EndpointsContinue

/-- A change that creates and destroys no endpoint and logs nothing about one. -/
theorem quiet (alive : after.endpoints.keys = before.endpoints.keys)
    (nextEndpoint : after.nextEndpoint = before.nextEndpoint)
    (log : Logs (fun event => event.endpointMoment = none) before after) :
    EndpointsContinue before after := by
  obtain ⟨events, appended, silent⟩ := log
  refine Census.Continues.silent appended silent (fun endpoint isFresh => ?_) fun endpoint => ?_
  · have fresh : after.nextEndpoint ≤ endpoint := isFresh
    rw [nextEndpoint] at fresh
    exact fresh
  · show endpoint ∈ after.endpoints ↔ endpoint ∈ before.endpoints
    rw [← Finmap.mem_keys, alive, Finmap.mem_keys]

theorem refl (world : World sdk) : EndpointsContinue world world := Census.Continues.refl _

theorem trans (front : EndpointsContinue before between)
    (back : EndpointsContinue between after) : EndpointsContinue before after :=
  Census.Continues.trans front back

/-- An elementary step on endpoints and handles. Only an endpoint that is there is used. -/
theorem endpointStep (step : EndpointStep before after) : EndpointsContinue before after := by
  cases step with
  | environment step world => exact quiet rfl rfl (.refl _)
  | register name world =>
    refine Census.Continues.birth rfl (fun _ => List.not_mem_nil.elim) rfl
      (le_refl before.nextEndpoint) (fun other isFresh => ?_)
      (fun other present => (Finmap.mem_insert.mp present).symm)
      fun other present => Finmap.mem_insert.mpr (.inr present)
    have fresh : before.nextEndpoint + 1 ≤ other := isFresh
    exact ⟨Nat.le_of_succ_le fresh, (Nat.lt_of_succ_le fresh).ne'⟩
  | @unregister entry _ name alive =>
    refine Census.Continues.death rfl (fun _ => List.not_mem_nil.elim) rfl alive (fun _ => id)
      fun other => ?_
    show other ∈ before.endpoints.erase entry.endpoint ↔ _
    rw [Finmap.mem_erase, and_comm]
    rfl
  | @use _ endpoint _ event alive uses use =>
    obtain ⟨endpoints, env, used, keys⟩ := (before.record event).useEndpoint_eq endpoint use
    have happens : event.endpointMoment = some (endpoint, .use) := by
      cases event <;> cases uses <;> rfl
    rw [used]
    refine Census.Continues.use happens (fun _ => List.not_mem_nil.elim) rfl alive (fun _ => id)
      fun other => ?_
    show other ∈ endpoints ↔ other ∈ before.endpoints
    rw [← Finmap.mem_keys, keys]
    exact Finmap.mem_keys
  | issue endpointName requester world =>
    cases registered : before.endpointDb.lookup endpointName with
    | none =>
      rw [createMavlinkEndpointUser_of_absent registered]
      exact refl before
    | some entry =>
      rw [createMavlinkEndpointUser_of_registered registered]
      exact quiet rfl rfl (.single rfl rfl)
  | release endpointName requester world =>
    rw [removeMavlinkEndpointUser_eq]
    exact quiet rfl rfl (.refl _)
  | assign place user world =>
    rw [World.assign_eq]
    refine quiet rfl rfl ⟨_, rfl, fun event member => ?_⟩
    obtain ⟨old, registered, rfl⟩ := World.mem_releaseEvents member
    rfl
  | take place world => exact quiet rfl rfl (.refl _)

/-- An elementary step on agents is nothing to the endpoints. -/
theorem agentStep (step : AgentStep before after) : EndpointsContinue before after := by
  cases step with
  | create parsed offered => exact quiet rfl rfl (.single rfl rfl)
  | @announce event _ announces =>
    refine quiet rfl rfl (.single ?_ rfl)
    cases event <;> first | rfl | cases announces
  | destroy name agent world => exact quiet rfl rfl (.single rfl rfl)
  | write agents world => exact quiet rfl rfl (.refl _)

theorem elementarySteps (steps : ElementarySteps before after) : EndpointsContinue before after :=
  relates_of_steps refl trans (fun step => step.elim endpointStep agentStep) steps

end EndpointsContinue

/-! ### The operations -/

/-- The second world continues the lives of the agents and the endpoints of the first, and keeps
what that rests on. -/
structure LivesContinue (before after : World sdk) : Prop where
  owned : before.Owned → after.Owned
  sound : before.ledger.Sound → after.ledger.Sound
  agents : before.Owned → before.ledger.Sound → AgentsContinue before after
  endpoints : before.ledger.Sound → EndpointsContinue before after

namespace LivesContinue

theorem refl (world : World sdk) : LivesContinue world world :=
  ⟨id, id, fun _ _ => .refl world, fun _ => .refl world⟩

theorem trans (front : LivesContinue before between) (back : LivesContinue between after) :
    LivesContinue before after where
  owned owned := back.owned (front.owned owned)
  sound sound := back.sound (front.sound sound)
  agents owned sound :=
    (front.agents owned sound).trans (back.agents (front.owned owned) (front.sound sound))
  endpoints sound := (front.endpoints sound).trans (back.endpoints (front.sound sound))

/-- What the operations of a plan do, each keeps. -/
theorem executePlan (plan : UserPlan) (world : World sdk) :
    LivesContinue world (Manager.executePlan plan world).2 := by
  refine executePlan_relates LivesContinue .trans .refl
    (attemptEndpoint_relates LivesContinue .trans (fun name world => ?_)
      fun name type config world => ?_)
    (attemptAgent_relates LivesContinue .trans (fun name type config world => ?_)
      fun name world => ?_) world
  · have steps := endpointSteps_addMavlinkEndpoint name world
    exact ⟨fun owned => owned_addMavlinkEndpoint owned name,
      (accounted_addMavlinkEndpoint name world).sound,
      fun _ _ => .endpointSteps steps, fun _ => .elementarySteps (elementarySteps_of steps)⟩
  · have steps (sound : world.ledger.Sound) :=
      endpointSteps_connectMavlinkEndpoint sound name type config
    exact ⟨fun owned => owned_connectMavlinkEndpoint owned name type config,
      (accounted_connectMavlinkEndpoint name type config world).sound,
      fun _ sound => .endpointSteps (steps sound),
      fun sound => .elementarySteps (elementarySteps_of (steps sound))⟩
  · exact ⟨fun owned => owned_addAgent owned name type config,
      (accounted_addAgent name type config world).sound,
      fun owned _ => .addAgent owned name type config,
      fun _ => .elementarySteps (elementarySteps_addAgent name type config world)⟩
  · exact ⟨fun owned => owned_startAgent owned name,
      (accounted_startAgent name world).sound,
      fun owned _ => .startAgent owned name,
      fun _ => .elementarySteps (elementarySteps_startAgent name world)⟩

theorem agents_invoke (owned : world.Owned) (sound : world.ledger.Sound) (call : ManagerCall)
    (slot : Nat) : AgentsContinue world (world.perform (.invoke call slot)) := by
  cases call with
  | addMavlinkEndpoint name => exact .endpointSteps (endpointSteps_addMavlinkEndpoint name world)
  | connectMavlinkEndpoint name type config =>
    exact .endpointSteps (endpointSteps_connectMavlinkEndpoint sound name type config)
  | disconnectMavlinkEndpoint name =>
    exact .endpointSteps (endpointSteps_disconnectMavlinkEndpoint sound name)
  | removeMavlinkEndpoint name =>
    exact .endpointSteps (endpointSteps_removeMavlinkEndpoint sound name)
  | createMavlinkEndpointUser name requester =>
    have issued : EndpointSteps world (createMavlinkEndpointUser name requester world).2 :=
      .single (.issue name requester world)
    exact .endpointSteps (issued.trans (endpointSteps_keep slot _ _))
  | removeMavlinkEndpointUser name requester =>
    exact .endpointStep (.release name requester world)
  | addAgent name type config => exact .addAgent owned name type config
  | editAgent name type config => exact .editAgent owned name type config
  | startAgent name => exact .startAgent owned name
  | stopAgent name => exact .stopAgent owned name
  | removeAgent name => exact .removeAgent owned name

theorem agents_perform (owned : world.Owned) (sound : world.ledger.Sound)
    (operation : Operation sdk) : AgentsContinue world (world.perform operation) := by
  cases operation with
  | invoke call slot => exact agents_invoke owned sound call slot
  | executePlan plan => exact (executePlan plan world).agents owned sound
  | resetUser place => exact .endpointStep (.assign place none world)
  | moveUser source slot => exact .endpointSteps (endpointSteps_moveUser source slot world)
  | callUser place request =>
    rw [World.perform]
    cases world.handles.lookup place with
    | none => exact .refl world
    | some user => exact .endpointSteps (endpointSteps_call request user world)
  | runAgent name code =>
    rw [World.perform]
    cases stored : world.agents.lookup name with
    | none => exact .refl world
    | some agent => exact .ran owned stored code
  | environment step => exact .endpointStep (.environment step world)
  | addAgentDefinition key definition => exact .of_eq rfl rfl (.refl world)
  | removeAgentDefinition key => exact .of_eq rfl rfl (.refl world)
  | addTransportDefinition key definition => exact .of_eq rfl rfl (.refl world)
  | removeTransportDefinition key => exact .of_eq rfl rfl (.refl world)

theorem endpoints_perform (sound : world.ledger.Sound) (operation : Operation sdk) :
    EndpointsContinue world (world.perform operation) := by
  by_cases registers : operation.Registers
  · cases operation with
    | addAgentDefinition key definition => exact .quiet rfl rfl (.refl world)
    | removeAgentDefinition key => exact .quiet rfl rfl (.refl world)
    | addTransportDefinition key definition => exact .quiet rfl rfl (.refl world)
    | removeTransportDefinition key => exact .quiet rfl rfl (.refl world)
    | _ => cases registers
  · exact .elementarySteps (elementarySteps_perform sound registers)

/-- Every step of the system continues all lives. -/
theorem perform (operation : Operation sdk) (world : World sdk) :
    LivesContinue world (world.perform operation) where
  owned owned := owned_perform owned operation
  sound := (accounted_perform operation world fun _ => trivial).sound
  agents owned sound := agents_perform owned sound operation
  endpoints sound := endpoints_perform sound operation

/-- So does every run. -/
theorem run {operations : List (Operation sdk)}
    (run : Run World.Step before operations after) : LivesContinue before after := by
  refine run.relates LivesContinue .refl .trans fun world operation next taken => ?_
  rw [← taken]
  exact perform operation world

end LivesContinue

end MavlinkHub
