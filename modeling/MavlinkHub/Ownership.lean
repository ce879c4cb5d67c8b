/-
This file bounds what agent code can touch. An agent requests handles under its own
name and keeps them in its own slots, so its code leaves alone everything but those
slots, the counters of that name, the endpoint objects and the hidden state. No agent
code registers or removes an endpoint or an agent.

Every reachable world is `Owned`: a handle in a slot of an agent carries the name the
agent is registered under, and the object that is created next owns nothing.
-/

import MavlinkHub.EndpointUsers

namespace MavlinkHub

open Transition

variable {sdk : Sdk} {self : AgentId} {name : String} {before between after world : World sdk}

/-- The events agent code is the cause of. -/
def Event.isUserEvent : Event sdk → Bool
  | .endpointCall _ _ => true
  | .createUser _ => true
  | .destroyUser _ _ => true
  | _ => false

/-- Every handle in a slot of an agent carries the agent's name. -/
def HoldsAs (self : AgentId) (name : String) (world : World sdk) : Prop :=
  ∀ place user, world.handles.lookup place = some user → place.owner = some self →
    user.userName = name

/-- What the code of the agent `self`, registered or to be registered as `name`, leaves
alone. -/
structure AgentFrame (owner : AgentId) (name : String) (before after : World sdk) : Prop where
  agentRegistry : after.agentRegistry = before.agentRegistry
  transportRegistry : after.transportRegistry = before.transportRegistry
  agents : after.agents = before.agents
  nextAgent : after.nextAgent = before.nextAgent
  nextEndpoint : after.nextEndpoint = before.nextEndpoint
  alive : after.endpoints.keys = before.endpoints.keys
  instances : ∀ target, instanceAt after.endpointDb target = instanceAt before.endpointDb target
  counters : ∀ target requester, requester ≠ name →
    counterAt after.endpointDb target requester = counterAt before.endpointDb target requester
  handles : ∀ place, place.owner ≠ some owner →
    after.handles.lookup place = before.handles.lookup place
  log : ∃ events, after.log = before.log ++ events ∧ ∀ event ∈ events, event.isUserEvent = true

namespace AgentFrame

theorem refl (world : World sdk) : AgentFrame self name world world :=
  ⟨rfl, rfl, rfl, rfl, rfl, rfl, fun _ => rfl, fun _ _ _ => rfl, fun _ _ => rfl,
    [], (List.append_nil _).symm, fun _ member => absurd member List.not_mem_nil⟩

theorem trans (front : AgentFrame self name before between)
    (back : AgentFrame self name between after) : AgentFrame self name before after where
  agentRegistry := back.agentRegistry.trans front.agentRegistry
  transportRegistry := back.transportRegistry.trans front.transportRegistry
  agents := back.agents.trans front.agents
  nextAgent := back.nextAgent.trans front.nextAgent
  nextEndpoint := back.nextEndpoint.trans front.nextEndpoint
  alive := back.alive.trans front.alive
  instances target := (back.instances target).trans (front.instances target)
  counters target requester different :=
    (back.counters target requester different).trans (front.counters target requester different)
  handles place other := (back.handles place other).trans (front.handles place other)
  log := by
    obtain ⟨events, frontLog, frontEvents⟩ := front.log
    obtain ⟨others, backLog, backEvents⟩ := back.log
    refine ⟨events ++ others, by rw [backLog, frontLog, List.append_assoc], fun event member => ?_⟩
    exact (List.mem_append.mp member).elim (frontEvents event) (backEvents event)

end AgentFrame

/-! ### One access -/

theorem counterAt_adjustUsers_of_ne {endpointDb : StringMap EndpointEntry}
    {requester other : String} (different : other ≠ requester) (target epName : String) :
    counterAt (adjustUsers epName (Tally.drop requester) endpointDb) target other =
        counterAt endpointDb target other ∧
      counterAt (adjustUsers epName (Tally.bump requester) endpointDb) target other =
        counterAt endpointDb target other :=
  ⟨counterAt_adjustUsers_spared _ (Tally.lookup_drop_of_ne different),
    counterAt_adjustUsers_spared _ (Tally.lookup_bump_of_ne different)⟩

theorem frame_assign {slot : Nat} {user : Option MavlinkEndpointUser}
    (holds : HoldsAs self name world) :
    AgentFrame self name world (world.assign ⟨some self, slot⟩ user) := by
  cases held : world.handles.lookup ⟨some self, slot⟩ with
  | none =>
    constructor
    case handles =>
      exact fun place other =>
        World.lookup_assign_of_ne (fun same => other (by rw [same])) user world
    all_goals rw [World.assign_eq, held]
    case log => exact ⟨_, rfl, fun _ member => absurd member List.not_mem_nil⟩
    case instances => exact fun _ => rfl
    case counters => exact fun _ _ _ => rfl
  | some old =>
    have named : old.userName = name := holds _ old held rfl
    constructor
    case handles =>
      exact fun place other =>
        World.lookup_assign_of_ne (fun same => other (by rw [same])) user world
    all_goals rw [World.assign_eq, held]
    case log =>
      refine ⟨_, rfl, fun event member => ?_⟩
      rw [List.mem_singleton.mp member]
      rfl
    case instances => exact fun target => instanceAt_adjustUsers _
    case counters =>
      exact fun target requester different =>
        (counterAt_adjustUsers_of_ne (named ▸ different) target old.endpointName).1

theorem holdsAs_assign {slot : Nat} {user : Option MavlinkEndpointUser}
    (holds : HoldsAs self name world)
    (named : ∀ stored, user = some stored → stored.userName = name) :
    HoldsAs self name (world.assign ⟨some self, slot⟩ user) := by
  intro place stored held owned
  by_cases same : place = ⟨some self, slot⟩
  · rw [same, World.lookup_assign_self] at held
    exact named stored held
  · rw [World.lookup_assign_of_ne same] at held
    exact holds place stored held owned

/-- Agent code, one access at a time, stays within the frame of the agent. -/
theorem frame_action (action : AgentAction sdk.toSdkTypes) (holds : HoldsAs self name world) :
    AgentFrame self name world (action.perform self ⟨name⟩ world) ∧
      HoldsAs self name (action.perform self ⟨name⟩ world) := by
  cases action with
  | internal step =>
    exact ⟨⟨rfl, rfl, rfl, rfl, rfl, rfl, fun _ => rfl, fun _ _ _ => rfl, fun _ _ => rfl,
      [], (List.append_nil _).symm, fun _ member => absurd member List.not_mem_nil⟩, holds⟩
  | requestMavlinkEndpoint slot epName =>
    rw [AgentAction.perform, ManagerResourceRequester.requestMavlinkEndpoint]
    cases registered : world.endpointDb.lookup epName with
    | none =>
      rw [createMavlinkEndpointUser_of_absent registered]
      exact ⟨frame_assign holds, holdsAs_assign holds fun _ none =>
        absurd none.symm (Option.some_ne_none _)⟩
    | some entry =>
      rw [createMavlinkEndpointUser_of_registered registered]
      refine ⟨AgentFrame.trans ?_ (frame_assign holds), holdsAs_assign holds fun stored some => ?_⟩
      · refine ⟨rfl, rfl, rfl, rfl, rfl, rfl, fun _ => instanceAt_adjustUsers _,
          fun target requester different =>
            (counterAt_adjustUsers_of_ne different target epName).2,
          fun _ _ => rfl, _, rfl, fun event member => ?_⟩
        rw [List.mem_singleton.mp member]
        rfl
      · rw [← Option.some_inj.mp some]
  | reset slot =>
    rw [AgentAction.perform]
    exact ⟨frame_assign holds, holdsAs_assign holds fun _ none =>
      absurd none.symm (Option.some_ne_none _)⟩
  | call slot request =>
    rw [AgentAction.perform]
    cases world.handles.lookup ⟨some self, slot⟩ with
    | none => exact ⟨.refl world, holds⟩
    | some user =>
      obtain ⟨endpoints, env, events, called, keys, calls⟩ := user.call_eq request world
      dsimp only
      rw [called]
      refine ⟨⟨rfl, rfl, rfl, rfl, rfl, keys, fun _ => rfl, fun _ _ _ => rfl, fun _ _ => rfl,
        events, rfl, fun event member => ?_⟩, holds⟩
      rw [calls event member]
      rfl

/-! ### Agent code -/

/-- A sequence of accesses of an agent stays within the frame of the agent. -/
theorem frame_actions {actions : List (AgentAction sdk.toSdkTypes)}
    (run : Run (Acts self ⟨name⟩) before actions after) (holds : HoldsAs self name before) :
    AgentFrame self name before after ∧ HoldsAs self name after := by
  refine run.invariant (fun world => AgentFrame self name before world ∧ HoldsAs self name world)
    ?_ ⟨.refl before, holds⟩
  rintro between action next ⟨frame, held⟩ taken
  obtain ⟨frameNext, heldNext⟩ := frame_action action held
  rw [← taken]
  exact ⟨frame.trans frameNext, heldNext⟩

theorem frame_code {Result : Type} (code : AgentCode sdk.toSdkTypes Result)
    (holds : HoldsAs self name world) :
    AgentFrame self name world (code.run self ⟨name⟩ world).2 ∧
      HoldsAs self name (code.run self ⟨name⟩ world).2 := by
  obtain ⟨actions, run⟩ := code.run_actions self ⟨name⟩ world
  exact frame_actions run holds

theorem frame_destroyHandles (holds : HoldsAs self name world) :
    AgentFrame self name world (world.destroyHandles self) := by
  obtain ⟨actions, run⟩ := world.destroyHandles_actions self ⟨name⟩
  exact (frame_actions run holds).1

/-! ### Owned worlds -/

/-- The object registered under an agent name. -/
def agentAt (agents : StringMap (AgentInstance sdk)) (name : String) : Option AgentId :=
  (agents.lookup name).map (·.id)

/-- Agent objects are registered under one name only and have been created, and a handle in a
slot of an object carries the name the object is registered under. -/
structure World.Owned (world : World sdk) : Prop where
  held : ∀ place user owner, world.handles.lookup place = some user → place.owner = some owner →
    agentAt world.agents user.userName = some owner
  distinct : ∀ name other owner, agentAt world.agents name = some owner →
    agentAt world.agents other = some owner → name = other
  created : ∀ name owner, agentAt world.agents name = some owner → owner < world.nextAgent

theorem agentAt_of_lookup {agents : StringMap (AgentInstance sdk)} {agent : AgentInstance sdk}
    (stored : agents.lookup name = some agent) : agentAt agents name = some agent.id := by
  rw [agentAt, stored, Option.map_some]

theorem agentAt_insert_self {agents : StringMap (AgentInstance sdk)} (agent : AgentInstance sdk) :
    agentAt (agents.insert name agent) name = some agent.id := by
  rw [agentAt, Finmap.lookup_insert, Option.map_some]

theorem agentAt_insert_of_ne {agents : StringMap (AgentInstance sdk)} {target : String}
    (different : target ≠ name) (agent : AgentInstance sdk) :
    agentAt (agents.insert name agent) target = agentAt agents target := by
  rw [agentAt, Finmap.lookup_insert_of_ne _ different, agentAt]

/-- Changing the object of a registered agent changes no registration. -/
theorem agentAt_insert_same {agents : StringMap (AgentInstance sdk)} {agent : AgentInstance sdk}
    (stored : agents.lookup name = some agent) (object : sdk.Agent) (target : String) :
    agentAt (agents.insert name { agent with object := object }) target =
      agentAt agents target := by
  by_cases same : target = name
  · rw [same, agentAt_insert_self, agentAt_of_lookup stored]
  · exact agentAt_insert_of_ne same _

theorem agentAt_insert_iff {agents : StringMap (AgentInstance sdk)} {agent : AgentInstance sdk}
    {target : String} {owner : AgentId} :
    agentAt (agents.insert name agent) target = some owner ↔
      target = name ∧ agent.id = owner ∨ target ≠ name ∧ agentAt agents target = some owner := by
  by_cases same : target = name
  · simp [same, agentAt_insert_self]
  · simp [same, agentAt_insert_of_ne]

theorem agentAt_erase_iff {agents : StringMap (AgentInstance sdk)} {target : String}
    {owner : AgentId} :
    agentAt (agents.erase name) target = some owner ↔
      target ≠ name ∧ agentAt agents target = some owner := by
  by_cases same : target = name
  · subst same
    simp [agentAt]
  · simp [same, agentAt, Finmap.lookup_erase_ne]

namespace World.Owned

/-- The handles of a registered agent carry its name. -/
theorem holdsAs (owned : world.Owned) (registered : agentAt world.agents name = some self) :
    HoldsAs self name world :=
  fun place user stored isOwner =>
    owned.distinct user.userName name self (owned.held place user self stored isOwner) registered

/-- The object that is created next holds nothing. -/
theorem holdsAs_next (owned : world.Owned) (name : String) :
    HoldsAs world.nextAgent name world := by
  intro place user stored isOwner
  exact absurd (owned.created _ _ (owned.held place user _ stored isOwner)) (Nat.lt_irrefl _)

/-- A step that registers and unregisters no agent, and after which the agents hold nothing
they did not hold before, keeps a world owned. -/
theorem kept (owned : before.Owned)
    (agents : ∀ target, agentAt after.agents target = agentAt before.agents target)
    (nextAgent : after.nextAgent = before.nextAgent)
    (handles : ∀ place owner, place.owner = some owner → ∀ user,
      after.handles.lookup place = some user → before.handles.lookup place = some user) :
    after.Owned where
  held place user owner stored isOwner := by
    rw [agents]
    exact owned.held place user owner (handles place owner isOwner user stored) isOwner
  distinct target other owner := by
    rw [agents, agents]
    exact owned.distinct target other owner
  created target owner registered := by
    rw [nextAgent]
    exact owned.created target owner (agents target ▸ registered)

/-- The code of a registered agent keeps a world owned. -/
theorem frame (owned : before.Owned) (registered : agentAt before.agents name = some self)
    (frame : AgentFrame self name before after) (holds : HoldsAs self name after) :
    after.Owned where
  held place user owner stored isOwner := by
    rw [frame.agents]
    by_cases own : owner = self
    · rw [own, holds place user stored (own ▸ isOwner)]
      exact registered
    · have other : place.owner ≠ some self := by
        rw [isOwner]
        exact fun same => own (Option.some_inj.mp same)
      exact owned.held place user owner (frame.handles place other ▸ stored) isOwner
  distinct target other owner := by
    rw [frame.agents]
    exact owned.distinct target other owner
  created target owner := by
    rw [frame.agents, frame.nextAgent]
    exact owned.created target owner

theorem assign_outside (owned : world.Owned) (slot : Nat) (user : Option MavlinkEndpointUser) :
    (world.assign ⟨none, slot⟩ user).Owned := by
  refine owned.kept (fun target => by rw [assign_eq]) (by rw [assign_eq]) ?_
  intro place owner isOwner stored held
  rwa [lookup_assign_of_ne] at held
  rintro rfl
  exact absurd isOwner.symm (Option.some_ne_none _)

theorem reset (owned : world.Owned) (place : Place) : (world.assign place none).Owned := by
  refine owned.kept (fun target => by rw [assign_eq]) (by rw [assign_eq]) ?_
  intro other owner _ user held
  by_cases same : other = place
  · rw [same, lookup_assign_self] at held
    exact absurd held.symm (Option.some_ne_none _)
  · rwa [lookup_assign_of_ne same] at held

end World.Owned

/-! ### The operations on agents -/

open Manager

/-- Creating an agent stays within the frame of the new object, which owns nothing if its
creation fails. -/
theorem frame_createAgent (owned : world.Owned) (name : String) (definition : sdk.AgentDefinition)
    (parsed : sdk.AgentConfig) :
    AgentFrame world.nextAgent name (creating definition parsed world)
        (createAgent name definition parsed world).2 ∧
      HoldsAs world.nextAgent name (createAgent name definition parsed world).2 ∧
      ((createAgent name definition parsed world).1 = none →
        ∀ place, place.owner = some world.nextAgent →
          (createAgent name definition parsed world).2.handles.lookup place = none) := by
  have start : HoldsAs world.nextAgent name (creating definition parsed world) :=
    owned.holdsAs_next name
  obtain ⟨frame, holds⟩ := frame_code (sdk.create definition parsed) start
  rcases createAgent_cases name definition parsed world with ⟨object, _, created⟩ | ⟨_, failed⟩
  · rw [created]
    exact ⟨frame, holds, fun none => absurd none.symm (Option.some_ne_none _).symm⟩
  · rw [failed]
    refine ⟨frame.trans (frame_destroyHandles holds), ?_, fun _ place isOwner => ?_⟩
    · intro place user stored isOwner
      rw [World.lookup_destroyHandles, if_pos isOwner] at stored
      exact absurd stored.symm (Option.some_ne_none _)
    · rw [World.lookup_destroyHandles, if_pos isOwner]

/-- Removing an agent stays within the frame of the object, which owns nothing any more. -/
theorem frame_removeAgent {agent : AgentInstance sdk} (owned : world.Owned)
    (stored : world.agents.lookup name = some agent) :
    AgentFrame agent.id name (destroying name agent world) (removeAgent name world).2 ∧
      ∀ place, place.owner = some agent.id →
        (removeAgent name world).2.handles.lookup place = none := by
  have start : HoldsAs agent.id name (destroying name agent world) :=
    owned.holdsAs (agentAt_of_lookup stored)
  obtain ⟨frame, holds⟩ := frame_code (sdk.destroyAgent agent.object) start
  rcases removeAgent_cases name world with ⟨absent, _, _⟩ | ⟨other, sameAgent, _, removed⟩
  · rw [absent] at stored
    exact absurd stored.symm (Option.some_ne_none _)
  · rw [stored, Option.some_inj] at sameAgent
    subst sameAgent
    rw [removed]
    refine ⟨frame.trans (frame_destroyHandles holds), fun place isOwner => ?_⟩
    rw [World.lookup_destroyHandles, if_pos isOwner]

theorem owned_creating (owned : world.Owned) (definition : sdk.AgentDefinition)
    (parsed : sdk.AgentConfig) : (creating definition parsed world).Owned where
  held := owned.held
  distinct := owned.distinct
  created name owner registered := Nat.lt_succ_of_lt (owned.created name owner registered)

theorem createAgent_id {definition : sdk.AgentDefinition} {parsed : sdk.AgentConfig}
    {agent : AgentInstance sdk}
    (created : (createAgent name definition parsed world).1 = some agent) :
    agent.id = world.nextAgent := by
  rcases createAgent_cases name definition parsed world with ⟨object, _, made⟩ | ⟨_, made⟩
  · rw [made, Option.some_inj] at created
    rw [← created]
  · rw [made] at created
    exact absurd created.symm (Option.some_ne_none _)

theorem owned_addAgent (owned : world.Owned) (name type : String) (config : Config) :
    (addAgent name type config world).2.Owned := by
  rcases addAgent_cases name type config world with
    ⟨_, _, same⟩ | ⟨definition, parsed, creates, outcome⟩
  · rw [same]
    exact owned
  obtain ⟨frame, holds, nothing⟩ := frame_createAgent owned name definition parsed
  have other : ∀ {place owner}, owner ≠ world.nextAgent → place.owner = some owner →
      (createAgent name definition parsed world).2.handles.lookup place =
        world.handles.lookup place := by
    intro place owner different isOwner
    refine frame.handles place fun same => different ?_
    exact Option.some_inj.mp (isOwner.symm.trans same)
  rcases outcome with ⟨failed, _, effect⟩ | ⟨agent, created, _, effect⟩
  · rw [effect]
    refine (owned_creating owned definition parsed).kept (fun target => by rw [frame.agents])
      frame.nextAgent fun place owner isOwner user stored => ?_
    by_cases own : owner = world.nextAgent
    · rw [nothing failed place (own ▸ isOwner)] at stored
      exact absurd stored.symm (Option.some_ne_none _)
    · exact (other own isOwner).symm.trans stored
  · -- The new name is free, and its object is younger than every other.
    have fresh := createAgent_id created
    have free : ∀ owner, agentAt world.agents name ≠ some owner := by simp [agentAt, creates.1]
    have agents : (createAgent name definition parsed world).2.agents = world.agents :=
      frame.agents
    have next : (createAgent name definition parsed world).2.nextAgent = world.nextAgent + 1 :=
      frame.nextAgent
    rw [effect, agents]
    constructor
    · intro place user owner stored isOwner
      rw [agentAt_insert_iff]
      by_cases own : owner = world.nextAgent
      · exact Or.inl ⟨holds place user stored (own ▸ isOwner), fresh.trans own.symm⟩
      · have isRegistered := owned.held place user owner
          ((other own isOwner).symm.trans stored) isOwner
        exact Or.inr ⟨fun same => free owner (same ▸ isRegistered), isRegistered⟩
    · intro target other owner
      rw [agentAt_insert_iff, agentAt_insert_iff]
      rintro (⟨rfl, isNew⟩ | ⟨_, isOld⟩) (⟨rfl, isNewToo⟩ | ⟨_, isOldToo⟩)
      · rfl
      · exact absurd (owned.created _ _ isOldToo) (by rw [← isNew, fresh]; exact Nat.lt_irrefl _)
      · exact absurd (owned.created _ _ isOld) (by rw [← isNewToo, fresh]; exact Nat.lt_irrefl _)
      · exact owned.distinct target other owner isOld isOldToo
    · intro target owner
      rw [agentAt_insert_iff, next]
      rintro (⟨_, isNew⟩ | ⟨_, isOld⟩)
      · rw [← isNew, fresh]
        exact Nat.lt_succ_self _
      · exact Nat.lt_succ_of_lt (owned.created target owner isOld)

theorem owned_runAgent {Answer : Type} {agent : AgentInstance sdk} (owned : world.Owned)
    (stored : world.agents.lookup name = some agent)
    (code : sdk.Agent → AgentCode sdk.toSdkTypes (sdk.Agent × Answer)) :
    (runAgent name agent code world).2.Owned := by
  have registered := agentAt_of_lookup stored
  obtain ⟨frame, holds⟩ := frame_code (code agent.object) (owned.holdsAs registered)
  refine (owned.frame registered frame holds).kept (fun target => ?_) rfl fun _ _ _ _ => id
  exact agentAt_insert_same (frame.agents ▸ stored) _ target

theorem owned_record (owned : world.Owned) (event : Event sdk) : (world.record event).Owned :=
  owned.kept (fun _ => rfl) rfl fun _ _ _ _ => id

theorem owned_editAgent (owned : world.Owned) (name type : String) (config : Config) :
    (editAgent name type config world).2.Owned := by
  rcases editAgent_cases name type config world with
    ⟨_, _, same⟩ | ⟨agent, definition, parsed, ⟨stored, _, _⟩, edited⟩
  · rw [same]
    exact owned
  · rw [edited]
    exact owned_runAgent (owned_record owned _) stored _

theorem owned_startAgent (owned : world.Owned) (name : String) :
    (startAgent name world).2.Owned := by
  rcases startAgent_cases name world with ⟨_, _, same⟩ | ⟨agent, stored, _, started⟩
  · rw [same]
    exact owned
  · rw [started]
    exact owned_runAgent (owned_record owned _) stored _

theorem owned_stopAgent (owned : world.Owned) (name : String) :
    (stopAgent name world).2.Owned := by
  rcases stopAgent_cases name world with ⟨_, _, same⟩ | ⟨agent, stored, stopped⟩
  · rw [same]
    exact owned
  · rw [stopped]
    exact owned_runAgent (owned_record owned _) stored _

theorem owned_removeAgent (owned : world.Owned) (name : String) :
    (removeAgent name world).2.Owned := by
  rcases removeAgent_cases name world with ⟨_, _, same⟩ | ⟨agent, stored, _, _⟩
  · rw [same]
    exact owned
  obtain ⟨frame, nothing⟩ := frame_removeAgent owned stored
  have agents : (removeAgent name world).2.agents = world.agents.erase name := frame.agents
  have next : (removeAgent name world).2.nextAgent = world.nextAgent := frame.nextAgent
  refine ⟨fun place user owner held isOwner => ?_, ?_, fun target owner registered => ?_⟩
  · have different : owner ≠ agent.id := by
      rintro rfl
      rw [nothing place isOwner] at held
      exact absurd held.symm (Option.some_ne_none _)
    have other : place.owner ≠ some agent.id := by
      rw [isOwner]
      exact fun same => different (Option.some_inj.mp same)
    have registered := owned.held place user owner (frame.handles place other ▸ held) isOwner
    rw [agents, agentAt_erase_iff]
    refine ⟨?_, registered⟩
    rintro rfl
    rw [agentAt_of_lookup stored, Option.some_inj] at registered
    exact different registered.symm
  · intro target other owner
    rw [agents, agentAt_erase_iff, agentAt_erase_iff]
    exact fun registered otherRegistered =>
      owned.distinct target other owner registered.2 otherRegistered.2
  · rw [agents, agentAt_erase_iff] at registered
    rw [next]
    exact owned.created target owner registered.2

/-! ### Reachable worlds are owned -/

theorem owned_useEndpoint {Answer : Type} (owned : world.Owned) (endpoint : EndpointId)
    (use : sdk.Env → sdk.Endpoint → Answer × sdk.Endpoint × sdk.Env) :
    (world.useEndpoint endpoint use).2.Owned := by
  obtain ⟨endpoints, env, used, _⟩ := world.useEndpoint_eq endpoint use
  rw [used]
  exact owned.kept (fun _ => rfl) rfl fun _ _ _ _ => id

theorem owned_addMavlinkEndpoint (owned : world.Owned) (name : String) :
    (addMavlinkEndpoint name world).2.Owned := by
  rcases addMavlinkEndpoint_cases name world with ⟨_, _, same⟩ | ⟨_, _, added⟩
  · rw [same]
    exact owned
  · rw [added]
    exact owned.kept (fun _ => rfl) rfl fun _ _ _ _ => id

theorem owned_connectMavlinkEndpoint (owned : world.Owned) (name type : String)
    (config : Config) : (connectMavlinkEndpoint name type config world).2.Owned := by
  rcases connectMavlinkEndpoint_cases name type config world with
    ⟨_, _, same⟩ | ⟨entry, _, _, connected⟩
  · rw [same]
    exact owned
  · rw [connected]
    exact owned_useEndpoint (owned_record owned _) _ _

theorem owned_executePlan (owned : world.Owned) (plan : UserPlan) :
    (executePlan plan world).2.Owned :=
  executePlan_relates (fun before after => before.Owned → after.Owned)
    (fun first second => second ∘ first) (fun _ => id)
    (attemptEndpoint_relates (fun before after => before.Owned → after.Owned)
      (fun first second => second ∘ first)
      (fun name _ owned => owned_addMavlinkEndpoint owned name)
      (fun name type config _ owned => owned_connectMavlinkEndpoint owned name type config))
    (attemptAgent_relates (fun before after => before.Owned → after.Owned)
      (fun first second => second ∘ first)
      (fun name type config _ owned => owned_addAgent owned name type config)
      (fun name _ owned => owned_startAgent owned name))
    world owned

theorem owned_call (owned : world.Owned) (request : EndpointCall sdk.toSdkTypes)
    (user : MavlinkEndpointUser) : (user.call request world).2.Owned := by
  obtain ⟨endpoints, env, events, called, _⟩ := user.call_eq request world
  rw [called]
  exact owned.kept (fun _ => rfl) rfl fun _ _ _ _ => id

theorem owned_moveUser (owned : world.Owned) (source : Place) (slot : Nat) :
    (world.moveUser source slot).Owned := by
  rw [World.moveUser]
  cases held : world.handles.lookup source with
  | none => exact owned
  | some user =>
    dsimp only
    split_ifs with same
    · exact owned
    · refine World.Owned.assign_outside ?_ slot (some user)
      refine owned.kept (fun _ => rfl) rfl fun place owner _ other stored => ?_
      by_cases isSource : place = source
      · have erased : (world.handles.erase source).lookup place = none := by
          rw [isSource, AList.lookup_erase]
        exact absurd (erased.symm.trans stored) (Option.some_ne_none _).symm
      · exact (AList.lookup_erase_ne isSource).symm.trans stored

theorem owned_invoke (owned : world.Owned) (call : ManagerCall) (slot : Nat) :
    (world.perform (.invoke call slot)).Owned := by
  cases call with
  | addMavlinkEndpoint name => exact owned_addMavlinkEndpoint owned name
  | connectMavlinkEndpoint name type config =>
    exact owned_connectMavlinkEndpoint owned name type config
  | disconnectMavlinkEndpoint name =>
    show (disconnectMavlinkEndpoint name world).2.Owned
    rcases disconnectMavlinkEndpoint_cases name world with ⟨_, _, same⟩ | ⟨_, _, effect⟩
    · rw [same]
      exact owned
    · rw [effect]
      exact owned_useEndpoint (owned_record owned _) _ _
  | removeMavlinkEndpoint name =>
    show (removeMavlinkEndpoint name world).2.Owned
    rcases removeMavlinkEndpoint_cases name world with ⟨_, _, same⟩ | ⟨_, _, _, effect⟩
    · rw [same]
      exact owned
    · rw [effect]
      exact owned.kept (fun _ => rfl) rfl fun _ _ _ _ => id
  | createMavlinkEndpointUser name requester =>
    rw [World.perform, ManagerCall.perform]
    cases registered : world.endpointDb.lookup name with
    | none =>
      rw [createMavlinkEndpointUser_of_absent registered]
      exact owned
    | some entry =>
      rw [createMavlinkEndpointUser_of_registered registered]
      refine World.Owned.assign_outside ?_ slot (some ⟨entry.endpoint, name, requester⟩)
      exact owned.kept (fun _ => rfl) rfl fun _ _ _ _ => id
  | removeMavlinkEndpointUser name requester =>
    show (removeMavlinkEndpointUser name requester world).2.Owned
    rw [removeMavlinkEndpointUser_eq]
    exact owned.kept (fun _ => rfl) rfl fun _ _ _ _ => id
  | addAgent name type config => exact owned_addAgent owned name type config
  | editAgent name type config => exact owned_editAgent owned name type config
  | startAgent name => exact owned_startAgent owned name
  | stopAgent name => exact owned_stopAgent owned name
  | removeAgent name => exact owned_removeAgent owned name

theorem owned_perform (owned : world.Owned) (operation : Operation sdk) :
    (world.perform operation).Owned := by
  cases operation with
  | invoke call slot => exact owned_invoke owned call slot
  | executePlan plan => exact owned_executePlan owned plan
  | resetUser place => exact owned.reset place
  | moveUser source slot => exact owned_moveUser owned source slot
  | callUser place request =>
    rw [World.perform]
    cases world.handles.lookup place with
    | none => exact owned
    | some user => exact owned_call owned request user
  | runAgent name code =>
    rw [World.perform]
    cases stored : world.agents.lookup name with
    | none => exact owned
    | some agent => exact owned_runAgent owned stored code
  | environment step => exact owned.kept (fun _ => rfl) rfl fun _ _ _ _ => id
  | addAgentDefinition key definition => exact owned.kept (fun _ => rfl) rfl fun _ _ _ _ => id
  | removeAgentDefinition key => exact owned.kept (fun _ => rfl) rfl fun _ _ _ _ => id
  | addTransportDefinition key definition => exact owned.kept (fun _ => rfl) rfl fun _ _ _ _ => id
  | removeTransportDefinition key => exact owned.kept (fun _ => rfl) rfl fun _ _ _ _ => id

theorem World.Reachable.owned (reachable : world.Reachable) : world.Owned :=
  reachable.invariant World.Owned
    (fun _ _ _ => ⟨fun _ _ _ stored => absurd stored.symm (Option.some_ne_none _),
      fun _ _ _ registered => absurd registered.symm (Option.some_ne_none _),
      fun _ _ registered => absurd registered.symm (Option.some_ne_none _)⟩)
    fun _ operation owned => owned_perform owned operation

end MavlinkHub
