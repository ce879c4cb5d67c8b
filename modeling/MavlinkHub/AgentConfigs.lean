/-
This file follows the configurations that reach agents. A configuration is opaque to
the manager: what `parseConfig` of one definition returns can be handed to an agent
of another, and is misread there.

Creating an agent parses and creates with one definition. Editing one parses with the
definition registered under the type that the edit names, which nothing compares with
the definition that created the agent. Every configuration an agent receives comes
from its own definition exactly in the runs whose edits name a type of the agent's
own definition.
-/

import MavlinkHub.Locality

namespace MavlinkHub

open Manager Transition

variable {sdk : Sdk} {name : String} {before between after world : World sdk}

/-- The events in which a configuration reaches an agent. -/
def Event.isConfigEvent : Event sdk → Bool
  | .createAgent _ _ _ _ => true
  | .configure _ _ _ => true
  | _ => false

/-- The log grew by events that satisfy a predicate. -/
def Logs (allowed : Event sdk → Prop) (before after : World sdk) : Prop :=
  ∃ events, after.log = before.log ++ events ∧ ∀ event ∈ events, allowed event

theorem Logs.refl {allowed : Event sdk → Prop} (world : World sdk) : Logs allowed world world :=
  ⟨[], (List.append_nil _).symm, fun _ member => absurd member List.not_mem_nil⟩

theorem Logs.single {allowed : Event sdk → Prop} {event : Event sdk} (isAllowed : allowed event)
    (log : after.log = before.log ++ [event]) : Logs allowed before after :=
  ⟨[event], log, fun _ member => List.mem_singleton.mp member ▸ isAllowed⟩

theorem Logs.trans {allowed : Event sdk → Prop} (front : Logs allowed before between)
    (back : Logs allowed between after) : Logs allowed before after := by
  obtain ⟨events, frontLog, frontAllowed⟩ := front
  obtain ⟨others, backLog, backAllowed⟩ := back
  refine ⟨events ++ others, by rw [backLog, frontLog, List.append_assoc], fun event member => ?_⟩
  exact (List.mem_append.mp member).elim (frontAllowed event) (backAllowed event)

theorem Logs.mem_of_mem {allowed : Event sdk → Prop} {event : Event sdk}
    (logs : Logs allowed before after) (logged : event ∈ before.log) : event ∈ after.log := by
  obtain ⟨events, log, _⟩ := logs
  rw [log]
  exact List.mem_append_left _ logged

theorem Logs.mem_cases {allowed : Event sdk → Prop} {event : Event sdk}
    (logs : Logs allowed before after) (logged : event ∈ after.log) :
    event ∈ before.log ∨ allowed event := by
  obtain ⟨events, log, isAllowed⟩ := logs
  rw [log] at logged
  exact (List.mem_append.mp logged).imp_right (isAllowed event)

/-- A change that registers no agent, creates none and configures none. -/
structure Unconfigured (before after : World sdk) : Prop where
  agents : ∀ name agent, after.agents.lookup name = some agent →
    ∃ old, before.agents.lookup name = some old ∧ old.id = agent.id ∧
      old.definition = agent.definition
  nextAgent : after.nextAgent = before.nextAgent
  log : Logs (fun event => event.isConfigEvent = false) before after

namespace Unconfigured

theorem of_eq (agents : after.agents = before.agents)
    (nextAgent : after.nextAgent = before.nextAgent)
    (log : Logs (fun event => event.isConfigEvent = false) before after) :
    Unconfigured before after :=
  ⟨fun _ agent stored => ⟨agent, agents ▸ stored, rfl, rfl⟩, nextAgent, log⟩

theorem refl (world : World sdk) : Unconfigured world world := of_eq rfl rfl (.refl world)

theorem trans (front : Unconfigured before between) (back : Unconfigured between after) :
    Unconfigured before after where
  agents name agent stored := by
    obtain ⟨middle, storedBetween, sameId, sameDefinition⟩ := back.agents name agent stored
    obtain ⟨old, storedBefore, oldId, oldDefinition⟩ := front.agents name middle storedBetween
    exact ⟨old, storedBefore, oldId.trans sameId, oldDefinition.trans sameDefinition⟩
  nextAgent := back.nextAgent.trans front.nextAgent
  log := front.log.trans back.log

theorem record {event : Event sdk} (unconfiguring : event.isConfigEvent = false)
    (world : World sdk) : Unconfigured world (world.record event) :=
  of_eq rfl rfl (.single unconfiguring rfl)

theorem useEndpoint {Answer : Type} (endpoint : EndpointId)
    (use : sdk.Env → sdk.Endpoint → Answer × sdk.Endpoint × sdk.Env) (world : World sdk) :
    Unconfigured world (world.useEndpoint endpoint use).2 := by
  obtain ⟨endpoints, env, used, _⟩ := world.useEndpoint_eq endpoint use
  rw [used]
  exact of_eq rfl rfl (.refl world)

theorem call (request : EndpointCall sdk.toSdkTypes) (user : MavlinkEndpointUser)
    (world : World sdk) : Unconfigured world (user.call request world).2 := by
  obtain ⟨endpoints, env, events, called, _, calls⟩ := user.call_eq request world
  rw [called]
  exact of_eq rfl rfl ⟨events, rfl, fun event member => by rw [calls event member]; rfl⟩

theorem assign (place : Place) (user : Option MavlinkEndpointUser) (world : World sdk) :
    Unconfigured world (world.assign place user) := by
  rw [World.assign_eq]
  refine of_eq rfl rfl ⟨_, rfl, fun event member => ?_⟩
  cases held : world.handles.lookup place with
  | none =>
    rw [held] at member
    exact absurd member List.not_mem_nil
  | some old =>
    rw [held] at member
    rw [List.mem_singleton.mp member]
    rfl

theorem frame {self : AgentId} (frame : AgentFrame self name before after) :
    Unconfigured before after := by
  obtain ⟨events, log, users⟩ := frame.log
  refine of_eq frame.agents frame.nextAgent ⟨events, log, fun event member => ?_⟩
  have isUser := users event member
  cases event <;> first | rfl | exact absurd isUser Bool.false_ne_true

theorem runAgent {Answer : Type} {agent : AgentInstance sdk} (owned : world.Owned)
    (stored : world.agents.lookup name = some agent)
    (code : sdk.Agent → AgentCode sdk.toSdkTypes (sdk.Agent × Answer)) :
    Unconfigured world (Manager.runAgent name agent code world).2 := by
  obtain ⟨ran, _⟩ := frame_code (code agent.object) (owned.holdsAs (agentAt_of_lookup stored))
  refine (frame ran).trans ⟨fun target other held => ?_, rfl, .refl _⟩
  by_cases same : target = name
  · subst same
    rw [Manager.runAgent, Finmap.lookup_insert, Option.some_inj] at held
    subst held
    exact ⟨agent, ran.agents ▸ stored, rfl, rfl⟩
  · rw [Manager.runAgent, Finmap.lookup_insert_of_ne _ same] at held
    exact ⟨other, held, rfl, rfl⟩

end Unconfigured

/-! ### What the log knows about agents -/

/-- The log has the creation of every registered agent. An agent is created once, with a
configuration that its definition accepted. -/
structure World.Traced (world : World sdk) : Prop where
  registered : ∀ name agent, world.agents.lookup name = some agent →
    ∃ config, .createAgent agent.id agent.definition agent.definition config ∈ world.log
  created : ∀ agent definition parsedBy config,
    .createAgent agent definition parsedBy config ∈ world.log →
      agent < world.nextAgent ∧ parsedBy = definition ∧
        ∃ text, (sdk.parseConfig definition text).parsed = some config
  once : ∀ agent definition parsedBy config other otherParsedBy otherConfig,
    .createAgent agent definition parsedBy config ∈ world.log →
      .createAgent agent other otherParsedBy otherConfig ∈ world.log → definition = other

/-- A change that creates no agent and registers none that was not registered keeps the log
complete. -/
theorem World.Traced.kept (traced : before.Traced)
    (agents : ∀ name agent, after.agents.lookup name = some agent →
      ∃ old, before.agents.lookup name = some old ∧ old.id = agent.id ∧
        old.definition = agent.definition)
    (nextAgent : after.nextAgent = before.nextAgent)
    (log : Logs (fun event => ∀ agent definition parsedBy config,
      event ≠ .createAgent agent definition parsedBy config) before after) : after.Traced := by
  have old : ∀ agent definition parsedBy config,
      .createAgent agent definition parsedBy config ∈ after.log →
        .createAgent agent definition parsedBy config ∈ before.log :=
    fun agent definition parsedBy config logged =>
      (log.mem_cases logged).resolve_right fun isNew => isNew _ _ _ _ rfl
  refine ⟨fun name agent stored => ?_, fun agent definition parsedBy config logged => ?_, ?_⟩
  · obtain ⟨prior, storedBefore, sameId, sameDefinition⟩ := agents name agent stored
    obtain ⟨config, logged⟩ := traced.registered name prior storedBefore
    rw [← sameId, ← sameDefinition]
    exact ⟨config, log.mem_of_mem logged⟩
  · rw [nextAgent]
    exact traced.created agent definition parsedBy config (old _ _ _ _ logged)
  · intro agent definition parsedBy config other otherParsedBy otherConfig logged otherLogged
    exact traced.once _ _ _ _ _ _ _ (old _ _ _ _ logged) (old _ _ _ _ otherLogged)

theorem World.Traced.unconfigured (traced : before.Traced) (change : Unconfigured before after) :
    after.Traced := by
  obtain ⟨events, log, unconfiguring⟩ := change.log
  refine traced.kept change.agents change.nextAgent ⟨events, log, fun event member => ?_⟩
  rintro agent definition parsedBy config rfl
  exact absurd (unconfiguring _ member) Bool.false_ne_true.symm

/-- The creation of an agent is logged, under an identity of its own. -/
theorem traced_creating (traced : world.Traced) {definition : sdk.AgentDefinition}
    {parsed : sdk.AgentConfig} {text : Config}
    (accepted : (sdk.parseConfig definition text).parsed = some parsed) :
    (creating definition parsed world).Traced := by
  have cases : ∀ agent other parsedBy config,
      .createAgent agent other parsedBy config ∈ (creating definition parsed world).log →
        .createAgent agent other parsedBy config ∈ world.log ∨
          (agent = world.nextAgent ∧ other = definition ∧ parsedBy = definition ∧
            config = parsed) := by
    intro agent other parsedBy config logged
    refine (List.mem_append.mp logged).imp_right fun isNew => ?_
    have same := List.mem_singleton.mp isNew
    rw [Event.createAgent.injEq] at same
    exact same
  refine ⟨fun name agent stored => ?_, fun agent other parsedBy config logged => ?_, ?_⟩
  · obtain ⟨config, logged⟩ := traced.registered name agent stored
    exact ⟨config, List.mem_append_left _ logged⟩
  · rcases cases agent other parsedBy config logged with old | ⟨rfl, rfl, rfl, rfl⟩
    · obtain ⟨young, own, text, parses⟩ := traced.created agent other parsedBy config old
      exact ⟨Nat.lt_succ_of_lt young, own, text, parses⟩
    · exact ⟨Nat.lt_succ_self _, rfl, text, accepted⟩
  · intro agent first parsedBy config second otherParsedBy otherConfig logged otherLogged
    rcases cases _ _ _ _ logged with old | ⟨rfl, rfl, _, _⟩ <;>
      rcases cases _ _ _ _ otherLogged with otherOld | ⟨sameAgent, rfl, _, _⟩
    · exact traced.once _ _ _ _ _ _ _ old otherOld
    · exact absurd (sameAgent ▸ (traced.created _ _ _ _ old).1) (Nat.lt_irrefl _)
    · exact absurd (traced.created _ _ _ _ otherOld).1 (Nat.lt_irrefl _)
    · rfl

/-! ### What the operations log -/

/-- Every event but the configuration of an agent. -/
def Event.NotConfigure (event : Event sdk) : Prop :=
  ∀ agent parsedBy config, event ≠ .configure agent parsedBy config

theorem Event.notConfigure_of_unconfiguring {event : Event sdk}
    (unconfiguring : event.isConfigEvent = false) : event.NotConfigure := by
  rintro agent parsedBy config rfl
  exact absurd unconfiguring Bool.false_ne_true.symm

/-- A step that keeps the log complete and configures no agent. -/
def KeepsTrace (before after : World sdk) : Prop :=
  before.Owned → before.Traced →
    after.Owned ∧ after.Traced ∧ Logs Event.NotConfigure before after

namespace KeepsTrace

theorem refl (world : World sdk) : KeepsTrace world world :=
  fun owned traced => ⟨owned, traced, .refl world⟩

theorem trans (front : KeepsTrace before between) (back : KeepsTrace between after) :
    KeepsTrace before after := by
  intro owned traced
  obtain ⟨ownedBetween, tracedBetween, frontLog⟩ := front owned traced
  obtain ⟨ownedAfter, tracedAfter, backLog⟩ := back ownedBetween tracedBetween
  exact ⟨ownedAfter, tracedAfter, frontLog.trans backLog⟩

theorem of_unconfigured (keepsOwned : before.Owned → after.Owned)
    (change : before.Owned → Unconfigured before after) : KeepsTrace before after := by
  intro owned traced
  obtain ⟨events, log, unconfiguring⟩ := (change owned).log
  exact ⟨keepsOwned owned, traced.unconfigured (change owned),
    events, log, fun event member =>
      Event.notConfigure_of_unconfiguring (unconfiguring event member)⟩

theorem addMavlinkEndpoint (name : String) (world : World sdk) :
    KeepsTrace world (Manager.addMavlinkEndpoint name world).2 := by
  refine of_unconfigured (fun owned => owned_addMavlinkEndpoint owned name) fun _ => ?_
  rcases addMavlinkEndpoint_cases name world with ⟨_, _, same⟩ | ⟨_, _, added⟩
  · rw [same]
    exact .refl world
  · rw [added]
    exact .of_eq rfl rfl (.single rfl rfl)

theorem connectMavlinkEndpoint (name type : String) (config : Config) (world : World sdk) :
    KeepsTrace world (Manager.connectMavlinkEndpoint name type config world).2 := by
  refine of_unconfigured (fun owned => owned_connectMavlinkEndpoint owned name type config)
    fun _ => ?_
  rcases connectMavlinkEndpoint_cases name type config world with
    ⟨_, _, same⟩ | ⟨_, _, _, connected⟩
  · rw [same]
    exact .refl world
  · rw [connected]
    exact (Unconfigured.record rfl world).trans (.useEndpoint _ _ _)

theorem startAgent (name : String) (world : World sdk) :
    KeepsTrace world (Manager.startAgent name world).2 := by
  refine of_unconfigured (fun owned => owned_startAgent owned name) fun owned => ?_
  rcases startAgent_cases name world with ⟨_, _, same⟩ | ⟨agent, stored, _, started⟩
  · rw [same]
    exact .refl world
  · rw [started]
    exact (Unconfigured.record rfl world).trans (.runAgent (owned_record owned _) stored _)

theorem stopAgent (name : String) (world : World sdk) :
    KeepsTrace world (Manager.stopAgent name world).2 := by
  refine of_unconfigured (fun owned => owned_stopAgent owned name) fun owned => ?_
  rcases stopAgent_cases name world with ⟨_, _, same⟩ | ⟨agent, stored, stopped⟩
  · rw [same]
    exact .refl world
  · rw [stopped]
    exact (Unconfigured.record rfl world).trans (.runAgent (owned_record owned _) stored _)

theorem removeAgent (name : String) (world : World sdk) :
    KeepsTrace world (Manager.removeAgent name world).2 := by
  refine of_unconfigured (fun owned => owned_removeAgent owned name) fun owned => ?_
  rcases removeAgent_cases name world with ⟨_, _, same⟩ | ⟨agent, stored, _, _⟩
  · rw [same]
    exact .refl world
  · have erased : Unconfigured world (destroying name agent world) := by
      refine ⟨fun target other held => ?_, rfl, .single rfl rfl⟩
      by_cases same : target = name
      · rw [same, destroying, Finmap.lookup_erase] at held
        exact absurd held.symm (Option.some_ne_none _)
      · rw [destroying, Finmap.lookup_erase_ne same] at held
        exact ⟨other, held, rfl, rfl⟩
    exact erased.trans (.frame (frame_removeAgent owned stored).1)

theorem addAgent (name type : String) (config : Config) (world : World sdk) :
    KeepsTrace world (Manager.addAgent name type config world).2 := by
  intro owned traced
  refine ⟨owned_addAgent owned name type config, ?_⟩
  rcases addAgent_cases name type config world with
    ⟨_, _, same⟩ | ⟨definition, parsed, ⟨_, _, accepted⟩, outcome⟩
  · rw [same]
    exact ⟨traced, .refl world⟩
  have tracedCreating := traced_creating traced accepted
  have created : Logs Event.NotConfigure world (creating definition parsed world) := by
    refine .single (fun agent parsedBy other same => ?_) rfl
    cases same
  have change : Unconfigured (creating definition parsed world)
      (createAgent name definition parsed world).2 :=
    .frame (frame_createAgent owned name definition parsed).1
  have ran : Logs Event.NotConfigure (creating definition parsed world)
      (createAgent name definition parsed world).2 := by
    obtain ⟨events, log, unconfiguring⟩ := change.log
    exact ⟨events, log, fun event member =>
      Event.notConfigure_of_unconfiguring (unconfiguring event member)⟩
  have tracedCreated := tracedCreating.unconfigured change
  rcases outcome with ⟨_, _, effect⟩ | ⟨agent, made, _, effect⟩
  · rw [effect]
    exact ⟨tracedCreated, created.trans ran⟩
  · rw [effect]
    refine ⟨⟨fun target other stored => ?_, tracedCreated.created, tracedCreated.once⟩,
      created.trans ran⟩
    by_cases same : target = name
    · -- The creation of the new agent is the event that `creating` logs.
      dsimp only at stored
      rw [same, Finmap.lookup_insert, Option.some_inj] at stored
      subst stored
      have isNew : agent.id = world.nextAgent ∧ agent.definition = definition := by
        rcases createAgent_cases name definition parsed world with ⟨object, _, effect⟩ | ⟨_, effect⟩
        · rw [effect, Option.some_inj] at made
          rw [← made]
          exact ⟨rfl, rfl⟩
        · rw [effect] at made
          exact absurd made.symm (Option.some_ne_none _)
      rw [isNew.1, isNew.2]
      exact ⟨parsed, change.log.mem_of_mem (List.mem_append_right _ List.mem_cons_self)⟩
    · dsimp only at stored
      rw [Finmap.lookup_insert_of_ne _ same] at stored
      exact tracedCreated.registered target other stored

theorem executePlan (plan : UserPlan) (world : World sdk) :
    KeepsTrace world (Manager.executePlan plan world).2 :=
  executePlan_relates KeepsTrace .trans .refl
    (attemptEndpoint_relates KeepsTrace .trans addMavlinkEndpoint connectMavlinkEndpoint)
    (attemptAgent_relates KeepsTrace .trans addAgent startAgent) world

end KeepsTrace

/-! ### Editing -/

/-- Every configuration that reached an agent was returned by `parseConfig` of the definition
that created the agent. -/
structure World.OwnConfigs (world : World sdk) : Prop where
  created : ∀ agent definition parsedBy config,
    .createAgent agent definition parsedBy config ∈ world.log →
      parsedBy = definition ∧ ∃ text, (sdk.parseConfig parsedBy text).parsed = some config
  configured : ∀ agent parsedBy config, .configure agent parsedBy config ∈ world.log →
    (∃ text, (sdk.parseConfig parsedBy text).parsed = some config) ∧
      ∃ initialParsedBy initial, .createAgent agent parsedBy initialParsedBy initial ∈ world.log

/-- If a step edits an agent and gets as far as configuring it, the edit names a type of the
agent's own definition. -/
def World.EditsOwnType (world : World sdk) (operation : Operation sdk) : Prop :=
  ∀ name type config slot agent definition parsed,
    operation = .invoke (.editAgent name type config) slot →
    Configures name type config world agent definition parsed → definition = agent.definition

/-- A step that configures no agent keeps the log complete. -/
theorem KeepsTrace.quiet {operation : Operation sdk}
    (unconfigured : world.Owned → Unconfigured world (world.perform operation)) :
    KeepsTrace world (world.perform operation) :=
  .of_unconfigured (fun owned => owned_perform owned operation) unconfigured

theorem Unconfigured.moveUser (source : Place) (slot : Nat) (world : World sdk) :
    Unconfigured world (world.moveUser source slot) := by
  rw [World.moveUser]
  cases world.handles.lookup source with
  | none => exact .refl world
  | some user =>
    dsimp only
    split_ifs
    · exact .refl world
    · refine Unconfigured.trans ?_ (.assign ⟨none, slot⟩ (some user) _)
      exact .of_eq rfl rfl (.refl world)

theorem keepsTrace_invoke {call : ManagerCall} (slot : Nat)
    (notEdit : ∀ name type config, call ≠ .editAgent name type config) (world : World sdk) :
    KeepsTrace world (world.perform (.invoke call slot)) := by
  cases call with
  | addMavlinkEndpoint name => exact .addMavlinkEndpoint name world
  | connectMavlinkEndpoint name type config =>
    exact .connectMavlinkEndpoint name type config world
  | disconnectMavlinkEndpoint name =>
    refine .quiet fun _ => ?_
    rw [World.perform, ManagerCall.perform, Reply.ofResult]
    rcases disconnectMavlinkEndpoint_cases name world with ⟨_, _, same⟩ | ⟨_, _, effect⟩
    · rw [same]
      exact .refl world
    · rw [effect]
      exact (Unconfigured.record rfl world).trans (.useEndpoint _ _ _)
  | removeMavlinkEndpoint name =>
    refine .quiet fun _ => ?_
    rw [World.perform, ManagerCall.perform, Reply.ofResult]
    rcases removeMavlinkEndpoint_cases name world with ⟨_, _, same⟩ | ⟨_, _, _, effect⟩
    · rw [same]
      exact .refl world
    · rw [effect]
      exact .of_eq rfl rfl (.single rfl rfl)
  | createMavlinkEndpointUser name requester =>
    refine .quiet fun _ => ?_
    rw [World.perform, ManagerCall.perform]
    cases registered : world.endpointDb.lookup name with
    | none =>
      rw [createMavlinkEndpointUser_of_absent registered]
      exact .refl world
    | some entry =>
      rw [createMavlinkEndpointUser_of_registered registered]
      refine Unconfigured.trans ?_
        (.assign ⟨none, slot⟩ (some ⟨entry.endpoint, name, requester⟩) _)
      exact .of_eq rfl rfl (.single rfl rfl)
  | removeMavlinkEndpointUser name requester =>
    refine .quiet fun _ => ?_
    rw [World.perform, ManagerCall.perform, removeMavlinkEndpointUser_eq]
    exact .of_eq rfl rfl (.refl world)
  | addAgent name type config => exact .addAgent name type config world
  | editAgent name type config => exact absurd rfl (notEdit name type config)
  | startAgent name => exact .startAgent name world
  | stopAgent name => exact .stopAgent name world
  | removeAgent name => exact .removeAgent name world

theorem keepsTrace_perform (operation : Operation sdk)
    (notEdit : ∀ name type config slot,
      operation ≠ .invoke (.editAgent name type config) slot) (world : World sdk) :
    KeepsTrace world (world.perform operation) := by
  cases operation with
  | invoke call slot =>
    exact keepsTrace_invoke slot
      (fun name type config same => notEdit name type config slot (by rw [same])) world
  | executePlan plan => exact .executePlan plan world
  | resetUser place => exact .quiet fun _ => .assign place none world
  | moveUser source slot => exact .quiet fun _ => .moveUser source slot world
  | callUser place request =>
    refine .quiet fun _ => ?_
    rw [World.perform]
    cases world.handles.lookup place with
    | none => exact .refl world
    | some user => exact .call request user world
  | runAgent name code =>
    refine .quiet fun owned => ?_
    rw [World.perform]
    cases stored : world.agents.lookup name with
    | none => exact .refl world
    | some agent => exact .runAgent owned stored code
  | environment step => exact .quiet fun _ => .of_eq rfl rfl (.refl world)
  | addAgentDefinition key definition => exact .quiet fun _ => .of_eq rfl rfl (.refl world)
  | removeAgentDefinition key => exact .quiet fun _ => .of_eq rfl rfl (.refl world)
  | addTransportDefinition key definition => exact .quiet fun _ => .of_eq rfl rfl (.refl world)
  | removeTransportDefinition key => exact .quiet fun _ => .of_eq rfl rfl (.refl world)

/-- An edit that gets as far as configuring the agent keeps the log complete. -/
theorem traced_configure {agent : AgentInstance sdk} (owned : world.Owned) (traced : world.Traced)
    (stored : world.agents.lookup name = some agent) (definition : sdk.AgentDefinition)
    (parsed : sdk.AgentConfig) :
    (runAgent name agent (fun object => sdk.configure object parsed)
        (world.record (.configure agent.id definition parsed))).2.Traced ∧
      Unconfigured (world.record (.configure agent.id definition parsed))
        (runAgent name agent (fun object => sdk.configure object parsed)
          (world.record (.configure agent.id definition parsed))).2 := by
  have recorded : (world.record (.configure agent.id definition parsed)).Traced := by
    refine traced.kept (fun _ other held => ⟨other, held, rfl, rfl⟩) rfl (.single ?_ rfl)
    intro other otherDefinition parsedBy config same
    cases same
  have change : Unconfigured (world.record (.configure agent.id definition parsed))
      (runAgent name agent (fun object => sdk.configure object parsed)
        (world.record (.configure agent.id definition parsed))).2 :=
    .runAgent (owned_record owned _) stored _
  exact ⟨recorded.unconfigured change, change⟩

theorem traced_perform (owned : world.Owned) (traced : world.Traced) (operation : Operation sdk) :
    (world.perform operation).Traced := by
  by_cases isEdit : ∃ name type config slot, operation = .invoke (.editAgent name type config) slot
  · obtain ⟨name, type, config, slot, rfl⟩ := isEdit
    show (editAgent name type config world).2.Traced
    rcases editAgent_cases name type config world with
      ⟨_, _, same⟩ | ⟨agent, definition, parsed, ⟨stored, _, _⟩, effect⟩
    · rw [same]
      exact traced
    · rw [effect]
      exact (traced_configure owned traced stored definition parsed).1
  · have notEdit : ∀ name type config slot,
        operation ≠ .invoke (.editAgent name type config) slot :=
      fun name type config slot same => isEdit ⟨name, type, config, slot, same⟩
    exact (keepsTrace_perform operation notEdit world owned traced).2.1

theorem World.Reachable.traced (reachable : world.Reachable) : world.Traced := by
  refine (reachable.invariant (fun world => world.Owned ∧ world.Traced) (fun _ _ _ => ⟨?_, ?_⟩)
    fun world operation ⟨owned, traced⟩ =>
      ⟨owned_perform owned operation, traced_perform owned traced operation⟩).2
  · exact (World.reachable_initial _ _ _).owned
  · exact ⟨fun _ _ stored => absurd stored.symm (Option.some_ne_none _),
      fun _ _ _ _ logged => absurd logged List.not_mem_nil,
      fun _ _ _ _ _ _ _ logged => absurd logged List.not_mem_nil⟩

/-- One step keeps the configurations with their definitions, if it edits with its own type. -/
theorem ownConfigs_perform (owned : world.Owned) (traced : world.Traced) (own : world.OwnConfigs)
    {operation : Operation sdk} (edits : world.EditsOwnType operation) :
    (world.perform operation).OwnConfigs := by
  refine ⟨fun agent definition parsedBy config logged => ?_,
    fun agent parsedBy config logged => ?_⟩
  · obtain ⟨_, rfl, accepted⟩ :=
      (traced_perform owned traced operation).created agent definition parsedBy config logged
    exact ⟨rfl, accepted⟩
  by_cases isEdit : ∃ name type config slot, operation = .invoke (.editAgent name type config) slot
  · obtain ⟨name, type, text, slot, rfl⟩ := isEdit
    have effect : world.perform (.invoke (.editAgent name type text) slot) =
        (editAgent name type text world).2 := rfl
    rw [effect] at logged ⊢
    rcases editAgent_cases name type text world with
      ⟨_, _, same⟩ | ⟨edited, definition, parsed, configures, configured⟩
    · rw [same] at logged ⊢
      exact own.configured agent parsedBy config logged
    rw [configured] at logged ⊢
    have stored := configures.1
    have change := (traced_configure owned traced stored definition parsed).2
    have kept : ∀ event ∈ world.log, event ∈ (runAgent name edited
        (fun object => sdk.configure object parsed)
        (world.record (.configure edited.id definition parsed))).2.log :=
      fun event member => change.log.mem_of_mem (List.mem_append_left _ member)
    rcases change.log.mem_cases logged with before | unconfiguring
    · rcases List.mem_append.mp before with old | isNew
      · obtain ⟨text, initialParsedBy, initial, creation⟩ :=
          own.configured agent parsedBy config old
        exact ⟨text, initialParsedBy, initial, kept _ creation⟩
      · have same := List.mem_singleton.mp isNew
        rw [Event.configure.injEq] at same
        obtain ⟨rfl, rfl, rfl⟩ := same
        -- The edit names a type of the agent's own definition, whose creation is logged.
        have ownType : parsedBy = edited.definition :=
          edits name type text slot edited parsedBy config rfl configures
        obtain ⟨initial, creation⟩ := traced.registered name edited stored
        exact ⟨⟨text, configures.2.2⟩, _, initial, kept _ (ownType ▸ creation)⟩
    · exact absurd unconfiguring Bool.false_ne_true.symm
  · have notEdit : ∀ name type config slot,
        operation ≠ .invoke (.editAgent name type config) slot :=
      fun name type config slot same => isEdit ⟨name, type, config, slot, same⟩
    have logs := (keepsTrace_perform operation notEdit world owned traced).2.2
    have old := (logs.mem_cases logged).resolve_right fun isNew => isNew _ _ _ rfl
    obtain ⟨text, initialParsedBy, initial, creation⟩ := own.configured agent parsedBy config old
    exact ⟨text, initialParsedBy, initial, logs.mem_of_mem creation⟩

/-- A step that keeps to the agents' own types. -/
def OwnTypeStep (before : World sdk) (operation : Operation sdk) (after : World sdk) : Prop :=
  World.Step before operation after ∧ before.EditsOwnType operation

/-- Configurations that stayed with their definitions show that every edit on the way named a
type of the agent's own definition. -/
theorem ownTypeRun_of_ownConfigs {operations : List (Operation sdk)}
    (run : Run World.Step before operations after) (owned : before.Owned) (traced : before.Traced)
    (own : after.OwnConfigs) (once : after.Traced) : Run OwnTypeStep before operations after := by
  induction run with
  | done world => exact .done world
  | @next first middle last operation operations head tail inductionHypothesis =>
    have ownedMiddle : middle.Owned := head ▸ owned_perform owned operation
    have tracedMiddle : middle.Traced := head ▸ traced_perform owned traced operation
    refine .next ⟨head, ?_⟩ (inductionHypothesis ownedMiddle tracedMiddle own once)
    obtain ⟨events, log, _⟩ := accounted_run tail fun _ _ _ => trivial
    rintro name type config slot agent definition parsed rfl configures
    have effect : middle = (editAgent name type config first).2 := head.symm
    rcases editAgent_cases name type config first with
      ⟨refused, _, _⟩ | ⟨edited, parser, accepted, reached, configured⟩
    · exact absurd configures (refused agent definition parsed)
    · obtain ⟨stored, known, parses⟩ := configures
      obtain ⟨storedToo, knownToo, parsesToo⟩ := reached
      rw [stored, Option.some_inj] at storedToo
      rw [known, Option.some_inj] at knownToo
      subst storedToo
      subst knownToo
      -- The configuration and the creation of the agent are both in the last log.
      have change := (traced_configure owned traced stored definition accepted).2
      have kept : ∀ event ∈ first.log ++ [.configure agent.id definition accepted],
          event ∈ last.log := by
        intro event member
        rw [log, effect, configured]
        exact List.mem_append_left _ (change.log.mem_of_mem member)
      obtain ⟨initial, creation⟩ := traced.registered name agent stored
      obtain ⟨_, otherParsedBy, other, logged⟩ := own.configured agent.id definition accepted
        (kept _ (List.mem_append_right _ List.mem_cons_self))
      exact once.once _ _ _ _ _ _ _ logged (kept _ (List.mem_append_left _ creation))

/-- Every configuration that reaches an agent in a run was returned by `parseConfig` of the
definition that created the agent, exactly if every edit of the run that gets as far as
configuring an agent names a type of the agent's own definition. -/
theorem ownConfigs_iff {agentRegistry : AgentRegistry sdk.AgentDefinition}
    {transportRegistry : StringMap sdk.TransportDefinition} {env : sdk.Env}
    {operations : List (Operation sdk)}
    (run : Run World.Step (.initial agentRegistry transportRegistry env) operations world) :
    world.OwnConfigs ↔
      Run OwnTypeStep (.initial agentRegistry transportRegistry env) operations world := by
  have start := World.reachable_initial agentRegistry transportRegistry env
  refine ⟨fun own => ownTypeRun_of_ownConfigs run start.owned start.traced own
    (start.run run).traced, fun ownTypeRun => ?_⟩
  refine (ownTypeRun.invariant
    (fun world => world.Owned ∧ world.Traced ∧ world.OwnConfigs) ?_ ?_).2.2
  · rintro before operation after ⟨owned, traced, own⟩ ⟨taken, edits⟩
    rw [← taken]
    exact ⟨owned_perform owned operation, traced_perform owned traced operation,
      ownConfigs_perform owned traced own edits⟩
  · exact ⟨start.owned, start.traced, fun _ _ _ _ logged => absurd logged List.not_mem_nil,
      fun _ _ _ logged => absurd logged List.not_mem_nil⟩

theorem ownConfigs_iff_sample :
    (linkedWorld.perform (.invoke (.addAgent "a" "courier" ∅) 0) |>.perform
      (.invoke (.editAgent "a" "courier" ∅) 0)).OwnConfigs := by
  refine (ownConfigs_iff (World.run_foldl [.invoke (.addMavlinkEndpoint "link") 0,
    .invoke (.addAgent "a" "courier" ∅) 0, .invoke (.editAgent "a" "courier" ∅) 0] _)).mpr
    (.next ⟨rfl, ?_⟩ (.next ⟨rfl, ?_⟩ (.single ⟨rfl, ?_⟩)))
  · rintro _ _ _ _ _ _ _ ⟨⟩
  · rintro _ _ _ _ _ _ _ ⟨⟩
  · rintro name type config slot agent definition parsed same ⟨stored, known, _⟩
    rw [Operation.invoke.injEq, ManagerCall.editAgent.injEq] at same
    obtain ⟨⟨rfl, rfl, rfl⟩, rfl⟩ := same
    have sameAgent := stored.symm.trans
      (rfl : _ = some (⟨0, .courier, ()⟩ : AgentInstance sampleSdk))
    have sameDefinition := known.symm.trans (rfl : _ = some SampleDefinition.courier)
    rw [Option.some_inj.mp sameAgent, Option.some_inj.mp sameDefinition]

/-- An agent of `courier` is edited with the type `doomed`. -/
def foreignEdit : List (Operation sampleSdk) :=
  [.invoke (.addAgent "a" "courier" ∅) 0, .invoke (.editAgent "a" "doomed" ∅) 0]

theorem foreignEdit_not_ownConfigs :
    Run World.Step sampleWorld foreignEdit (foreignEdit.foldl World.perform sampleWorld) ∧
      ¬ (foreignEdit.foldl World.perform sampleWorld).OwnConfigs := by
  refine ⟨World.run_foldl _ _, fun own => ?_⟩
  obtain ⟨_, initialParsedBy, initial, creation⟩ := own.configured 0 .doomed .doomed
    (List.mem_cons_of_mem _ List.mem_cons_self)
  have log : (foreignEdit.foldl World.perform sampleWorld).log =
      [.createAgent 0 .courier .courier .courier, .configure 0 .doomed .doomed] := rfl
  rw [log] at creation
  simp at creation

end MavlinkHub
