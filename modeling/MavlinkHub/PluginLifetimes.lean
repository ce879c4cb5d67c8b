/-
This file puts the lib loader and the manager together, as the application does: a load
registers definitions in the registries that the manager reads, and the destruction of
the application destroys the manager before the loader. The code of an agent lives in the
library of the definition that created it.

The manager looks a definition up in a registry whenever it runs code of it, to parse a
configuration or to create an agent, and the loader closes nothing before it is destroyed.
So whatever is registered comes from a library that is open, and every definition that
has created or configured an agent comes from one that is still open when the last agent
is gone.
-/

import MavlinkHub.PluginRegistration
import MavlinkHub.Teardown

namespace MavlinkHub

open Manager Transition

variable {sdk : Sdk} {name : String} {before between after world : World sdk}

/-! ### The definitions whose code runs -/

/-- The definitions that an event says code was run of. -/
def Event.Runs (definition : sdk.AgentDefinition) : Event sdk → Prop
  | .createAgent _ created parsedBy _ => definition = created ∨ definition = parsedBy
  | .configure _ parsedBy _ => definition = parsedBy
  | _ => False

/-- A step that leaves the registries alone and runs only the code of agent definitions in
theirs. -/
structure RunsRegistered (before after : World sdk) : Prop where
  agentRegistry : after.agentRegistry = before.agentRegistry
  transportRegistry : after.transportRegistry = before.transportRegistry
  log : Logs (fun event => ∀ definition, event.Runs definition → before.Offers definition)
    before after

namespace RunsRegistered

/-- A step that logs nothing of the kind. -/
theorem quiet (agentRegistry : after.agentRegistry = before.agentRegistry)
    (transportRegistry : after.transportRegistry = before.transportRegistry)
    (log : Logs (fun event => ∀ definition, ¬event.Runs definition) before after) :
    RunsRegistered before after := by
  obtain ⟨events, appended, none⟩ := log
  exact ⟨agentRegistry, transportRegistry, events, appended, fun event member definition runs =>
    absurd runs (none event member definition)⟩

theorem refl (world : World sdk) : RunsRegistered world world := quiet rfl rfl (.refl world)

theorem trans (front : RunsRegistered before between) (back : RunsRegistered between after) :
    RunsRegistered before after := by
  refine ⟨back.agentRegistry.trans front.agentRegistry,
    back.transportRegistry.trans front.transportRegistry, front.log.trans ?_⟩
  obtain ⟨events, appended, registered⟩ := back.log
  refine ⟨events, appended, fun event member definition runs => ?_⟩
  obtain ⟨key, found⟩ := registered event member definition runs
  exact ⟨key, front.agentRegistry ▸ found⟩

theorem endpointStep (step : EndpointStep before after) : RunsRegistered before after := by
  cases step with
  | environment step world => exact quiet rfl rfl (.refl _)
  | register name world => exact quiet rfl rfl (.single (fun _ => id) rfl)
  | unregister name alive => exact quiet rfl rfl (.single (fun _ => id) rfl)
  | @use _ endpoint _ event alive uses use =>
    obtain ⟨endpoints, env, used, _⟩ := (before.record event).useEndpoint_eq endpoint use
    rw [used]
    refine quiet rfl rfl (.single (fun definition runs => ?_) rfl)
    cases event <;> first | exact runs | cases uses
  | issue endpointName requester world =>
    cases registered : before.endpointDb.lookup endpointName with
    | none =>
      rw [createMavlinkEndpointUser_of_absent registered]
      exact refl before
    | some entry =>
      rw [createMavlinkEndpointUser_of_registered registered]
      exact quiet rfl rfl (.single (fun _ => id) rfl)
  | release endpointName requester world =>
    rw [removeMavlinkEndpointUser_eq]
    exact quiet rfl rfl (.refl _)
  | assign place user world =>
    rw [World.assign_eq]
    refine quiet rfl rfl ⟨_, rfl, fun event member => ?_⟩
    obtain ⟨old, registered, rfl⟩ := World.mem_releaseEvents member
    exact fun _ => id
  | take place world => exact quiet rfl rfl (.refl _)

/-- An agent is created by a definition that is registered, and given what one parsed. -/
theorem agentStep (step : AgentStep before after) : RunsRegistered before after := by
  cases step with
  | create parsed offered =>
    refine ⟨rfl, rfl, .single (fun other runs => ?_) rfl⟩
    rcases runs with rfl | rfl <;> exact offered
  | @announce event _ announces =>
    refine ⟨rfl, rfl, .single (fun definition runs => ?_) rfl⟩
    cases event with
    | configure agent parsedBy config =>
      cases runs
      exact announces
    | createAgent agent created parsedBy config => cases announces
    | _ => cases runs
  | destroy name agent world => exact quiet rfl rfl (.single (fun _ => id) rfl)
  | write agents world => exact quiet rfl rfl (.refl _)

theorem perform (sound : world.ledger.Sound) {operation : Operation sdk}
    (silent : ¬operation.Registers) : RunsRegistered world (world.perform operation) :=
  relates_of_steps refl trans (fun step => step.elim endpointStep agentStep)
    (elementarySteps_perform sound silent)

end RunsRegistered

/-! ### The application -/

/-- The manager and the lib loader of the application. The registries that both work on are
those of the manager's world. -/
structure Hub (sdk : Sdk) (Handle : Type) where
  world : World sdk
  agentLibHandles : Traversal Handle := ∅
  transportLibHandles : Traversal Handle := ∅
  openCounts : OpenCounts Handle

/-- What happens to the application: a load, or a step of the system around the manager. -/
inductive HubEvent (sdk : Sdk) (Handle : Type)
  | load (call : LibLoader.Call Handle sdk.AgentDefinition sdk.TransportDefinition)
  | operate (operation : Operation sdk)

variable {Handle : Type} [DecidableEq Handle]

namespace Hub

variable (hub : Hub sdk Handle)

/-- The loader, with the registries it works on. -/
def libLoader : LibLoader Handle sdk.AgentDefinition sdk.TransportDefinition where
  agentRegistry := hub.world.agentRegistry
  transportRegistry := hub.world.transportRegistry
  agentLibHandles := hub.agentLibHandles
  transportLibHandles := hub.transportLibHandles
  openCounts := hub.openCounts

/-- The effect of an event. -/
def perform : HubEvent sdk Handle → Hub sdk Handle
  | .load call =>
    let loader := hub.libLoader.perform call
    { world := { hub.world with
        agentRegistry := loader.agentRegistry
        transportRegistry := loader.transportRegistry }
      agentLibHandles := loader.agentLibHandles
      transportLibHandles := loader.transportLibHandles
      openCounts := loader.openCounts }
  | .operate operation => { hub with world := hub.world.perform operation }

/-- The step relation of the application. -/
def Step (before : Hub sdk Handle) (event : HubEvent sdk Handle) (after : Hub sdk Handle) : Prop :=
  before.perform event = after

/-- The application as it is constructed: nothing is registered, and the libraries of the
process are open as often as they happen to be. -/
def initial (env : sdk.Env) (opened : Handle → Nat) : Hub sdk Handle where
  world := .initial ∅ ∅ env
  openCounts handle := opened handle

/-- `~Manager`, the first of the two destructors. -/
def destroyManager (order : VisitingOrder) : Hub sdk Handle :=
  { hub with world := Manager.destroy order hub.world }

end Hub

/-- Only the loader registers definitions. -/
def HubEvent.OfApp : HubEvent sdk Handle → Prop
  | .load _ => True
  | .operate operation => (∀ key definition, operation ≠ .addAgentDefinition key definition) ∧
      ∀ key definition, operation ≠ .addTransportDefinition key definition

/-- A load among some events obtained a definition from a library. -/
def ObtainedFrom (events : List (HubEvent sdk Handle))
    (definition : sdk.AgentDefinition ⊕ sdk.TransportDefinition) (handle : Handle) : Prop :=
  ∃ call entry, .load call ∈ events ∧ call.obtains = some ⟨entry, handle, definition⟩

namespace Hub

/-- The library of a definition is open: a load obtained it from there, and the library is open
more often than at the start. -/
def Holds (hub : Hub sdk Handle) (opened : Handle → Nat) (events : List (HubEvent sdk Handle))
    (definition : sdk.AgentDefinition ⊕ sdk.TransportDefinition) : Prop :=
  ∃ handle, ObtainedFrom events definition handle ∧ (opened handle : Int) < hub.openCounts handle

/-- The libraries of all definitions that are registered, and of all that have created or
configured an agent, are open, and the loader stores no handle of a library that it does not hold
open. -/
structure Plugged (hub : Hub sdk Handle) (opened : Handle → Nat)
    (events : List (HubEvent sdk Handle)) : Prop where
  reachable : hub.world.Reachable
  covered : ∀ handle, 0 ≤ hub.libLoader.excess (fun handle => opened handle) handle
  registered : ∀ entry definition, hub.libLoader.registered entry = some definition →
    hub.Holds opened events definition
  run : ∀ event ∈ hub.world.log, ∀ definition, event.Runs definition →
    hub.Holds opened events (.inl definition)

variable {hub later : Hub sdk Handle} {opened : Handle → Nat}
  {events : List (HubEvent sdk Handle)} {entry : LibLoader.LibKind × String}
  {definition : sdk.AgentDefinition ⊕ sdk.TransportDefinition}

omit [DecidableEq Handle] in
theorem Holds.mono (holds : hub.Holds opened events definition)
    (opens : ∀ handle, hub.openCounts handle ≤ later.openCounts handle) :
    later.Holds opened events definition := by
  obtain ⟨handle, obtained, isOpen⟩ := holds
  exact ⟨handle, obtained, isOpen.trans_le (opens handle)⟩

/-- For the manager a load is the registration of a definition, or nothing. -/
theorem run_load (hub : Hub sdk Handle)
    (call : LibLoader.Call Handle sdk.AgentDefinition sdk.TransportDefinition) :
    ∃ operations, Run World.Step hub.world operations (hub.perform (.load call)).world := by
  rcases call with ⟨libInfo, _ | handle | handle | ⟨handle, definition⟩⟩ |
    ⟨libInfo, _ | handle | handle | ⟨handle, definition⟩⟩
  · exact ⟨[], .done _⟩
  · exact ⟨[], .done _⟩
  · exact ⟨[], .done _⟩
  · exact ⟨[.addAgentDefinition libInfo.name definition], .single rfl⟩
  · exact ⟨[], .done _⟩
  · exact ⟨[], .done _⟩
  · exact ⟨[], .done _⟩
  · exact ⟨[.addTransportDefinition libInfo.name definition], .single rfl⟩

/-- No library is open less often than at the start. -/
theorem Plugged.kept (plugged : hub.Plugged opened events) (handle : Handle) :
    (opened handle : Int) ≤ hub.openCounts handle := by
  have covered := plugged.covered handle
  rw [LibLoader.excess] at covered
  show (opened handle : Int) ≤ hub.libLoader.openCounts handle
  omega

theorem Plugged.load (plugged : hub.Plugged opened events)
    {call : LibLoader.Call Handle sdk.AgentDefinition sdk.TransportDefinition}
    (member : .load call ∈ events) : (hub.perform (.load call)).Plugged opened events := by
  have opens : ∀ handle, hub.openCounts handle ≤ (hub.perform (.load call)).openCounts handle :=
    @LibLoader.openCounts_le_perform _ _ _ call _ hub.libLoader
  obtain ⟨operations, run⟩ := hub.run_load call
  refine ⟨plugged.reachable.run run,
    fun handle => (plugged.covered handle).trans (hub.libLoader.excess_le_perform handle),
    fun entry definition registered => ?_, fun event logged definition runs =>
      (plugged.run event logged definition runs).mono opens⟩
  have afterLoad : (hub.libLoader.perform call).registered entry = some definition := registered
  rw [LibLoader.registered_perform, Option.or_eq_some_iff] at afterLoad
  rcases afterLoad with before | ⟨_, provided⟩
  · exact (plugged.registered entry definition before).mono opens
  · obtain ⟨⟨entry, handle, definition⟩, obtains, rfl, rfl⟩ :=
      LibLoader.exists_obtains_of_provides provided
    have counted : (hub.perform (.load call)).openCounts handle = hub.openCounts handle + 1 :=
      @LibLoader.openCounts_perform_of_obtains _ _ _ call _ _ hub.libLoader obtains
    refine ⟨handle, ⟨call, entry, member, obtains⟩, ?_⟩
    rw [counted]
    exact Int.lt_add_one_of_le (plugged.kept handle)

/-- A registry that is only added to by loads holds what the loader has registered. -/
theorem registered_operate {operation : Operation sdk}
    (ofApp : (HubEvent.operate operation : HubEvent sdk Handle).OfApp)
    (sound : hub.world.ledger.Sound)
    (registered : (hub.perform (.operate operation)).libLoader.registered entry =
      some definition) : hub.libLoader.registered entry = some definition := by
  by_cases registers : operation.Registers
  · cases operation with
    | addAgentDefinition key definition => exact absurd rfl (ofApp.1 key definition)
    | addTransportDefinition key definition => exact absurd rfl (ofApp.2 key definition)
    | removeAgentDefinition key =>
      have removed : (hub.libLoader.next (.removeAgentDefinition key)).registered entry =
          some definition := registered
      rw [LibLoader.registered_next_of_removes rfl] at removed
      split_ifs at removed
      exact removed
    | removeTransportDefinition key =>
      have removed : (hub.libLoader.next (.removeTransportDefinition key)).registered entry =
          some definition := registered
      rw [LibLoader.registered_next_of_removes rfl] at removed
      split_ifs at removed
      exact removed
    | _ => cases registers
  · obtain ⟨agentRegistry, transportRegistry, _⟩ := RunsRegistered.perform sound registers
    have same : (hub.perform (.operate operation)).libLoader = hub.libLoader := by
      simp only [libLoader, perform, agentRegistry, transportRegistry]
    rwa [same] at registered

/-- What the manager does, it does with registered definitions. -/
theorem Plugged.operate (plugged : hub.Plugged opened events) {operation : Operation sdk}
    (ofApp : (HubEvent.operate operation : HubEvent sdk Handle).OfApp) :
    (hub.perform (.operate operation)).Plugged opened events := by
  have sound := plugged.reachable.sound
  refine ⟨plugged.reachable.perform operation, plugged.covered,
    fun entry definition registered =>
      plugged.registered entry definition (registered_operate ofApp sound registered),
    fun event logged definition runs => ?_⟩
  by_cases registers : operation.Registers
  · have same : (hub.world.perform operation).log = hub.world.log := by
      cases operation with
      | addAgentDefinition _ _ => rfl
      | addTransportDefinition _ _ => rfl
      | removeAgentDefinition _ => rfl
      | removeTransportDefinition _ => rfl
      | _ => cases registers
    exact plugged.run event (same ▸ logged) definition runs
  · rcases (RunsRegistered.perform sound registers).log.mem_cases logged with before | offered
    · exact plugged.run event before definition runs
    · obtain ⟨key, found⟩ := offered definition runs
      exact plugged.registered (.agent, key) _ (congrArg (Option.map Sum.inl) found)

theorem plugged_initial (env : sdk.Env) (opened : Handle → Nat) :
    (Hub.initial env opened).Plugged opened events := by
  refine ⟨World.reachable_initial _ _ _, fun handle => ?_, ?_, fun _ logged => ?_⟩
  · simp [LibLoader.excess, LibLoader.held, libLoader, initial, Holdings.values]
  · rintro ⟨_ | _, name⟩ definition found <;> cases found
  · exact absurd logged List.not_mem_nil

/-- Every run of the application keeps the libraries open. -/
theorem plugged_run {env : sdk.Env} (run : Run Hub.Step (Hub.initial env opened) events hub)
    (ofApp : ∀ event ∈ events, event.OfApp) : hub.Plugged opened events := by
  refine run.invariantOn (· ∈ events) (·.Plugged opened events)
    (fun before event after member plugged step => ?_) (fun _ => id) (plugged_initial env opened)
  rw [← step]
  cases event with
  | load call => exact plugged.load member
  | operate operation => exact plugged.operate (ofApp _ member)

/-- What the manager does in a run of its own keeps the libraries open. -/
theorem Plugged.run_world (plugged : hub.Plugged opened events) {operations : List (Operation sdk)}
    {last : World sdk} (run : Run World.Step hub.world operations last)
    (silent : ∀ operation ∈ operations, ¬operation.Registers) :
    Plugged { hub with world := last } opened events := by
  refine run.invariantOn (fun operation => ¬operation.Registers)
    (fun world => Plugged { hub with world } opened events)
    (fun before operation after silent plugged step => ?_) silent plugged
  have ofApp : (HubEvent.operate operation : HubEvent sdk Handle).OfApp := by
    constructor
    all_goals
      rintro key definition rfl
      exact silent trivial
  rw [← step]
  exact plugged.operate ofApp

end Hub

/-! ### The destruction of the application -/

/-- The code of the plugins is in place as long as there is an agent. Whatever is loaded and done
in whatever order, the library of everything that is registered, of agents and of transports, is
open by a load of that definition. When the manager has destroyed the last agent, so are those
libraries, and those of every definition that has created or configured an agent and of every
agent that was left for the destruction. The loader, which goes then, closes no library more often
than its loads have opened it. -/
theorem pluginCode_open {env : sdk.Env} {opened : Handle → Nat}
    {events : List (HubEvent sdk Handle)} {hub : Hub sdk Handle}
    (run : Run Hub.Step (Hub.initial env opened) events hub)
    (ofApp : ∀ event ∈ events, event.OfApp) (order : VisitingOrder) :
    (∀ entry definition, hub.libLoader.registered entry = some definition →
        hub.Holds opened events definition ∧
          (hub.destroyManager order).Holds opened events definition) ∧
      (∀ event ∈ (hub.destroyManager order).world.log, ∀ definition, event.Runs definition →
        (hub.destroyManager order).Holds opened events (.inl definition)) ∧
      (∀ name agent, hub.world.agents.lookup name = some agent →
        (hub.destroyManager order).Holds opened events (.inl agent.definition)) ∧
      (hub.destroyManager order).world.agents = ∅ ∧
      ∀ handle, (opened handle : Int) ≤ (hub.destroyManager order).libLoader.destroy handle := by
  have plugged := Hub.plugged_run run ofApp
  obtain ⟨⟨removals, destroyed, silent⟩, noAgents, _⟩ := destroy_run order plugged.reachable
  have after : (hub.destroyManager order).Plugged opened events :=
    plugged.run_world destroyed silent
  refine ⟨fun entry definition registered => ?_, after.run, fun name agent registered => ?_,
    noAgents, fun handle => ?_⟩
  · have holds := plugged.registered entry definition registered
    exact ⟨holds, holds.mono fun handle => le_rfl⟩
  · obtain ⟨config, created⟩ := plugged.reachable.traced.registered name agent registered
    exact plugged.run _ created agent.definition (.inl rfl)
  · rw [LibLoader.destroy_apply]
    exact Int.le_add_of_nonneg_right (after.covered handle)

/-- A transport and the definition of the couriers are loaded, and a courier is added. -/
def courierEvents : List (HubEvent sampleSdk String) :=
  [.load (.loadTransportLib ⟨"udp", "udp.so", "getTransportDefinition"⟩
      (.definition "udp.so" ())),
    .load (.loadAgentLib ⟨"courier", "courier.so", "getAgentDefinition"⟩
      (.definition "courier.so" .courier)),
    .operate (.invoke (.addAgent "courier" "courier" ∅) 0)]

/-- The application after that. -/
def courierHub : Hub sampleSdk String :=
  courierEvents.foldl Hub.perform (Hub.initial () fun _ => 0)

theorem pluginCode_open_sample :
    let destroyed := courierHub.destroyManager (Classical.arbitrary VisitingOrder)
    destroyed.Holds (fun _ => 0) courierEvents (.inr ()) ∧
      destroyed.Holds (fun _ => 0) courierEvents (.inl SampleDefinition.courier) ∧
      destroyed.world.agents = ∅ ∧ 0 ≤ destroyed.libLoader.destroy "courier.so" := by
  intro destroyed
  have run : Run Hub.Step (Hub.initial () fun _ => 0) courierEvents courierHub :=
    .next rfl (.next rfl (.next rfl (.done courierHub)))
  have ofApp : ∀ event ∈ courierEvents, event.OfApp := by
    intro event member
    simp only [courierEvents, List.mem_cons, List.not_mem_nil, or_false] at member
    rcases member with rfl | rfl | rfl
    · trivial
    · trivial
    · constructor
      all_goals
        intro key definition same
        cases same
  obtain ⟨registered, _, left, noAgents, closed⟩ :=
    pluginCode_open run ofApp (Classical.arbitrary VisitingOrder)
  exact ⟨(registered (.transport, "udp") (.inr ()) rfl).2,
    left "courier" ⟨0, .courier, ()⟩ rfl, noAgents, closed "courier.so"⟩

end MavlinkHub
