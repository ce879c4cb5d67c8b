/-
This file connects the manager to the ledger. A world has a ledger, and whatever an
operation of the source does to the world is a run of ledger moves; the log of the
world lists exactly these moves, apart from the explicit releases. Every reachable
world therefore has a sound ledger, and its log is the trace of a ledger run that
starts from nothing.

Agent code enters through its single accesses: a request issues a handle, stores it
and drops the one it replaces, a reset drops one, and the other accesses do not
touch the account.
-/

import MavlinkHub.AgentRun
import MavlinkHub.Effects
import MavlinkHub.Ledger
import MavlinkHub.Run

namespace MavlinkHub

open Transition

variable {sdk : Sdk}

/-- The ledger move an event reports. -/
def Event.move : Event sdk → Option Ledger.Move
  | .createEndpoint name _ => some (.register name)
  | .destroyEndpoint name _ => some (.unregister name)
  | .createUser user => some (.issue user)
  | .destroyUser user _ => some (.drop user)
  | _ => none

/-- Whether an event is the destruction of a handle at an untimely moment. -/
def Event.isUntimely : Event sdk → Bool
  | .destroyUser user registered => MavlinkHub.isUntimely user registered
  | _ => false

/-- A release without a handle, the one move that no event reports. -/
def Ledger.Move.isRelease : Ledger.Move → Bool
  | .release _ _ => true
  | _ => false

theorem Event.isUntimely_of_move {event : Event sdk} (silent : event.move = none) :
    event.isUntimely = false := by
  cases event with
  | destroyUser user registered => exact absurd silent (Option.some_ne_none _)
  | _ => rfl

/-- The account of a world. -/
def World.ledger (world : World sdk) : Ledger where
  endpointDb := world.endpointDb
  alive := world.endpoints.keys
  users := Holdings.values world.handles
  nextEndpoint := world.nextEndpoint
  untimely := world.log.any Event.isUntimely

/-- The account of a world while a handle is on its way into a place or out of one. -/
def World.ledgerHolding (user : MavlinkEndpointUser) (world : World sdk) : Ledger :=
  { world.ledger with users := user ::ₘ world.ledger.users }

/-- A run of ledger moves that the events report. A release is only allowed on condition. -/
def Continues (mayRelease : Prop) (first : Ledger) (events : List (Event sdk)) (last : Ledger) :
    Prop :=
  ∃ moves, Run Ledger.Step first moves last ∧
    events.filterMap Event.move = moves.filter (fun move => !move.isRelease) ∧
    ∀ move ∈ moves, move.isRelease → mayRelease

/-- The log of the second world continues that of the first, and the new events report a run
of ledger moves between the two. -/
def Accounted (mayRelease : Prop) (before after : World sdk) : Prop :=
  ∃ events, after.log = before.log ++ events ∧
    Continues mayRelease before.ledger events after.ledger

variable {mayRelease : Prop} {first middle last : Ledger} {events others : List (Event sdk)}
  {before between after world : World sdk} {user : MavlinkEndpointUser}

theorem Continues.trans (front : Continues mayRelease first events middle)
    (back : Continues mayRelease middle others last) :
    Continues mayRelease first (events ++ others) last := by
  obtain ⟨moves, run, reported, allowed⟩ := front
  obtain ⟨backMoves, backRun, backReported, backAllowed⟩ := back
  refine ⟨moves ++ backMoves, run.append backRun, ?_, fun move member => ?_⟩
  · rw [List.filterMap_append, List.filter_append, reported, backReported]
  · exact (List.mem_append.mp member).elim (allowed move) (backAllowed move)

/-- A move that an event reports. -/
theorem Continues.single {move : Ledger.Move} {event : Event sdk}
    (taken : Ledger.Step first move last) (reported : event.move = some move)
    (notRelease : move.isRelease = false) : Continues mayRelease first [event] last := by
  refine ⟨[move], .single taken, ?_, ?_⟩
  · rw [List.filterMap_cons_some reported, List.filter_cons_of_pos (by rw [notRelease]; rfl)]
    rfl
  · intro other member release
    rw [List.mem_singleton.mp member, notRelease] at release
    exact absurd release Bool.false_ne_true

theorem Continues.silent (same : first = last) (silent : ∀ event ∈ events, event.move = none) :
    Continues mayRelease first events last :=
  ⟨[], Run.nil_iff.mpr same, List.filterMap_eq_nil_iff.mpr silent,
    fun _ member => absurd member List.not_mem_nil⟩

theorem Accounted.refl (world : World sdk) : Accounted mayRelease world world :=
  ⟨[], (List.append_nil _).symm, .silent rfl fun _ member => absurd member List.not_mem_nil⟩

theorem Accounted.trans (front : Accounted mayRelease before between)
    (back : Accounted mayRelease between after) : Accounted mayRelease before after := by
  obtain ⟨events, log, continued⟩ := front
  obtain ⟨others, backLog, backContinued⟩ := back
  exact ⟨events ++ others, by rw [backLog, log, List.append_assoc], continued.trans backContinued⟩

/-- A change outside of the account, with events that report no move. -/
theorem Accounted.quiet (sameDb : after.endpointDb = before.endpointDb)
    (sameKeys : after.endpoints.keys = before.endpoints.keys)
    (sameHandles : after.handles = before.handles)
    (sameNext : after.nextEndpoint = before.nextEndpoint)
    (log : after.log = before.log ++ events)
    (silent : ∀ event ∈ events, event.move = none) : Accounted mayRelease before after := by
  refine ⟨events, log, .silent ?_ silent⟩
  have timely : events.any Event.isUntimely = false := by
    refine List.any_eq_false.mpr fun event member untimely => ?_
    rw [Event.isUntimely_of_move (silent event member)] at untimely
    exact absurd untimely Bool.false_ne_true
  rw [World.ledger, World.ledger, sameDb, sameKeys, sameHandles, sameNext, log, List.any_append,
    timely, Bool.or_false]

/-! ### Handles on their way -/

theorem continues_createMavlinkEndpointUser {name requester : String} {requested : World sdk}
    (created : Manager.createMavlinkEndpointUser name requester world = (some user, requested)) :
    requested.log = world.log ++ [.createUser user] ∧
      Continues mayRelease world.ledger ([.createUser user] : List (Event sdk))
        (requested.ledgerHolding user) := by
  cases registered : world.endpointDb.lookup name with
  | none =>
    rw [createMavlinkEndpointUser_of_absent registered, Prod.mk.injEq] at created
    exact absurd created.1.symm (Option.some_ne_none _)
  | some entry =>
    rw [createMavlinkEndpointUser_of_registered registered, Prod.mk.injEq,
      Option.some_inj] at created
    obtain ⟨rfl, rfl⟩ := created
    refine ⟨rfl, .single ?_ rfl rfl⟩
    have issued : Ledger.Step world.ledger (.issue ⟨entry.endpoint, name, requester⟩) _ :=
      .issue _ (instanceAt_of_lookup registered)
    simpa [World.ledgerHolding, World.ledger, List.any_append, Event.isUntimely] using issued

theorem continues_destroyUser (user : MavlinkEndpointUser) (world : World sdk) :
    Continues mayRelease (world.ledgerHolding user)
      ([.destroyUser user (world.endpointDb.lookup user.endpointName)] : List (Event sdk))
      (world.destroyUser user).ledger := by
  refine .single ?_ rfl rfl
  have dropped : Ledger.Step (world.ledgerHolding user) (.drop user) _ :=
    .drop user world.ledger.users rfl
  rw [World.destroyUser_eq]
  simpa [World.ledgerHolding, World.ledger, List.any_append, Event.isUntimely] using dropped

/-- Storing a handle that is on its way completes the account. -/
theorem continues_assign (place : Place) (user : MavlinkEndpointUser) (world : World sdk) :
    ∃ events, (world.assign place (some user)).log = world.log ++ events ∧
      Continues mayRelease (world.ledgerHolding user) events
        (world.assign place (some user)).ledger := by
  cases held : world.handles.lookup place with
  | none =>
    rw [World.assign_some_of_empty held]
    refine ⟨[], (List.append_nil _).symm, .silent ?_ fun _ member => absurd member List.not_mem_nil⟩
    rw [World.ledgerHolding, World.ledger, World.ledger, Holdings.values_insert,
      Holdings.erase_eq_self held]
  | some old =>
    rw [World.assign_some_of_held held]
    refine ⟨_, by rw [World.destroyUser_eq], ?_⟩
    have swapped : world.ledgerHolding user =
        ({ world with handles := world.handles.insert place user } : World sdk).ledgerHolding
          old := by
      rw [World.ledgerHolding, World.ledgerHolding, World.ledger, World.ledger,
        Holdings.values_insert, Multiset.cons_swap, ← Holdings.values_eq_cons_erase held]
    rw [swapped]
    exact continues_destroyUser old _

theorem accounted_reset (place : Place) (world : World sdk) :
    Accounted mayRelease world (world.assign place none) := by
  cases held : world.handles.lookup place with
  | none =>
    rw [World.assign_none_of_empty held]
    exact .refl world
  | some old =>
    rw [World.assign_none_of_held held]
    refine ⟨_, by rw [World.destroyUser_eq], ?_⟩
    have taken : world.ledger =
        ({ world with handles := world.handles.erase place } : World sdk).ledgerHolding old := by
      rw [World.ledgerHolding, World.ledger, World.ledger, ← Holdings.values_eq_cons_erase held]
    rw [taken]
    exact continues_destroyUser old _

/-- Creating a handle and storing what came of it. -/
theorem accounted_create (name requester : String) (place : Place)
    (created : Manager.createMavlinkEndpointUser name requester world = (some user, between)) :
    Accounted mayRelease world (between.assign place (some user)) := by
  obtain ⟨events, assignLog, assigned⟩ := continues_assign place user between
  obtain ⟨log, issued⟩ := continues_createMavlinkEndpointUser created
  exact ⟨_, by rw [assignLog, log, List.append_assoc], issued.trans assigned⟩

/-! ### Agent code -/

theorem accounted_call (request : EndpointCall sdk.toSdkTypes) (user : MavlinkEndpointUser)
    (world : World sdk) : Accounted mayRelease world (user.call request world).2 := by
  obtain ⟨endpoints, env, events, called, keys, calls⟩ := user.call_eq request world
  rw [called]
  exact .quiet rfl keys rfl rfl rfl fun event member => by rw [calls event member]; rfl

theorem accounted_action (self : AgentId) (requester : ManagerResourceRequester)
    (action : AgentAction sdk.toSdkTypes) (world : World sdk) :
    Accounted mayRelease world (action.perform self requester world) := by
  cases action with
  | internal step => exact .quiet rfl rfl rfl rfl (List.append_nil _).symm (by simp)
  | requestMavlinkEndpoint slot epName =>
    rw [AgentAction.perform, ManagerResourceRequester.requestMavlinkEndpoint]
    cases created : Manager.createMavlinkEndpointUser epName requester.name world with
    | mk user requested =>
      cases user with
      | some user => exact accounted_create _ _ _ created
      | none =>
        -- Without a handle the request changed nothing, and the slot is reset.
        rw [createMavlinkEndpointUser_none created]
        exact accounted_reset _ world
  | reset slot => exact accounted_reset _ world
  | call slot request =>
    rw [AgentAction.perform]
    cases world.handles.lookup ⟨some self, slot⟩ with
    | none => exact .refl world
    | some user => exact accounted_call request user world

theorem accounted_code {Result : Type} (self : AgentId) (requester : ManagerResourceRequester)
    (code : AgentCode sdk.toSdkTypes Result) (world : World sdk) :
    Accounted mayRelease world (code.run self requester world).2 :=
  AgentCode.run_relates (Accounted mayRelease) .refl .trans
    (fun action world => accounted_action self requester action world) code world

theorem accounted_destroyHandles (self : AgentId) (world : World sdk) :
    Accounted mayRelease world (world.destroyHandles self) := by
  obtain ⟨actions, run⟩ := world.destroyHandles_actions self ⟨""⟩
  refine run.relates (Accounted mayRelease) .refl .trans fun before action after taken => ?_
  rw [← taken]
  exact accounted_action self ⟨""⟩ action before

/-! ### The operations of the manager -/

section Operations

open Manager

theorem accounted_record {event : Event sdk} (silent : event.move = none) (world : World sdk) :
    Accounted mayRelease world (world.record event) :=
  .quiet rfl rfl rfl rfl rfl fun other member => by rw [List.mem_singleton.mp member, silent]

theorem accounted_useEndpoint {Answer : Type} (endpoint : EndpointId)
    (use : sdk.Env → sdk.Endpoint → Answer × sdk.Endpoint × sdk.Env) (world : World sdk) :
    Accounted mayRelease world (world.useEndpoint endpoint use).2 := by
  obtain ⟨endpoints, env, used, keys⟩ := world.useEndpoint_eq endpoint use
  rw [used]
  exact .quiet rfl keys rfl rfl (List.append_nil _).symm (by simp)

theorem accounted_agents (agents : StringMap (AgentInstance sdk)) (world : World sdk) :
    Accounted mayRelease world
      { world with agents := agents } :=
  .quiet rfl rfl rfl rfl (List.append_nil _).symm (by simp)

theorem accounted_addMavlinkEndpoint (name : String) (world : World sdk) :
    Accounted mayRelease world (addMavlinkEndpoint name world).2 := by
  rcases addMavlinkEndpoint_cases name world with ⟨_, _, same⟩ | ⟨absent, _, added⟩
  · rw [same]
    exact .refl world
  · refine ⟨[.createEndpoint name world.nextEndpoint], by rw [added, registered],
      .single ?_ rfl rfl⟩
    have move : Ledger.Step world.ledger (.register name) _ := .register name absent
    have keys : (world.endpoints.insert world.nextEndpoint
        (sdk.createEndpoint world.env).1).keys =
          insert world.nextEndpoint world.endpoints.keys := by
      ext endpoint
      rw [Finmap.mem_keys, Finmap.mem_insert, Finset.mem_insert, Finmap.mem_keys]
    rw [added]
    simpa [World.ledger, registered, keys, Event.isUntimely] using move

theorem accounted_connectMavlinkEndpoint (name type : String) (config : Config)
    (world : World sdk) :
    Accounted mayRelease world (connectMavlinkEndpoint name type config world).2 := by
  rcases connectMavlinkEndpoint_cases name type config world with
    ⟨_, _, same⟩ | ⟨entry, _, _, connected⟩
  · rw [same]
    exact .refl world
  · rw [connected]
    exact (accounted_record rfl world).trans (accounted_useEndpoint _ _ _)

theorem accounted_disconnectMavlinkEndpoint (name : String) (world : World sdk) :
    Accounted mayRelease world (disconnectMavlinkEndpoint name world).2 := by
  rcases disconnectMavlinkEndpoint_cases name world with ⟨_, _, same⟩ | ⟨entry, _, disconnected⟩
  · rw [same]
    exact .refl world
  · rw [disconnected]
    exact (accounted_record rfl world).trans (accounted_useEndpoint _ _ _)

theorem accounted_removeMavlinkEndpoint (name : String) (world : World sdk) :
    Accounted mayRelease world (removeMavlinkEndpoint name world).2 := by
  rcases removeMavlinkEndpoint_cases name world with ⟨_, _, same⟩ | ⟨entry, stored, _, removed⟩
  · rw [same]
    exact .refl world
  · refine ⟨[.destroyEndpoint name entry.endpoint], by rw [removed, unregistered],
      .single ?_ rfl rfl⟩
    have move : Ledger.Step world.ledger (.unregister name) _ := .unregister name entry stored
    have keys : (world.endpoints.erase entry.endpoint).keys =
        world.endpoints.keys.erase entry.endpoint := by
      ext endpoint
      rw [Finmap.mem_keys, Finmap.mem_erase, Finset.mem_erase, Finmap.mem_keys]
    rw [removed]
    simpa [World.ledger, unregistered, keys, Event.isUntimely] using move

theorem accounted_removeMavlinkEndpointUser (name requester : String) (world : World sdk)
    (allowed : mayRelease) :
    Accounted mayRelease world (removeMavlinkEndpointUser name requester world).2 := by
  rw [removeMavlinkEndpointUser_eq]
  have move : Ledger.Step world.ledger (.release name requester) _ := .release name requester
  exact ⟨[], (List.append_nil _).symm, [.release name requester], .single move, rfl,
    fun _ _ _ => allowed⟩

theorem accounted_createAgent (name : String) (definition : sdk.AgentDefinition)
    (parsed : sdk.AgentConfig) (world : World sdk) :
    Accounted mayRelease world (createAgent name definition parsed world).2 := by
  have started : Accounted mayRelease world (creating definition parsed world) :=
    .quiet rfl rfl rfl rfl rfl fun event member => by rw [List.mem_singleton.mp member]; rfl
  rcases createAgent_cases name definition parsed world with ⟨object, _, created⟩ | ⟨_, failed⟩
  · rw [created]
    exact started.trans (accounted_code _ _ _ _)
  · rw [failed]
    exact started.trans ((accounted_code _ _ _ _).trans (accounted_destroyHandles _ _))

theorem accounted_addAgent (name type : String) (config : Config) (world : World sdk) :
    Accounted mayRelease world (addAgent name type config world).2 := by
  rcases addAgent_cases name type config world with
    ⟨_, _, same⟩ | ⟨definition, parsed, _, ⟨_, _, failed⟩ | ⟨agent, _, _, added⟩⟩
  · rw [same]
    exact .refl world
  · rw [failed]
    exact accounted_createAgent name definition parsed world
  · rw [added]
    exact (accounted_createAgent name definition parsed world).trans (accounted_agents _ _)

theorem accounted_runAgent {Answer : Type} (name : String) (agent : AgentInstance sdk)
    (code : sdk.Agent → AgentCode sdk.toSdkTypes (sdk.Agent × Answer)) (world : World sdk) :
    Accounted mayRelease world (runAgent name agent code world).2 :=
  (accounted_code agent.id ⟨name⟩ (code agent.object) world).trans (accounted_agents _ _)

theorem accounted_editAgent (name type : String) (config : Config) (world : World sdk) :
    Accounted mayRelease world (editAgent name type config world).2 := by
  rcases editAgent_cases name type config world with
    ⟨_, _, same⟩ | ⟨agent, definition, parsed, _, edited⟩
  · rw [same]
    exact .refl world
  · rw [edited]
    exact (accounted_record rfl world).trans (accounted_runAgent _ _ _ _)

theorem accounted_startAgent (name : String) (world : World sdk) :
    Accounted mayRelease world (startAgent name world).2 := by
  rcases startAgent_cases name world with ⟨_, _, same⟩ | ⟨agent, _, _, started⟩
  · rw [same]
    exact .refl world
  · rw [started]
    exact (accounted_record rfl world).trans (accounted_runAgent _ _ _ _)

theorem accounted_stopAgent (name : String) (world : World sdk) :
    Accounted mayRelease world (stopAgent name world).2 := by
  rcases stopAgent_cases name world with ⟨_, _, same⟩ | ⟨agent, _, stopped⟩
  · rw [same]
    exact .refl world
  · rw [stopped]
    exact (accounted_record rfl world).trans (accounted_runAgent _ _ _ _)

theorem accounted_removeAgent (name : String) (world : World sdk) :
    Accounted mayRelease world (removeAgent name world).2 := by
  rcases removeAgent_cases name world with ⟨_, _, same⟩ | ⟨agent, _, _, removed⟩
  · rw [same]
    exact .refl world
  · have erased : Accounted mayRelease world (destroying name agent world) :=
      .quiet rfl rfl rfl rfl rfl fun event member => by rw [List.mem_singleton.mp member]; rfl
    rw [removed]
    exact erased.trans ((accounted_code _ _ _ _).trans (accounted_destroyHandles _ _))

theorem accounted_executePlan (plan : UserPlan) (world : World sdk) :
    Accounted mayRelease world (executePlan plan world).2 :=
  executePlan_relates (Accounted mayRelease) .trans .refl
    (attemptEndpoint_relates (Accounted mayRelease) .trans accounted_addMavlinkEndpoint
      accounted_connectMavlinkEndpoint)
    (attemptAgent_relates (Accounted mayRelease) .trans accounted_addAgent accounted_startAgent)
    world

end Operations

/-! ### Runs -/

/-- The explicit release of a reference, without the destruction of a handle. -/
def Operation.Releases (operation : Operation sdk) : Prop :=
  ∃ endpointName requesterName slot,
    operation = .invoke (.removeMavlinkEndpointUser endpointName requesterName) slot

theorem accounted_moveUser (source : Place) (slot : Nat) (world : World sdk) :
    Accounted mayRelease world (world.moveUser source slot) := by
  rw [World.moveUser]
  cases held : world.handles.lookup source with
  | none => exact .refl world
  | some user =>
    dsimp only
    split_ifs with same
    · exact .refl world
    · have taken : world.ledger =
          World.ledgerHolding user { world with handles := world.handles.erase source } := by
        rw [World.ledgerHolding, World.ledger, World.ledger, ← Holdings.values_eq_cons_erase held]
      rw [Accounted, taken]
      exact continues_assign ⟨none, slot⟩ user _

theorem accounted_call_keep (call : ManagerCall) (slot : Nat) (world : World sdk)
    (allowed : (Operation.invoke call slot : Operation sdk).Releases → mayRelease) :
    Accounted mayRelease world (world.perform (.invoke call slot)) := by
  cases call with
  | addMavlinkEndpoint name => exact accounted_addMavlinkEndpoint name world
  | connectMavlinkEndpoint name type config =>
    exact accounted_connectMavlinkEndpoint name type config world
  | disconnectMavlinkEndpoint name => exact accounted_disconnectMavlinkEndpoint name world
  | removeMavlinkEndpoint name => exact accounted_removeMavlinkEndpoint name world
  | createMavlinkEndpointUser name requester =>
    cases created : Manager.createMavlinkEndpointUser name requester world with
    | mk user requested =>
      cases user with
      | some user =>
        have account : Accounted mayRelease world (requested.assign ⟨none, slot⟩ (some user)) :=
          accounted_create name requester _ created
        rw [World.perform, ManagerCall.perform, created]
        exact account
      | none =>
        have unchanged := createMavlinkEndpointUser_none created
        rw [World.perform, ManagerCall.perform, created, unchanged]
        exact .refl world
  | removeMavlinkEndpointUser name requester =>
    exact accounted_removeMavlinkEndpointUser name requester world
      (allowed ⟨name, requester, slot, rfl⟩)
  | addAgent name type config => exact accounted_addAgent name type config world
  | editAgent name type config => exact accounted_editAgent name type config world
  | startAgent name => exact accounted_startAgent name world
  | stopAgent name => exact accounted_stopAgent name world
  | removeAgent name => exact accounted_removeAgent name world

/-- Every step of the system is accounted for. -/
theorem accounted_perform (operation : Operation sdk) (world : World sdk)
    (allowed : operation.Releases → mayRelease) :
    Accounted mayRelease world (world.perform operation) := by
  cases operation with
  | invoke call slot => exact accounted_call_keep call slot world allowed
  | executePlan plan => exact accounted_executePlan plan world
  | resetUser place => exact accounted_reset place world
  | moveUser source slot => exact accounted_moveUser source slot world
  | callUser place request =>
    rw [World.perform]
    cases world.handles.lookup place with
    | none => exact .refl world
    | some user => exact accounted_call request user world
  | runAgent name code =>
    rw [World.perform]
    cases world.agents.lookup name with
    | none => exact .refl world
    | some agent => exact accounted_runAgent name agent code world
  | environment step => exact .quiet rfl rfl rfl rfl (List.append_nil _).symm (by simp)
  | addAgentDefinition key definition =>
    exact .quiet rfl rfl rfl rfl (List.append_nil _).symm (by simp)
  | removeAgentDefinition key =>
    exact .quiet rfl rfl rfl rfl (List.append_nil _).symm (by simp)
  | addTransportDefinition key definition =>
    exact .quiet rfl rfl rfl rfl (List.append_nil _).symm (by simp)
  | removeTransportDefinition key =>
    exact .quiet rfl rfl rfl rfl (List.append_nil _).symm (by simp)

/-- A run is accounted for; it releases without a handle only if one of its steps does. -/
theorem accounted_run {operations : List (Operation sdk)}
    (run : Run World.Step before operations after)
    (allowed : ∀ operation ∈ operations, operation.Releases → mayRelease) :
    Accounted mayRelease before after := by
  refine run.invariantOn (fun operation => operation.Releases → mayRelease)
    (Accounted mayRelease before) ?_ allowed (.refl before)
  intro between operation next permitted account taken
  rw [← taken]
  exact account.trans (accounted_perform operation between permitted)

theorem ledger_initial (agentRegistry : AgentRegistry sdk.AgentDefinition)
    (transportRegistry : StringMap sdk.TransportDefinition) (env : sdk.Env) :
    (World.initial agentRegistry transportRegistry env).ledger = .empty := rfl

/-- The log of a reachable world is the trace of a ledger run that starts from nothing. -/
theorem World.Reachable.trace (reachable : world.Reachable) :
    ∃ moves, Run Ledger.Step .empty moves world.ledger ∧
      world.log.filterMap Event.move = moves.filter (fun move => !move.isRelease) := by
  obtain ⟨agentRegistry, transportRegistry, env, operations, run⟩ := reachable
  obtain ⟨events, log, moves, ledgerRun, reported, _⟩ :=
    accounted_run run fun _ _ _ => trivial
  rw [ledger_initial] at ledgerRun
  refine ⟨moves, ledgerRun, ?_⟩
  rw [log]
  exact reported

/-- Every reachable world has a sound ledger. -/
theorem World.Reachable.sound (reachable : world.Reachable) : world.ledger.Sound := by
  obtain ⟨moves, run, _⟩ := reachable.trace
  exact Ledger.sound_empty.run run

end MavlinkHub
