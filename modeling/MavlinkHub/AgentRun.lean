/-
This file reduces the execution of agent code to its single accesses. Whatever a piece
of agent code computes, the world only changes through four of them: the hidden state
moves, an endpoint is requested into a slot, a slot is reset, or a handle is called.
An assertion about agent code is therefore an assertion about these four, and the
destruction of an agent's members is a sequence of resets.
-/

import MavlinkHub.Library.Holdings
import MavlinkHub.Library.Transition
import MavlinkHub.UserCount

namespace MavlinkHub

open Transition

variable {sdk : Sdk}

/-- One access of agent code. -/
inductive AgentAction (types : SdkTypes)
  | internal (step : types.Env → types.Env)
  | requestMavlinkEndpoint (slot : Nat) (epName : String)
  | reset (slot : Nat)
  | call (slot : Nat) (request : EndpointCall types)

/-- The effect of an access by the agent `self`, which holds `requester`. -/
def AgentAction.perform (self : AgentId) (requester : ManagerResourceRequester) :
    AgentAction sdk.toSdkTypes → World sdk → World sdk
  | .internal step, world => { world with env := step world.env }
  | .requestMavlinkEndpoint slot epName, world =>
    let (user, requested) := requester.requestMavlinkEndpoint epName world
    requested.assign ⟨some self, slot⟩ user
  | .reset slot, world => world.assign ⟨some self, slot⟩ none
  | .call slot request, world =>
    match world.handles.lookup ⟨some self, slot⟩ with
    | none => world
    | some user => (user.call request world).2

/-- One access as a step. -/
def Acts (self : AgentId) (requester : ManagerResourceRequester) (before : World sdk)
    (action : AgentAction sdk.toSdkTypes) (after : World sdk) : Prop :=
  action.perform self requester before = after

variable {self : AgentId} {requester : ManagerResourceRequester} {world : World sdk}

/-- Agent code changes the world by a sequence of accesses. -/
theorem AgentCode.run_actions {Result : Type} (self : AgentId)
    (requester : ManagerResourceRequester) (code : AgentCode sdk.toSdkTypes Result)
    (world : World sdk) :
    ∃ actions, Run (Acts self requester) world actions (code.run self requester world).2 := by
  induction code generalizing world with
  | done result => exact ⟨[], .done world⟩
  | internal step next inductionHypothesis =>
    obtain ⟨actions, run⟩ := inductionHypothesis world.env { world with env := step world.env }
    exact ⟨.internal step :: actions, .next rfl run⟩
  | requestMavlinkEndpoint slot epName next inductionHypothesis =>
    obtain ⟨actions, run⟩ := inductionHypothesis
      (requester.requestMavlinkEndpoint epName world).1.isSome
      ((AgentAction.requestMavlinkEndpoint slot epName).perform self requester world)
    exact ⟨.requestMavlinkEndpoint slot epName :: actions, .next rfl run⟩
  | getMavlinkEndpointList next inductionHypothesis => exact inductionHypothesis _ world
  | reset slot next inductionHypothesis =>
    obtain ⟨actions, run⟩ := inductionHypothesis (world.assign ⟨some self, slot⟩ none)
    exact ⟨.reset slot :: actions, .next rfl run⟩
  | call slot request next inductionHypothesis =>
    cases held : world.handles.lookup ⟨some self, slot⟩ with
    | none =>
      rw [AgentCode.run, held]
      exact inductionHypothesis none world
    | some user =>
      obtain ⟨actions, run⟩ := inductionHypothesis (user.call request world).1
        (user.call request world).2
      rw [AgentCode.run, held]
      refine ⟨.call slot request :: actions, .next ?_ run⟩
      rw [Acts, AgentAction.perform, held]

/-- A reflexive and transitive relation that contains every access contains the effect of
agent code. -/
theorem AgentCode.run_relates (related : World sdk → World sdk → Prop)
    (reflexive : ∀ world, related world world)
    (transitive : ∀ {one two three}, related one two → related two three → related one three)
    (acted : ∀ action world, related world (AgentAction.perform self requester action world))
    {Result : Type} (code : AgentCode sdk.toSdkTypes Result) (world : World sdk) :
    related world (code.run self requester world).2 := by
  obtain ⟨actions, run⟩ := code.run_actions self requester world
  refine run.relates related reflexive transitive fun before action after taken => ?_
  rw [← taken]
  exact acted action before

/-! ### Using an endpoint -/

/-- A member function of an endpoint object changes objects that are there, and the hidden
state. -/
theorem World.useEndpoint_eq {Answer : Type} (endpoint : EndpointId)
    (use : sdk.Env → sdk.Endpoint → Answer × sdk.Endpoint × sdk.Env) (world : World sdk) :
    ∃ endpoints env,
      (world.useEndpoint endpoint use).2 = { world with endpoints := endpoints, env := env } ∧
        endpoints.keys = world.endpoints.keys := by
  rw [useEndpoint]
  cases alive : world.endpoints.lookup endpoint with
  | none => exact ⟨world.endpoints, world.env, rfl, rfl⟩
  | some object =>
    refine ⟨_, _, rfl, Finset.ext fun other => ?_⟩
    have present : endpoint ∈ world.endpoints := Finmap.mem_of_lookup_eq_some alive
    rw [Finmap.mem_keys, Finmap.mem_keys, Finmap.mem_insert]
    exact or_iff_right_of_imp fun same => same ▸ present

theorem World.useEndpoint_record_of_alive {Answer : Type} {endpoint : EndpointId}
    {object : sdk.Endpoint} (alive : world.endpoints.lookup endpoint = some object)
    (event : Event sdk) (use : sdk.Env → sdk.Endpoint → Answer × sdk.Endpoint × sdk.Env) :
    (world.record event).useEndpoint endpoint use =
      (some (use world.env object).1,
        { world with
          endpoints := world.endpoints.insert endpoint (use world.env object).2.1
          env := (use world.env object).2.2
          log := world.log ++ [event] }) := by
  rw [useEndpoint, record, alive]

theorem World.useEndpoint_record_of_gone {Answer : Type} {endpoint : EndpointId}
    (gone : world.endpoints.lookup endpoint = none) (event : Event sdk)
    (use : sdk.Env → sdk.Endpoint → Answer × sdk.Endpoint × sdk.Env) :
    (world.record event).useEndpoint endpoint use = (none, world.record event) := by
  rw [useEndpoint, record, gone]

/-- A call through a handle is logged if it reaches its endpoint, and nothing else is. -/
theorem MavlinkEndpointUser.call_eq (request : EndpointCall sdk.toSdkTypes)
    (user : MavlinkEndpointUser) (world : World sdk) :
    ∃ endpoints env events,
      (user.call request world).2 =
          { world with endpoints := endpoints, env := env, log := world.log ++ events } ∧
        endpoints.keys = world.endpoints.keys ∧
        ∀ event ∈ events, event = .endpointCall user.endpoint request := by
  obtain ⟨endpoints, env, used, keys⟩ := world.useEndpoint_eq user.endpoint (sdk.answer request)
  cases answered : (world.useEndpoint user.endpoint (sdk.answer request)).1 with
  | none =>
    refine ⟨endpoints, env, [], ?_, keys, fun _ member => absurd member List.not_mem_nil⟩
    simp [call, answered, used]
  | some answer =>
    refine ⟨endpoints, env, [.endpointCall user.endpoint request], ?_, keys,
      fun event => List.mem_singleton.mp⟩
    simp [call, answered, used, World.record]

/-! ### Storing and dropping a handle -/

namespace World

theorem destroyUser_eq (user : MavlinkEndpointUser) (world : World sdk) :
    world.destroyUser user =
      { world with
        endpointDb := adjustUsers user.endpointName (Tally.drop user.userName) world.endpointDb
        log := world.log ++
          [.destroyUser user (world.endpointDb.lookup user.endpointName)] } := by
  rw [destroyUser, removeMavlinkEndpointUser_eq]
  rfl

theorem assign_none_of_empty {place : Place} (empty : world.handles.lookup place = none) :
    world.assign place none = world := by
  rw [assign, empty]
  show { world with handles := world.handles.erase place } = world
  rw [Holdings.erase_eq_self empty]

theorem assign_none_of_held {place : Place} {old : MavlinkEndpointUser}
    (held : world.handles.lookup place = some old) :
    world.assign place none =
      ({ world with handles := world.handles.erase place } : World sdk).destroyUser old := by
  rw [assign, held]

theorem assign_some_of_empty {place : Place} (empty : world.handles.lookup place = none)
    (user : MavlinkEndpointUser) :
    world.assign place (some user) =
      { world with handles := world.handles.insert place user } := by
  rw [assign, empty]

theorem assign_some_of_held {place : Place} {old : MavlinkEndpointUser}
    (held : world.handles.lookup place = some old) (user : MavlinkEndpointUser) :
    world.assign place (some user) =
      ({ world with handles := world.handles.insert place user } : World sdk).destroyUser old := by
  rw [assign, held]

/-- The counters after a place lets go of what it held. -/
def released (old : Option MavlinkEndpointUser) (endpointDb : StringMap EndpointEntry) :
    StringMap EndpointEntry :=
  match old with
  | none => endpointDb
  | some user => adjustUsers user.endpointName (Tally.drop user.userName) endpointDb

/-- What the log says about it. -/
def releaseEvents (old : Option MavlinkEndpointUser) (endpointDb : StringMap EndpointEntry) :
    List (Event sdk) :=
  match old with
  | none => []
  | some user => [.destroyUser user (endpointDb.lookup user.endpointName)]

/-- An assignment changes the place, and releases what the place held. -/
theorem assign_eq (place : Place) (user : Option MavlinkEndpointUser) (world : World sdk) :
    world.assign place user =
      { world with
        endpointDb := released (world.handles.lookup place) world.endpointDb
        handles := user.elim (world.handles.erase place) (world.handles.insert place)
        log := world.log ++ releaseEvents (world.handles.lookup place) world.endpointDb } := by
  cases held : world.handles.lookup place with
  | none =>
    cases user with
    | none =>
      rw [assign_none_of_empty held, Option.elim_none, Holdings.erase_eq_self held]
      simp [released, releaseEvents]
    | some user =>
      rw [assign_some_of_empty held]
      simp [released, releaseEvents]
  | some old =>
    cases user with
    | none => rw [assign_none_of_held held, destroyUser_eq, Option.elim_none, released,
        releaseEvents]
    | some user => rw [assign_some_of_held held, destroyUser_eq, Option.elim_some, released,
        releaseEvents]

theorem lookup_assign_self (place : Place) (user : Option MavlinkEndpointUser)
    (world : World sdk) : (world.assign place user).handles.lookup place = user := by
  rw [assign_eq]
  cases user with
  | none => exact AList.lookup_erase place world.handles
  | some user => exact AList.lookup_insert world.handles

theorem lookup_assign_of_ne {place other : Place} (different : other ≠ place)
    (user : Option MavlinkEndpointUser) (world : World sdk) :
    (world.assign place user).handles.lookup other = world.handles.lookup other := by
  rw [assign_eq]
  cases user with
  | none => exact AList.lookup_erase_ne different
  | some user => exact AList.lookup_insert_ne different

/-! ### The destruction of an agent's members -/

theorem ownedPlaces_slot {owner : AgentId} {place : Place}
    (owned : place ∈ world.ownedPlaces owner) : place = ⟨some owner, place.slot⟩ := by
  have isOwner := (List.mem_filter.mp owned).2
  rw [← of_decide_eq_true isOwner]

/-- Resetting a list of places of an agent is a sequence of accesses of that agent. -/
theorem foldl_reset_actions (requester : ManagerResourceRequester) {places : List Place}
    (owned : ∀ place ∈ places, place = ⟨some self, place.slot⟩) (world : World sdk) :
    ∃ actions, Run (Acts self requester) world actions
      (places.foldl (fun world place => world.assign place none) world) := by
  induction places generalizing world with
  | nil => exact ⟨[], .done world⟩
  | cons place rest inductionHypothesis =>
    obtain ⟨actions, run⟩ := inductionHypothesis
      (fun other member => owned other (List.mem_cons_of_mem _ member)) (world.assign place none)
    refine ⟨.reset place.slot :: actions, .next ?_ run⟩
    rw [Acts, AgentAction.perform, ← owned place List.mem_cons_self]

theorem destroyHandles_actions (self : AgentId) (requester : ManagerResourceRequester)
    (world : World sdk) :
    ∃ actions, Run (Acts self requester) world actions (world.destroyHandles self) :=
  foldl_reset_actions requester (fun _ => ownedPlaces_slot) world

theorem lookup_foldl_reset (places : List Place) (world : World sdk) (place : Place) :
    (places.foldl (fun world place => world.assign place none) world).handles.lookup place =
      if place ∈ places then none else world.handles.lookup place := by
  induction places generalizing world with
  | nil => rfl
  | cons head rest inductionHypothesis =>
    rw [List.foldl_cons, inductionHypothesis]
    by_cases same : place = head
    · rw [same, lookup_assign_self, ite_self, if_pos List.mem_cons_self]
    · rw [lookup_assign_of_ne same]
      simp only [List.mem_cons, same, false_or]

/-- Once its members are destroyed, an agent holds nothing, and all others what they held. -/
theorem lookup_destroyHandles (world : World sdk) (owner : AgentId) (place : Place) :
    (world.destroyHandles owner).handles.lookup place =
      if place.owner = some owner then none else world.handles.lookup place := by
  rw [destroyHandles, lookup_foldl_reset]
  by_cases owned : place.owner = some owner
  · rw [if_pos owned]
    by_cases member : place ∈ world.ownedPlaces owner
    · exact if_pos member
    · rw [if_neg member, AList.lookup_eq_none]
      exact fun held => member (List.mem_filter.mpr ⟨held, decide_eq_true owned⟩)
  · rw [if_neg owned, if_neg]
    exact fun member => owned (of_decide_eq_true (List.mem_filter.mp member).2)

end World

end MavlinkHub
