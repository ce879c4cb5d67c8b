/-
This file runs the same agent code in two worlds. It fixes what the manager relies on
when it works off a plan in an arbitrary order: connecting an endpoint and running an
agent may change the hidden state and the endpoint objects, but nothing that another
endpoint or agent can tell. What can be told is a parameter, a pair of equivalences.

Code of one agent then takes the same course in two worlds in which the same names
are registered, the endpoints look alike and the agent holds handles for the same
names, and it leaves them that way.
-/

import MavlinkHub.EndpointUsers
import MavlinkHub.Ownership

namespace MavlinkHub

open Manager

variable {sdk : Sdk}

/-! ### Optional values -/

theorem optionRel_equivalence {Value : Type} {same : Value → Value → Prop}
    (equivalence : Equivalence same) : Equivalence (Option.Rel same) where
  refl value := by
    cases value with
    | none => exact .none
    | some value => exact .some (equivalence.refl value)
  symm related := by
    cases related with
    | none => exact .none
    | some related => exact .some (equivalence.symm related)
  trans front back := by
    cases front with
    | none => exact back
    | some front =>
      cases back with
      | some back => exact .some (equivalence.trans front back)

/-! ### What the code outside can tell -/

section Assumptions

variable (sameEnv : sdk.Env → sdk.Env → Prop) (sameEndpoint : sdk.Endpoint → sdk.Endpoint → Prop)

/-- Agent code whose course depends only on whether its requests are granted, on the names of
the registered endpoints, and on what cannot be told apart. -/
def AgentCode.Steady {Result : Type} : AgentCode sdk.toSdkTypes Result → Prop
  | .done _ => True
  | .internal step next =>
    (∀ env, sameEnv env (step env)) ∧
      (∀ env other, sameEnv env other → next env = next other) ∧ ∀ env, (next env).Steady
  | .requestMavlinkEndpoint _ _ next => ∀ granted, (next granted).Steady
  | .getMavlinkEndpointList next => ∀ names, (next names).Steady
  | .reset _ next => next.Steady
  | .call _ request next =>
    (∀ env other object twin, sameEnv env other → sameEndpoint object twin →
        next (some (sdk.answer request env object).1) =
          next (some (sdk.answer request other twin).1)) ∧
      ∀ answer, (next answer).Steady

/-- Connecting an endpoint, or running an agent, does not affect another endpoint or agent. -/
structure Sdk.Unentangled : Prop where
  env : Equivalence sameEnv
  endpoint : Equivalence sameEndpoint
  createEndpoint : ∀ env other, sameEnv env other →
    sameEndpoint (sdk.createEndpoint env).1 (sdk.createEndpoint other).1
  createEndpoint_env : ∀ env, sameEnv env (sdk.createEndpoint env).2
  connect : ∀ type config env other object twin, sameEnv env other → sameEndpoint object twin →
    (sdk.connect type config env object).1 = (sdk.connect type config other twin).1 ∧
      sameEndpoint (sdk.connect type config env object).2.1
        (sdk.connect type config other twin).2.1
  connect_env : ∀ type config env object, sameEnv env (sdk.connect type config env object).2.2
  answer_endpoint : ∀ request env object,
    sameEndpoint object (sdk.answer request env object).2.1
  answer_env : ∀ request env object, sameEnv env (sdk.answer request env object).2.2
  getState : ∀ env other object twin, sameEnv env other → sameEndpoint object twin →
    sdk.getState env object = sdk.getState other twin
  getAgentState : ∀ env other agent, sameEnv env other →
    sdk.getAgentState env agent = sdk.getAgentState other agent
  create : ∀ definition config, (sdk.create definition config).Steady sameEnv sameEndpoint
  start : ∀ agent, (sdk.start agent).Steady sameEnv sameEndpoint

/-- A change of the hidden state and the endpoint objects that cannot be told. -/
structure Undisturbed (before after : World sdk) : Prop where
  env : sameEnv before.env after.env
  endpoints : ∀ endpoint, Option.Rel sameEndpoint (before.endpoints.lookup endpoint)
    (after.endpoints.lookup endpoint)

end Assumptions

variable {sameEnv : sdk.Env → sdk.Env → Prop} {sameEndpoint : sdk.Endpoint → sdk.Endpoint → Prop}
  {world twin before between after : World sdk} {name : String} {owner other : AgentId}

/-! ### One world -/

namespace Undisturbed

theorem of_eq (unentangled : sdk.Unentangled sameEnv sameEndpoint)
    (env : after.env = before.env) (endpoints : after.endpoints = before.endpoints) :
    Undisturbed sameEnv sameEndpoint before after :=
  ⟨env ▸ unentangled.env.refl _,
    fun _ => endpoints ▸ (optionRel_equivalence unentangled.endpoint).refl _⟩

theorem trans (unentangled : sdk.Unentangled sameEnv sameEndpoint)
    (front : Undisturbed sameEnv sameEndpoint before between)
    (back : Undisturbed sameEnv sameEndpoint between after) :
    Undisturbed sameEnv sameEndpoint before after :=
  ⟨unentangled.env.trans front.env back.env, fun endpoint =>
    (optionRel_equivalence unentangled.endpoint).trans (front.endpoints endpoint)
      (back.endpoints endpoint)⟩

theorem assign (unentangled : sdk.Unentangled sameEnv sameEndpoint) (place : Place)
    (user : Option MavlinkEndpointUser) (world : World sdk) :
    Undisturbed sameEnv sameEndpoint world (world.assign place user) := by
  refine of_eq unentangled ?_ ?_ <;> rw [World.assign_eq]

theorem call (unentangled : sdk.Unentangled sameEnv sameEndpoint)
    (request : EndpointCall sdk.toSdkTypes) (user : MavlinkEndpointUser) (world : World sdk) :
    Undisturbed sameEnv sameEndpoint world (user.call request world).2 := by
  cases stored : world.endpoints.lookup user.endpoint with
  | none =>
    rw [call_of_gone (Finmap.lookup_eq_none.mp stored)]
    exact of_eq unentangled rfl rfl
  | some object =>
    rw [call_of_alive stored]
    refine ⟨unentangled.answer_env request world.env object, fun endpoint => ?_⟩
    by_cases same : endpoint = user.endpoint
    · rw [same, stored]
      refine (Finmap.lookup_insert world.endpoints).symm ▸ ?_
      exact .some (unentangled.answer_endpoint request world.env object)
    · refine (Finmap.lookup_insert_of_ne world.endpoints same).symm ▸ ?_
      exact (optionRel_equivalence unentangled.endpoint).refl _

/-- Steady code disturbs nothing. -/
theorem code (unentangled : sdk.Unentangled sameEnv sameEndpoint) {Result : Type}
    {code : AgentCode sdk.toSdkTypes Result} (steady : code.Steady sameEnv sameEndpoint)
    (owner : AgentId) (requester : ManagerResourceRequester) (world : World sdk) :
    Undisturbed sameEnv sameEndpoint world (code.run owner requester world).2 := by
  induction code generalizing world with
  | done result => exact of_eq unentangled rfl rfl
  | internal step next inductionHypothesis =>
    have stepped : Undisturbed sameEnv sameEndpoint world { world with env := step world.env } :=
      ⟨steady.1 world.env, fun _ => (optionRel_equivalence unentangled.endpoint).refl _⟩
    exact stepped.trans unentangled (inductionHypothesis _ (steady.2.2 _) _)
  | requestMavlinkEndpoint slot epName next inductionHypothesis =>
    have requested : Undisturbed sameEnv sameEndpoint world
        (requester.requestMavlinkEndpoint epName world).2 := by
      rw [ManagerResourceRequester.requestMavlinkEndpoint]
      cases registered : world.endpointDb.lookup epName with
      | none =>
        rw [createMavlinkEndpointUser_of_absent registered]
        exact of_eq unentangled rfl rfl
      | some entry =>
        rw [createMavlinkEndpointUser_of_registered registered]
        exact of_eq unentangled rfl rfl
    exact (requested.trans unentangled (assign unentangled _ _ _)).trans unentangled
      (inductionHypothesis _ (steady _) _)
  | getMavlinkEndpointList next inductionHypothesis => exact inductionHypothesis _ (steady _) world
  | reset slot next inductionHypothesis =>
    exact (assign unentangled _ _ _).trans unentangled (inductionHypothesis steady _)
  | call slot request next inductionHypothesis =>
    cases held : world.handles.lookup ⟨some owner, slot⟩ with
    | none =>
      rw [AgentCode.run, held]
      exact inductionHypothesis none (steady.2 _) world
    | some user =>
      rw [AgentCode.run, held]
      exact (Undisturbed.call unentangled request user world).trans unentangled
        (inductionHypothesis _ (steady.2 _) _)

end Undisturbed

/-! ### Two worlds -/

/-- The endpoint object registered under a name. -/
def objectAt (name : String) (world : World sdk) : Option sdk.Endpoint :=
  (instanceAt world.endpointDb name).bind fun endpoint => world.endpoints.lookup endpoint

/-- Worlds whose registered endpoints and hidden states cannot be told apart. -/
structure AlikeEndpoints (sameEnv : sdk.Env → sdk.Env → Prop)
    (sameEndpoint : sdk.Endpoint → sdk.Endpoint → Prop) (world twin : World sdk) : Prop where
  env : sameEnv world.env twin.env
  registered : ∀ target,
    (instanceAt world.endpointDb target).isSome = (instanceAt twin.endpointDb target).isSome
  objects : ∀ target, Option.Rel sameEndpoint (objectAt target world) (objectAt target twin)

theorem alikeEndpoints_equivalence (unentangled : sdk.Unentangled sameEnv sameEndpoint) :
    Equivalence (AlikeEndpoints sameEnv sameEndpoint) where
  refl _ := ⟨unentangled.env.refl _, fun _ => rfl,
    fun _ => (optionRel_equivalence unentangled.endpoint).refl _⟩
  symm alike := ⟨unentangled.env.symm alike.env, fun target => (alike.registered target).symm,
    fun target => (optionRel_equivalence unentangled.endpoint).symm (alike.objects target)⟩
  trans front back := ⟨unentangled.env.trans front.env back.env,
    fun target => (front.registered target).trans (back.registered target),
    fun target => (optionRel_equivalence unentangled.endpoint).trans (front.objects target)
      (back.objects target)⟩

theorem Undisturbed.alike (undisturbed : Undisturbed sameEnv sameEndpoint before after)
    (instances : ∀ target,
      instanceAt after.endpointDb target = instanceAt before.endpointDb target) :
    AlikeEndpoints sameEnv sameEndpoint before after := by
  refine ⟨undisturbed.env, fun target => by rw [instances], fun target => ?_⟩
  rw [objectAt, objectAt, instances]
  cases instanceAt before.endpointDb target with
  | none => exact .none
  | some endpoint => exact undisturbed.endpoints endpoint

/-- Handles of two worlds that were issued to the same requester under the same name, for the
endpoints that are registered under it. -/
structure HandleTwins (name : String) (world twin : World sdk)
    (user userTwin : MavlinkEndpointUser) : Prop where
  endpointName : user.endpointName = userTwin.endpointName
  userName : user.userName = name
  userNameTwin : userTwin.userName = name
  issued : instanceAt world.endpointDb user.endpointName = some user.endpoint
  issuedTwin : instanceAt twin.endpointDb userTwin.endpointName = some userTwin.endpoint

/-- Two worlds that code of the agents `owner` and `other`, registered as `name`, cannot tell
apart. -/
structure Twins (sameEnv : sdk.Env → sdk.Env → Prop)
    (sameEndpoint : sdk.Endpoint → sdk.Endpoint → Prop) (name : String) (owner other : AgentId)
    (world twin : World sdk) : Prop where
  alike : AlikeEndpoints sameEnv sameEndpoint world twin
  counters : ∀ target,
    counterAt world.endpointDb target name = counterAt twin.endpointDb target name
  handles : ∀ slot, Option.Rel (HandleTwins name world twin)
    (world.handles.lookup ⟨some owner, slot⟩) (twin.handles.lookup ⟨some other, slot⟩)

/-- Handle twins only depend on what is registered. -/
theorem HandleTwins.mono {user userTwin : MavlinkEndpointUser} {twinAfter : World sdk}
    (twins : HandleTwins name world twin user userTwin)
    (instances : ∀ target,
      instanceAt after.endpointDb target = instanceAt world.endpointDb target)
    (instancesTwin : ∀ target,
      instanceAt twinAfter.endpointDb target = instanceAt twin.endpointDb target) :
    HandleTwins name after twinAfter user userTwin :=
  ⟨twins.endpointName, twins.userName, twins.userNameTwin, (instances _).trans twins.issued,
    (instancesTwin _).trans twins.issuedTwin⟩

theorem optionRel_mono {Value Other : Type} {related wider : Value → Other → Prop}
    {value : Option Value} {other : Option Other} (holds : Option.Rel related value other)
    (included : ∀ value other, related value other → wider value other) :
    Option.Rel wider value other := by
  cases holds with
  | none => exact .none
  | some holds => exact .some (included _ _ holds)

theorem optionRel_isSome {Value Other : Type} {related : Value → Other → Prop}
    {value : Option Value} {other : Option Other} (holds : Option.Rel related value other) :
    value.isSome = other.isSome := by
  cases holds <;> rfl

theorem instanceAt_released (old : Option MavlinkEndpointUser)
    (endpointDb : StringMap EndpointEntry) (target : String) :
    instanceAt (World.released old endpointDb) target = instanceAt endpointDb target := by
  cases old with
  | none => rfl
  | some user => exact instanceAt_adjustUsers _

/-- Storing twin handles in the same slot keeps worlds twins. -/
theorem Twins.assign (unentangled : sdk.Unentangled sameEnv sameEndpoint)
    (twins : Twins sameEnv sameEndpoint name owner other world twin) (slot : Nat)
    {user userTwin : Option MavlinkEndpointUser}
    (stored : Option.Rel (HandleTwins name world twin) user userTwin) :
    Twins sameEnv sameEndpoint name owner other (world.assign ⟨some owner, slot⟩ user)
      (twin.assign ⟨some other, slot⟩ userTwin) := by
  have instances (world : World sdk) (place : Place) (user : Option MavlinkEndpointUser)
      (target : String) :
      instanceAt (world.assign place user).endpointDb target =
        instanceAt world.endpointDb target := by
    rw [World.assign_eq]
    exact instanceAt_released _ _ _
  have equivalence := alikeEndpoints_equivalence unentangled
  refine ⟨?_, fun target => ?_, fun target => ?_⟩
  · exact equivalence.trans
      (equivalence.symm ((Undisturbed.assign unentangled _ _ _).alike (instances _ _ _)))
      (equivalence.trans twins.alike
        ((Undisturbed.assign unentangled _ _ _).alike (instances _ _ _)))
  · rw [World.assign_eq, World.assign_eq]
    have old := twins.handles slot
    cases held : world.handles.lookup ⟨some owner, slot⟩ <;>
      cases heldTwin : twin.handles.lookup ⟨some other, slot⟩ <;> rw [held, heldTwin] at old
    · exact twins.counters target
    · cases old
    · cases old
    · obtain ⟨sameName, isName, isNameTwin, _, _⟩ := old
      dsimp only [World.released]
      rw [← sameName, isName, isNameTwin]
      refine counterAt_adjustUsers_congr (fun tally twin same => ?_) (twins.alike.registered _)
        twins.counters target
      rw [Tally.lookup_drop_self, Tally.lookup_drop_self, same]
  · have kept {old oldTwin : Option MavlinkEndpointUser}
        (handles : Option.Rel (HandleTwins name world twin) old oldTwin) :
        Option.Rel (HandleTwins name (world.assign ⟨some owner, slot⟩ user)
          (twin.assign ⟨some other, slot⟩ userTwin)) old oldTwin :=
      optionRel_mono handles fun _ _ twins => twins.mono (instances _ _ _) (instances _ _ _)
    by_cases same : target = slot
    · rw [same, World.lookup_assign_self, World.lookup_assign_self]
      exact kept stored
    · rw [World.lookup_assign_of_ne (by simpa using same),
        World.lookup_assign_of_ne (by simpa using same)]
      exact kept (twins.handles target)

/-- A change that keeps the registered instances, the agent's counters and its handles, and
disturbs nothing, keeps worlds twins. -/
theorem Twins.step (unentangled : sdk.Unentangled sameEnv sameEndpoint)
    (twins : Twins sameEnv sameEndpoint name owner other world twin) {twinAfter : World sdk}
    (undisturbed : Undisturbed sameEnv sameEndpoint world after)
    (undisturbedTwin : Undisturbed sameEnv sameEndpoint twin twinAfter)
    (endpointDb : after.endpointDb = world.endpointDb)
    (endpointDbTwin : twinAfter.endpointDb = twin.endpointDb)
    (handles : after.handles = world.handles) (handlesTwin : twinAfter.handles = twin.handles) :
    Twins sameEnv sameEndpoint name owner other after twinAfter := by
  have equivalence := alikeEndpoints_equivalence unentangled
  refine ⟨?_, fun target => by rw [endpointDb, endpointDbTwin, twins.counters], fun slot => ?_⟩
  · exact equivalence.trans (equivalence.symm (undisturbed.alike fun _ => by rw [endpointDb]))
      (equivalence.trans twins.alike (undisturbedTwin.alike fun _ => by rw [endpointDbTwin]))
  · rw [handles, handlesTwin]
    exact optionRel_mono (twins.handles slot) fun _ _ held =>
      held.mono (fun _ => by rw [endpointDb]) fun _ => by rw [endpointDbTwin]

/-- What is registered as agents is not part of what agent code sees. -/
theorem Twins.withAgents (unentangled : sdk.Unentangled sameEnv sameEndpoint)
    (twins : Twins sameEnv sameEndpoint name owner other world twin)
    (agents agentsTwin : StringMap (AgentInstance sdk)) :
    Twins sameEnv sameEndpoint name owner other { world with agents := agents }
      { twin with agents := agentsTwin } :=
  twins.step unentangled (.of_eq unentangled rfl rfl) (.of_eq unentangled rfl rfl) rfl rfl rfl rfl

/-- A request is granted in both worlds or in neither. -/
theorem Twins.request (unentangled : sdk.Unentangled sameEnv sameEndpoint)
    (twins : Twins sameEnv sameEndpoint name owner other world twin) (epName : String) :
    Twins sameEnv sameEndpoint name owner other (createMavlinkEndpointUser epName name world).2
        (createMavlinkEndpointUser epName name twin).2 ∧
      Option.Rel (HandleTwins name (createMavlinkEndpointUser epName name world).2
          (createMavlinkEndpointUser epName name twin).2)
        (createMavlinkEndpointUser epName name world).1
        (createMavlinkEndpointUser epName name twin).1 := by
  have registered := twins.alike.registered epName
  unfold instanceAt at registered
  cases stored : world.endpointDb.lookup epName <;>
    cases storedTwin : twin.endpointDb.lookup epName <;>
      simp only [stored, storedTwin] at registered
  · rw [createMavlinkEndpointUser_of_absent stored, createMavlinkEndpointUser_of_absent storedTwin]
    exact ⟨twins, .none⟩
  · exact absurd registered Bool.false_ne_true
  · exact absurd registered.symm Bool.false_ne_true
  · rw [createMavlinkEndpointUser_of_registered stored,
      createMavlinkEndpointUser_of_registered storedTwin]
    have equivalence := alikeEndpoints_equivalence unentangled
    have instances (endpointDb : StringMap EndpointEntry) (target : String) :
        instanceAt (adjustUsers epName (Tally.bump name) endpointDb) target =
          instanceAt endpointDb target := instanceAt_adjustUsers _
    refine ⟨⟨?_, fun target => ?_, fun slot => ?_⟩, .some ⟨rfl, rfl, rfl, ?_, ?_⟩⟩
    · refine equivalence.trans (equivalence.symm (Undisturbed.alike ?_ (instances _)))
        (equivalence.trans twins.alike (Undisturbed.alike ?_ (instances _))) <;>
        exact .of_eq unentangled rfl rfl
    · refine counterAt_adjustUsers_congr (fun tally twin same => ?_) (twins.alike.registered _)
        twins.counters target
      rw [Tally.lookup_bump_self, Tally.lookup_bump_self, Tally.count, Tally.count, same]
    · exact optionRel_mono (twins.handles slot) fun _ _ held =>
        held.mono (instances _) (instances _)
    · exact (instances _ _).trans (instanceAt_of_lookup stored)
    · exact (instances _ _).trans (instanceAt_of_lookup storedTwin)

/-- Handle twins reach endpoint objects that look alike, or nothing. -/
theorem Twins.objects (twins : Twins sameEnv sameEndpoint name owner other world twin)
    {user userTwin : MavlinkEndpointUser} (handles : HandleTwins name world twin user userTwin) :
    Option.Rel sameEndpoint (world.endpoints.lookup user.endpoint)
      (twin.endpoints.lookup userTwin.endpoint) := by
  have objects := twins.alike.objects user.endpointName
  rw [objectAt, objectAt, handles.issued, handles.endpointName, handles.issuedTwin] at objects
  exact objects

/-- Steady code takes the same course in twin worlds, and leaves them twins. -/
theorem Twins.code (unentangled : sdk.Unentangled sameEnv sameEndpoint) {Result : Type}
    {code : AgentCode sdk.toSdkTypes Result} (steady : code.Steady sameEnv sameEndpoint)
    (twins : Twins sameEnv sameEndpoint name owner other world twin) :
    (code.run owner ⟨name⟩ world).1 = (code.run other ⟨name⟩ twin).1 ∧
      Twins sameEnv sameEndpoint name owner other (code.run owner ⟨name⟩ world).2
        (code.run other ⟨name⟩ twin).2 := by
  induction code generalizing world twin with
  | done result => exact ⟨rfl, twins⟩
  | internal step next inductionHypothesis =>
    have stepped (world : World sdk) :
        Undisturbed sameEnv sameEndpoint world { world with env := step world.env } :=
      ⟨steady.1 world.env, fun _ => (optionRel_equivalence unentangled.endpoint).refl _⟩
    rw [AgentCode.run, AgentCode.run, ← steady.2.1 _ _ twins.alike.env]
    exact inductionHypothesis _ (steady.2.2 _)
      (twins.step unentangled (stepped world) (stepped twin) rfl rfl rfl rfl)
  | requestMavlinkEndpoint slot epName next inductionHypothesis =>
    obtain ⟨requested, granted⟩ := twins.request unentangled epName
    have sameGrant : (createMavlinkEndpointUser epName name world).1.isSome =
        (createMavlinkEndpointUser epName name twin).1.isSome := optionRel_isSome granted
    rw [AgentCode.run, AgentCode.run]
    dsimp only [ManagerResourceRequester.requestMavlinkEndpoint]
    rw [← sameGrant]
    exact inductionHypothesis _ (steady _) (requested.assign unentangled slot granted)
  | getMavlinkEndpointList next inductionHypothesis =>
    have sameNames : getMavlinkEndpointList world = getMavlinkEndpointList twin := by
      refine Finset.ext fun target => ?_
      rw [getMavlinkEndpointList, getMavlinkEndpointList, mem_keys_iff_instanceAt,
        mem_keys_iff_instanceAt, twins.alike.registered]
    rw [AgentCode.run, AgentCode.run]
    dsimp only [ManagerResourceRequester.getMavlinkEndpointList]
    rw [← sameNames]
    exact inductionHypothesis _ (steady _) twins
  | reset slot next inductionHypothesis =>
    exact inductionHypothesis steady (twins.assign unentangled slot .none)
  | call slot request next inductionHypothesis =>
    have handles := twins.handles slot
    rw [AgentCode.run, AgentCode.run]
    cases held : world.handles.lookup ⟨some owner, slot⟩ <;>
      cases heldTwin : twin.handles.lookup ⟨some other, slot⟩ <;> rw [held, heldTwin] at handles
    · exact inductionHypothesis none (steady.2 _) twins
    · cases handles
    · cases handles
    · rename_i user userTwin
      obtain @⟨_, _, handles⟩ := handles
      have objects := twins.objects handles
      dsimp only
      cases stored : world.endpoints.lookup user.endpoint <;>
        cases storedTwin : twin.endpoints.lookup userTwin.endpoint <;>
          rw [stored, storedTwin] at objects
      · rw [call_of_gone (Finmap.lookup_eq_none.mp stored),
          call_of_gone (Finmap.lookup_eq_none.mp storedTwin)]
        exact inductionHypothesis none (steady.2 _) twins
      · cases objects
      · cases objects
      · obtain @⟨_, _, alike⟩ := objects
        have called := Undisturbed.call unentangled request user world
        have calledTwin := Undisturbed.call unentangled request userTwin twin
        rw [call_of_alive stored] at called ⊢
        rw [call_of_alive storedTwin] at calledTwin ⊢
        dsimp only
        rw [← steady.1 _ _ _ _ twins.alike.env alike]
        exact inductionHypothesis _ (steady.2 _)
          (twins.step unentangled called calledTwin rfl rfl rfl rfl)

end MavlinkHub
