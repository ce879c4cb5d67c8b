/-
This file proves that the entries of a plan are independent, as far as the code
outside cannot tell. What an endpoint entry does depends on what is registered under
its own name and shows nowhere else. What an agent entry does depends on the
registered endpoints, which all agents share and none of them changes, and on the
counters of its own name.
-/

import MavlinkHub.AgentTwins
import MavlinkHub.PlanFrame

namespace MavlinkHub

open KeyedLoop Manager Transition

variable {sdk : Sdk} {sameEnv : sdk.Env → sdk.Env → Prop}
  {sameEndpoint : sdk.Endpoint → sdk.Endpoint → Prop} {world twin : World sdk}

/-! ### Endpoint entries -/

/-- What an endpoint entry sees of a world. -/
structure EndpointView (sameEnv : sdk.Env → sdk.Env → Prop)
    (sameEndpoint : sdk.Endpoint → sdk.Endpoint → Prop) (epName : String)
    (world twin : World sdk) : Prop where
  env : sameEnv world.env twin.env
  registered :
    (instanceAt world.endpointDb epName).isSome = (instanceAt twin.endpointDb epName).isSome
  object : Option.Rel sameEndpoint (objectAt epName world) (objectAt epName twin)
  counters : ∀ requester,
    counterAt world.endpointDb epName requester = counterAt twin.endpointDb epName requester

theorem endpointView_equivalence (unentangled : sdk.Unentangled sameEnv sameEndpoint)
    (epName : String) : Equivalence (EndpointView sameEnv sameEndpoint epName) where
  refl _ := ⟨unentangled.env.refl _, rfl, (optionRel_equivalence unentangled.endpoint).refl _,
    fun _ => rfl⟩
  symm view := ⟨unentangled.env.symm view.env, view.registered.symm,
    (optionRel_equivalence unentangled.endpoint).symm view.object,
    fun requester => (view.counters requester).symm⟩
  trans front back := ⟨unentangled.env.trans front.env back.env,
    front.registered.trans back.registered,
    (optionRel_equivalence unentangled.endpoint).trans front.object back.object,
    fun requester => (front.counters requester).trans (back.counters requester)⟩

/-- Views of worlds whose entry of the name and whose object have not changed. -/
theorem EndpointView.of_eq (unentangled : sdk.Unentangled sameEnv sameEndpoint) {epName : String}
    (env : sameEnv world.env twin.env)
    (entry : twin.endpointDb.lookup epName = world.endpointDb.lookup epName)
    (object : objectAt epName twin = objectAt epName world) :
    EndpointView sameEnv sameEndpoint epName world twin :=
  ⟨env, by rw [instanceAt, instanceAt, entry],
    object ▸ (optionRel_equivalence unentangled.endpoint).refl _,
    fun _ => by rw [counterAt, counterAt, entry]⟩

/-- Registering an endpoint is not seen under another name. -/
theorem view_registered_of_ne (unentangled : sdk.Unentangled sameEnv sameEndpoint)
    (reachable : world.Reachable) {epName target : String} (different : target ≠ epName) :
    EndpointView sameEnv sameEndpoint target world (registered epName world) := by
  have entry : (registered epName world).endpointDb.lookup target =
      world.endpointDb.lookup target := Finmap.lookup_insert_of_ne _ different
  refine .of_eq unentangled (unentangled.createEndpoint_env world.env) entry ?_
  rw [objectAt, objectAt, instanceAt, entry, ← instanceAt]
  cases isRegistered : instanceAt world.endpointDb target with
  | none => rfl
  | some endpoint =>
    have old := reachable.sound.fresh target endpoint isRegistered
    exact Finmap.lookup_insert_of_ne _ (Nat.ne_of_lt old)

/-- Under its own name it is seen in the same way in worlds that looked the same. -/
theorem view_registered (unentangled : sdk.Unentangled sameEnv sameEndpoint)
    {epName : String} (view : EndpointView sameEnv sameEndpoint epName world twin) :
    EndpointView sameEnv sameEndpoint epName (registered epName world)
      (registered epName twin) := by
  have entry (world : World sdk) : (registered epName world).endpointDb.lookup epName =
      some ⟨world.nextEndpoint, ∅⟩ := Finmap.lookup_insert _
  have object (world : World sdk) :
      objectAt epName (registered epName world) = some (sdk.createEndpoint world.env).1 := by
    rw [objectAt, instanceAt, entry]
    exact Finmap.lookup_insert _
  refine ⟨?_, by rw [instanceAt, instanceAt, entry, entry]; rfl, ?_,
    fun _ => by rw [counterAt, counterAt, entry, entry]; rfl⟩
  · exact unentangled.env.trans (unentangled.env.symm (unentangled.createEndpoint_env world.env))
      (unentangled.env.trans view.env (unentangled.createEndpoint_env twin.env))
  · rw [object, object]
    exact .some (unentangled.createEndpoint _ _ view.env)

theorem view_addMavlinkEndpoint (unentangled : sdk.Unentangled sameEnv sameEndpoint)
    {epName : String} (view : EndpointView sameEnv sameEndpoint epName world twin) :
    (addMavlinkEndpoint epName world).1 = (addMavlinkEndpoint epName twin).1 ∧
      EndpointView sameEnv sameEndpoint epName (addMavlinkEndpoint epName world).2
        (addMavlinkEndpoint epName twin).2 := by
  have same := view.registered
  unfold instanceAt at same
  rw [addMavlinkEndpoint, addMavlinkEndpoint]
  cases stored : world.endpointDb.lookup epName <;>
    cases storedTwin : twin.endpointDb.lookup epName <;> simp only [stored, storedTwin] at same
  · refine ⟨rfl, view_registered unentangled view⟩
  · exact absurd same Bool.false_ne_true
  · exact absurd same.symm Bool.false_ne_true
  · exact ⟨rfl, view⟩

/-- The object of an endpoint name, for whoever knows the entry. -/
theorem objectAt_of_lookup {epName : String} {entry : EndpointEntry}
    (stored : world.endpointDb.lookup epName = some entry) :
    objectAt epName world = world.endpoints.lookup entry.endpoint := by
  rw [objectAt, instanceAt_of_lookup stored, Option.bind_some]

/-- Replacing the object of an entry, at a new hidden state. -/
theorem objectAt_insert_self {epName : String} {entry : EndpointEntry}
    (stored : world.endpointDb.lookup epName = some entry) (object : sdk.Endpoint)
    (env : sdk.Env) (log : List (Event sdk)) :
    objectAt epName { world with
      endpoints := world.endpoints.insert entry.endpoint object, env := env, log := log } =
        some object := by
  show (instanceAt world.endpointDb epName).bind _ = _
  rw [instanceAt_of_lookup stored]
  exact Finmap.lookup_insert _

theorem objectAt_insert_of_ne {target : String} {endpoint : EndpointId}
    (apart : instanceAt world.endpointDb target ≠ some endpoint) (object : sdk.Endpoint)
    (env : sdk.Env) (log : List (Event sdk)) :
    objectAt target { world with
      endpoints := world.endpoints.insert endpoint object, env := env, log := log } =
        objectAt target world := by
  show (instanceAt world.endpointDb target).bind _ = (instanceAt world.endpointDb target).bind _
  cases isRegistered : instanceAt world.endpointDb target with
  | none => rfl
  | some other =>
    exact Finmap.lookup_insert_of_ne _ fun same => apart (isRegistered.trans (by rw [same]))

/-- Connecting an endpoint is not seen under another name. -/
theorem view_connect_of_ne (unentangled : sdk.Unentangled sameEnv sameEndpoint)
    (reachable : world.Reachable) {epName target : String} (different : target ≠ epName)
    (type : String) (config : Config) :
    EndpointView sameEnv sameEndpoint target world
      (connectMavlinkEndpoint epName type config world).2 := by
  rcases connectMavlinkEndpoint_cases epName type config world with
    ⟨_, _, same⟩ | ⟨entry, stored, _, effect⟩
  · rw [same]
    exact (endpointView_equivalence unentangled target).refl world
  rw [effect]
  cases alive : world.endpoints.lookup entry.endpoint with
  | none =>
    rw [World.useEndpoint_record_of_gone alive]
    exact .of_eq unentangled (unentangled.env.refl _) rfl rfl
  | some object =>
    rw [World.useEndpoint_record_of_alive alive]
    have apart : instanceAt world.endpointDb target ≠ some entry.endpoint := fun isRegistered =>
      different (reachable.sound.injective target epName _ isRegistered
        (instanceAt_of_lookup stored))
    exact .of_eq unentangled (unentangled.connect_env type config world.env object) rfl
      (objectAt_insert_of_ne apart _ _ _)

theorem view_connect (unentangled : sdk.Unentangled sameEnv sameEndpoint) {epName : String}
    (view : EndpointView sameEnv sameEndpoint epName world twin) (type : String)
    (config : Config) :
    (connectMavlinkEndpoint epName type config world).1 =
        (connectMavlinkEndpoint epName type config twin).1 ∧
      EndpointView sameEnv sameEndpoint epName (connectMavlinkEndpoint epName type config world).2
        (connectMavlinkEndpoint epName type config twin).2 := by
  have same := view.registered
  have objects := view.object
  unfold instanceAt at same
  rw [connectMavlinkEndpoint, connectMavlinkEndpoint]
  cases stored : world.endpointDb.lookup epName <;>
    cases storedTwin : twin.endpointDb.lookup epName <;> simp only [stored, storedTwin] at same
  · exact ⟨rfl, view⟩
  · exact absurd same Bool.false_ne_true
  · exact absurd same.symm Bool.false_ne_true
  · rename_i entry entryTwin
    rw [objectAt_of_lookup stored, objectAt_of_lookup storedTwin] at objects
    dsimp only
    cases alive : world.endpoints.lookup entry.endpoint <;>
      cases aliveTwin : twin.endpoints.lookup entryTwin.endpoint <;>
        rw [alive, aliveTwin] at objects
    · rw [World.useEndpoint_record_of_gone alive, World.useEndpoint_record_of_gone aliveTwin]
      exact ⟨rfl, view.env, view.registered, view.object, view.counters⟩
    · cases objects
    · cases objects
    · rename_i object objectTwin
      obtain @⟨_, _, alike⟩ := objects
      obtain ⟨sameAnswer, alikeAfter⟩ := unentangled.connect type config _ _ _ _ view.env alike
      rw [World.useEndpoint_record_of_alive alive, World.useEndpoint_record_of_alive aliveTwin]
      dsimp only
      rw [← sameAnswer]
      have env := unentangled.env.trans
        (unentangled.env.symm (unentangled.connect_env type config world.env object))
        (unentangled.env.trans view.env (unentangled.connect_env type config twin.env objectTwin))
      split_ifs <;> refine ⟨rfl, env, view.registered, ?_, view.counters⟩ <;>
        · rw [objectAt_insert_self stored, objectAt_insert_self storedTwin]
          exact .some alikeAfter

/-- What is done for an endpoint entry depends on what is seen under its name. -/
theorem view_attemptEndpoint (unentangled : sdk.Unentangled sameEnv sameEndpoint)
    {epName : String} (view : EndpointView sameEnv sameEndpoint epName world twin)
    (epSpec : MavlinkEndpointEntry) :
    (attemptEndpoint epName epSpec world).1 = (attemptEndpoint epName epSpec twin).1 ∧
      EndpointView sameEnv sameEndpoint epName (attemptEndpoint epName epSpec world).2
        (attemptEndpoint epName epSpec twin).2 := by
  obtain ⟨sameAdd, added⟩ := view_addMavlinkEndpoint unentangled view
  obtain ⟨sameConnect, connected⟩ := view_connect unentangled added epSpec.type epSpec.config
  rw [attemptEndpoint, attemptEndpoint]
  dsimp only
  rw [← sameAdd, ← sameConnect]
  split_ifs
  · exact ⟨rfl, connected⟩
  · exact ⟨rfl, added⟩

/-- What is done for an endpoint entry is not seen under another name. -/
theorem view_attemptEndpoint_of_ne (unentangled : sdk.Unentangled sameEnv sameEndpoint)
    (reachable : world.Reachable) {epName target : String} (different : target ≠ epName)
    (epSpec : MavlinkEndpointEntry) :
    EndpointView sameEnv sameEndpoint target world (attemptEndpoint epName epSpec world).2 := by
  have added : EndpointView sameEnv sameEndpoint target world
      (addMavlinkEndpoint epName world).2 := by
    rcases addMavlinkEndpoint_cases epName world with ⟨_, _, same⟩ | ⟨_, _, effect⟩
    · rw [same]
      exact (endpointView_equivalence unentangled target).refl world
    · rw [effect]
      exact view_registered_of_ne unentangled reachable different
  have reachableAdded : (addMavlinkEndpoint epName world).2.Reachable :=
    reachable.perform (.invoke (.addMavlinkEndpoint epName) 0)
  rw [attemptEndpoint]
  dsimp only
  split_ifs
  · exact (endpointView_equivalence unentangled target).trans added
      (view_connect_of_ne unentangled reachableAdded different _ _)
  · exact added

/-- The endpoint entries of a plan are independent. -/
theorem endpoints_independent (unentangled : sdk.Unentangled sameEnv sameEndpoint)
    (validation : StringMap OperationResult) (discardPlan : Bool)
    (entries : List (Σ _ : String, MavlinkEndpointEntry)) :
    Independent (executeEndpointEntry validation discardPlan) entries World.Reachable
      (EndpointView sameEnv sameEndpoint) where
  equivalence := endpointView_equivalence unentangled
  kept entry _ world reachable := by
    rcases executeEndpointEntry_cases validation discardPlan entry.1 entry.2 with
      ⟨result, skips⟩ | attempts
    · rw [skips]
      exact reachable
    · rw [attempts]
      exact reachable_attemptEndpoint reachable entry.1 entry.2
  determined entry _ world twin _ _ view := by
    rcases executeEndpointEntry_cases validation discardPlan entry.1 entry.2 with
      ⟨result, skips⟩ | attempts
    · rw [skips, skips]
      exact ⟨rfl, view⟩
    · rw [attempts, attempts]
      exact view_attemptEndpoint unentangled view entry.2
  apart entry _ target different world reachable := by
    rcases executeEndpointEntry_cases validation discardPlan entry.1 entry.2 with
      ⟨result, skips⟩ | attempts
    · rw [skips]
      exact (endpointView_equivalence unentangled target).refl world
    · rw [attempts]
      exact view_attemptEndpoint_of_ne unentangled reachable different entry.2

/-! ### Agent entries -/

/-- What an agent entry sees of a world. -/
structure AgentView (sameEnv : sdk.Env → sdk.Env → Prop)
    (sameEndpoint : sdk.Endpoint → sdk.Endpoint → Prop) (agName : String)
    (world twin : World sdk) : Prop where
  alike : AlikeEndpoints sameEnv sameEndpoint world twin
  counters : ∀ target,
    counterAt world.endpointDb target agName = counterAt twin.endpointDb target agName
  agentRegistry : world.agentRegistry = twin.agentRegistry
  agent : (world.agents.lookup agName).map (fun agent => (agent.definition, agent.object)) =
    (twin.agents.lookup agName).map fun agent => (agent.definition, agent.object)

theorem agentView_equivalence (unentangled : sdk.Unentangled sameEnv sameEndpoint)
    (agName : String) : Equivalence (AgentView sameEnv sameEndpoint agName) where
  refl _ := ⟨(alikeEndpoints_equivalence unentangled).refl _, fun _ => rfl, rfl, rfl⟩
  symm view := ⟨(alikeEndpoints_equivalence unentangled).symm view.alike,
    fun target => (view.counters target).symm, view.agentRegistry.symm, view.agent.symm⟩
  trans front back := ⟨(alikeEndpoints_equivalence unentangled).trans front.alike back.alike,
    fun target => (front.counters target).trans (back.counters target),
    front.agentRegistry.trans back.agentRegistry, front.agent.trans back.agent⟩

theorem undisturbed_destroyHandles (unentangled : sdk.Unentangled sameEnv sameEndpoint)
    (owner : AgentId) (world : World sdk) :
    Undisturbed sameEnv sameEndpoint world (world.destroyHandles owner) := by
  rw [World.destroyHandles]
  generalize world.ownedPlaces owner = places
  induction places generalizing world with
  | nil => exact .of_eq unentangled rfl rfl
  | cons place rest inductionHypothesis =>
    exact (Undisturbed.assign unentangled place none world).trans unentangled
      (inductionHypothesis _)

theorem undisturbed_createAgent (unentangled : sdk.Unentangled sameEnv sameEndpoint)
    (name : String) (definition : sdk.AgentDefinition) (parsed : sdk.AgentConfig)
    (world : World sdk) :
    Undisturbed sameEnv sameEndpoint world (createAgent name definition parsed world).2 := by
  have created : Undisturbed sameEnv sameEndpoint world
      ((sdk.create definition parsed).run world.nextAgent ⟨name⟩
        (creating definition parsed world)).2 := by
    obtain ⟨env, endpoints⟩ := Undisturbed.code unentangled (unentangled.create definition parsed)
      world.nextAgent ⟨name⟩ (creating definition parsed world)
    exact ⟨env, endpoints⟩
  rcases createAgent_cases name definition parsed world with ⟨object, _, made⟩ | ⟨_, made⟩
  · rw [made]
    exact created
  · rw [made]
    exact created.trans unentangled (undisturbed_destroyHandles unentangled _ _)

theorem undisturbed_addAgent (unentangled : sdk.Unentangled sameEnv sameEndpoint)
    (name type : String) (config : Config) (world : World sdk) :
    Undisturbed sameEnv sameEndpoint world (addAgent name type config world).2 := by
  rcases addAgent_cases name type config world with
    ⟨_, _, same⟩ | ⟨definition, parsed, _, ⟨_, _, effect⟩ | ⟨agent, _, _, effect⟩⟩
  · rw [same]
    exact .of_eq unentangled rfl rfl
  · rw [effect]
    exact undisturbed_createAgent unentangled name definition parsed world
  · obtain ⟨env, endpoints⟩ := undisturbed_createAgent unentangled name definition parsed world
    rw [effect]
    exact ⟨env, endpoints⟩

theorem undisturbed_startAgent (unentangled : sdk.Unentangled sameEnv sameEndpoint)
    (name : String) (world : World sdk) :
    Undisturbed sameEnv sameEndpoint world (startAgent name world).2 := by
  rcases startAgent_cases name world with ⟨_, _, same⟩ | ⟨agent, _, _, effect⟩
  · rw [same]
    exact .of_eq unentangled rfl rfl
  · obtain ⟨env, endpoints⟩ := Undisturbed.code unentangled (unentangled.start agent.object)
      agent.id ⟨name⟩ (world.record (.start agent.id))
    rw [effect]
    exact ⟨env, endpoints⟩

theorem undisturbed_attemptAgent (unentangled : sdk.Unentangled sameEnv sameEndpoint)
    (agName : String) (agSpec : AgentEntry) (world : World sdk) :
    Undisturbed sameEnv sameEndpoint world (attemptAgent agName agSpec world).2 :=
  attemptAgent_relates (Undisturbed sameEnv sameEndpoint) (fun front => front.trans unentangled)
    (undisturbed_addAgent unentangled) (undisturbed_startAgent unentangled) agName agSpec world

/-- An agent entry changes no registration of an endpoint, and only its own counters. -/
theorem endpoints_attemptAgent (reachable : world.Reachable) (agName : String)
    (agSpec : AgentEntry) :
    (∀ target, instanceAt (attemptAgent agName agSpec world).2.endpointDb target =
        instanceAt world.endpointDb target) ∧
      ∀ target requester, requester ≠ agName →
        counterAt (attemptAgent agName agSpec world).2.endpointDb target requester =
          counterAt world.endpointDb target requester := by
  have ownedAdded := owned_addAgent reachable.owned agName agSpec.type agSpec.config
  rw [attemptAgent]
  rcases addAgent_cases agName agSpec.type agSpec.config world with
    ⟨_, failed, same⟩ |
      ⟨definition, parsed, _, ⟨none, failed, effect⟩ | ⟨agent, some, succeeded, effect⟩⟩
  · simp [failed, same]
  · have endpointDb :=
      endpointDb_createAgent_of_none reachable.owned reachable.sound.positive none
    simp [failed, effect, endpointDb]
  · have adds := addsAgent_addAgent reachable.owned some
    rw [← effect] at adds
    simp only [succeeded, Bool.true_and]
    split_ifs
    · have started := adds.start ownedAdded
      exact ⟨started.instances, started.counters⟩
    · exact ⟨adds.instances, adds.counters⟩

/-- What is done for an agent entry is not seen by another agent. -/
theorem view_attemptAgent_of_ne (unentangled : sdk.Unentangled sameEnv sameEndpoint)
    (reachable : world.Reachable) {agName target : String} (different : target ≠ agName)
    (agSpec : AgentEntry) :
    AgentView sameEnv sameEndpoint target world (attemptAgent agName agSpec world).2 := by
  obtain ⟨instances, counters⟩ := endpoints_attemptAgent reachable agName agSpec
  have spares : SparesAgents (· = agName) world (attemptAgent agName agSpec world).2 :=
    sparesAgents_attempt (by rfl) reachable.owned agSpec
  refine ⟨(undisturbed_attemptAgent unentangled agName agSpec world).alike instances,
    fun name => (counters name target different).symm, spares.agentRegistry.symm, ?_⟩
  rw [spares.agents target different]

theorem World.Owned.empty_next (owned : world.Owned) (slot : Nat) :
    world.handles.lookup ⟨some world.nextAgent, slot⟩ = none := by
  cases held : world.handles.lookup ⟨some world.nextAgent, slot⟩ with
  | none => rfl
  | some user =>
    exact absurd (owned.created _ _ (owned.held _ _ _ held rfl)) (Nat.lt_irrefl _)

/-- Where `create` starts to run, the worlds are twins, since a new agent holds nothing. -/
theorem twins_creating
    (owned : world.Owned) (ownedTwin : twin.Owned) {agName : String}
    (view : AgentView sameEnv sameEndpoint agName world twin) (definition : sdk.AgentDefinition)
    (parsed : sdk.AgentConfig) :
    Twins sameEnv sameEndpoint agName world.nextAgent twin.nextAgent
      (creating definition parsed world) (creating definition parsed twin) := by
  refine ⟨⟨view.alike.env, view.alike.registered, view.alike.objects⟩, view.counters,
    fun slot => ?_⟩
  show Option.Rel _ (world.handles.lookup _) (twin.handles.lookup _)
  rw [owned.empty_next, ownedTwin.empty_next]
  exact .none

/-- Both worlds create the agent, with the same object, or neither does. -/
theorem createAgent_twins (unentangled : sdk.Unentangled sameEnv sameEndpoint)
    (owned : world.Owned) (ownedTwin : twin.Owned) {agName : String}
    (view : AgentView sameEnv sameEndpoint agName world twin) (definition : sdk.AgentDefinition)
    (parsed : sdk.AgentConfig) :
    ((createAgent agName definition parsed world).1 = none ∧
        (createAgent agName definition parsed twin).1 = none) ∨
      ∃ object,
        (createAgent agName definition parsed world).1 =
            some ⟨world.nextAgent, definition, object⟩ ∧
          (createAgent agName definition parsed twin).1 =
            some ⟨twin.nextAgent, definition, object⟩ ∧
          Twins sameEnv sameEndpoint agName world.nextAgent twin.nextAgent
            (createAgent agName definition parsed world).2
            (createAgent agName definition parsed twin).2 := by
  obtain ⟨sameResult, twins⟩ := Twins.code unentangled (unentangled.create definition parsed)
    (twins_creating owned ownedTwin view definition parsed)
  rcases createAgent_cases agName definition parsed world with ⟨object, ran, made⟩ | ⟨ran, made⟩ <;>
    rcases createAgent_cases agName definition parsed twin with
      ⟨objectTwin, ranTwin, madeTwin⟩ | ⟨ranTwin, madeTwin⟩
  · obtain rfl : object = objectTwin :=
      Option.some_inj.mp ((ran.symm.trans sameResult).trans ranTwin)
    rw [made, madeTwin]
    exact Or.inr ⟨object, rfl, rfl, twins⟩
  · exact absurd ((ran.symm.trans sameResult).trans ranTwin) (Option.some_ne_none _)
  · exact absurd ((ran.symm.trans sameResult).trans ranTwin) (Option.some_ne_none _).symm
  · rw [made, madeTwin]
    exact Or.inl ⟨rfl, rfl⟩

/-- A creation that fails in both worlds is seen in neither. -/
theorem view_createAgent_of_none (unentangled : sdk.Unentangled sameEnv sameEndpoint)
    (reachable : world.Reachable) (reachableTwin : twin.Reachable) {agName : String}
    (view : AgentView sameEnv sameEndpoint agName world twin)
    {definition : sdk.AgentDefinition} {parsed : sdk.AgentConfig}
    (none : (createAgent agName definition parsed world).1 = none)
    (noneTwin : (createAgent agName definition parsed twin).1 = .none) :
    AgentView sameEnv sameEndpoint agName (createAgent agName definition parsed world).2
      (createAgent agName definition parsed twin).2 := by
  have unseen {world : World sdk} (reachable : world.Reachable)
      (none : (createAgent agName definition parsed world).1 = .none) :
      AgentView sameEnv sameEndpoint agName world
        (createAgent agName definition parsed world).2 := by
    obtain ⟨frame, _, _⟩ := frame_createAgent reachable.owned agName definition parsed
    have endpointDb :=
      endpointDb_createAgent_of_none reachable.owned reachable.sound.positive none
    refine ⟨(undisturbed_createAgent unentangled agName definition parsed world).alike fun _ => ?_,
      fun _ => ?_, frame.agentRegistry.symm, ?_⟩
    · rw [endpointDb]
    · rw [endpointDb]
    · rw [frame.agents]
      rfl
  have equivalence := agentView_equivalence unentangled agName
  exact equivalence.trans (equivalence.symm (unseen reachable none))
    (equivalence.trans view (unseen reachableTwin noneTwin))

/-- An agent is added in both worlds, or refused in both. -/
theorem view_addAgent (unentangled : sdk.Unentangled sameEnv sameEndpoint)
    (reachable : world.Reachable) (reachableTwin : twin.Reachable) {agName : String}
    (view : AgentView sameEnv sameEndpoint agName world twin) (type : String) (config : Config) :
    (addAgent agName type config world).1 = (addAgent agName type config twin).1 ∧
      AgentView sameEnv sameEndpoint agName (addAgent agName type config world).2
        (addAgent agName type config twin).2 ∧
      ((addAgent agName type config world).1.success = true →
        ∃ definition object owner other,
          (addAgent agName type config world).2.agents.lookup agName =
              some ⟨owner, definition, object⟩ ∧
            (addAgent agName type config twin).2.agents.lookup agName =
              some ⟨other, definition, object⟩ ∧
            Twins sameEnv sameEndpoint agName owner other (addAgent agName type config world).2
              (addAgent agName type config twin).2) := by
  have sameAgent := view.agent
  rw [addAgent, addAgent, ← view.agentRegistry]
  cases stored : world.agents.lookup agName <;>
    cases storedTwin : twin.agents.lookup agName <;> rw [stored, storedTwin] at sameAgent
  · cases known : world.agentRegistry.definitionAt type with
    | none => exact ⟨rfl, view, fun success => absurd success Bool.false_ne_true⟩
    | some definition =>
      dsimp only
      cases accepted : (sdk.parseConfig definition config).parsed with
      | none => exact ⟨rfl, view, fun success => absurd success Bool.false_ne_true⟩
      | some parsed =>
        obtain ⟨frame, _, _⟩ := frame_createAgent reachable.owned agName definition parsed
        obtain ⟨frameTwin, _, _⟩ := frame_createAgent reachableTwin.owned agName definition parsed
        rcases createAgent_twins unentangled reachable.owned reachableTwin.owned view definition
          parsed with ⟨none, noneTwin⟩ | ⟨object, some, someTwin, twins⟩
        · have unseen := view_createAgent_of_none unentangled reachable reachableTwin view none
            noneTwin
          simp only [none, noneTwin]
          exact ⟨trivial, unseen, fun success => absurd success Bool.false_ne_true⟩
        · simp only [some, someTwin]
          have added := twins.withAgents unentangled
            ((createAgent agName definition parsed world).2.agents.insert agName
              ⟨world.nextAgent, definition, object⟩)
            ((createAgent agName definition parsed twin).2.agents.insert agName
              ⟨twin.nextAgent, definition, object⟩)
          refine ⟨trivial, ⟨added.alike, added.counters, ?_, ?_⟩, fun _ =>
            ⟨definition, object, world.nextAgent, twin.nextAgent, Finmap.lookup_insert _,
              Finmap.lookup_insert _, added⟩⟩
          · exact frame.agentRegistry.trans (view.agentRegistry.trans frameTwin.agentRegistry.symm)
          · rw [Finmap.lookup_insert, Finmap.lookup_insert]
            rfl
  · cases sameAgent
  · cases sameAgent
  · exact ⟨rfl, view, fun success => absurd success Bool.false_ne_true⟩

/-- Agents that look the same report the same state. -/
theorem AgentView.getAgentState (unentangled : sdk.Unentangled sameEnv sameEndpoint)
    {agName : String} (view : AgentView sameEnv sameEndpoint agName world twin) :
    getAgentState agName world = getAgentState agName twin := by
  have sameAgent := congrArg (Option.map fun seen => sdk.getAgentState world.env seen.2) view.agent
  rw [Option.map_map, Option.map_map] at sameAgent
  rw [Manager.getAgentState, Manager.getAgentState]
  refine sameAgent.trans (congrArg (fun read => Option.map read (twin.agents.lookup agName))
    (funext fun agent => ?_))
  exact unentangled.getAgentState _ _ agent.object view.alike.env

/-- Steady code of an agent that looks the same in both worlds takes the same course. -/
theorem view_runAgent (unentangled : sdk.Unentangled sameEnv sameEndpoint)
    (owned : world.Owned) (ownedTwin : twin.Owned) {agName : String} {Answer : Type}
    (sameRegistry : world.agentRegistry = twin.agentRegistry)
    {definition : sdk.AgentDefinition} {object : sdk.Agent} {owner other : AgentId}
    (stored : world.agents.lookup agName = some ⟨owner, definition, object⟩)
    (storedTwin : twin.agents.lookup agName = some ⟨other, definition, object⟩)
    (twins : Twins sameEnv sameEndpoint agName owner other world twin)
    {code : sdk.Agent → AgentCode sdk.toSdkTypes (sdk.Agent × Answer)}
    (steady : (code object).Steady sameEnv sameEndpoint) :
    (runAgent agName ⟨owner, definition, object⟩ code world).1 =
        (runAgent agName ⟨other, definition, object⟩ code twin).1 ∧
      AgentView sameEnv sameEndpoint agName
        (runAgent agName ⟨owner, definition, object⟩ code world).2
        (runAgent agName ⟨other, definition, object⟩ code twin).2 := by
  obtain ⟨frame, _⟩ := frame_code (code object) (owned.holdsAs (agentAt_of_lookup stored))
  obtain ⟨frameTwin, _⟩ :=
    frame_code (code object) (ownedTwin.holdsAs (agentAt_of_lookup storedTwin))
  obtain ⟨sameResult, ran⟩ := twins.code unentangled steady
  have kept := ran.withAgents unentangled
    (runAgent agName ⟨owner, definition, object⟩ code world).2.agents
    (runAgent agName ⟨other, definition, object⟩ code twin).2.agents
  refine ⟨congrArg Prod.snd sameResult, kept.alike, kept.counters, ?_, ?_⟩
  · exact frame.agentRegistry.trans (sameRegistry.trans frameTwin.agentRegistry.symm)
  · rw [runAgent, runAgent]
    dsimp only
    rw [Finmap.lookup_insert, Finmap.lookup_insert, Option.map_some, Option.map_some]
    exact congrArg (fun result : sdk.Agent × Answer => some (definition, result.1)) sameResult

/-- An agent that looks the same in both worlds starts in the same way. -/
theorem view_startAgent (unentangled : sdk.Unentangled sameEnv sameEndpoint)
    (owned : world.Owned) (ownedTwin : twin.Owned) {agName : String}
    (sameRegistry : world.agentRegistry = twin.agentRegistry)
    {definition : sdk.AgentDefinition} {object : sdk.Agent} {owner other : AgentId}
    (stored : world.agents.lookup agName = some ⟨owner, definition, object⟩)
    (storedTwin : twin.agents.lookup agName = some ⟨other, definition, object⟩)
    (twins : Twins sameEnv sameEndpoint agName owner other world twin) :
    (startAgent agName world).1 = (startAgent agName twin).1 ∧
      AgentView sameEnv sameEndpoint agName (startAgent agName world).2
        (startAgent agName twin).2 := by
  have recorded : Twins sameEnv sameEndpoint agName owner other (world.record (.start owner))
      (twin.record (.start other)) :=
    twins.step unentangled (.of_eq unentangled rfl rfl) (.of_eq unentangled rfl rfl) rfl rfl rfl rfl
  obtain ⟨sameAnswer, started⟩ := view_runAgent unentangled (owned_record owned _)
    (owned_record ownedTwin _) sameRegistry stored storedTwin recorded (unentangled.start object)
  have sameState := started.getAgentState unentangled
  rw [startAgent, startAgent, stored, storedTwin]
  dsimp only
  rw [← sameAnswer, ← sameState]
  split_ifs <;> exact ⟨rfl, started⟩

/-- What is done for an agent entry depends on what the agent sees. -/
theorem view_attemptAgent (unentangled : sdk.Unentangled sameEnv sameEndpoint)
    (reachable : world.Reachable) (reachableTwin : twin.Reachable) {agName : String}
    (view : AgentView sameEnv sameEndpoint agName world twin) (agSpec : AgentEntry) :
    (attemptAgent agName agSpec world).1 = (attemptAgent agName agSpec twin).1 ∧
      AgentView sameEnv sameEndpoint agName (attemptAgent agName agSpec world).2
        (attemptAgent agName agSpec twin).2 := by
  obtain ⟨sameAdd, added, registered⟩ :=
    view_addAgent unentangled reachable reachableTwin view agSpec.type agSpec.config
  have owned := owned_addAgent reachable.owned agName agSpec.type agSpec.config
  have ownedTwin := owned_addAgent reachableTwin.owned agName agSpec.type agSpec.config
  rw [attemptAgent, attemptAgent]
  dsimp only
  rw [← sameAdd]
  split_ifs with starts
  · obtain ⟨definition, object, owner, other, stored, storedTwin, twins⟩ :=
      registered (Bool.and_eq_true_iff.mp starts).1
    obtain ⟨sameStart, started⟩ := view_startAgent unentangled owned ownedTwin
      added.agentRegistry stored storedTwin twins
    exact ⟨by rw [sameStart], started⟩
  · exact ⟨rfl, added⟩

/-- The agent entries of a plan are independent. -/
theorem agents_independent (unentangled : sdk.Unentangled sameEnv sameEndpoint)
    (validation : StringMap OperationResult) (discardPlan : Bool)
    (entries : List (Σ _ : String, AgentEntry)) :
    Independent (executeAgentEntry validation discardPlan) entries World.Reachable
      (AgentView sameEnv sameEndpoint) where
  equivalence := agentView_equivalence unentangled
  kept entry _ world reachable := by
    rcases executeAgentEntry_cases validation discardPlan entry.1 entry.2 with
      ⟨result, skips⟩ | attempts
    · rw [skips]
      exact reachable
    · rw [attempts]
      exact reachable_attemptAgent reachable entry.1 entry.2
  determined entry _ world twin reachable reachableTwin view := by
    rcases executeAgentEntry_cases validation discardPlan entry.1 entry.2 with
      ⟨result, skips⟩ | attempts
    · rw [skips, skips]
      exact ⟨rfl, view⟩
    · rw [attempts, attempts]
      exact view_attemptAgent unentangled reachable reachableTwin view entry.2
  apart entry _ target different world reachable := by
    rcases executeAgentEntry_cases validation discardPlan entry.1 entry.2 with
      ⟨result, skips⟩ | attempts
    · rw [skips]
      exact (agentView_equivalence unentangled target).refl world
    · rw [attempts]
      exact view_attemptAgent_of_ne unentangled reachable different entry.2

end MavlinkHub
