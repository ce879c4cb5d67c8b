/-
This file takes every operation of the manager apart, once, into elementary steps. Those
on endpoints and handles leave the agents alone: the hidden state moves, an endpoint
comes, goes or is used, a reference is counted or released, a place is assigned. Those on
agents say which object a member function is about to run for, or write the agents down.
All agent code consists of the former.

What is closed under the elementary steps and is transitive then holds of every
operation, of the execution of a plan, and of a run.
-/

import MavlinkHub.AgentConfigs
import Mathlib.Logic.Relation

namespace MavlinkHub

open Manager Relation

variable {sdk : Sdk} {name : String} {world before after : World sdk}

/-! ### The steps -/

/-- A call of a member function of an endpoint object. -/
def Event.Uses (endpoint : EndpointId) : Event sdk → Prop
  | .connect used _ _ => used = endpoint
  | .disconnect used => used = endpoint
  | .endpointCall used _ => used = endpoint
  | _ => False

/-- A definition is registered. -/
def World.Offers (world : World sdk) (definition : sdk.AgentDefinition) : Prop :=
  ∃ key, world.agentRegistry.definitionAt key = some definition

/-- An event before a member function of an agent: which one it is, and for `configure` that
what it is given was parsed by a definition that is registered. -/
def World.Announces (world : World sdk) : Event sdk → Prop
  | .start _ => True
  | .stop _ => True
  | .configure _ parsedBy _ => world.Offers parsedBy
  | _ => False

/-- An elementary step on endpoints and handles. -/
inductive EndpointStep : World sdk → World sdk → Prop
  | environment (step : sdk.Env → sdk.Env) (world : World sdk) :
      EndpointStep world { world with env := step world.env }
  | register (name : String) (world : World sdk) : EndpointStep world (registered name world)
  | unregister {entry : EndpointEntry} {world : World sdk} (name : String)
      (alive : entry.endpoint ∈ world.endpoints) :
      EndpointStep world (unregistered name entry world)
  | use {Answer : Type} {endpoint : EndpointId} {world : World sdk} (event : Event sdk)
      (alive : endpoint ∈ world.endpoints) (uses : event.Uses endpoint)
      (use : sdk.Env → sdk.Endpoint → Answer × sdk.Endpoint × sdk.Env) :
      EndpointStep world ((world.record event).useEndpoint endpoint use).2
  | issue (endpointName requester : String) (world : World sdk) :
      EndpointStep world (createMavlinkEndpointUser endpointName requester world).2
  | release (endpointName requester : String) (world : World sdk) :
      EndpointStep world (removeMavlinkEndpointUser endpointName requester world).2
  | assign (place : Place) (user : Option MavlinkEndpointUser) (world : World sdk) :
      EndpointStep world (world.assign place user)
  | take (place : Place) (world : World sdk) :
      EndpointStep world { world with handles := world.handles.erase place }

/-- An elementary step on agents. -/
inductive AgentStep : World sdk → World sdk → Prop
  | create {definition : sdk.AgentDefinition} {world : World sdk} (parsed : sdk.AgentConfig)
      (offered : world.Offers definition) : AgentStep world (creating definition parsed world)
  | announce {event : Event sdk} {world : World sdk} (announces : world.Announces event) :
      AgentStep world (world.record event)
  | destroy (name : String) (agent : AgentInstance sdk) (world : World sdk) :
      AgentStep world (destroying name agent world)
  | write (agents : StringMap (AgentInstance sdk)) (world : World sdk) :
      AgentStep world { world with agents := agents }

/-- An elementary step. -/
def ElementaryStep (before after : World sdk) : Prop :=
  EndpointStep before after ∨ AgentStep before after

/-- A sequence of elementary steps on endpoints and handles. -/
abbrev EndpointSteps : World sdk → World sdk → Prop := ReflTransGen EndpointStep

/-- A sequence of elementary steps. -/
abbrev ElementarySteps : World sdk → World sdk → Prop := ReflTransGen ElementaryStep

theorem elementarySteps_of (steps : EndpointSteps before after) :
    ElementarySteps before after := ReflTransGen.mono (fun _ _ => Or.inl) _ _ steps

theorem AgentStep.elementary (step : AgentStep before after) : ElementarySteps before after :=
  .single (.inr step)

/-- A reflexive and transitive relation that contains the steps contains their sequences. -/
theorem relates_of_steps {step related : World sdk → World sdk → Prop}
    (reflexive : ∀ world, related world world)
    (transitive : ∀ {one two three}, related one two → related two three → related one three)
    (contains : ∀ {before after}, step before after → related before after)
    (steps : ReflTransGen step before after) : related before after := by
  induction steps with
  | refl => exact reflexive before
  | tail _ last inductionHypothesis => exact transitive inductionHypothesis (contains last)

/-! ### Handles and agent code -/

/-- All that an assignment logs is the destruction of a handle. -/
theorem World.mem_releaseEvents {old : Option MavlinkEndpointUser}
    {endpointDb : StringMap EndpointEntry} {event : Event sdk}
    (member : event ∈ World.releaseEvents old endpointDb) :
    ∃ user registered, event = .destroyUser user registered := by
  cases old with
  | none => exact absurd member List.not_mem_nil
  | some user => exact ⟨user, _, List.mem_singleton.mp member⟩

theorem endpointSteps_call (request : EndpointCall sdk.toSdkTypes) (user : MavlinkEndpointUser)
    (world : World sdk) : EndpointSteps world (user.call request world).2 := by
  cases alive : world.endpoints.lookup user.endpoint with
  | none =>
    rw [call_of_gone (Finmap.lookup_eq_none.mp alive)]
  | some object =>
    have reached : (user.call request world).2 =
        ((world.record (.endpointCall user.endpoint request)).useEndpoint user.endpoint
          (sdk.answer request)).2 := by
      rw [call_of_alive alive, World.useEndpoint_record_of_alive alive]
      rfl
    rw [reached]
    exact .single (.use (.endpointCall user.endpoint request)
      (Finmap.mem_of_lookup_eq_some alive) rfl _)

/-- One access of agent code. -/
theorem endpointSteps_action (self : AgentId) (requester : ManagerResourceRequester)
    (action : AgentAction sdk.toSdkTypes) (world : World sdk) :
    EndpointSteps world (action.perform self requester world) := by
  cases action with
  | internal step => exact .single (.environment step world)
  | requestMavlinkEndpoint slot epName =>
    exact .tail (.single (.issue epName requester.name world)) (.assign _ _ _)
  | reset slot => exact .single (.assign _ none world)
  | call slot request =>
    rw [AgentAction.perform]
    cases world.handles.lookup ⟨some self, slot⟩ with
    | none => exact .refl
    | some user => exact endpointSteps_call request user world

theorem endpointSteps_code {Result : Type} (self : AgentId)
    (requester : ManagerResourceRequester) (code : AgentCode sdk.toSdkTypes Result)
    (world : World sdk) : EndpointSteps world (code.run self requester world).2 :=
  code.run_relates EndpointSteps (fun _ => .refl) .trans (endpointSteps_action self requester)
    world

theorem endpointSteps_destroyHandles (self : AgentId) (world : World sdk) :
    EndpointSteps world (world.destroyHandles self) := by
  obtain ⟨actions, run⟩ := world.destroyHandles_actions self ⟨""⟩
  refine run.relates EndpointSteps (fun _ => .refl) .trans fun before action after taken => ?_
  rw [← taken]
  exact endpointSteps_action self ⟨""⟩ action before

theorem endpointSteps_keep (slot : Nat) (user : Option MavlinkEndpointUser)
    (world : World sdk) : EndpointSteps world (world.keep slot user) := by
  cases user with
  | none => exact .refl
  | some user => exact .single (.assign ⟨none, slot⟩ (some user) world)

theorem endpointSteps_moveUser (source : Place) (slot : Nat) (world : World sdk) :
    EndpointSteps world (world.moveUser source slot) := by
  rw [World.moveUser]
  cases world.handles.lookup source with
  | none => exact .refl
  | some user =>
    dsimp only
    split_ifs
    · exact .refl
    · exact .tail (.single (.take source world)) (.assign ⟨none, slot⟩ (some user) _)

/-! ### Operations on endpoints -/

theorem endpointSteps_addMavlinkEndpoint (name : String) (world : World sdk) :
    EndpointSteps world (addMavlinkEndpoint name world).2 := by
  rcases addMavlinkEndpoint_cases name world with ⟨_, _, same⟩ | ⟨_, _, effect⟩
  · rw [same]
  · rw [effect]
    exact .single (.register name world)

/-- The endpoint of an entry is there. -/
theorem present_of_entry {entry : EndpointEntry} (sound : world.ledger.Sound)
    (registered : world.endpointDb.lookup name = some entry) :
    entry.endpoint ∈ world.endpoints :=
  Finmap.mem_keys.mp ((sound.alive entry.endpoint).mpr ⟨name, instanceAt_of_lookup registered⟩)

theorem endpointSteps_connectMavlinkEndpoint (sound : world.ledger.Sound) (name type : String)
    (config : Config) :
    EndpointSteps world (connectMavlinkEndpoint name type config world).2 := by
  rcases connectMavlinkEndpoint_cases name type config world with
    ⟨_, _, same⟩ | ⟨entry, registered, _, effect⟩
  · rw [same]
  · rw [effect]
    exact .single (.use (.connect entry.endpoint type config)
      (present_of_entry sound registered) rfl _)

theorem endpointSteps_disconnectMavlinkEndpoint (sound : world.ledger.Sound) (name : String) :
    EndpointSteps world (disconnectMavlinkEndpoint name world).2 := by
  rcases disconnectMavlinkEndpoint_cases name world with
    ⟨_, _, same⟩ | ⟨entry, registered, effect⟩
  · rw [same]
  · rw [effect]
    exact .single (.use (.disconnect entry.endpoint) (present_of_entry sound registered) rfl _)

theorem endpointSteps_removeMavlinkEndpoint (sound : world.ledger.Sound) (name : String) :
    EndpointSteps world (removeMavlinkEndpoint name world).2 := by
  rcases removeMavlinkEndpoint_cases name world with
    ⟨_, _, same⟩ | ⟨entry, registered, _, effect⟩
  · rw [same]
  · rw [effect]
    exact .single (.unregister name (present_of_entry sound registered))

/-! ### Operations on agents -/

/-- A member function of a registered agent, after the event that announces it. -/
theorem elementarySteps_runAgent {Answer : Type} (name : String) (agent : AgentInstance sdk)
    (code : sdk.Agent → AgentCode sdk.toSdkTypes (sdk.Agent × Answer)) (world : World sdk) :
    ElementarySteps world (runAgent name agent code world).2 :=
  (elementarySteps_of (endpointSteps_code agent.id ⟨name⟩ (code agent.object) world)).tail
    (.inr (.write _ _))

theorem elementarySteps_createAgent {definition : sdk.AgentDefinition}
    (offered : world.Offers definition) (name : String) (parsed : sdk.AgentConfig) :
    ElementarySteps world (createAgent name definition parsed world).2 := by
  have ran : ElementarySteps world ((sdk.create definition parsed).run world.nextAgent ⟨name⟩
      (creating definition parsed world)).2 :=
    (AgentStep.create parsed offered).elementary.trans
      (elementarySteps_of (endpointSteps_code _ _ _ _))
  rcases createAgent_cases name definition parsed world with ⟨_, _, made⟩ | ⟨_, made⟩
  · rw [made]
    exact ran
  · rw [made]
    exact ran.trans (elementarySteps_of (endpointSteps_destroyHandles _ _))

theorem elementarySteps_addAgent (name type : String) (config : Config) (world : World sdk) :
    ElementarySteps world (addAgent name type config world).2 := by
  rcases addAgent_cases name type config world with
    ⟨_, _, same⟩ | ⟨definition, parsed, ⟨_, known, _⟩, ⟨_, _, failed⟩ | ⟨agent, _, _, added⟩⟩
  · rw [same]
  · rw [failed]
    exact elementarySteps_createAgent ⟨type, known⟩ name parsed
  · rw [added]
    exact (elementarySteps_createAgent ⟨type, known⟩ name parsed).tail (.inr (.write _ _))

theorem elementarySteps_editAgent (name type : String) (config : Config) (world : World sdk) :
    ElementarySteps world (editAgent name type config world).2 := by
  rcases editAgent_cases name type config world with
    ⟨_, _, same⟩ | ⟨agent, definition, parsed, ⟨_, known, _⟩, edited⟩
  · rw [same]
  · have announced : AgentStep world (world.record (.configure agent.id definition parsed)) :=
      .announce ⟨type, known⟩
    rw [edited]
    exact announced.elementary.trans (elementarySteps_runAgent _ _ _ _)

theorem elementarySteps_startAgent (name : String) (world : World sdk) :
    ElementarySteps world (startAgent name world).2 := by
  rcases startAgent_cases name world with ⟨_, _, same⟩ | ⟨agent, _, _, started⟩
  · rw [same]
  · have announced : AgentStep world (world.record (.start agent.id)) := .announce trivial
    rw [started]
    exact announced.elementary.trans (elementarySteps_runAgent _ _ _ _)

theorem elementarySteps_stopAgent (name : String) (world : World sdk) :
    ElementarySteps world (stopAgent name world).2 := by
  rcases stopAgent_cases name world with ⟨_, _, same⟩ | ⟨agent, _, stopped⟩
  · rw [same]
  · have announced : AgentStep world (world.record (.stop agent.id)) := .announce trivial
    rw [stopped]
    exact announced.elementary.trans (elementarySteps_runAgent _ _ _ _)

theorem elementarySteps_removeAgent (name : String) (world : World sdk) :
    ElementarySteps world (removeAgent name world).2 := by
  rcases removeAgent_cases name world with ⟨_, _, same⟩ | ⟨agent, _, _, removed⟩
  · rw [same]
  · rw [removed]
    exact (AgentStep.destroy name agent world).elementary.trans
      (elementarySteps_of ((endpointSteps_code _ _ _ _).trans (endpointSteps_destroyHandles _ _)))

/-! ### All operations -/

theorem Accounted.sound (account : Accounted True before after)
    (sound : before.ledger.Sound) : after.ledger.Sound := by
  obtain ⟨events, _, moves, run, _, _⟩ := account
  exact sound.run run

/-- Elementary steps that lead from a sound state to a sound one. -/
def SoundSteps (before after : World sdk) : Prop :=
  before.ledger.Sound → after.ledger.Sound ∧ ElementarySteps before after

theorem SoundSteps.refl (world : World sdk) : SoundSteps world world :=
  fun sound => ⟨sound, .refl⟩

theorem SoundSteps.trans {between : World sdk} (front : SoundSteps before between)
    (back : SoundSteps between after) : SoundSteps before after := by
  intro sound
  obtain ⟨soundBetween, frontSteps⟩ := front sound
  obtain ⟨soundAfter, backSteps⟩ := back soundBetween
  exact ⟨soundAfter, frontSteps.trans backSteps⟩

theorem SoundSteps.of_accounted (account : Accounted True before after)
    (steps : before.ledger.Sound → ElementarySteps before after) : SoundSteps before after :=
  fun sound => ⟨account.sound sound, steps sound⟩

/-- A plan is executed in elementary steps, each operation of it in a sound state. -/
theorem elementarySteps_executePlan (sound : world.ledger.Sound) (plan : UserPlan) :
    ElementarySteps world (executePlan plan world).2 := by
  refine (executePlan_relates SoundSteps .trans .refl
    (attemptEndpoint_relates SoundSteps .trans (fun name world => ?_)
      fun name type config world => ?_)
    (attemptAgent_relates SoundSteps .trans (fun name type config world => ?_)
      fun name world => ?_) world sound).2
  · exact .of_accounted (accounted_addMavlinkEndpoint name world) fun _ =>
      elementarySteps_of (endpointSteps_addMavlinkEndpoint name world)
  · exact .of_accounted (accounted_connectMavlinkEndpoint name type config world) fun sound =>
      elementarySteps_of (endpointSteps_connectMavlinkEndpoint sound name type config)
  · exact .of_accounted (accounted_addAgent name type config world) fun _ =>
      elementarySteps_addAgent name type config world
  · exact .of_accounted (accounted_startAgent name world) fun _ =>
      elementarySteps_startAgent name world

/-- A step that registers or removes a definition. -/
def Operation.Registers : Operation sdk → Prop
  | .addAgentDefinition _ _ => True
  | .removeAgentDefinition _ => True
  | .addTransportDefinition _ _ => True
  | .removeTransportDefinition _ => True
  | _ => False

theorem elementarySteps_invoke (sound : world.ledger.Sound) (call : ManagerCall) (slot : Nat) :
    ElementarySteps world (world.perform (.invoke call slot)) := by
  cases call with
  | addMavlinkEndpoint name =>
    exact elementarySteps_of (endpointSteps_addMavlinkEndpoint name world)
  | connectMavlinkEndpoint name type config =>
    exact elementarySteps_of (endpointSteps_connectMavlinkEndpoint sound name type config)
  | disconnectMavlinkEndpoint name =>
    exact elementarySteps_of (endpointSteps_disconnectMavlinkEndpoint sound name)
  | removeMavlinkEndpoint name =>
    exact elementarySteps_of (endpointSteps_removeMavlinkEndpoint sound name)
  | createMavlinkEndpointUser name requester =>
    have issued : EndpointSteps world (createMavlinkEndpointUser name requester world).2 :=
      .single (.issue name requester world)
    exact elementarySteps_of (issued.trans (endpointSteps_keep slot _ _))
  | removeMavlinkEndpointUser name requester =>
    exact elementarySteps_of (.single (.release name requester world))
  | addAgent name type config => exact elementarySteps_addAgent name type config world
  | editAgent name type config => exact elementarySteps_editAgent name type config world
  | startAgent name => exact elementarySteps_startAgent name world
  | stopAgent name => exact elementarySteps_stopAgent name world
  | removeAgent name => exact elementarySteps_removeAgent name world

/-- Every step of the system that is not about the registries is a sequence of elementary
steps. -/
theorem elementarySteps_perform (sound : world.ledger.Sound) {operation : Operation sdk}
    (silent : ¬operation.Registers) : ElementarySteps world (world.perform operation) := by
  cases operation with
  | invoke call slot => exact elementarySteps_invoke sound call slot
  | executePlan plan => exact elementarySteps_executePlan sound plan
  | resetUser place => exact elementarySteps_of (.single (.assign place none world))
  | moveUser source slot => exact elementarySteps_of (endpointSteps_moveUser source slot world)
  | callUser place request =>
    rw [World.perform]
    cases world.handles.lookup place with
    | none => exact .refl
    | some user => exact elementarySteps_of (endpointSteps_call request user world)
  | runAgent name code =>
    rw [World.perform]
    cases world.agents.lookup name with
    | none => exact .refl
    | some agent => exact elementarySteps_runAgent name agent code world
  | environment step => exact elementarySteps_of (.single (.environment step world))
  | addAgentDefinition key definition => exact absurd trivial silent
  | removeAgentDefinition key => exact absurd trivial silent
  | addTransportDefinition key definition => exact absurd trivial silent
  | removeTransportDefinition key => exact absurd trivial silent

end MavlinkHub
