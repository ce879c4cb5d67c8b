/-
This file is the manager as a transition system. A step is one call of the
application into the manager, or something the code outside does between two calls:
a handle is destroyed, handed out of an agent or used, an agent acts on its own, the
hidden state moves, a definition is registered or removed. A run is a finite
sequence of steps in any order, and a state is reachable if a run from an empty
manager ends in it.
-/

import MavlinkHub.Library.Transition
import MavlinkHub.Plan

namespace MavlinkHub

open Transition

variable {sdk : Sdk}

/-- The operations that change a single endpoint, endpoint user or agent. -/
inductive ManagerCall
  | addMavlinkEndpoint (name : String)
  | connectMavlinkEndpoint (endpointName type : String) (config : Config)
  | disconnectMavlinkEndpoint (endpointName : String)
  | removeMavlinkEndpoint (endpointName : String)
  | createMavlinkEndpointUser (endpointName requesterName : String)
  | removeMavlinkEndpointUser (endpointName requesterName : String)
  | addAgent (name type : String) (config : Config)
  | editAgent (name type : String) (config : Config)
  | startAgent (name : String)
  | stopAgent (name : String)
  | removeAgent (name : String)

/-- What a call reports: success, or for a handle that it is not null. -/
structure Reply where
  success : Bool
  user : Option MavlinkEndpointUser := none

/-- The reply of an operation that returns an `OperationResult`. -/
def Reply.ofResult (outcome : OperationResult × World sdk) : Reply × World sdk :=
  ({ success := outcome.1.success }, outcome.2)

/-- Perform a call. -/
def ManagerCall.perform : ManagerCall → World sdk → Reply × World sdk
  | .addMavlinkEndpoint name, world => Reply.ofResult (Manager.addMavlinkEndpoint name world)
  | .connectMavlinkEndpoint endpointName type config, world =>
    Reply.ofResult (Manager.connectMavlinkEndpoint endpointName type config world)
  | .disconnectMavlinkEndpoint endpointName, world =>
    Reply.ofResult (Manager.disconnectMavlinkEndpoint endpointName world)
  | .removeMavlinkEndpoint endpointName, world =>
    Reply.ofResult (Manager.removeMavlinkEndpoint endpointName world)
  | .createMavlinkEndpointUser endpointName requesterName, world =>
    let (user, created) := Manager.createMavlinkEndpointUser endpointName requesterName world
    (⟨user.isSome, user⟩, created)
  | .removeMavlinkEndpointUser endpointName requesterName, world =>
    let (success, removed) := Manager.removeMavlinkEndpointUser endpointName requesterName world
    ({ success := success }, removed)
  | .addAgent name type config, world => Reply.ofResult (Manager.addAgent name type config world)
  | .editAgent name type config, world => Reply.ofResult (Manager.editAgent name type config world)
  | .startAgent name, world => Reply.ofResult (Manager.startAgent name world)
  | .stopAgent name, world => Reply.ofResult (Manager.stopAgent name world)
  | .removeAgent name, world => Reply.ofResult (Manager.removeAgent name world)

/-- One step of the system. -/
inductive Operation (sdk : Sdk)
  /-- A call of the application, which keeps a returned handle in its place `slot`. -/
  | invoke (call : ManagerCall) (slot : Nat)
  | executePlan (plan : UserPlan)
  /-- The owner of a place destroys the handle in it. -/
  | resetUser (place : Place)
  /-- A handle moves from its place to one outside of every agent. -/
  | moveUser (source : Place) (slot : Nat)
  /-- The owner of a place calls through the handle in it. -/
  | callUser (place : Place) (request : EndpointCall sdk.toSdkTypes)
  /-- A registered agent runs code of its own accord. -/
  | runAgent (name : String) (code : sdk.Agent → AgentCode sdk.toSdkTypes (sdk.Agent × Unit))
  /-- The hidden state of the code outside moves. -/
  | environment (step : sdk.Env → sdk.Env)
  | addAgentDefinition (key : String) (definition : sdk.AgentDefinition)
  | removeAgentDefinition (key : String)
  | addTransportDefinition (key : String) (definition : sdk.TransportDefinition)
  | removeTransportDefinition (key : String)

namespace World

/-- Move a handle to a place outside of every agent; the handle that was there goes. -/
def moveUser (source : Place) (slot : Nat) (world : World sdk) : World sdk :=
  match world.handles.lookup source with
  | none => world
  | some user =>
    if source = ⟨none, slot⟩ then world
    else { world with handles := world.handles.erase source }.assign ⟨none, slot⟩ (some user)

/-- Keep a handle a call returned; a null pointer is dropped. -/
def keep (slot : Nat) (user : Option MavlinkEndpointUser) (world : World sdk) : World sdk :=
  match user with
  | none => world
  | some user => world.assign ⟨none, slot⟩ (some user)

/-- The effect of a step. -/
def perform (world : World sdk) : Operation sdk → World sdk
  | .invoke call slot =>
    let (reply, called) := call.perform world
    called.keep slot reply.user
  | .executePlan plan => (Manager.executePlan plan world).2
  | .resetUser place => world.assign place none
  | .moveUser source slot => world.moveUser source slot
  | .callUser place request =>
    match world.handles.lookup place with
    | none => world
    | some user => (user.call request world).2
  | .runAgent name code =>
    match world.agents.lookup name with
    | none => world
    | some agent => (Manager.runAgent name agent code world).2
  | .environment step => { world with env := step world.env }
  | .addAgentDefinition key definition =>
    { world with agentRegistry := (world.agentRegistry.addAgentDefinition key definition).2 }
  | .removeAgentDefinition key =>
    { world with agentRegistry := (world.agentRegistry.removeAgentDefinition key).2 }
  | .addTransportDefinition key definition =>
    { world with
      transportRegistry :=
        (AgentRegistry.addAgentDefinition key definition world.transportRegistry).2 }
  | .removeTransportDefinition key =>
    { world with
      transportRegistry := (AgentRegistry.removeAgentDefinition key world.transportRegistry).2 }

/-- A manager as its constructor leaves it, over any registries and hidden state. -/
def initial (agentRegistry : AgentRegistry sdk.AgentDefinition)
    (transportRegistry : StringMap sdk.TransportDefinition) (env : sdk.Env) : World sdk where
  agentRegistry := agentRegistry
  transportRegistry := transportRegistry
  env := env

/-- The step relation of the system. -/
def Step (before : World sdk) (operation : Operation sdk) (after : World sdk) : Prop :=
  before.perform operation = after

/-- The states runs from an empty manager end in. -/
def Reachable (world : World sdk) : Prop :=
  ∃ agentRegistry transportRegistry env operations,
    Run Step (initial agentRegistry transportRegistry env) operations world

/-- Performing operations one after the other is a run. -/
theorem run_foldl (operations : List (Operation sdk)) (world : World sdk) :
    Run Step world operations (operations.foldl perform world) := by
  induction operations generalizing world with
  | nil => exact .done world
  | cons operation rest inductionHypothesis => exact .next rfl (inductionHypothesis _)

theorem reachable_initial (agentRegistry : AgentRegistry sdk.AgentDefinition)
    (transportRegistry : StringMap sdk.TransportDefinition) (env : sdk.Env) :
    (initial agentRegistry transportRegistry env).Reachable :=
  ⟨agentRegistry, transportRegistry, env, [], .done _⟩

/-- Whatever continues a run from a reachable state ends in a reachable one. -/
theorem Reachable.run {world after : World sdk} {operations : List (Operation sdk)}
    (reachable : world.Reachable) (run : Run Step world operations after) : after.Reachable := by
  obtain ⟨agentRegistry, transportRegistry, env, front, reached⟩ := reachable
  exact ⟨agentRegistry, transportRegistry, env, front ++ operations, reached.append run⟩

theorem Reachable.perform {world : World sdk} (reachable : world.Reachable)
    (operation : Operation sdk) : (world.perform operation).Reachable :=
  reachable.run (.single rfl)

/-- An invariant of the initial states that every step keeps holds in every reachable state. -/
theorem Reachable.invariant (holds : World sdk → Prop)
    (start : ∀ agentRegistry transportRegistry env,
      holds (initial agentRegistry transportRegistry env))
    (kept : ∀ world operation, holds world → holds (world.perform operation))
    {world : World sdk} (reachable : world.Reachable) : holds world := by
  obtain ⟨agentRegistry, transportRegistry, env, operations, reached⟩ := reachable
  refine reached.invariant holds (fun before operation after held taken => ?_) (start _ _ _)
  rw [← taken]
  exact kept before operation held

end World

end MavlinkHub
