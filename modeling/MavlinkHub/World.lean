/-
This file is the state the manager runs in and the two pieces of the source that the
rest is built on: the reference counting of endpoint users, and the execution of
agent code against it.

`World` extends the manager's own state with what outlives a call: the endpoint
objects that `endpoint_db` owns, the live `MavlinkEndpointUser` handles with the
places that own them, the hidden state of the code outside, and a log. The log only
serves the statements of theorems: it lists every call into the code outside and every
endpoint and handle that comes or goes, in order.
-/

import Mathlib.Data.List.AList
import MavlinkHub.AgentRegistry
import MavlinkHub.Library.Tally
import MavlinkHub.Sdk

namespace MavlinkHub

/-- The identity of a `MavlinkEndpoint` object. -/
abbrev EndpointId := Nat

/-- The identity of an `Agent` object. -/
abbrev AgentId := Nat

/-- `EndpointEntry`: the `shared_ptr` to the endpoint, and the users by requester. -/
@[ext] structure EndpointEntry where
  endpoint : EndpointId
  userCount : Tally String := ∅
  deriving DecidableEq

/-- `MavlinkEndpointUser`: the `weak_ptr` to the endpoint it was issued for, and the names
under which its destructor releases the reference. -/
structure MavlinkEndpointUser where
  endpoint : EndpointId
  endpointName : String
  userName : String
  deriving DecidableEq

/-- A `unique_ptr` that can own a handle: a slot of an agent object, or of code outside of
every agent. -/
structure Place where
  owner : Option AgentId
  slot : Nat
  deriving DecidableEq

/-- An `Agent` object, with the definition whose `create` made it. -/
structure AgentInstance (sdk : Sdk) where
  id : AgentId
  definition : sdk.AgentDefinition
  object : sdk.Agent

/-- What the log records. The definitions and `registered` are not part of the recorded call:
they keep which definition created an agent and which one parsed the configuration it is
given, and the entry registered under a handle's name when the handle is destroyed. -/
inductive Event (sdk : Sdk)
  | createEndpoint (name : String) (endpoint : EndpointId)
  | destroyEndpoint (name : String) (endpoint : EndpointId)
  | connect (endpoint : EndpointId) (type : String) (config : Config)
  | disconnect (endpoint : EndpointId)
  | endpointCall (endpoint : EndpointId) (request : EndpointCall sdk.toSdkTypes)
  | createAgent (agent : AgentId) (definition parsedBy : sdk.AgentDefinition)
      (config : sdk.AgentConfig)
  | configure (agent : AgentId) (parsedBy : sdk.AgentDefinition) (config : sdk.AgentConfig)
  | start (agent : AgentId)
  | stop (agent : AgentId)
  | destroyAgent (agent : AgentId)
  | createUser (user : MavlinkEndpointUser)
  | destroyUser (user : MavlinkEndpointUser) (registered : Option EndpointEntry)

/-- `Manager::ManagerImpl`. -/
structure ManagerImpl (sdk : Sdk) where
  agentRegistry : AgentRegistry sdk.AgentDefinition
  transportRegistry : StringMap sdk.TransportDefinition
  endpointDb : StringMap EndpointEntry := ∅
  agents : StringMap (AgentInstance sdk) := ∅

/-- The manager and everything around it that outlives a call. -/
structure World (sdk : Sdk) extends ManagerImpl sdk where
  endpoints : Finmap (fun _ : EndpointId => sdk.Endpoint) := ∅
  handles : AList (fun _ : Place => MavlinkEndpointUser) := ∅
  nextEndpoint : EndpointId := 0
  nextAgent : AgentId := 0
  env : sdk.Env
  log : List (Event sdk) := []

variable {sdk : Sdk}

/-- Append an event to the log. -/
def World.record (event : Event sdk) (world : World sdk) : World sdk :=
  { world with log := world.log ++ [event] }

/-! ### Endpoint users -/

namespace Manager

/-- `Manager::createMavlinkEndpointUser`. -/
def createMavlinkEndpointUser (endpointName requesterName : String) (world : World sdk) :
    Option MavlinkEndpointUser × World sdk :=
  match world.endpointDb.lookup endpointName with
  | none => (none, world)
  | some entry =>
    let user : MavlinkEndpointUser := ⟨entry.endpoint, endpointName, requesterName⟩
    (some user, { world with
      endpointDb := world.endpointDb.insert endpointName
        { entry with userCount := entry.userCount.bump requesterName }
      log := world.log ++ [.createUser user] })

/-- `Manager::removeMavlinkEndpointUser`. -/
def removeMavlinkEndpointUser (endpointName requesterName : String) (world : World sdk) :
    Bool × World sdk :=
  match world.endpointDb.lookup endpointName with
  | none => (true, world)
  | some entry =>
    (true, { world with
      endpointDb := world.endpointDb.insert endpointName
        { entry with userCount := entry.userCount.drop requesterName } })

/-- `Manager::getMavlinkEndpointUserList`. -/
def getMavlinkEndpointUserList (endpointName : String) (world : World sdk) :
    Option (Tally String) :=
  (world.endpointDb.lookup endpointName).map (·.userCount)

/-- `Manager::getMavlinkEndpointList`, up to the order of the vector. -/
def getMavlinkEndpointList (world : World sdk) : Finset String :=
  world.endpointDb.keys

end Manager

namespace World

/-- Run a member function of an endpoint object; `none` if the object is gone. -/
def useEndpoint {Answer : Type} (endpoint : EndpointId)
    (use : sdk.Env → sdk.Endpoint → Answer × sdk.Endpoint × sdk.Env) (world : World sdk) :
    Option Answer × World sdk :=
  match world.endpoints.lookup endpoint with
  | none => (none, world)
  | some object =>
    let (answer, used, env) := use world.env object
    (some answer, { world with endpoints := world.endpoints.insert endpoint used, env := env })

/-- `MavlinkEndpointUserImpl::~MavlinkEndpointUserImpl`. -/
def destroyUser (user : MavlinkEndpointUser) (world : World sdk) : World sdk :=
  (Manager.removeMavlinkEndpointUser user.endpointName user.userName
    (world.record (.destroyUser user (world.endpointDb.lookup user.endpointName)))).2

/-- `unique_ptr::operator=`: store a handle, or null, in a place and then destroy the handle
that was there. -/
def assign (place : Place) (user : Option MavlinkEndpointUser) (world : World sdk) : World sdk :=
  let stored := match user with
    | none => { world with handles := world.handles.erase place }
    | some user => { world with handles := world.handles.insert place user }
  match world.handles.lookup place with
  | none => stored
  | some old => stored.destroyUser old

/-- The places an agent object owns. -/
def ownedPlaces (owner : AgentId) (world : World sdk) : List Place :=
  world.handles.keys.filter fun place => place.owner = some owner

/-- The destruction of an object's members: every handle it owns goes. -/
def destroyHandles (owner : AgentId) (world : World sdk) : World sdk :=
  (world.ownedPlaces owner).foldl (fun world place => world.assign place none) world

end World

namespace MavlinkEndpointUser

/-- The common shape of the four operations of a handle: lock the `weak_ptr`, and forward the
call if the endpoint is still there. -/
def call (request : EndpointCall sdk.toSdkTypes) (user : MavlinkEndpointUser) (world : World sdk) :
    Option request.Answer × World sdk :=
  let (answer, used) := world.useEndpoint user.endpoint (sdk.answer request)
  (answer, if answer.isSome then used.record (.endpointCall user.endpoint request) else used)

/-- `MavlinkEndpointUser::createListener`. -/
def createListener (listener : sdk.Listener) (user : MavlinkEndpointUser) (world : World sdk) :
    Option sdk.Token × World sdk :=
  user.call (.createListener listener) world

/-- `MavlinkEndpointUser::getNumOfListener`. -/
def getNumOfListener (user : MavlinkEndpointUser) (world : World sdk) : Option Int × World sdk :=
  user.call .getNumOfListener world

/-- `MavlinkEndpointUser::writeMessage`. -/
def writeMessage (message : sdk.Message) (user : MavlinkEndpointUser) (world : World sdk) :
    Option Int × World sdk :=
  user.call (.writeMessage message) world

/-- `MavlinkEndpointUser::getState`. -/
def getState (user : MavlinkEndpointUser) (world : World sdk) :
    Option MavlinkEndpointState × World sdk :=
  user.call .getState world

end MavlinkEndpointUser

/-! ### Agent code -/

/-- `ManagerResourceRequester`: the name on whose behalf an agent asks for resources. -/
structure ManagerResourceRequester where
  name : String

namespace ManagerResourceRequester

/-- `ManagerResourceRequester::requestMavlinkEndpoint`. -/
def requestMavlinkEndpoint (epName : String) (requester : ManagerResourceRequester)
    (world : World sdk) : Option MavlinkEndpointUser × World sdk :=
  Manager.createMavlinkEndpointUser epName requester.name world

/-- `ManagerResourceRequester::getMavlinkEndpointList`. -/
def getMavlinkEndpointList (_requester : ManagerResourceRequester) (world : World sdk) :
    Finset String :=
  Manager.getMavlinkEndpointList world

end ManagerResourceRequester

/-- Run a piece of code of the agent `self`, which holds `requester`. A call through an empty
slot answers nothing. -/
def AgentCode.run {Result : Type} (self : AgentId) (requester : ManagerResourceRequester) :
    AgentCode sdk.toSdkTypes Result → World sdk → Result × World sdk
  | .done result, world => (result, world)
  | .internal step next, world =>
    (next world.env).run self requester { world with env := step world.env }
  | .requestMavlinkEndpoint slot epName next, world =>
    let (user, requested) := requester.requestMavlinkEndpoint epName world
    (next user.isSome).run self requester (requested.assign ⟨some self, slot⟩ user)
  | .getMavlinkEndpointList next, world =>
    (next (requester.getMavlinkEndpointList world)).run self requester world
  | .reset slot next, world => next.run self requester (world.assign ⟨some self, slot⟩ none)
  | .call slot request next, world =>
    match world.handles.lookup ⟨some self, slot⟩ with
    | none => (next none).run self requester world
    | some user =>
      let (answer, used) := user.call request world
      (next answer).run self requester used

end MavlinkHub
