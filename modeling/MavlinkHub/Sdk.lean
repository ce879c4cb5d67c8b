/-
This file is the boundary with the code outside the repository: the endpoint and
transport packages and the agent plugins. That code is a parameter, `Sdk`, of
everything that follows. It keeps a hidden state `Env` of its own, and an endpoint
or agent object is an opaque value.

Agent code re-enters the manager. It reaches it only through the resource requester
it was created with and through the handles it obtained, so a piece of agent code is
an interaction tree over exactly those operations: it asks for an endpoint, lists
the registered endpoints, lets a handle go, uses one, or works on the hidden state.
What it does next may depend on every answer. A handle an agent owns sits in one of
its slots, the member variables and containers that hold its `unique_ptr`s.
-/

import MavlinkHub.Types

namespace MavlinkHub

/-- The types of the code outside the repository. -/
structure SdkTypes where
  /-- The state that code keeps outside any endpoint or agent object. -/
  Env : Type
  /-- A `MavlinkEndpoint` object. -/
  Endpoint : Type
  /-- A `mavlink_message_t`. -/
  Message : Type
  /-- A packet callback. -/
  Listener : Type
  /-- What `createListener` returns: a `unique_ptr` to a token. -/
  Token : Type
  /-- An `Agent` object. -/
  Agent : Type
  /-- An `AgentConfig`, opaque to the manager. -/
  AgentConfig : Type
  /-- A pointer to an `AgentDefinition`. -/
  AgentDefinition : Type
  /-- A pointer to a `TransportDefinition`. -/
  TransportDefinition : Type

/-- The calls a handle forwards to its endpoint. -/
inductive EndpointCall (types : SdkTypes)
  | getState
  | getNumOfListener
  | writeMessage (message : types.Message)
  | createListener (listener : types.Listener)

/-- What the endpoint answers to each call. -/
def EndpointCall.Answer {types : SdkTypes} : EndpointCall types → Type
  | .getState => MavlinkEndpointState
  | .getNumOfListener => Int
  | .writeMessage _ => Int
  | .createListener _ => types.Token

/-- A piece of agent code that ends with a result. -/
inductive AgentCode (types : SdkTypes) (Result : Type) : Type
  | done (result : Result)
  /-- Work on the hidden state, without touching the manager. -/
  | internal (step : types.Env → types.Env) (next : types.Env → AgentCode types Result)
  /-- `slot = requester->requestMavlinkEndpoint(epName)`, and whether the slot is now filled. -/
  | requestMavlinkEndpoint (slot : Nat) (epName : String) (next : Bool → AgentCode types Result)
  /-- `requester->getMavlinkEndpointList()`; the order of the vector is unspecified. -/
  | getMavlinkEndpointList (next : Finset String → AgentCode types Result)
  /-- `slot.reset()`. -/
  | reset (slot : Nat) (next : AgentCode types Result)
  /-- A call through the handle in a slot. -/
  | call (slot : Nat) (request : EndpointCall types)
      (next : Option request.Answer → AgentCode types Result)

/-- The result of a transport definition's `parseConfig`. -/
structure ConfigParseResult where
  ok : Bool
  messages : List String

/-- The result of an agent definition's `parseConfig`. -/
structure AgentConfigParseResult (AgentConfig : Type) where
  parsed : Option AgentConfig
  messages : List String

/-- `AgentConfigParseResult::ok`. -/
def AgentConfigParseResult.ok {AgentConfig : Type} (result : AgentConfigParseResult AgentConfig) :
    Bool :=
  result.parsed.isSome

/-- The code outside the repository. The two `parseConfig`s are functions of the configuration
alone; everything else may read and change the hidden state. -/
structure Sdk extends SdkTypes where
  /-- `TransportDefinition::parseConfig`. -/
  parseTransportConfig : TransportDefinition → Config → ConfigParseResult
  /-- `MavlinkEndpoint::create`. -/
  createEndpoint : Env → Endpoint × Env
  /-- `MavlinkEndpoint::connect`. -/
  connect : String → Config → Env → Endpoint → Bool × Endpoint × Env
  /-- `MavlinkEndpoint::disconnect`. -/
  disconnect : Env → Endpoint → Bool × Endpoint × Env
  /-- `MavlinkEndpoint::getState`. -/
  getState : Env → Endpoint → MavlinkEndpointState
  /-- `MavlinkEndpoint::getNumOfListener`. -/
  getNumOfListener : Env → Endpoint → Int
  /-- `MavlinkEndpoint::writeMessage`. -/
  writeMessage : Message → Env → Endpoint → Int × Endpoint × Env
  /-- `MavlinkEndpoint::createListener`. -/
  createListener : Listener → Env → Endpoint → Token × Endpoint × Env
  /-- `AgentDefinition::parseConfig`. -/
  parseConfig : AgentDefinition → Config → AgentConfigParseResult AgentConfig
  /-- `AgentDefinition::create`; `none` is a null pointer. -/
  create : AgentDefinition → AgentConfig → AgentCode toSdkTypes (Option Agent)
  /-- `Agent::configure`. -/
  configure : Agent → AgentConfig → AgentCode toSdkTypes (Agent × Bool)
  /-- `Agent::start`. -/
  start : Agent → AgentCode toSdkTypes (Agent × Bool)
  /-- `Agent::stop`. -/
  stop : Agent → AgentCode toSdkTypes (Agent × Bool)
  /-- `Agent::getState`. -/
  getAgentState : Env → Agent → AgentState
  /-- `Agent::report`. -/
  report : Env → Agent → String
  /-- `Agent::~Agent`, before its members are destroyed. -/
  destroyAgent : Agent → AgentCode toSdkTypes Unit

/-- The effect of a call on a live endpoint object. -/
def Sdk.answer (sdk : Sdk) :
    (request : EndpointCall sdk.toSdkTypes) → sdk.Env → sdk.Endpoint →
      request.Answer × sdk.Endpoint × sdk.Env
  | .getState, env, endpoint => (sdk.getState env endpoint, endpoint, env)
  | .getNumOfListener, env, endpoint => (sdk.getNumOfListener env endpoint, endpoint, env)
  | .writeMessage message, env, endpoint => sdk.writeMessage message env endpoint
  | .createListener listener, env, endpoint => sdk.createListener listener env endpoint

end MavlinkHub
