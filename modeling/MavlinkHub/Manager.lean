/-
This file transcribes the operations of the manager on single endpoints and agents,
branch by branch and with the texts of their messages.

Two operations run agent code that re-enters the manager while the operation is in
progress: the creation of an agent, which runs `AgentDefinition::create`, and its
removal, which runs its destructor. `configure`, `start` and `stop` run code of an
agent that is already registered. An agent object whose `create` fails is gone
when `create` returns, and so is every handle it held.
-/

import MavlinkHub.World

namespace MavlinkHub

namespace Manager

variable {sdk : Sdk}

/-! ### Endpoints -/

/-- `Manager::validateMavlinkEndpointConfig`. -/
def validateMavlinkEndpointConfig (type : String) (config : Config) (world : World sdk) :
    OperationResult :=
  match world.transportRegistry.lookup type with
  | none =>
    { success := false
      messages := ["[Manager] : Failed to validate a mavlink endpoint config with type: " ++ type ++
        ". The type does not exist."] }
  | some definition =>
    let parseResult := sdk.parseTransportConfig definition config
    if parseResult.ok then
      { success := true, messages := parseResult.messages }
    else
      { success := false
        messages := parseResult.messages ++
          ["[Manager] : Failed to validate the given mavlink endpoint config with type: " ++ type] }

/-- `Manager::addMavlinkEndpoint`. -/
def addMavlinkEndpoint (name : String) (world : World sdk) : OperationResult × World sdk :=
  match world.endpointDb.lookup name with
  | some _ =>
    ({ success := false
       messages := ["[Manager] : Failed to add a mavlink endpoint with name: " ++ name ++
         ". It already exists."] }, world)
  | none =>
    let (object, env) := sdk.createEndpoint world.env
    ({ success := true
       messages := ["[Manager] : Mavlink Endpoint is created with name: " ++ name] },
      { world with
        endpointDb := world.endpointDb.insert name ⟨world.nextEndpoint, ∅⟩
        endpoints := world.endpoints.insert world.nextEndpoint object
        nextEndpoint := world.nextEndpoint + 1
        env := env
        log := world.log ++ [.createEndpoint name world.nextEndpoint] })

/-- `Manager::connectMavlinkEndpoint`. The entry owns its endpoint, so the object is there. -/
def connectMavlinkEndpoint (endpointName type : String) (config : Config) (world : World sdk) :
    OperationResult × World sdk :=
  match world.endpointDb.lookup endpointName with
  | none =>
    ({ success := false
       messages := ["[Manager] : Failed to connect to mavlink endpoint: " ++ endpointName ++
         ". It does not exist."] }, world)
  | some entry =>
    let (connected, used) :=
      (world.record (.connect entry.endpoint type config)).useEndpoint entry.endpoint
        (sdk.connect type config)
    if connected = some true then
      ({ success := true
         messages := ["[Manager] : Mavlink endpoint [" ++ endpointName ++ "] is connected to [" ++
           type ++ "]"] }, used)
    else
      ({ success := false
         messages := ["[Manager] : Failed to connect to mavlink endpoint: " ++ endpointName ++
           ". Please check the config."] }, used)

/-- `Manager::disconnectMavlinkEndpoint`. -/
def disconnectMavlinkEndpoint (endpointName : String) (world : World sdk) :
    OperationResult × World sdk :=
  match world.endpointDb.lookup endpointName with
  | none =>
    ({ success := false
       messages := ["[Manager] : Cannot find mavlink endpoint: " ++ endpointName] }, world)
  | some entry =>
    let (disconnected, used) :=
      (world.record (.disconnect entry.endpoint)).useEndpoint entry.endpoint sdk.disconnect
    if disconnected = some true then
      ({ success := true
         messages := ["[Manager] : Mavlink endpoint [" ++ endpointName ++
           "] is successfully disconnected"] }, used)
    else
      ({ success := false
         messages := ["[Manager] : Failed to disconnect to mavlink endpoint: " ++ endpointName] },
        used)

/-- `Manager::removeMavlinkEndpoint`. The entry holds the only owning reference to the endpoint,
so erasing it destroys the object. -/
def removeMavlinkEndpoint (endpointName : String) (world : World sdk) :
    OperationResult × World sdk :=
  match world.endpointDb.lookup endpointName with
  | none =>
    ({ success := false
       messages := ["[Manager] : Cannot find mavlink endpoint: " ++ endpointName] }, world)
  | some entry =>
    ({ success := true
       messages := ["[Manager] : Mavlink endpoint [" ++ endpointName ++
         "] is successfully removed"] },
      { world with
        endpointDb := world.endpointDb.erase endpointName
        endpoints := world.endpoints.erase entry.endpoint
        log := world.log ++ [.destroyEndpoint endpointName entry.endpoint] })

/-- The loop that asks every entry of a map and files the answers. -/
def queryAll {Entry Answer : Type} (order : VisitingOrder) (query : Entry → Option Answer)
    (entries : StringMap Entry) : StringMap Answer :=
  (order.visit entries).entries.foldl
    (fun answers entry =>
      match query entry.2 with
      | some answer => answers.insert entry.1 answer
      | none => answers) ∅

/-- `Manager::getMavlinkEndpointState`. -/
def getMavlinkEndpointState (name : String) (world : World sdk) : Option MavlinkEndpointState :=
  (world.endpointDb.lookup name).bind fun entry =>
    (world.endpoints.lookup entry.endpoint).map (sdk.getState world.env)

/-- `Manager::getMavlinkEndpointStateAll`. -/
def getMavlinkEndpointStateAll (order : VisitingOrder) (world : World sdk) :
    StringMap MavlinkEndpointState :=
  queryAll order
    (fun entry => (world.endpoints.lookup entry.endpoint).map (sdk.getState world.env))
    world.endpointDb

/-! ### Agents -/

/-- `Manager::validateAgentConfig`. -/
def validateAgentConfig (type : String) (config : Config) (world : World sdk) : OperationResult :=
  match world.agentRegistry.definitionAt type with
  | none =>
    { success := false
      messages := ["[Manager] : Failed to validate an agent config with type: " ++ type ++
        ". The type is not registered."] }
  | some definition =>
    let parseResult := sdk.parseConfig definition config
    if parseResult.ok then
      { success := true
        messages := parseResult.messages ++ ["[Manager] : The given agent config is valid."] }
    else
      { success := false
        messages := parseResult.messages ++
          ["[Manager] : Failed to validate the given agent config with type: " ++ type] }

/-- The call of `create` with a fresh requester. -/
def createAgent (name : String) (definition : sdk.AgentDefinition) (config : sdk.AgentConfig)
    (world : World sdk) : Option (AgentInstance sdk) × World sdk :=
  let self := world.nextAgent
  let started := { world with
    nextAgent := self + 1
    log := world.log ++ [.createAgent self definition definition config] }
  let (created, finished) := (sdk.create definition config).run self ⟨name⟩ started
  match created with
  | some object => (some ⟨self, definition, object⟩, finished)
  | none => (none, finished.destroyHandles self)

/-- Run a member function of a registered agent and keep the object it leaves. -/
def runAgent {Answer : Type} (name : String) (agent : AgentInstance sdk)
    (code : sdk.Agent → AgentCode sdk.toSdkTypes (sdk.Agent × Answer)) (world : World sdk) :
    Answer × World sdk :=
  let ((object, answer), finished) := (code agent.object).run agent.id ⟨name⟩ world
  (answer, { finished with agents := finished.agents.insert name { agent with object := object } })

/-- `Manager::addAgent`. -/
def addAgent (name type : String) (config : Config) (world : World sdk) :
    OperationResult × World sdk :=
  match world.agents.lookup name with
  | some _ =>
    ({ success := false
       messages := ["[Manager] : Failed to add Agent [" ++ name ++ "]. It already exists."] },
      world)
  | none =>
    match world.agentRegistry.definitionAt type with
    | none =>
      ({ success := false
         messages := ["[Manager] : Failed to add agent [" ++ name ++
           "]. The type is not registered."] }, world)
    | some definition =>
      let parseResult := sdk.parseConfig definition config
      let (agent, created) := match parseResult.parsed with
        | some parsed => createAgent name definition parsed world
        | none => (none, world)
      match agent with
      | some agent =>
        ({ success := true
           messages := parseResult.messages ++ ["[Manager] : Agent [" ++ name ++ "] is added."] },
          { created with agents := created.agents.insert name agent })
      | none =>
        ({ success := false
           messages := parseResult.messages ++
             ["[Manager] : Failed to add Agent [" ++ name ++ "]. Please check the config."] },
          created)

/-- `Manager::editAgent`. -/
def editAgent (name type : String) (config : Config) (world : World sdk) :
    OperationResult × World sdk :=
  match world.agents.lookup name with
  | none =>
    ({ success := false
       messages := ["[Manager] : Failed to edit agent [" ++ name ++ "]. It does not exist."] },
      world)
  | some agent =>
    match world.agentRegistry.definitionAt type with
    | none =>
      ({ success := false
         messages := ["[Manager] : Failed to edit agent [" ++ name ++
           "]. The type is not registered."] }, world)
    | some definition =>
      let parseResult := sdk.parseConfig definition config
      let (configureSuccess, configured) := match parseResult.parsed with
        | some parsed =>
          runAgent name agent (fun object => sdk.configure object parsed)
            (world.record (.configure agent.id definition parsed))
        | none => (false, world)
      if configureSuccess then
        ({ success := true
           messages := parseResult.messages ++
             ["[Manager] : Agent [" ++ name ++ "] config is modified."] }, configured)
      else
        ({ success := false
           messages := parseResult.messages ++
             ["[Manager] : Failed to edit Agent [" ++ name ++
               "] config. Please check the config."] }, configured)

/-- `Manager::getAgentState`. -/
def getAgentState (name : String) (world : World sdk) : Option AgentState :=
  (world.agents.lookup name).map fun agent => sdk.getAgentState world.env agent.object

/-- `Manager::getAgentStateAll`. -/
def getAgentStateAll (order : VisitingOrder) (world : World sdk) : StringMap AgentState :=
  queryAll order (fun agent => some (sdk.getAgentState world.env agent.object)) world.agents

/-- `Manager::getAgentReport`. -/
def getAgentReport (name : String) (world : World sdk) : Option String :=
  (world.agents.lookup name).map fun agent => sdk.report world.env agent.object

/-- `Manager::getAgentReportAll`. -/
def getAgentReportAll (order : VisitingOrder) (world : World sdk) : StringMap String :=
  queryAll order (fun agent => some (sdk.report world.env agent.object)) world.agents

/-- `Manager::startAgent`. -/
def startAgent (name : String) (world : World sdk) : OperationResult × World sdk :=
  match world.agents.lookup name with
  | none =>
    ({ success := false
       messages := ["[Manager] : Failed to start Agent [" ++ name ++ "]. It does not exist."] },
      world)
  | some agent =>
    let (startSuccess, started) := runAgent name agent sdk.start (world.record (.start agent.id))
    if startSuccess then
      ({ success := true
         messages := ["[Manager] : Agent [" ++ name ++ "] is started."] }, started)
    else
      let reason := if getAgentState name started ≠ some .idle then " Agent state is not IDLE."
        else "Unknown reason."
      ({ success := false
         messages := ["[Manager] : Failed to start Agent [" ++ name ++ "]." ++ reason] }, started)

/-- `Manager::stopAgent`. -/
def stopAgent (name : String) (world : World sdk) : OperationResult × World sdk :=
  match world.agents.lookup name with
  | none =>
    ({ success := false
       messages := ["[Manager] : Failed to stop Agent [" ++ name ++ "]. It does not exist."] },
      world)
  | some agent =>
    let (stopSuccess, stopped) := runAgent name agent sdk.stop (world.record (.stop agent.id))
    if stopSuccess then
      ({ success := true
         messages := ["[Manager] : Agent [" ++ name ++ "] is stopped."] }, stopped)
    else
      let reason := if getAgentState name stopped = some .starting then " Agent is STARTING."
        else "Unknown reason."
      ({ success := false
         messages := ["[Manager] : Failed to stop Agent [" ++ name ++ "]." ++ reason] }, stopped)

/-- The name `removeAgent` reports for a state. -/
def agentStateName : AgentState → String
  | .idle => "IDLE"
  | .starting => "STARTING"
  | .active => "ACTIVE"
  | .stopping => "STOPPING"

/-- `Manager::removeAgent`: the object leaves the map, runs its destructor, and its members go. -/
def removeAgent (name : String) (world : World sdk) : OperationResult × World sdk :=
  match world.agents.lookup name with
  | none =>
    ({ success := false
       messages := ["[Manager] : Failed to remove Agent [" ++ name ++ "]. It does not exist."] },
      world)
  | some agent =>
    let agentState := sdk.getAgentState world.env agent.object
    let erased := { world with
      agents := world.agents.erase name
      log := world.log ++ [.destroyAgent agent.id] }
    let (_, destroyed) := (sdk.destroyAgent agent.object).run agent.id ⟨name⟩ erased
    ({ success := true
       messages := ["[Manager] : Agent [" ++ name ++ "] is stopped. Its last state is: [" ++
         agentStateName agentState ++ "]"] },
      destroyed.destroyHandles agent.id)

end Manager

end MavlinkHub
