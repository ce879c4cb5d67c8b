/-
This file transcribes the application service: the 25 commands and their descriptors, the
state it keeps between them, and the manager interface it works through. A map or vector
the manager returns comes in the order the interface chooses.
-/

import MavlinkHub.JsonUtils
import MavlinkHub.Plan

namespace MavlinkHub

/-- `AppServiceCommandType`. -/
inductive AppServiceCommandType
  | loadPlanFromPath
  | loadPlanFromJsonText
  | getCurrentPlan
  | checkCurrentPlan
  | applyCurrentPlan
  | deleteCurrentPlan
  | getStatus
  | addMavlinkEndpoint
  | editMavlinkEndpoint
  | connectMavlinkEndpoint
  | disconnectMavlinkEndpoint
  | removeMavlinkEndpoint
  | getEndpointList
  | getEndpointStatus
  | getEndpointStatusAll
  | addAgent
  | editAgent
  | startAgent
  | stopAgent
  | removeAgent
  | getAgentList
  | getAgentStatus
  | getAgentStatusAll
  | getAgentReport
  | getAgentReportAll
  deriving DecidableEq

/-- `AppServiceCommand`. -/
structure AppServiceCommand where
  cmdType : AppServiceCommandType
  payload : String
  deriving DecidableEq

/-- `CommandResult`. -/
structure CommandResult where
  success : Bool
  message : List String := []
  data : String := ""
  deriving DecidableEq

/-! ### Command descriptors -/

/-- `AppServiceCommandDescriptor`. -/
structure AppServiceCommandDescriptor where
  type : AppServiceCommandType
  name : String
  requiresPayload : Bool
  payloadHint : String
  deriving DecidableEq

/-- `appServiceCommandDescriptors`, the table `kCommands`. -/
def appServiceCommandDescriptors : List AppServiceCommandDescriptor :=
  [⟨.loadPlanFromPath, "load_plan_from_path", true, "path to .json plan"⟩,
    ⟨.loadPlanFromJsonText, "load_plan_from_json_text", true, "plan JSON text"⟩,
    ⟨.getCurrentPlan, "get_current_plan", false, ""⟩,
    ⟨.checkCurrentPlan, "check_current_plan", false, ""⟩,
    ⟨.applyCurrentPlan, "apply_current_plan", false, ""⟩,
    ⟨.deleteCurrentPlan, "delete_current_plan", false, ""⟩,
    ⟨.getStatus, "get_status", false, ""⟩,
    ⟨.addMavlinkEndpoint, "add_mavlink_endpoint", true, "endpoint JSON"⟩,
    ⟨.editMavlinkEndpoint, "edit_mavlink_endpoint", true, "endpoint JSON"⟩,
    ⟨.connectMavlinkEndpoint, "connect_mavlink_endpoint", true, "endpoint name"⟩,
    ⟨.disconnectMavlinkEndpoint, "disconnect_mavlink_endpoint", true, "endpoint name"⟩,
    ⟨.removeMavlinkEndpoint, "remove_mavlink_endpoint", true, "endpoint name"⟩,
    ⟨.getEndpointList, "get_endpoint_list", false, ""⟩,
    ⟨.getEndpointStatus, "get_endpoint_status", true, "endpoint name"⟩,
    ⟨.getEndpointStatusAll, "get_endpoint_status_all", false, ""⟩,
    ⟨.addAgent, "add_agent", true, "agent JSON"⟩,
    ⟨.editAgent, "edit_agent", true, "agent JSON"⟩,
    ⟨.startAgent, "start_agent", true, "agent name"⟩,
    ⟨.stopAgent, "stop_agent", true, "agent name"⟩,
    ⟨.removeAgent, "remove_agent", true, "agent name"⟩,
    ⟨.getAgentList, "get_agent_list", false, ""⟩,
    ⟨.getAgentStatus, "get_agent_status", true, "agent name"⟩,
    ⟨.getAgentStatusAll, "get_agent_status_all", false, ""⟩,
    ⟨.getAgentReport, "get_agent_report", true, "agent name"⟩,
    ⟨.getAgentReportAll, "get_agent_report_all", false, ""⟩]

/-- The table has an entry for each command, at the position of its enumerator. -/
theorem AppServiceCommandType.ctorIdx_lt (type : AppServiceCommandType) :
    type.ctorIdx < appServiceCommandDescriptors.length := by
  cases type <;> decide

/-- The entry of the table for a command. -/
def AppServiceCommandType.descriptor (type : AppServiceCommandType) :
    AppServiceCommandDescriptor :=
  appServiceCommandDescriptors.get ⟨type.ctorIdx, type.ctorIdx_lt⟩

/-- Every entry describes the command at whose position it stands. -/
theorem AppServiceCommandType.type_descriptor (type : AppServiceCommandType) :
    type.descriptor.type = type := by
  cases type <;> rfl

/-! ### The manager interface -/

/-- The member functions of `IManager` that the service calls, over a manager's state. -/
structure IManager (State : Type) where
  validatePlan : UserPlan → State → ExecutionResultList × State
  executePlan : UserPlan → State → ExecutionResultList × State
  getMavlinkEndpointList : State → List String × State
  getMavlinkEndpointState : String → State → Option MavlinkEndpointState × State
  getMavlinkEndpointStateAll : State → Traversal MavlinkEndpointState × State
  getAgentList : State → List String × State
  getAgentState : String → State → Option AgentState × State
  getAgentStateAll : State → Traversal AgentState × State
  getAgentReport : String → State → Option String × State
  getAgentReportAll : State → Traversal String × State

/-- The state of the service. -/
structure AppServiceImpl where
  currentPlan : Option UserPlan := none

/-- What a call reads besides its command: the text of the file at the payload, `none` if it
cannot be opened; what uninitialised members happen to hold; and an order for maps. -/
structure CallInputs where
  file : Option String
  success : Bool
  policy : UserPlanPolicy
  order : VisitingOrder

namespace AppService

open JsonUtils

variable {State : Type} (jsoncons : Jsoncons) (manager : IManager State)

/-- The load commands, once the plan is parsed or not. -/
def finishLoad (userPlan : Option UserPlan) (service : AppServiceImpl) :
    CommandResult × AppServiceImpl :=
  match userPlan with
  | some plan =>
    ({ success := true, message := ["[AppService]: Plan is loaded"] },
      { service with currentPlan := some plan })
  | none =>
    ({ success := false
       message := ["[AppService]: Plan is not loaded because of parsing error"] }, service)

/-- The three queries by name: the name must not be empty, and must be registered. -/
def queryByName {Answer : Type} (kind named : String) (encode : Answer → String)
    (query : String → State → Option Answer × State) (payload : String) (state : State) :
    CommandResult × State :=
  if payload = "" then
    ({ success := false
       message := ["[AppService]: " ++ kind ++ " is not retrieved because the " ++ named ++
         " is missing"] }, state)
  else
    let (answer, queried) := query payload state
    match answer with
    | none =>
      ({ success := false
         message := ["[AppService]: " ++ kind ++ " is not retrieved because the " ++ named ++
           " [" ++ payload ++ "] is not registered"] }, queried)
    | some value =>
      ({ success := true
         message := ["[AppService]: " ++ kind ++ " has been retrieved."]
         data := encode value }, queried)

/-- `AppService::executeCommand`. -/
def executeCommand (cmd : AppServiceCommand) (inputs : CallInputs) (service : AppServiceImpl)
    (state : State) : CommandResult × AppServiceImpl × State :=
  let result : CommandResult := { success := inputs.success }
  match cmd.cmdType with
  | .loadPlanFromPath =>
    match inputs.file with
    | some text =>
      let (result, service) :=
        finishLoad (fstreamToUserPlan jsoncons inputs.order inputs.policy text) service
      (result, service, state)
    | none =>
      ({ success := false
         message := ["[AppService]: Plan is not loaded because the file [" ++ cmd.payload ++
           "] does not exist"] }, service, state)
  | .loadPlanFromJsonText =>
    let (result, service) :=
      finishLoad (stringToUserPlan jsoncons inputs.order inputs.policy cmd.payload) service
    (result, service, state)
  | .checkCurrentPlan =>
    match service.currentPlan with
    | some plan =>
      let (executeResult, checked) := manager.validatePlan plan state
      ({ success := true
         message := ["[AppService]: The current plan has been checked and the detailed report " ++
           "has been produced."]
         data := executionResultListToJsonString jsoncons inputs.order executeResult },
        service, checked)
    | none =>
      ({ success := false
         message := ["[AppService]: Plan is not checked because there is no plan loaded"] },
        service, state)
  | .applyCurrentPlan =>
    match service.currentPlan with
    | some plan =>
      let (executeResult, applied) := manager.executePlan plan state
      ({ success := true
         message := ["[AppService]: The current plan is applied and the detailed report has " ++
           "been produced."]
         data := executionResultListToJsonString jsoncons inputs.order executeResult },
        service, applied)
    | none =>
      ({ success := false
         message := ["[AppService]: Plan is not applied because there is no plan loaded"] },
        service, state)
  | .deleteCurrentPlan =>
    ({ success := true
       message := ["[AppService]: Current plan is removed. There is no loaded plan now."] },
      { service with currentPlan := none }, state)
  | .getEndpointList =>
    let (list, queried) := manager.getMavlinkEndpointList state
    ({ success := true
       message := ["[AppService]: Endpoint list has been retrieved."]
       data := endpointListToJsonString jsoncons list }, service, queried)
  | .getEndpointStatus =>
    let (result, queried) := queryByName "Endpoint status" "endpoint name"
      (endpointStatusToJsonString jsoncons) manager.getMavlinkEndpointState cmd.payload state
    (result, service, queried)
  | .getEndpointStatusAll =>
    let (states, queried) := manager.getMavlinkEndpointStateAll state
    ({ success := true
       message := ["[AppService]: Endpoint statuses have been retrieved."]
       data := endpointStatusListToJsonString jsoncons states }, service, queried)
  | .getAgentList =>
    let (list, queried) := manager.getAgentList state
    ({ success := true
       message := ["[AppService]: Agent list has been retrieved."]
       data := agentListToJsonString jsoncons list }, service, queried)
  | .getAgentStatus =>
    let (result, queried) := queryByName "Agent status" "agent name"
      (agentStatusToJsonString jsoncons) manager.getAgentState cmd.payload state
    (result, service, queried)
  | .getAgentStatusAll =>
    let (states, queried) := manager.getAgentStateAll state
    ({ success := true
       message := ["[AppService]: Agent statuses have been retrieved."]
       data := agentStatusListToJsonString jsoncons states }, service, queried)
  | .getAgentReport =>
    let (result, queried) := queryByName "Agent report" "agent name"
      (agentReportToJsonString jsoncons cmd.payload) manager.getAgentReport cmd.payload state
    (result, service, queried)
  | .getAgentReportAll =>
    let (reports, queried) := manager.getAgentReportAll state
    ({ success := true
       message := ["[AppService]: Agent reports have been retrieved."]
       data := agentReportListToJsonString jsoncons reports }, service, queried)
  -- The remaining commands are not carried out.
  | .getCurrentPlan | .getStatus | .addMavlinkEndpoint | .editMavlinkEndpoint
  | .connectMavlinkEndpoint | .disconnectMavlinkEndpoint | .removeMavlinkEndpoint | .addAgent
  | .editAgent | .startAgent | .stopAgent | .removeAgent => (result, service, state)

end AppService

/-! ### The service interface -/

/-- `IAppService`, over the state of a service and what it works on. -/
structure IAppService (State : Type) where
  executeCommand : AppServiceCommand → State → CommandResult × State

/-- The service over a manager, where each command finds given inputs. -/
def AppService.interface {State : Type} (jsoncons : Jsoncons) (manager : IManager State)
    (inputs : AppServiceCommand → CallInputs) : IAppService (AppServiceImpl × State) where
  executeCommand cmd state :=
    AppService.executeCommand jsoncons manager cmd (inputs cmd) state.1 state.2

end MavlinkHub
