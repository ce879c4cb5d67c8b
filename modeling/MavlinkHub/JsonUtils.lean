/-
This file transcribes the conversions between JSON texts and the values of the
application: the parser of user plans with its two policies, and the encoders of the
answers to queries.
-/

import MavlinkHub.Json
import MavlinkHub.Types

namespace MavlinkHub

namespace JsonUtils

variable (jsoncons : Jsoncons) (order : VisitingOrder)

/-! ### Reading a plan -/

/-- The loop over `entry["config"].object_range()`. -/
def configOf (json : Json) : Config :=
  json.members.foldl
    (fun config entry => config.insert entry.1 (jsoncons.asString entry.2)) ∅

/-- The body of the loop of `jsonToEndpointList`: the name and entry an element describes, or
`none` if one of its three checks fails. -/
def endpointEntry (entry : Json) : Option (String × MavlinkEndpointEntry) :=
  if !entry.contains "name" || !entry.contains "type" || !entry.contains "config" ||
      !entry.contains "connect_on_create" then
    none
  else if !(entry.get "config").isObject then
    none
  else if !(entry.get "connect_on_create").isBool then
    none
  else
    some (jsoncons.asString (entry.get "name"),
      { type := jsoncons.asString (entry.get "type")
        config := configOf jsoncons (entry.get "config")
        connectOnCreate := (entry.get "connect_on_create").asBool })

/-- The body of the loop of `jsonToAgentList`. `start_on_create` may be missing. -/
def agentEntry (entry : Json) : Option (String × AgentEntry) :=
  if !entry.contains "name" || !entry.contains "type" || !entry.contains "config" then
    none
  else if !(entry.get "config").isObject then
    none
  else if entry.contains "start_on_create" && !(entry.get "start_on_create").isBool then
    none
  else
    some (jsoncons.asString (entry.get "name"),
      { type := jsoncons.asString (entry.get "type")
        config := configOf jsoncons (entry.get "config")
        startOnCreate :=
          if entry.contains "start_on_create" then (entry.get "start_on_create").asBool
          else false })

/-- The loop over the elements of a list. After a failed check it goes on under `BEST_EFFORT`
and gives up otherwise; a later element replaces an earlier one of the same name. -/
def collectEntries {Entry : Type} (parseEntry : Json → Option (String × Entry))
    (policy : UserPlanPolicy) : List Json → StringMap Entry → Option (StringMap Entry)
  | [], list => some list
  | entry :: rest, list =>
    match parseEntry entry with
    | some (name, spec) => collectEntries parseEntry policy rest (list.insert name spec)
    | none =>
      if policy = .bestEffort then collectEntries parseEntry policy rest list else none

/-- The common shape of the two lists of a plan: anything but an array is refused. -/
def jsonToList {Entry : Type} (parseEntry : Json → Option (String × Entry)) (json : Json)
    (policy : UserPlanPolicy) : Option (StringMap Entry) :=
  match json with
  | .array elements => collectEntries parseEntry policy elements ∅
  | _ => none

/-- `jsonToEndpointList`. -/
def jsonToEndpointList (json : Json) (policy : UserPlanPolicy) :
    Option (StringMap MavlinkEndpointEntry) :=
  jsonToList (endpointEntry jsoncons) json policy

/-- `jsonToAgentList`. -/
def jsonToAgentList (json : Json) (policy : UserPlanPolicy) : Option (StringMap AgentEntry) :=
  jsonToList (agentEntry jsoncons) json policy

/-- The policy of a document. Without one, the member keeps what its memory held before. -/
def planPolicy (memory : UserPlanPolicy) (planJson : Json) : Option UserPlanPolicy :=
  if planJson.contains "policy" then
    let userPlanPolicy := jsoncons.asString (planJson.get "policy")
    if userPlanPolicy = "discard" then some .discard
    else if userPlanPolicy = "best_effort" then some .bestEffort
    else none
  else some memory

/-- One of the two lists of a document. A list that is missing is empty, and so is one that is
refused, unless the policy is `DISCARD`. -/
def planList {Entry : Type} (key : String)
    (jsonToList : Json → UserPlanPolicy → Option (StringMap Entry)) (planJson : Json)
    (policy : UserPlanPolicy) : Option (StringMap Entry) :=
  if planJson.contains key then
    match jsonToList (planJson.get key) policy with
    | some list => some list
    | none => if policy = .discard then none else some ∅
  else some ∅

/-- `jsonToUserPlan`. -/
def jsonToUserPlan (memory : UserPlanPolicy) (planJson : Json) : Option UserPlan := do
  let policy ← planPolicy jsoncons memory planJson
  let endpointList ← planList "endpoint_list" (jsonToEndpointList jsoncons) planJson policy
  let agentList ← planList "agent_list" (jsonToAgentList jsoncons) planJson policy
  return ⟨order.visit endpointList, order.visit agentList, policy⟩

/-- `stringToUserPlan`. -/
def stringToUserPlan (memory : UserPlanPolicy) (text : String) : Option UserPlan :=
  match jsoncons.parse text with
  | none => none
  | some planJson => jsonToUserPlan jsoncons order memory planJson

/-- `fstreamToUserPlan`, on the text of the file. -/
def fstreamToUserPlan (memory : UserPlanPolicy) (text : String) : Option UserPlan :=
  match jsoncons.parse text with
  | none => none
  | some planJson => jsonToUserPlan jsoncons order memory planJson

/-! ### Writing answers -/

/-- `agentStateToString`. -/
def agentStateToString : AgentState → String
  | .active => "active"
  | .idle => "idle"
  | .starting => "starting"
  | .stopping => "stopping"

/-- `endpointStateToString`. -/
def endpointStateToString : MavlinkEndpointState → String
  | .connected => "connected"
  | .connecting => "connecting"
  | .disconnected => "disconnected"
  | .disconnecting => "disconnecting"

/-- The value an `AgentState` is serialised as. -/
def agentStateValue : AgentState → Int
  | .idle => 0
  | .starting => 1
  | .active => 2
  | .stopping => 3

/-- The value a `MavlinkEndpointState` is serialised as. -/
def endpointStateValue : MavlinkEndpointState → Int
  | .disconnected => 0
  | .connecting => 1
  | .connected => 2
  | .disconnecting => 3

/-- The array an encoder builds from the entries of a map, in the order of the map. The members
of an object are sorted by key. -/
def entriesToJson {Value : Type} (entryToJson : String → Value → Json) (map : Traversal Value) :
    Json :=
  .array (map.entries.map fun entry => entryToJson entry.1 entry.2)

/-- One element of an execution report. -/
def resultToJson (name : String) (result : OperationResult) : Json :=
  .object [("messages", .array (result.messages.map .string)), ("name", .string name),
    ("success", .bool result.success)]

/-- `executionResultListToJsonString`. -/
def executionResultListToJsonString (list : ExecutionResultList) : String :=
  jsoncons.asString (.object
    [("agent_plan_result", entriesToJson resultToJson (order.visit list.agentPlanResult)),
      ("endpoint_plan_result", entriesToJson resultToJson (order.visit list.endpointPlanResult))])

/-- `vectorOfStringToJson`. -/
def vectorOfStringToJson (list : List String) : Json :=
  .array (list.map .string)

/-- `agentListToJsonString`. -/
def agentListToJsonString (list : List String) : String :=
  jsoncons.asString (.object [("agent_list", vectorOfStringToJson list)])

/-- `endpointListToJsonString`. -/
def endpointListToJsonString (list : List String) : String :=
  jsoncons.asString (.object [("endpoint_list", vectorOfStringToJson list)])

/-- `agentStatusToJsonString`. -/
def agentStatusToJsonString (state : AgentState) : String :=
  jsoncons.asString (.object [("agent_status", .string (agentStateToString state))])

/-- `endpointStatusToJsonString`. -/
def endpointStatusToJsonString (state : MavlinkEndpointState) : String :=
  jsoncons.asString (.object [("endpoint_status", .string (endpointStateToString state))])

/-- `agentStatusListToJsonString`. -/
def agentStatusListToJsonString (list : Traversal AgentState) : String :=
  jsoncons.asString (.object [("agent_status_list", entriesToJson (fun name status =>
    .object [("name", .string name), ("status", .integer (agentStateValue status))]) list)])

/-- `endpointStatusListToJsonString`. -/
def endpointStatusListToJsonString (list : Traversal MavlinkEndpointState) : String :=
  jsoncons.asString (.object [("endpoint_status_list", entriesToJson (fun name status =>
    .object [("name", .string name), ("status", .integer (endpointStateValue status))]) list)])

/-- `agentReportToJsonString`. -/
def agentReportToJsonString (name report : String) : String :=
  jsoncons.asString (.object
    [("agent_report", .object [("name", .string name), ("report", .string report)])])

/-- `agentReportListToJsonString`. -/
def agentReportListToJsonString (list : Traversal String) : String :=
  jsoncons.asString (.object [("agent_report_list", entriesToJson (fun name report =>
    .object [("name", .string name), ("report", .string report)]) list)])

/-! ### Reading answers -/

/-- The enumerator an `AgentState` with a given value is, if there is one. -/
def agentStateOfValue : Int → Option AgentState
  | 0 => some .idle
  | 1 => some .starting
  | 2 => some .active
  | 3 => some .stopping
  | _ => none

/-- The enumerator a `MavlinkEndpointState` with a given value is, if there is one. -/
def endpointStateOfValue : Int → Option MavlinkEndpointState
  | 0 => some .disconnected
  | 1 => some .connecting
  | 2 => some .connected
  | 3 => some .disconnecting
  | _ => none

/-- `agentStateToString(static_cast<AgentState>(value))`. -/
def agentStateNameOfValue (value : Int) : String :=
  ((agentStateOfValue value).map agentStateToString).getD "unknown agent state"

/-- `endpointStateToString(static_cast<MavlinkEndpointState>(value))`. -/
def endpointStateNameOfValue (value : Int) : String :=
  ((endpointStateOfValue value).map endpointStateToString).getD "unknown endpoint state"

variable (truncate : String → Int)

/-- The body of the loop of both decoders. -/
def statusEntry (nameOfValue : Int → String) (entry : Json) :
    Except ConversionFailure (String × String) :=
  if !entry.isObject || !entry.contains "name" || !(entry.get "name").isString ||
      !entry.contains "status" || !(entry.get "status").isNumber then
    .error .rejected
  else
    match (entry.get "status").toInt truncate with
    | none => .error .thrown
    | some value => .ok (jsoncons.asString (entry.get "name"), nameOfValue value)

/-- The common shape of the two decoders. -/
def statusListFromJsonString (key : String) (nameOfValue : Int → String) (text : String) :
    Except ConversionFailure (List (String × String)) :=
  match jsoncons.parse text with
  | none => .error .rejected
  | some json =>
    if !json.isObject || !json.contains key || !(json.get key).isArray then .error .rejected
    else (json.get key).elements.mapM (statusEntry jsoncons truncate nameOfValue)

/-- `agentStatusListFromJsonString`. -/
def agentStatusListFromJsonString (text : String) :
    Except ConversionFailure (List (String × String)) :=
  statusListFromJsonString jsoncons truncate "agent_status_list" agentStateNameOfValue text

/-- `endpointStatusListFromJsonString`. -/
def endpointStatusListFromJsonString (text : String) :
    Except ConversionFailure (List (String × String)) :=
  statusListFromJsonString jsoncons truncate "endpoint_status_list" endpointStateNameOfValue text

end JsonUtils

end MavlinkHub
