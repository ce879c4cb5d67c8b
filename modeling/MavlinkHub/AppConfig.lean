/-
This file transcribes the start-up of the application: the parser of the app config
and `startup::applyConfig`, which hands the libraries it lists to the lib loader and
its startup plan to the application service.
-/

import MavlinkHub.AppService

namespace MavlinkHub

/-- `LibInfo`. -/
structure LibInfo where
  name : String
  path : String
  sym : String
  deriving DecidableEq

/-- `LibList`, by registration name. -/
abbrev LibList := StringMap LibInfo

/-- `AppConfig`. -/
structure AppConfig where
  agentLibList : LibList := ∅
  transportLibList : LibList := ∅
  pathToExtraLibList : String := ""
  pathToStartupUserPlan : String := ""
  applyUserPlanOnStartup : Bool

/-- The files a start-up finds, and how it names them. -/
structure FileSystem where
  /-- The text of the file at a path; `none` if it cannot be opened. -/
  read : String → Option String
  /-- `std::filesystem::weakly_canonical`; `none` is a thrown `filesystem_error`. -/
  weaklyCanonical : String → Option String

namespace JsonUtils

variable (jsoncons : Jsoncons) (fileSystem : FileSystem)

/-! ### Reading a config -/

/-- The body of the loop of `jsonToLibList`, up to the test for a duplicate. -/
def libInfoOf (libEntry : Json) : Option LibInfo :=
  if !libEntry.contains "name" || !libEntry.contains "path" || !libEntry.contains "sym" then
    none
  else
    some
      { name := jsoncons.asString (libEntry.get "name")
        path := jsoncons.asString (libEntry.get "path")
        sym := jsoncons.asString (libEntry.get "sym") }

/-- The loop of `jsonToLibList`. A second element of one name ends it. -/
def collectLibs : List Json → LibList → Option LibList
  | [], libList => some libList
  | libEntry :: rest, libList =>
    match libInfoOf jsoncons libEntry with
    | none => none
    | some libInfo =>
      if libInfo.name ∈ libList then none
      else collectLibs rest (libList.insert libInfo.name libInfo)

/-- `jsonToLibList`. -/
def jsonToLibList (libListJson : Json) : Option LibList :=
  match libListJson with
  | .array elements => collectLibs jsoncons elements ∅
  | _ => none

/-- One of the two library lists of a config. -/
def configLibs (key : String) (appCfgJson : Json) : Except ConversionFailure LibList :=
  if appCfgJson.contains key then
    match jsonToLibList jsoncons (appCfgJson.get key) with
    | some libList => .ok libList
    | none => .error .rejected
  else .ok ∅

/-- One of the two paths of a config. -/
def configPath (key : String) (appCfgJson : Json) : Except ConversionFailure String :=
  if appCfgJson.contains key then
    match fileSystem.weaklyCanonical (jsoncons.asString (appCfgJson.get key)) with
    | some path => .ok path
    | none => .error .thrown
  else .ok ""

/-- The flag of a config. Without one, the member keeps what its memory held before. -/
def configFlag (memory : Bool) (appCfgJson : Json) : Except ConversionFailure Bool :=
  if appCfgJson.contains "apply_user_plan_on_startup" then
    match (appCfgJson.get "apply_user_plan_on_startup").toBool with
    | some flag => .ok flag
    | none => .error .thrown
  else .ok memory

/-- `jsonToAppConfig`. -/
def jsonToAppConfig (memory : Bool) (appCfgJson : Json) : Except ConversionFailure AppConfig := do
  let agentLibList ← configLibs jsoncons "agent_lib_list" appCfgJson
  let transportLibList ← configLibs jsoncons "transport_lib_list" appCfgJson
  let pathToExtraLibList ← configPath jsoncons fileSystem "path_to_extra_lib_list" appCfgJson
  let pathToStartupUserPlan ← configPath jsoncons fileSystem "path_to_startup_user_plan" appCfgJson
  let applyUserPlanOnStartup ← configFlag memory appCfgJson
  return ⟨agentLibList, transportLibList, pathToExtraLibList, pathToStartupUserPlan,
    applyUserPlanOnStartup⟩

/-- `fstreamToAppConfig`, on the text of the file. -/
def fstreamToAppConfig (memory : Bool) (text : String) : Except ConversionFailure AppConfig :=
  match jsoncons.parse text with
  | none => .error .rejected
  | some appConfigJson => jsonToAppConfig jsoncons fileSystem memory appConfigJson

/-- `fstreamToLibList`, on the text of the file. -/
def fstreamToLibList (text : String) : Except ConversionFailure LibList :=
  match jsoncons.parse text with
  | none => .error .rejected
  | some libListJson =>
    match jsonToLibList jsoncons libListJson with
    | some libList => .ok libList
    | none => .error .rejected

end JsonUtils

/-! ### Applying a config -/

/-- An order for each of the four library maps that a start-up visits. -/
structure LibOrders where
  agents : VisitingOrder
  transports : VisitingOrder
  extraAgents : VisitingOrder
  extraTransports : VisitingOrder

/-- The same order for all of them. -/
def LibOrders.all (order : VisitingOrder) : LibOrders := ⟨order, order, order, order⟩

/-- `ILibLoader`, over the state of a loader and what it works on. -/
structure ILibLoader (State : Type) where
  loadAgentLib : LibInfo → State → OperationResult × State
  loadTransportLib : LibInfo → State → OperationResult × State

namespace Startup

open JsonUtils

variable {State : Type} (jsoncons : Jsoncons) (fileSystem : FileSystem) (order : VisitingOrder)
  (libLoader : ILibLoader State) (appService : IAppService State)

/-- A loop over a library list, which merges what each load reports. -/
def loadLibs (load : LibInfo → State → OperationResult × State) :
    List LibInfo → OperationResult × State → OperationResult × State
  | [], loaded => loaded
  | libInfo :: rest, (result, state) =>
    let (loadResult, state) := load libInfo state
    loadLibs load rest (result.merge loadResult, state)

/-- The libraries of a list, in the order in which a loop visits them. -/
def visitLibs (libList : LibList) : List LibInfo :=
  (order.visit libList).entries.map (·.2)

/-- The two library loops over one config, which are run twice. -/
def loadConfigLibs (agents transports : VisitingOrder) (config : AppConfig)
    (loaded : OperationResult × State) : OperationResult × State :=
  loadLibs libLoader.loadTransportLib (visitLibs transports config.transportLibList)
    (loadLibs libLoader.loadAgentLib (visitLibs agents config.agentLibList) loaded)

/-- A command of the startup plan, its outcome merged into the result. -/
def startupCommand (cmd : AppServiceCommand) (result : OperationResult) (state : State) :
    Bool × OperationResult × State :=
  let (commandResult, state) := appService.executeCommand cmd state
  (commandResult.success,
    result.merge { success := commandResult.success, messages := commandResult.message }, state)

/-- The part of `applyConfig` that processes `path_to_startup_user_plan`. -/
def applyStartupPlan (config : AppConfig) (loaded : OperationResult × State) :
    OperationResult × State :=
  if config.pathToStartupUserPlan ≠ "" then
    let (planLoaded, result, state) :=
      startupCommand appService ⟨.loadPlanFromPath, config.pathToStartupUserPlan⟩ loaded.1 loaded.2
    if config.applyUserPlanOnStartup && planLoaded then
      (startupCommand appService ⟨.applyCurrentPlan, ""⟩ result state).2
    else (result, state)
  else loaded

/-- `startup::applyConfig`, with what the flag of the config of extra libraries held before.
The result is `none` if an exception leaves it. -/
def applyConfigInOrders (orders : LibOrders) (extraMemory : Bool) (config : AppConfig)
    (state : State) : Option OperationResult × State :=
  let loaded := loadConfigLibs libLoader orders.agents orders.transports config ({}, state)
  if config.pathToExtraLibList ≠ "" then
    match fileSystem.read config.pathToExtraLibList with
    | none =>
      (some (loaded.1.merge
        { success := false
          messages := ["[App]: path_to_extra_lib_list is set to [" ++ config.pathToExtraLibList ++
            "], but it cannot be found."] }), loaded.2)
    | some text =>
      match fstreamToAppConfig jsoncons fileSystem extraMemory text with
      | .error .thrown => (none, loaded.2)
      | .error .rejected =>
        (some (loaded.1.merge
          { success := false
            messages := ["[App]: path_to_extra_lib_list is set to [" ++ config.pathToExtraLibList ++
              "], but it cannot be parsed properly."] }), loaded.2)
      | .ok extraLibs =>
        let finished := applyStartupPlan appService config
          (loadConfigLibs libLoader orders.extraAgents orders.extraTransports extraLibs loaded)
        (some finished.1, finished.2)
  else
    let finished := applyStartupPlan appService config loaded
    (some finished.1, finished.2)

/-- `startup::applyConfig`, where one order serves all maps. -/
def applyConfig (extraMemory : Bool) (config : AppConfig) (state : State) :
    Option OperationResult × State :=
  applyConfigInOrders jsoncons fileSystem libLoader appService (.all order) extraMemory config
    state

end Startup

end MavlinkHub
