/-
This file is about what a start-up depends on. A run of the start-up reads the config
and the files it names, and also two members that nothing initialises: the policy of a
parsed plan and the flag of a parsed config. A run is compared with the runs that find
other values in these members, by the calls it makes into the lib loader and the
application service.

The calls come in three parts. The library loads depend on the files alone. So does the
command that loads the startup plan. Whether the plan is then applied depends on the
flag, and on whether the plan was accepted, which depends on the policy.
-/

import MavlinkHub.AppConfig
import MavlinkHub.CurrentPlan
import MavlinkHub.PlanDocuments
import MavlinkHub.SampleSdk

namespace MavlinkHub

open JsonUtils

/-! ### The calls of a start-up -/

/-- A call that the start-up makes. -/
inductive StartupCall
  | loadAgentLib (libInfo : LibInfo)
  | loadTransportLib (libInfo : LibInfo)
  | executeCommand (cmd : AppServiceCommand)
  deriving DecidableEq

section Recording

variable {State : Type}

/-- Answer a call and write it down. -/
def noteStartupCall {Answer : Type} (startupCall : StartupCall) (call : State → Answer × State)
    (noted : State × List StartupCall) : Answer × (State × List StartupCall) :=
  ((call noted.1).1, ((call noted.1).2, noted.2 ++ [startupCall]))

/-- The same loader, with a record of the calls into it. -/
def ILibLoader.recorded (libLoader : ILibLoader State) :
    ILibLoader (State × List StartupCall) where
  loadAgentLib libInfo := noteStartupCall (.loadAgentLib libInfo) (libLoader.loadAgentLib libInfo)
  loadTransportLib libInfo :=
    noteStartupCall (.loadTransportLib libInfo) (libLoader.loadTransportLib libInfo)

/-- The same service, with a record of the calls into it. -/
def IAppService.recorded (appService : IAppService State) :
    IAppService (State × List StartupCall) where
  executeCommand cmd := noteStartupCall (.executeCommand cmd) (appService.executeCommand cmd)

/-- A loader whose state lies beside that of a service. -/
def ILibLoader.beside {Service : Type} (libLoader : ILibLoader State) :
    ILibLoader (Service × State) where
  loadAgentLib libInfo state :=
    let (result, loaded) := libLoader.loadAgentLib libInfo state.2
    (result, (state.1, loaded))
  loadTransportLib libInfo state :=
    let (result, loaded) := libLoader.loadTransportLib libInfo state.2
    (result, (state.1, loaded))

end Recording

/-- What the uninitialised members happen to hold in one run of the start-up. -/
structure StartupMemory where
  flag : Bool
  extraFlag : Bool
  policy : UserPlanPolicy
  success : Bool

/-- What a run of the start-up finds besides its config document. -/
structure StartupEnvironment (State : Type) where
  jsoncons : Jsoncons
  fileSystem : FileSystem
  order : VisitingOrder
  libLoader : ILibLoader State
  manager : IManager State
  service : AppServiceImpl
  state : State

namespace StartupEnvironment

variable {State : Type} (environment : StartupEnvironment State) (memory garbage : StartupMemory)

/-- The application service, its commands finding the given memory. -/
def appService : IAppService (AppServiceImpl × State) :=
  AppService.interface environment.jsoncons environment.manager fun cmd =>
    { file := environment.fileSystem.read cmd.payload
      success := memory.success
      policy := memory.policy
      order := environment.order }

/-- The loader and the service of a start-up, before any call. -/
def initial : (AppServiceImpl × State) × List StartupCall :=
  ((environment.service, environment.state), [])

/-- The calls of `jsonToAppConfig` followed by `applyConfig`. -/
def startupCalls (appCfgJson : Json) : List StartupCall :=
  match jsonToAppConfig environment.jsoncons environment.fileSystem memory.flag appCfgJson with
  | .error _ => []
  | .ok config =>
    (Startup.applyConfig environment.jsoncons environment.fileSystem environment.order
      environment.libLoader.beside.recorded (environment.appService memory).recorded
      memory.extraFlag config environment.initial).2.2

end StartupEnvironment

/-! ### The parser of configs -/

section Configs

variable {jsoncons : Jsoncons} {fileSystem : FileSystem} {memory : Bool} {key : String}
  {appCfgJson : Json}

/-- A library list is missing or well-formed. -/
def LibsAccepted (jsoncons : Jsoncons) (key : String) (appCfgJson : Json) : Prop :=
  appCfgJson.contains key = true → (jsonToLibList jsoncons (appCfgJson.get key)).isSome = true

/-- A path is missing or can be made canonical. -/
def PathAccepted (jsoncons : Jsoncons) (fileSystem : FileSystem) (key : String)
    (appCfgJson : Json) : Prop :=
  appCfgJson.contains key = true →
    (fileSystem.weaklyCanonical (jsoncons.asString (appCfgJson.get key))).isSome = true

/-- The document is a config. -/
structure ConfigAccepted (jsoncons : Jsoncons) (fileSystem : FileSystem) (appCfgJson : Json) :
    Prop where
  agentLibs : LibsAccepted jsoncons "agent_lib_list" appCfgJson
  transportLibs : LibsAccepted jsoncons "transport_lib_list" appCfgJson
  extraLibs : PathAccepted jsoncons fileSystem "path_to_extra_lib_list" appCfgJson
  startupPlan : PathAccepted jsoncons fileSystem "path_to_startup_user_plan" appCfgJson
  flag : appCfgJson.contains "apply_user_plan_on_startup" = true →
    (appCfgJson.get "apply_user_plan_on_startup").toBool.isSome = true

/-- The path a config gives under a key; empty if it gives none. -/
def pathAt (jsoncons : Jsoncons) (fileSystem : FileSystem) (key : String) (appCfgJson : Json) :
    String :=
  if appCfgJson.contains key then
    (fileSystem.weaklyCanonical (jsoncons.asString (appCfgJson.get key))).getD ""
  else ""

/-- The flag a config gives; `none` if it gives none. -/
def flagAt (appCfgJson : Json) : Option Bool :=
  if appCfgJson.contains "apply_user_plan_on_startup" then
    (appCfgJson.get "apply_user_plan_on_startup").toBool
  else none

theorem configLibs_of_accepted (accepted : LibsAccepted jsoncons key appCfgJson) :
    ∃ libList, configLibs jsoncons key appCfgJson = .ok libList := by
  rw [configLibs]
  by_cases present : appCfgJson.contains key = true
  · obtain ⟨libList, parsed⟩ := Option.isSome_iff_exists.mp (accepted present)
    exact ⟨libList, by rw [if_pos present, parsed]⟩
  · exact ⟨∅, if_neg present⟩

theorem configLibs_of_not_accepted (refused : ¬LibsAccepted jsoncons key appCfgJson) :
    configLibs jsoncons key appCfgJson = .error .rejected := by
  rw [LibsAccepted, Classical.not_imp, Option.not_isSome_iff_eq_none] at refused
  rw [configLibs, if_pos refused.1, refused.2]

theorem configPath_of_accepted (accepted : PathAccepted jsoncons fileSystem key appCfgJson) :
    configPath jsoncons fileSystem key appCfgJson =
      .ok (pathAt jsoncons fileSystem key appCfgJson) := by
  rw [configPath, pathAt]
  by_cases present : appCfgJson.contains key = true
  · obtain ⟨path, found⟩ := Option.isSome_iff_exists.mp (accepted present)
    simp [present, found]
  · rw [if_neg present, if_neg present]

theorem configPath_of_not_accepted
    (refused : ¬PathAccepted jsoncons fileSystem key appCfgJson) :
    configPath jsoncons fileSystem key appCfgJson = .error .thrown := by
  rw [PathAccepted, Classical.not_imp, Option.not_isSome_iff_eq_none] at refused
  rw [configPath, if_pos refused.1, refused.2]

theorem configFlag_of_accepted (accepted : appCfgJson.contains "apply_user_plan_on_startup" = true →
    (appCfgJson.get "apply_user_plan_on_startup").toBool.isSome = true) :
    configFlag memory appCfgJson = .ok ((flagAt appCfgJson).getD memory) := by
  rw [configFlag, flagAt]
  by_cases present : appCfgJson.contains "apply_user_plan_on_startup" = true
  · obtain ⟨flag, read⟩ := Option.isSome_iff_exists.mp (accepted present)
    rw [if_pos present, if_pos present, read, Option.getD_some]
  · rw [if_neg present, if_neg present, Option.getD_none]

theorem configFlag_of_not_accepted
    (refused : ¬(appCfgJson.contains "apply_user_plan_on_startup" = true →
      (appCfgJson.get "apply_user_plan_on_startup").toBool.isSome = true)) :
    configFlag memory appCfgJson = .error .thrown := by
  rw [Classical.not_imp, Option.not_isSome_iff_eq_none] at refused
  rw [configFlag, if_pos refused.1, refused.2]

/-- All of a config except for its flag is read from the document. -/
theorem jsonToAppConfig_of_accepted (accepted : ConfigAccepted jsoncons fileSystem appCfgJson) :
    ∃ agentLibList transportLibList, ∀ memory,
      jsonToAppConfig jsoncons fileSystem memory appCfgJson = .ok
        { agentLibList, transportLibList
          pathToExtraLibList := pathAt jsoncons fileSystem "path_to_extra_lib_list" appCfgJson
          pathToStartupUserPlan :=
            pathAt jsoncons fileSystem "path_to_startup_user_plan" appCfgJson
          applyUserPlanOnStartup := (flagAt appCfgJson).getD memory } := by
  obtain ⟨agentLibList, agents⟩ := configLibs_of_accepted accepted.agentLibs
  obtain ⟨transportLibList, transports⟩ := configLibs_of_accepted accepted.transportLibs
  refine ⟨agentLibList, transportLibList, fun memory => ?_⟩
  rw [jsonToAppConfig, agents, transports, configPath_of_accepted accepted.extraLibs,
    configPath_of_accepted accepted.startupPlan, configFlag_of_accepted accepted.flag]
  rfl

/-- A library list that is not well-formed has the document refused. -/
theorem jsonToAppConfig_of_libs_refused
    (refused : ¬(LibsAccepted jsoncons "agent_lib_list" appCfgJson ∧
      LibsAccepted jsoncons "transport_lib_list" appCfgJson)) :
    jsonToAppConfig jsoncons fileSystem memory appCfgJson = .error .rejected := by
  by_cases agents : LibsAccepted jsoncons "agent_lib_list" appCfgJson
  · obtain ⟨agentLibList, agentsRead⟩ := configLibs_of_accepted agents
    have transports := fun transports => refused ⟨agents, transports⟩
    rw [jsonToAppConfig, agentsRead, configLibs_of_not_accepted transports]
    rfl
  · rw [jsonToAppConfig, configLibs_of_not_accepted agents]
    rfl

/-- Behind well-formed library lists, whatever is wrong with a document throws. -/
theorem jsonToAppConfig_of_libs_accepted
    (agents : LibsAccepted jsoncons "agent_lib_list" appCfgJson)
    (transports : LibsAccepted jsoncons "transport_lib_list" appCfgJson)
    (refused : ¬ConfigAccepted jsoncons fileSystem appCfgJson) :
    jsonToAppConfig jsoncons fileSystem memory appCfgJson = .error .thrown := by
  obtain ⟨agentLibList, agentsRead⟩ := configLibs_of_accepted agents
  obtain ⟨transportLibList, transportsRead⟩ := configLibs_of_accepted transports
  rw [jsonToAppConfig, agentsRead, transportsRead]
  by_cases extras : PathAccepted jsoncons fileSystem "path_to_extra_lib_list" appCfgJson
  · by_cases plan : PathAccepted jsoncons fileSystem "path_to_startup_user_plan" appCfgJson
    · have flag := fun flag => refused ⟨agents, transports, extras, plan, flag⟩
      rw [configPath_of_accepted extras, configPath_of_accepted plan,
        configFlag_of_not_accepted flag]
      rfl
    · rw [configPath_of_accepted extras, configPath_of_not_accepted plan]
      rfl
  · rw [configPath_of_not_accepted extras]
    rfl

/-- Whether and how a document fails to be a config is read from the document. -/
theorem jsonToAppConfig_of_not_accepted
    (refused : ¬ConfigAccepted jsoncons fileSystem appCfgJson) :
    ∃ failure, ∀ memory,
      jsonToAppConfig jsoncons fileSystem memory appCfgJson = .error failure := by
  by_cases libs : LibsAccepted jsoncons "agent_lib_list" appCfgJson ∧
      LibsAccepted jsoncons "transport_lib_list" appCfgJson
  · exact ⟨.thrown, fun memory => jsonToAppConfig_of_libs_accepted libs.1 libs.2 refused⟩
  · exact ⟨.rejected, fun memory => jsonToAppConfig_of_libs_refused libs⟩

end Configs

/-! ### The startup plan -/

section Plans

variable {State : Type}

namespace Startup

/-- The startup plan is loaded, and applied if the flag is set and the load succeeded. -/
theorem applyStartupPlan_calls (appService : IAppService State) (config : AppConfig)
    (loaded : OperationResult × (State × List StartupCall))
    (asked : config.pathToStartupUserPlan ≠ "") :
    (applyStartupPlan appService.recorded config loaded).2.2 =
      loaded.2.2 ++ .executeCommand ⟨.loadPlanFromPath, config.pathToStartupUserPlan⟩ ::
        if config.applyUserPlanOnStartup && (appService.executeCommand
            ⟨.loadPlanFromPath, config.pathToStartupUserPlan⟩ loaded.2.1).1.success then
          [.executeCommand ⟨.applyCurrentPlan, ""⟩]
        else [] := by
  rw [applyStartupPlan, if_pos asked]
  simp only [startupCommand, IAppService.recorded, noteStartupCall]
  split_ifs
  · rw [List.append_assoc]
    rfl
  · rfl

end Startup

namespace StartupEnvironment

variable (environment : StartupEnvironment State)

/-- The document in the file at a path, if there is one. -/
def planAt (path : String) : Option Json :=
  (environment.fileSystem.read path).bind environment.jsoncons.parse

/-- Whether the command that loads the plan at a path succeeds. -/
def planLoads (policy : UserPlanPolicy) (path : String) : Bool :=
  match environment.planAt path with
  | none => false
  | some planJson =>
    (jsonToUserPlan environment.jsoncons environment.order policy planJson).isSome

theorem appService_loads (memory : StartupMemory) (path : String)
    (state : AppServiceImpl × State) :
    ((environment.appService memory).executeCommand ⟨.loadPlanFromPath, path⟩ state).1.success =
      environment.planLoads memory.policy path := by
  rw [planLoads, planAt]
  simp only [appService, AppService.interface, AppService.executeCommand]
  cases environment.fileSystem.read path with
  | none => rfl
  | some text =>
    rw [AppService.finishLoad_success, fstreamToUserPlan, Option.bind_some]
    cases environment.jsoncons.parse text <;> rfl

/-- The config at hand is accepted, names the plan, and the extra libraries it names are no
obstacle. -/
structure ReachesStartupPlan (appCfgJson : Json) (path : String) : Prop where
  config : ConfigAccepted environment.jsoncons environment.fileSystem appCfgJson
  path_eq : pathAt environment.jsoncons environment.fileSystem "path_to_startup_user_plan"
    appCfgJson = path
  path_ne : path ≠ ""
  extraLibs : ∀ extra, pathAt environment.jsoncons environment.fileSystem "path_to_extra_lib_list"
    appCfgJson = extra → extra ≠ "" →
      ∃ extraJson, environment.planAt extra = some extraJson ∧
        ConfigAccepted environment.jsoncons environment.fileSystem extraJson

/-- What the library loops over two lists do. -/
def loadLists (agentLibList transportLibList : LibList)
    (loaded : OperationResult × ((AppServiceImpl × State) × List StartupCall)) :
    OperationResult × ((AppServiceImpl × State) × List StartupCall) :=
  Startup.loadConfigLibs environment.libLoader.beside.recorded environment.order environment.order
    { agentLibList, transportLibList, applyUserPlanOnStartup := false } loaded

variable {environment} {appCfgJson : Json} {path : String}

/-- The calls up to the startup plan are the same in all runs, and what follows depends on the
flag and on whether the plan loads. -/
theorem startupCalls_of_reaches (reaches : environment.ReachesStartupPlan appCfgJson path) :
    ∃ front, ∀ memory, environment.startupCalls memory appCfgJson =
      front ++ .executeCommand ⟨.loadPlanFromPath, path⟩ ::
        if (flagAt appCfgJson).getD memory.flag && environment.planLoads memory.policy path then
          [.executeCommand ⟨.applyCurrentPlan, ""⟩]
        else [] := by
  obtain ⟨accepted, rfl, asked, extraLibs⟩ := reaches
  obtain ⟨agentLibList, transportLibList, parsed⟩ := jsonToAppConfig_of_accepted accepted
  by_cases alone : pathAt environment.jsoncons environment.fileSystem "path_to_extra_lib_list"
      appCfgJson = ""
  · refine ⟨(environment.loadLists agentLibList transportLibList ({}, environment.initial)).2.2,
      fun memory => ?_⟩
    rw [startupCalls, parsed]
    simp only [Startup.applyConfig, Startup.applyConfigInOrders, alone, ne_eq, not_true, if_false]
    rw [Startup.applyStartupPlan_calls _ _ _ asked, appService_loads]
    rfl
  · obtain ⟨extraJson, found, extraAccepted⟩ := extraLibs _ rfl alone
    obtain ⟨text, read, document⟩ := Option.bind_eq_some_iff.mp found
    obtain ⟨extraAgents, extraTransports, extraParsed⟩ := jsonToAppConfig_of_accepted extraAccepted
    refine ⟨(environment.loadLists extraAgents extraTransports
      (environment.loadLists agentLibList transportLibList ({}, environment.initial))).2.2,
      fun memory => ?_⟩
    rw [startupCalls, parsed]
    simp only [Startup.applyConfig, Startup.applyConfigInOrders, ne_eq, alone, not_false_iff,
      if_true, read, fstreamToAppConfig, document, extraParsed]
    rw [Startup.applyStartupPlan_calls _ _ _ asked, appService_loads]
    rfl

/-- A list of extra libraries that ends the start-up, or is followed by no plan. -/
theorem startupCalls_of_extra {agentLibList transportLibList : LibList} {extra plan : String}
    (parsed : ∀ memory, jsonToAppConfig environment.jsoncons environment.fileSystem memory
      appCfgJson = .ok ⟨agentLibList, transportLibList, extra, plan,
        (flagAt appCfgJson).getD memory⟩)
    (given : extra ≠ "")
    (stops : ∀ extraJson, environment.planAt extra = some extraJson →
      ConfigAccepted environment.jsoncons environment.fileSystem extraJson → ¬plan ≠ "") :
    ∃ calls, ∀ memory, environment.startupCalls memory appCfgJson = calls := by
  cases read : environment.fileSystem.read extra with
  | none =>
    refine ⟨(environment.loadLists agentLibList transportLibList ({}, environment.initial)).2.2,
      fun memory => ?_⟩
    rw [startupCalls, parsed]
    simp only [Startup.applyConfig, Startup.applyConfigInOrders, ne_eq, given, not_false_iff,
      if_true, read]
    rfl
  | some text =>
    cases document : environment.jsoncons.parse text with
    | none =>
      refine ⟨(environment.loadLists agentLibList transportLibList ({}, environment.initial)).2.2,
        fun memory => ?_⟩
      rw [startupCalls, parsed]
      simp only [Startup.applyConfig, Startup.applyConfigInOrders, ne_eq, given, not_false_iff,
        if_true, read, fstreamToAppConfig, document]
      rfl
    | some extraJson =>
      have found : environment.planAt extra = some extraJson := by
        rw [planAt, read, Option.bind_some, document]
      by_cases accepted : ConfigAccepted environment.jsoncons environment.fileSystem extraJson
      · have unasked : plan = "" := not_not.mp (stops extraJson found accepted)
        obtain ⟨extraAgents, extraTransports, extraParsed⟩ := jsonToAppConfig_of_accepted accepted
        refine ⟨(environment.loadLists extraAgents extraTransports
          (environment.loadLists agentLibList transportLibList ({}, environment.initial))).2.2,
          fun memory => ?_⟩
        rw [startupCalls, parsed]
        simp only [Startup.applyConfig, Startup.applyConfigInOrders, ne_eq, given, not_false_iff,
          if_true, read, fstreamToAppConfig, document, extraParsed, Startup.applyStartupPlan,
          unasked, not_true, if_false]
        rfl
      · obtain ⟨failure, failed⟩ := jsonToAppConfig_of_not_accepted accepted
        refine ⟨(environment.loadLists agentLibList transportLibList ({}, environment.initial)).2.2,
          fun memory => ?_⟩
        rw [startupCalls, parsed]
        simp only [Startup.applyConfig, Startup.applyConfigInOrders, ne_eq, given, not_false_iff,
          if_true, read, fstreamToAppConfig, document, failed]
        cases failure <;> rfl

/-- Without a startup plan to load, all runs make the same calls. -/
theorem startupCalls_of_not_reaches
    (stops : ∀ path, ¬environment.ReachesStartupPlan appCfgJson path) :
    ∃ calls, ∀ memory, environment.startupCalls memory appCfgJson = calls := by
  by_cases accepted : ConfigAccepted environment.jsoncons environment.fileSystem appCfgJson
  · obtain ⟨agentLibList, transportLibList, parsed⟩ := jsonToAppConfig_of_accepted accepted
    by_cases alone : pathAt environment.jsoncons environment.fileSystem "path_to_extra_lib_list"
        appCfgJson = ""
    · have unasked : pathAt environment.jsoncons environment.fileSystem
          "path_to_startup_user_plan" appCfgJson = "" := by
        by_contra asked
        exact stops _ ⟨accepted, rfl, asked, fun extra same given => absurd (same ▸ alone) given⟩
      refine ⟨(environment.loadLists agentLibList transportLibList ({}, environment.initial)).2.2,
        fun memory => ?_⟩
      rw [startupCalls, parsed]
      simp only [Startup.applyConfig, Startup.applyConfigInOrders, alone, ne_eq, not_true, if_false,
        Startup.applyStartupPlan, unasked]
      rfl
    · obtain ⟨calls, same⟩ := startupCalls_of_extra parsed alone fun extraJson found accept asked =>
        stops _ ⟨accepted, rfl, asked, fun extra named _ => ⟨extraJson, named ▸ found, accept⟩⟩
      exact ⟨calls, same⟩
  · obtain ⟨failure, failed⟩ := jsonToAppConfig_of_not_accepted accepted
    exact ⟨[], fun memory => by rw [startupCalls, failed]⟩

end StartupEnvironment

end Plans

/-! ### Runs with different memories -/

section Memories

variable {State : Type} {jsoncons : Jsoncons} {order : VisitingOrder} {planJson : Json}

/-- A plan that names a policy and is refused all the same: the policy is unknown, or it is
`discard` and a list is malformed. -/
def PlanRefused (jsoncons : Jsoncons) (planJson : Json) : Prop :=
  jsoncons.asString (planJson.get "policy") ≠ "best_effort" ∧
    (jsoncons.asString (planJson.get "policy") = "discard" → ¬ListsWellFormed planJson)

instance : Decidable (PlanRefused jsoncons planJson) :=
  inferInstanceAs (Decidable (_ ∧ _))

theorem jsonToUserPlan_eq_of_policy (present : planJson.contains "policy" = true)
    (memory garbage : UserPlanPolicy) :
    jsonToUserPlan jsoncons order memory planJson =
      jsonToUserPlan jsoncons order garbage planJson := by
  have same : planPolicy jsoncons memory planJson = planPolicy jsoncons garbage planJson := by
    rw [planPolicy, planPolicy, if_pos present, if_pos present]
  rw [jsonToUserPlan, jsonToUserPlan, same]

theorem planPolicy_of_missing (missing : ¬planJson.contains "policy" = true)
    (memory : UserPlanPolicy) : planPolicy jsoncons memory planJson = some memory := by
  rw [planPolicy, if_neg missing]

/-- The parser yields the same in all runs exactly if the document names a policy. -/
theorem jsonToUserPlan_deterministic_iff :
    (∀ memory garbage, jsonToUserPlan jsoncons order memory planJson =
      jsonToUserPlan jsoncons order garbage planJson) ↔ planJson.contains "policy" = true := by
  refine ⟨fun same => ?_, jsonToUserPlan_eq_of_policy⟩
  by_contra missing
  have parsed := same .bestEffort .discard
  rw [jsonToUserPlan_bestEffort (planPolicy_of_missing missing .bestEffort),
    jsonToUserPlan_discard (planPolicy_of_missing missing .discard)] at parsed
  split_ifs at parsed
  have policies := congrArg UserPlan.policy (Option.some.inj parsed)
  cases policies

theorem jsonToUserPlan_isSome_iff_not_refused (present : planJson.contains "policy" = true)
    (memory : UserPlanPolicy) :
    (jsonToUserPlan jsoncons order memory planJson).isSome = true ↔
      ¬PlanRefused jsoncons planJson := by
  by_cases strict : jsoncons.asString (planJson.get "policy") = "discard"
  · have policy : planPolicy jsoncons memory planJson = some .discard := by
      rw [planPolicy, if_pos present, strict]
      rfl
    have different : ("discard" : String) ≠ "best_effort" := by decide
    rw [jsonToUserPlan_discard policy, PlanRefused, strict]
    by_cases accepted : ListsWellFormed planJson <;> simp [accepted]
  · by_cases lenient : jsoncons.asString (planJson.get "policy") = "best_effort"
    · have policy : planPolicy jsoncons memory planJson = some .bestEffort := by
        rw [planPolicy, if_pos present, lenient]
        rfl
      rw [jsonToUserPlan_bestEffort policy, PlanRefused, lenient]
      simp
    · have policy : planPolicy jsoncons memory planJson = none := by
        simp only [planPolicy, if_pos present, if_neg strict, if_neg lenient]
      rw [jsonToUserPlan, policy, PlanRefused]
      simp [strict, lenient]

/-- What decides whether a startup plan is applied, given the flag of the config. -/
def PlanDecided (jsoncons : Jsoncons) (flag : Option Bool) (planJson : Json) : Prop :=
  match flag with
  | some false => True
  | some true => planJson.contains "policy" = true ∨ ListsWellFormed planJson
  | none => planJson.contains "policy" = true ∧ PlanRefused jsoncons planJson

/-- Without a policy every value the memory may hold accepts well-formed lists. -/
theorem jsonToUserPlan_isSome_of_missing (missing : ¬planJson.contains "policy" = true)
    (accepted : ListsWellFormed planJson) (memory : UserPlanPolicy) :
    (jsonToUserPlan jsoncons order memory planJson).isSome = true := by
  rw [jsonToUserPlan_of_wellFormed (planPolicy_of_missing missing memory) accepted,
    Option.isSome_some]

theorem planDecided_iff (flag : Option Bool) :
    (∀ memory garbage : StartupMemory,
      (flag.getD memory.flag && (jsonToUserPlan jsoncons order memory.policy planJson).isSome) =
        (flag.getD garbage.flag &&
          (jsonToUserPlan jsoncons order garbage.policy planJson).isSome)) ↔
      PlanDecided jsoncons flag planJson := by
  rcases flag with _ | _ | _
  · -- Both values of the flag occur, so only a refused plan decides the matter.
    simp only [Option.getD_none, PlanDecided]
    constructor
    · intro same
      have refused : ∀ policy,
          ¬(jsonToUserPlan jsoncons order policy planJson).isSome = true := by
        intro policy accepted
        have flags := same ⟨true, false, policy, false⟩ ⟨false, false, policy, false⟩
        simp [accepted] at flags
      have present : planJson.contains "policy" = true := by
        by_contra missing
        exact refused .bestEffort
          (jsonToUserPlan_isSome (planPolicy_of_missing missing .bestEffort) (by decide))
      exact ⟨present, not_not.mp fun accepted =>
        refused .discard ((jsonToUserPlan_isSome_iff_not_refused present _).mpr accepted)⟩
    · rintro ⟨present, refused⟩ memory garbage
      have never : ∀ policy, (jsonToUserPlan jsoncons order policy planJson).isSome = false := by
        intro policy
        rw [← Bool.not_eq_true, jsonToUserPlan_isSome_iff_not_refused present, not_not]
        exact refused
      rw [never, never, Bool.and_false, Bool.and_false]
  · simp only [Option.getD_some, PlanDecided, Bool.false_and, implies_true]
  · -- The plan is applied exactly if it is accepted.
    simp only [Option.getD_some, PlanDecided, Bool.true_and]
    constructor
    · intro same
      by_contra neither
      rw [not_or] at neither
      have policies := same ⟨true, false, .bestEffort, false⟩ ⟨true, false, .discard, false⟩
      rw [jsonToUserPlan_bestEffort (planPolicy_of_missing neither.1 .bestEffort),
        jsonToUserPlan_discard (planPolicy_of_missing neither.1 .discard), if_neg neither.2]
        at policies
      cases policies
    · intro decided memory garbage
      by_cases present : planJson.contains "policy" = true
      · rw [jsonToUserPlan_eq_of_policy present]
      · have accepted := decided.resolve_left present
        rw [jsonToUserPlan_isSome_of_missing present accepted,
          jsonToUserPlan_isSome_of_missing present accepted]

end Memories

namespace StartupEnvironment

variable {State : Type} {environment : StartupEnvironment State} {appCfgJson : Json}

/-- Wherever a startup plan is reached, the files decide whether it is applied. -/
def StartupDecided (environment : StartupEnvironment State) (appCfgJson : Json) : Prop :=
  ∀ path planJson, environment.ReachesStartupPlan appCfgJson path →
    environment.planAt path = some planJson →
      PlanDecided environment.jsoncons (flagAt appCfgJson) planJson

/-- The calls are the same in all runs exactly if the files decide whether the plan is
applied. -/
theorem startupCalls_deterministic_iff :
    (∀ memory garbage, environment.startupCalls memory appCfgJson =
      environment.startupCalls garbage appCfgJson) ↔ environment.StartupDecided appCfgJson := by
  by_cases reached : ∃ path, environment.ReachesStartupPlan appCfgJson path
  · obtain ⟨path, reaches⟩ := reached
    obtain ⟨front, calls⟩ := startupCalls_of_reaches reaches
    have unique : ∀ another, environment.ReachesStartupPlan appCfgJson another → another = path :=
      fun another reaching => reaching.path_eq.symm.trans reaches.path_eq
    have applied : ∀ one other : Bool,
        (front ++ StartupCall.executeCommand ⟨.loadPlanFromPath, path⟩ ::
            if one then [StartupCall.executeCommand ⟨.applyCurrentPlan, ""⟩] else []) =
          (front ++ StartupCall.executeCommand ⟨.loadPlanFromPath, path⟩ ::
            if other then [StartupCall.executeCommand ⟨.applyCurrentPlan, ""⟩] else []) ↔
        one = other := by
      intro one other
      cases one <;> cases other <;> simp
    have decisions : (∀ memory garbage, environment.startupCalls memory appCfgJson =
        environment.startupCalls garbage appCfgJson) ↔ ∀ memory garbage : StartupMemory,
          ((flagAt appCfgJson).getD memory.flag && environment.planLoads memory.policy path) =
            ((flagAt appCfgJson).getD garbage.flag &&
              environment.planLoads garbage.policy path) := by
      refine forall₂_congr fun memory garbage => ?_
      rw [calls, calls]
      exact applied _ _
    rw [decisions]
    cases found : environment.planAt path with
    | none =>
      refine iff_of_true (fun _ _ => by simp only [planLoads, found, Bool.and_false]) ?_
      intro another planJson reaching document
      rw [unique another reaching, found] at document
      cases document
    | some planJson =>
      simp only [planLoads, found]
      rw [planDecided_iff]
      constructor
      · intro decided another planJson reaching document
        rw [unique another reaching, found] at document
        cases document
        exact decided
      · intro decided
        exact decided path planJson reaches found
  · rw [not_exists] at reached
    obtain ⟨calls, same⟩ := startupCalls_of_not_reaches reached
    refine iff_of_true (fun memory garbage => by rw [same, same]) ?_
    intro path planJson reaches
    exact absurd reaches (reached path)

end StartupEnvironment

/-- The start-up is a function of the files alone exactly if the plan document names its policy
and, wherever a startup plan is reached, the files decide whether it is applied. -/
theorem startup_deterministic_iff {State : Type} (environment : StartupEnvironment State)
    (planJson appCfgJson : Json) :
    ((∀ memory garbage,
        jsonToUserPlan environment.jsoncons environment.order memory planJson =
          jsonToUserPlan environment.jsoncons environment.order garbage planJson) ∧
      ∀ memory garbage, environment.startupCalls memory appCfgJson =
        environment.startupCalls garbage appCfgJson) ↔
      planJson.contains "policy" = true ∧ environment.StartupDecided appCfgJson :=
  and_congr jsonToUserPlan_deterministic_iff StartupEnvironment.startupCalls_deterministic_iff

/-- A config that names a startup plan and does not say whether to apply it. -/
def silentConfig : Json :=
  .object [("path_to_startup_user_plan", .string "plan.json")]

/-- A start-up over the sample whose plan document says nothing at all. -/
noncomputable def silentStartup : StartupEnvironment (World sampleSdk) where
  jsoncons := .reading [.object []]
  fileSystem :=
    { read := fun path => if path = "plan.json" then some (Json.compact (.object [])) else none
      weaklyCanonical := some }
  order := Classical.arbitrary VisitingOrder
  libLoader :=
    { loadAgentLib := fun _ world => ({}, world), loadTransportLib := fun _ world => ({}, world) }
  manager := Manager.interface (Classical.arbitrary VisitingOrder)
  service := {}
  state := sampleWorld

theorem silentStartup_reaches : silentStartup.ReachesStartupPlan silentConfig "plan.json" where
  config :=
    { agentLibs := fun present => absurd present (by decide)
      transportLibs := fun present => absurd present (by decide)
      extraLibs := fun present => absurd present (by decide)
      startupPlan := fun _ => rfl
      flag := fun present => absurd present (by decide) }
  path_eq := rfl
  path_ne := by decide
  extraLibs := by
    rintro extra rfl given
    exact absurd rfl given

/-- With the same files, the memory decides which policy the plan has, and whether the startup
plan is applied. -/
theorem silentStartup_diverges :
    jsonToUserPlan silentStartup.jsoncons silentStartup.order .bestEffort (.object []) ≠
        jsonToUserPlan silentStartup.jsoncons silentStartup.order .discard (.object []) ∧
      ∃ front,
        silentStartup.startupCalls ⟨true, false, .bestEffort, false⟩ silentConfig =
            front ++ [.executeCommand ⟨.loadPlanFromPath, "plan.json"⟩,
              .executeCommand ⟨.applyCurrentPlan, ""⟩] ∧
          silentStartup.startupCalls ⟨false, false, .bestEffort, false⟩ silentConfig =
            front ++ [.executeCommand ⟨.loadPlanFromPath, "plan.json"⟩] := by
  have missing : ¬(Json.object []).contains "policy" = true := by decide
  constructor
  · have accepted : ListsWellFormed (.object []) := by decide
    rw [jsonToUserPlan_bestEffort (planPolicy_of_missing missing .bestEffort),
      jsonToUserPlan_discard (planPolicy_of_missing missing .discard), if_pos accepted]
    intro same
    cases congrArg UserPlan.policy (Option.some.inj same)
  · obtain ⟨front, calls⟩ := StartupEnvironment.startupCalls_of_reaches silentStartup_reaches
    have found : silentStartup.planAt "plan.json" = some (.object []) := rfl
    have loads : silentStartup.planLoads .bestEffort "plan.json" = true := by
      simp only [StartupEnvironment.planLoads, found]
      exact jsonToUserPlan_isSome (planPolicy_of_missing missing .bestEffort) (by decide)
    refine ⟨front, ?_, ?_⟩
    · rw [calls, loads]
      rfl
    · rw [calls]
      rfl

end MavlinkHub
