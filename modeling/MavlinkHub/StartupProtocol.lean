/-
This file states the protocol of the start-up: which calls `applyConfig` makes into the
lib loader and the application service, in which order, and how their answers make up its
result. Both collaborators are arbitrary, and a record keeps each call with its answer.

The file of extra libraries is the one point where the run may stop early. It is read as
a whole config, of which only the library lists are used; a flag or a path in it that
cannot be converted throws, and no result is returned.
-/

import MavlinkHub.Startup

namespace MavlinkHub

open JsonUtils

/-! ### Configs that can be converted -/

section Conversion

variable {jsoncons : Jsoncons} {fileSystem : FileSystem} {appCfgJson : Json}

/-- The flag is missing or can be read as a boolean. -/
def FlagAccepted (appCfgJson : Json) : Prop :=
  appCfgJson.contains "apply_user_plan_on_startup" = true →
    (appCfgJson.get "apply_user_plan_on_startup").toBool.isSome = true

/-- The paths and the flag of a config can be converted, unless a library list refuses the
config before they are read. -/
def Convertible (jsoncons : Jsoncons) (fileSystem : FileSystem) (appCfgJson : Json) : Prop :=
  LibsAccepted jsoncons "agent_lib_list" appCfgJson →
    LibsAccepted jsoncons "transport_lib_list" appCfgJson →
      PathAccepted jsoncons fileSystem "path_to_extra_lib_list" appCfgJson ∧
        PathAccepted jsoncons fileSystem "path_to_startup_user_plan" appCfgJson ∧
          FlagAccepted appCfgJson

/-- Behind well-formed library lists a convertible document is a config. -/
theorem convertible_iff_of_libs (agents : LibsAccepted jsoncons "agent_lib_list" appCfgJson)
    (transports : LibsAccepted jsoncons "transport_lib_list" appCfgJson) :
    Convertible jsoncons fileSystem appCfgJson ↔
      ConfigAccepted jsoncons fileSystem appCfgJson := by
  constructor
  · intro convertible
    obtain ⟨extraLibs, startupPlan, flag⟩ := convertible agents transports
    exact ⟨agents, transports, extraLibs, startupPlan, flag⟩
  · intro accepted _ _
    exact ⟨accepted.extraLibs, accepted.startupPlan, accepted.flag⟩

/-- The parser throws exactly on the documents that cannot be converted. -/
theorem jsonToAppConfig_eq_thrown_iff (memory : Bool) :
    jsonToAppConfig jsoncons fileSystem memory appCfgJson = .error .thrown ↔
      ¬Convertible jsoncons fileSystem appCfgJson := by
  by_cases libs : LibsAccepted jsoncons "agent_lib_list" appCfgJson ∧
      LibsAccepted jsoncons "transport_lib_list" appCfgJson
  · rw [convertible_iff_of_libs libs.1 libs.2]
    by_cases accepted : ConfigAccepted jsoncons fileSystem appCfgJson
    · obtain ⟨agentLibList, transportLibList, parsed⟩ := jsonToAppConfig_of_accepted accepted
      rw [parsed]
      exact iff_of_false (fun thrown => by cases thrown) (not_not.mpr accepted)
    · exact iff_of_true (jsonToAppConfig_of_libs_accepted libs.1 libs.2 accepted) accepted
  · rw [jsonToAppConfig_of_libs_refused libs]
    refine iff_of_false (fun thrown => by cases thrown) (not_not.mpr ?_)
    exact fun agents transports => absurd ⟨agents, transports⟩ libs

end Conversion

/-! ### The config of extra libraries -/

namespace Startup

section Extra

variable (jsoncons : Jsoncons) (fileSystem : FileSystem) (memory : Bool) (config : AppConfig)

/-- The config in the file of extra libraries, if a config names one. The file is of no use if
it cannot be opened or parsed. -/
def extraConfig : Except ConversionFailure (Option AppConfig) :=
  if config.pathToExtraLibList = "" then .ok none
  else
    match fileSystem.read config.pathToExtraLibList with
    | none => .error .rejected
    | some text => (fstreamToAppConfig jsoncons fileSystem memory text).map some

/-- If the file of extra libraries can be parsed, the document can be converted. -/
def ExtraConvertible : Prop :=
  config.pathToExtraLibList ≠ "" → ∀ text extraJson,
    fileSystem.read config.pathToExtraLibList = some text →
      jsoncons.parse text = some extraJson → Convertible jsoncons fileSystem extraJson

variable {jsoncons fileSystem memory config}

theorem extraConfig_of_unnamed (unnamed : config.pathToExtraLibList = "") :
    extraConfig jsoncons fileSystem memory config = .ok none := if_pos unnamed

theorem extraConfig_of_unread (named : config.pathToExtraLibList ≠ "")
    (unread : fileSystem.read config.pathToExtraLibList = none) :
    extraConfig jsoncons fileSystem memory config = .error .rejected := by
  rw [extraConfig, if_neg named, unread]

theorem extraConfig_of_read {text : String} (named : config.pathToExtraLibList ≠ "")
    (read : fileSystem.read config.pathToExtraLibList = some text) :
    extraConfig jsoncons fileSystem memory config =
      (fstreamToAppConfig jsoncons fileSystem memory text).map some := by
  rw [extraConfig, if_neg named, read]

end Extra

end Startup

theorem fstreamToAppConfig_eq_thrown_iff {jsoncons : Jsoncons} {fileSystem : FileSystem}
    {text : String} (memory : Bool) :
    fstreamToAppConfig jsoncons fileSystem memory text = .error .thrown ↔
      ∃ appCfgJson, jsoncons.parse text = some appCfgJson ∧
        ¬Convertible jsoncons fileSystem appCfgJson := by
  rw [fstreamToAppConfig]
  cases parsed : jsoncons.parse text with
  | none =>
    refine iff_of_false (fun thrown => by cases thrown) ?_
    rintro ⟨_, contrary, _⟩
    cases contrary
  | some appCfgJson =>
    simp only [jsonToAppConfig_eq_thrown_iff, Option.some.injEq, exists_eq_left']

namespace Startup

variable {jsoncons : Jsoncons} {fileSystem : FileSystem} {memory : Bool} {config : AppConfig}

theorem extraConfig_eq_thrown_iff :
    extraConfig jsoncons fileSystem memory config = .error .thrown ↔
      ¬ExtraConvertible jsoncons fileSystem config := by
  by_cases named : config.pathToExtraLibList = ""
  · rw [extraConfig_of_unnamed named]
    exact iff_of_false (fun thrown => by cases thrown) (not_not.mpr fun other => absurd named other)
  · cases read : fileSystem.read config.pathToExtraLibList with
    | none =>
      rw [extraConfig_of_unread named read]
      refine iff_of_false (fun thrown => by cases thrown) (not_not.mpr ?_)
      intro _ text _ contrary
      rw [read] at contrary
      cases contrary
    | some text =>
      have thrown : extraConfig jsoncons fileSystem memory config = .error .thrown ↔
          fstreamToAppConfig jsoncons fileSystem memory text = .error .thrown := by
        rw [extraConfig_of_read named read]
        cases fstreamToAppConfig jsoncons fileSystem memory text with
        | ok extra =>
          exact iff_of_false (fun thrown => by cases thrown) fun thrown => by cases thrown
        | error failure =>
          show Except.error failure = Except.error _ ↔ _
          rw [Except.error.injEq, Except.error.injEq]
      rw [thrown, fstreamToAppConfig_eq_thrown_iff]
      simp only [ExtraConvertible, ne_eq, named, not_false_iff, forall_const, read,
        Option.some.injEq, not_forall, exists_prop, exists_and_left, exists_eq_left']

/-! ### The run by the config of extra libraries -/

section Runs

variable {State : Type} (libLoader : ILibLoader State) (appService : IAppService State)
  (orders : LibOrders) (state : State)

/-- The two library loops over the extra libraries, if there are any. -/
def loadExtraLibs (libLoader : ILibLoader State) (orders : LibOrders) :
    Option AppConfig → OperationResult × State → OperationResult × State
  | none, loaded => loaded
  | some extraLibs, loaded =>
    loadConfigLibs libLoader orders.extraAgents orders.extraTransports extraLibs loaded

/-- A file of extra libraries that is of no use stops the run behind the main libraries. -/
theorem applyConfig_of_rejected
    (rejected : extraConfig jsoncons fileSystem memory config = .error .rejected) :
    ∃ extraResult : OperationResult, extraResult.success = false ∧
      let loaded := loadConfigLibs libLoader orders.agents orders.transports config ({}, state)
      applyConfigInOrders jsoncons fileSystem libLoader appService orders memory config state =
        (some (loaded.1.merge extraResult), loaded.2) := by
  by_cases named : config.pathToExtraLibList = ""
  · rw [extraConfig_of_unnamed named] at rejected
    cases rejected
  · rw [applyConfigInOrders, if_pos named]
    cases read : fileSystem.read config.pathToExtraLibList with
    | none => exact ⟨_, rfl, rfl⟩
    | some text =>
      rw [extraConfig_of_read named read] at rejected
      cases parsed : fstreamToAppConfig jsoncons fileSystem memory text with
      | ok extra =>
        rw [parsed] at rejected
        cases rejected
      | error failure =>
        rw [parsed] at rejected
        cases rejected
        simp only [parsed]
        exact ⟨_, rfl, rfl⟩

/-- One whose document cannot be converted throws there. -/
theorem applyConfig_of_thrown
    (thrown : extraConfig jsoncons fileSystem memory config = .error .thrown) :
    applyConfigInOrders jsoncons fileSystem libLoader appService orders memory config state =
      (none,
        (loadConfigLibs libLoader orders.agents orders.transports config ({}, state)).2) := by
  by_cases named : config.pathToExtraLibList = ""
  · rw [extraConfig_of_unnamed named] at thrown
    cases thrown
  · cases read : fileSystem.read config.pathToExtraLibList with
    | none =>
      rw [extraConfig_of_unread named read] at thrown
      cases thrown
    | some text =>
      rw [extraConfig_of_read named read] at thrown
      rw [applyConfigInOrders, if_pos named, read]
      cases parsed : fstreamToAppConfig jsoncons fileSystem memory text with
      | ok extra =>
        rw [parsed] at thrown
        cases thrown
      | error failure =>
        rw [parsed] at thrown
        cases thrown
        simp only [parsed]

/-- Otherwise the extra libraries follow, and then the startup plan. -/
theorem applyConfig_of_ok {extra : Option AppConfig}
    (accepted : extraConfig jsoncons fileSystem memory config = .ok extra) :
    let finished := applyStartupPlan appService config (loadExtraLibs libLoader orders extra
      (loadConfigLibs libLoader orders.agents orders.transports config ({}, state)))
    applyConfigInOrders jsoncons fileSystem libLoader appService orders memory config state =
      (some finished.1, finished.2) := by
  by_cases named : config.pathToExtraLibList = ""
  · rw [extraConfig_of_unnamed named] at accepted
    cases accepted
    rw [applyConfigInOrders, if_neg (not_not.mpr named)]
    rfl
  · cases read : fileSystem.read config.pathToExtraLibList with
    | none =>
      rw [extraConfig_of_unread named read] at accepted
      cases accepted
    | some text =>
      rw [extraConfig_of_read named read] at accepted
      rw [applyConfigInOrders, if_pos named, read]
      cases parsed : fstreamToAppConfig jsoncons fileSystem memory text with
      | ok extraLibs =>
        rw [parsed] at accepted
        cases accepted
        simp only [parsed]
        rfl
      | error failure =>
        rw [parsed] at accepted
        cases accepted

/-- The run returns exactly if the document of extra libraries can be converted. -/
theorem applyConfig_isSome_iff :
    (applyConfigInOrders jsoncons fileSystem libLoader appService orders memory config
      state).1.isSome = true ↔ ExtraConvertible jsoncons fileSystem config := by
  have thrown : extraConfig jsoncons fileSystem memory config = .error .thrown ↔
    ¬ExtraConvertible jsoncons fileSystem config := extraConfig_eq_thrown_iff
  rw [← not_iff_not, ← thrown]
  cases extra : extraConfig jsoncons fileSystem memory config with
  | ok extraLibs =>
    rw [applyConfig_of_ok libLoader appService orders state extra]
    exact iff_of_false (not_not.mpr rfl) fun thrown => by cases thrown
  | error failure =>
    cases failure with
    | rejected =>
      obtain ⟨extraResult, _, same⟩ := applyConfig_of_rejected libLoader appService orders
        state extra
      rw [same]
      exact iff_of_false (not_not.mpr rfl) fun thrown => by cases thrown
    | thrown =>
      rw [applyConfig_of_thrown libLoader appService orders state extra]
      exact iff_of_true Bool.false_ne_true rfl

end Runs

end Startup

/-! ### Calls and their answers -/

/-- A call of the start-up, and whether it succeeded. -/
structure AnsweredCall where
  call : StartupCall
  success : Bool
  deriving DecidableEq

section Answers

variable {State : Type}

/-- Answer a call and write down whether it succeeded. -/
def noteAnswer {Answer : Type} (startupCall : StartupCall) (succeeded : Answer → Bool)
    (call : State → Answer × State) (noted : State × List AnsweredCall) :
    Answer × (State × List AnsweredCall) :=
  ((call noted.1).1,
    ((call noted.1).2, noted.2 ++ [⟨startupCall, succeeded (call noted.1).1⟩]))

/-- The same loader, with a record of the calls into it and their answers. -/
def ILibLoader.answering (libLoader : ILibLoader State) :
    ILibLoader (State × List AnsweredCall) where
  loadAgentLib libInfo :=
    noteAnswer (.loadAgentLib libInfo) OperationResult.success (libLoader.loadAgentLib libInfo)
  loadTransportLib libInfo :=
    noteAnswer (.loadTransportLib libInfo) OperationResult.success
      (libLoader.loadTransportLib libInfo)

/-- The same service, with a record of the calls into it and their answers. -/
def IAppService.answering (appService : IAppService State) :
    IAppService (State × List AnsweredCall) where
  executeCommand cmd :=
    noteAnswer (.executeCommand cmd) CommandResult.success (appService.executeCommand cmd)

/-- A part of the start-up makes calls, and its result is successful if it was before and all
of the calls succeed. -/
def Calls (calls : List StartupCall)
    (before after : OperationResult × (State × List AnsweredCall)) : Prop :=
  ∃ answered : List AnsweredCall, answered.map AnsweredCall.call = calls ∧
    after.2.2 = before.2.2 ++ answered ∧
      after.1.success = (before.1.success && answered.all AnsweredCall.success)

variable {first second : List StartupCall} {libLoader : ILibLoader State}
  {before middle after : OperationResult × (State × List AnsweredCall)}

theorem Calls.none : Calls [] before before :=
  ⟨[], rfl, (List.append_nil _).symm, (Bool.and_true _).symm⟩

theorem Calls.append (former : Calls first before middle) (latter : Calls second middle after) :
    Calls (first ++ second) before after := by
  obtain ⟨earlier, rfl, earlierNoted, earlierSuccess⟩ := former
  obtain ⟨later, rfl, laterNoted, laterSuccess⟩ := latter
  refine ⟨earlier ++ later, List.map_append, ?_, ?_⟩
  · rw [laterNoted, earlierNoted, List.append_assoc]
  · rw [laterSuccess, earlierSuccess, List.all_append, Bool.and_assoc]

/-- A library loop passes each element of its list to the loader. -/
theorem Startup.calls_loadLibs (note : LibInfo → StartupCall)
    (load : LibInfo → State → OperationResult × State) (libs : List LibInfo)
    (loaded : OperationResult × (State × List AnsweredCall)) :
    Calls (libs.map note) loaded
      (Startup.loadLibs (fun libInfo => noteAnswer (note libInfo) OperationResult.success
        (load libInfo)) libs loaded) := by
  induction libs generalizing loaded with
  | nil => exact .none
  | cons libInfo rest inductionHypothesis =>
    obtain ⟨result, state, noted⟩ := loaded
    have head : Calls [note libInfo] (result, state, noted)
        (result.merge (load libInfo state).1, (load libInfo state).2,
          noted ++ [⟨note libInfo, (load libInfo state).1.success⟩]) :=
      ⟨[⟨note libInfo, (load libInfo state).1.success⟩], rfl, rfl, by
        rw [OperationResult.merge_success, List.all_cons, List.all_nil, Bool.and_true]⟩
    exact head.append (inductionHypothesis _)

/-- The calls for the library lists of a config, as two loops make them. -/
def libCalls (agents transports : VisitingOrder) (config : AppConfig) : List StartupCall :=
  (Startup.visitLibs agents config.agentLibList).map .loadAgentLib ++
    (Startup.visitLibs transports config.transportLibList).map .loadTransportLib

theorem Startup.calls_loadConfigLibs (libLoader : ILibLoader State)
    (agents transports : VisitingOrder) (config : AppConfig)
    (loaded : OperationResult × (State × List AnsweredCall)) :
    Calls (libCalls agents transports config) loaded
      (Startup.loadConfigLibs libLoader.answering agents transports config loaded) := by
  have agentCalls := Startup.calls_loadLibs .loadAgentLib libLoader.loadAgentLib
    (Startup.visitLibs agents config.agentLibList) loaded
  exact agentCalls.append (Startup.calls_loadLibs .loadTransportLib libLoader.loadTransportLib _ _)

/-- The calls that a startup plan leads to: it is loaded if the config names one, and applied if
the config asks for that and the load succeeded. -/
inductive PlanCalls (config : AppConfig) : List AnsweredCall → Prop
  | none (unnamed : config.pathToStartupUserPlan = "") : PlanCalls config []
  | loaded (named : config.pathToStartupUserPlan ≠ "") (success : Bool)
      (last : ¬(config.applyUserPlanOnStartup = true ∧ success = true)) :
      PlanCalls config
        [⟨.executeCommand ⟨.loadPlanFromPath, config.pathToStartupUserPlan⟩, success⟩]
  | applied (named : config.pathToStartupUserPlan ≠ "")
      (flag : config.applyUserPlanOnStartup = true) (success : Bool) :
      PlanCalls config
        [⟨.executeCommand ⟨.loadPlanFromPath, config.pathToStartupUserPlan⟩, true⟩,
          ⟨.executeCommand ⟨.applyCurrentPlan, ""⟩, success⟩]

theorem Startup.planCalls_applyStartupPlan (appService : IAppService State) (config : AppConfig)
    (loaded : OperationResult × (State × List AnsweredCall)) :
    ∃ answered, PlanCalls config answered ∧
      (Startup.applyStartupPlan appService.answering config loaded).2.2 =
        loaded.2.2 ++ answered ∧
      (Startup.applyStartupPlan appService.answering config loaded).1.success =
        (loaded.1.success && answered.all AnsweredCall.success) := by
  by_cases unnamed : config.pathToStartupUserPlan = ""
  · rw [applyStartupPlan, if_neg (not_not.mpr unnamed)]
    exact ⟨[], .none unnamed, (List.append_nil _).symm, (Bool.and_true _).symm⟩
  · rw [applyStartupPlan, if_pos unnamed]
    simp only [startupCommand, IAppService.answering, noteAnswer]
    cases planLoaded : (appService.executeCommand
      ⟨.loadPlanFromPath, config.pathToStartupUserPlan⟩ loaded.2.1).1.success with
    | false =>
      refine ⟨[⟨.executeCommand ⟨.loadPlanFromPath, config.pathToStartupUserPlan⟩, false⟩],
        .loaded unnamed false (fun both => Bool.false_ne_true both.2), ?_⟩
      simp
    | true =>
      cases flag : config.applyUserPlanOnStartup with
      | false =>
        have last : ¬(config.applyUserPlanOnStartup = true ∧ true = true) := by
          rw [flag]
          exact fun both => Bool.false_ne_true both.1
        refine ⟨[⟨.executeCommand ⟨.loadPlanFromPath, config.pathToStartupUserPlan⟩, true⟩],
          .loaded unnamed true last, ?_⟩
        simp
      | true =>
        refine ⟨_, .applied unnamed flag (appService.executeCommand ⟨.applyCurrentPlan, ""⟩
          (appService.executeCommand ⟨.loadPlanFromPath, config.pathToStartupUserPlan⟩
            loaded.2.1).2).1.success, ?_⟩
        simp

end Answers

/-! ### The protocol -/

/-- The calls for the library lists of a config, one for each library, in any order. -/
def libCallsOf (config : AppConfig) : Multiset StartupCall :=
  config.agentLibList.entries.map (fun entry => .loadAgentLib entry.2) +
    config.transportLibList.entries.map (fun entry => .loadTransportLib entry.2)

/-- The protocol of the start-up, for what a run returns and the calls it makes. -/
structure FollowsProtocol (config : AppConfig)
    (extraConfig : Except ConversionFailure (Option AppConfig))
    (outcome : Option OperationResult) (trace : List AnsweredCall) : Prop where
  /-- The run returns, with success exactly if all calls succeeded and the file of extra
  libraries was of use. -/
  result : ∃ result, outcome = some result ∧ (result.success = true ↔
    (∀ answered ∈ trace, answered.success = true) ∧ ∃ extra, extraConfig = .ok extra)
  /-- The main libraries come first. Nothing follows them if the file of extra libraries is of no
  use. Otherwise its libraries follow, and then the startup plan. -/
  calls : ∃ mainLoads extraLoads planCalls, trace = mainLoads ++ (extraLoads ++ planCalls) ∧
    (mainLoads.map AnsweredCall.call : Multiset StartupCall) = libCallsOf config ∧
    (∀ failure, extraConfig = .error failure → extraLoads = [] ∧ planCalls = []) ∧
    ∀ extra, extraConfig = .ok extra →
      (extraLoads.map AnsweredCall.call : Multiset StartupCall) =
        (extra.map libCallsOf).getD 0 ∧ PlanCalls config planCalls

section Protocol

variable {State : Type} {jsoncons : Jsoncons} {fileSystem : FileSystem} {memory : Bool}
  {config : AppConfig} {orders : LibOrders} {libLoader : ILibLoader State}
  {appService : IAppService State} {state : State}

theorem coe_visitLibs (order : VisitingOrder) (libList : LibList) :
    (Startup.visitLibs order libList : Multiset LibInfo) =
      libList.entries.map fun entry => entry.2 := by
  have visited := congrArg Finmap.entries (order.visit_toFinmap libList)
  rw [Startup.visitLibs, ← Multiset.map_coe, ← visited]
  rfl

theorem coe_libCalls (agents transports : VisitingOrder) (config : AppConfig) :
    (libCalls agents transports config : Multiset StartupCall) = libCallsOf config := by
  rw [libCalls, ← Multiset.coe_add, ← Multiset.map_coe, ← Multiset.map_coe, coe_visitLibs,
    coe_visitLibs, Multiset.map_map, Multiset.map_map, libCallsOf]
  rfl

/-- A part of the start-up that makes the calls of `extraLibs`, if there are any. -/
theorem calls_loadExtraLibs (libLoader : ILibLoader State) (orders : LibOrders)
    (extra : Option AppConfig)
    (loaded : OperationResult × (State × List AnsweredCall)) :
    ∃ calls : List StartupCall, (calls : Multiset StartupCall) = (extra.map libCallsOf).getD 0 ∧
      Calls calls loaded (Startup.loadExtraLibs libLoader.answering orders extra loaded) := by
  cases extra with
  | none => exact ⟨[], rfl, .none⟩
  | some extraLibs =>
    exact ⟨_, coe_libCalls orders.extraAgents orders.extraTransports extraLibs,
      Startup.calls_loadConfigLibs _ _ _ _ _⟩

/-- A run that throws returns nothing, and breaks the protocol. -/
theorem not_followsProtocol_of_thrown {trace : List AnsweredCall}
    {extraConfig : Except ConversionFailure (Option AppConfig)} :
    ¬FollowsProtocol config extraConfig none trace := by
  rintro ⟨⟨result, contrary, _⟩, _⟩
  cases contrary

theorem all_success_iff {trace : List AnsweredCall} :
    trace.all AnsweredCall.success = true ↔ ∀ answered ∈ trace, answered.success = true :=
  List.all_eq_true

/-- A file of extra libraries that is of no use ends the run behind the main libraries. -/
theorem followsProtocol_of_rejected
    (rejected : Startup.extraConfig jsoncons fileSystem memory config = .error .rejected) :
    let run := Startup.applyConfigInOrders jsoncons fileSystem libLoader.answering
      appService.answering orders memory config (state, [])
    FollowsProtocol config (.error .rejected) run.1 run.2.2 := by
  intro run
  obtain ⟨extraResult, failed, same⟩ := Startup.applyConfig_of_rejected
    libLoader.answering appService.answering orders (state, []) rejected
  obtain ⟨mainLoads, calls, noted, _⟩ := Startup.calls_loadConfigLibs libLoader orders.agents
    orders.transports config ({}, (state, []))
  refine ⟨⟨_, congrArg Prod.fst same, ?_⟩, mainLoads, [], [], ?_, ?_, fun _ _ => ⟨rfl, rfl⟩, ?_⟩
  · rw [OperationResult.merge_success, failed, Bool.and_false]
    refine iff_of_false Bool.false_ne_true ?_
    rintro ⟨_, extra, contrary⟩
    cases contrary
  · rw [List.append_nil, List.append_nil, show run = _ from same, noted, List.nil_append]
  · rw [calls, coe_libCalls]
  · rintro extra ⟨⟩

/-- Otherwise the run goes on to its end. -/
theorem followsProtocol_of_ok {extra : Option AppConfig}
    (accepted : Startup.extraConfig jsoncons fileSystem memory config = .ok extra) :
    let run := Startup.applyConfigInOrders jsoncons fileSystem libLoader.answering
      appService.answering orders memory config (state, [])
    FollowsProtocol config (.ok extra) run.1 run.2.2 := by
  intro run
  have same := Startup.applyConfig_of_ok libLoader.answering appService.answering orders
    (state, []) accepted
  obtain ⟨mainLoads, mainCalls, mainNoted, mainSuccess⟩ :=
    Startup.calls_loadConfigLibs libLoader orders.agents orders.transports config
      ({}, (state, []))
  obtain ⟨calls, extraCalls, extraLoads, rfl, extraNoted, extraSuccess⟩ :=
    calls_loadExtraLibs libLoader orders extra
      (Startup.loadConfigLibs libLoader.answering orders.agents orders.transports config
        ({}, (state, [])))
  obtain ⟨planCalls, issued, planNoted, planSuccess⟩ :=
    Startup.planCalls_applyStartupPlan appService config
      (Startup.loadExtraLibs libLoader.answering orders extra
        (Startup.loadConfigLibs libLoader.answering orders.agents orders.transports config
          ({}, (state, []))))
  have trace : run.2.2 = mainLoads ++ (extraLoads ++ planCalls) := by
    rw [show run = _ from same, planNoted, extraNoted, mainNoted, List.nil_append,
      List.append_assoc]
  refine ⟨⟨_, congrArg Prod.fst same, ?_⟩, mainLoads, extraLoads, planCalls, trace, ?_, ?_, ?_⟩
  · rw [planSuccess, extraSuccess, mainSuccess, trace, ← all_success_iff, List.all_append,
      List.all_append, Bool.true_and, Bool.and_assoc]
    exact (and_iff_left ⟨extra, rfl⟩).symm
  · rw [mainCalls, coe_libCalls]
  · rintro failure ⟨⟩
  · rintro _ ⟨⟩
    exact ⟨extraCalls, issued⟩

end Protocol

/-- The start-up follows its protocol, whatever its collaborators answer, exactly if the document
of extra libraries can be converted. -/
theorem applyConfig_followsProtocol_iff {State : Type} (jsoncons : Jsoncons)
    (fileSystem : FileSystem) (libLoader : ILibLoader State) (appService : IAppService State)
    (orders : LibOrders) (memory : Bool) (config : AppConfig) (state : State) :
    let run := Startup.applyConfigInOrders jsoncons fileSystem libLoader.answering
      appService.answering orders memory config (state, [])
    FollowsProtocol config (Startup.extraConfig jsoncons fileSystem memory config) run.1
        run.2.2 ↔
      Startup.ExtraConvertible jsoncons fileSystem config := by
  intro run
  have thrown : Startup.extraConfig jsoncons fileSystem memory config = .error .thrown ↔
    ¬Startup.ExtraConvertible jsoncons fileSystem config := Startup.extraConfig_eq_thrown_iff
  cases extraConfig : Startup.extraConfig jsoncons fileSystem memory config with
  | ok extra =>
    have convertible : Startup.ExtraConvertible jsoncons fileSystem config := by
      by_contra contrary
      rw [← thrown, extraConfig] at contrary
      cases contrary
    exact iff_of_true (followsProtocol_of_ok extraConfig) convertible
  | error failure =>
    cases failure with
    | rejected =>
      have convertible : Startup.ExtraConvertible jsoncons fileSystem config := by
        by_contra contrary
        rw [← thrown, extraConfig] at contrary
        cases contrary
      exact iff_of_true (followsProtocol_of_rejected extraConfig) convertible
    | thrown =>
      have outcome : run.1 = none :=
        congrArg Prod.fst (Startup.applyConfig_of_thrown _ _ _ _ extraConfig)
      rw [outcome]
      exact iff_of_false not_followsProtocol_of_thrown
        (thrown.mp extraConfig)

/-- A file of extra libraries whose flag is a string. -/
def quotedFlag : Json :=
  .object [("agent_lib_list", .array []), ("apply_user_plan_on_startup", .string "true")]

/-- A file system with one file. -/
def FileSystem.holding (path text : String) : FileSystem where
  read other := if other = path then some text else none
  weaklyCanonical := some

/-- A loader and a service to which everything succeeds. -/
def agreeableLoader : ILibLoader Unit where
  loadAgentLib _ state := ({}, state)
  loadTransportLib _ state := ({}, state)

def agreeableService : IAppService Unit where
  executeCommand _ state := ({ success := true }, state)

/-- A config that names a file of extra libraries and a startup plan. -/
def extraLibsConfig : AppConfig where
  pathToExtraLibList := "extra.json"
  pathToStartupUserPlan := "plan.json"
  applyUserPlanOnStartup := true

/-- The string is neither accepted nor refused: the run throws, and returns no result. -/
theorem quotedFlag_breaksProtocol :
    let files := FileSystem.holding "extra.json" quotedFlag.compact
    let run := Startup.applyConfigInOrders (.reading [quotedFlag]) files agreeableLoader.answering
      agreeableService.answering (.all (Classical.arbitrary VisitingOrder)) false extraLibsConfig
      ((), [])
    run.1 = none ∧ ¬FollowsProtocol extraLibsConfig
      (Startup.extraConfig (.reading [quotedFlag]) files false extraLibsConfig) run.1 run.2.2 := by
  intro files run
  have thrown : Startup.extraConfig (.reading [quotedFlag]) files false extraLibsConfig =
    .error .thrown := rfl
  have outcome : run.1 = none := congrArg Prod.fst (Startup.applyConfig_of_thrown _ _ _ _ thrown)
  rw [outcome]
  exact ⟨rfl, not_followsProtocol_of_thrown⟩

end MavlinkHub
