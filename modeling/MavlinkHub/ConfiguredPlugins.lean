/-
This file runs the start-up with the lib loader itself. The dynamic linker answers each
load out of the state of the process, the application service reads the registries and
changes only its own state, and the loads that were made are written down.

A start-up that succeeds has obtained a definition from every library it was configured
with. All of them are registered exactly if no load found another definition under its
name, and that is the one thing the result of the start-up does not tell.
-/

import MavlinkHub.PluginRegistration
import MavlinkHub.StartupProtocol

namespace MavlinkHub

open LibLoader

/-- The dynamic linker, over the state of the process that it opens libraries in. -/
structure DynamicLinker (Process Handle AgentDefinition TransportDefinition : Type) where
  agentLib : LibInfo → Process → DlOutcome Handle AgentDefinition × Process
  transportLib : LibInfo → Process → DlOutcome Handle TransportDefinition × Process

/-- A library to be loaded, for one of the registries. -/
abbrev LibRequest := LibKind × LibInfo

section Requests

variable {Process Handle AgentDefinition TransportDefinition : Type}

/-- The library that a load is for. -/
def LibLoader.Call.request : Call Handle AgentDefinition TransportDefinition → LibRequest
  | .loadAgentLib libInfo _ => (.agent, libInfo)
  | .loadTransportLib libInfo _ => (.transport, libInfo)

namespace DynamicLinker

variable (linker : DynamicLinker Process Handle AgentDefinition TransportDefinition)

/-- The load for a request, with the linker's answer. -/
def resolve : LibRequest → Process →
    Call Handle AgentDefinition TransportDefinition × Process
  | (.agent, libInfo), process =>
    let (outcome, process) := linker.agentLib libInfo process
    (.loadAgentLib libInfo outcome, process)
  | (.transport, libInfo), process =>
    let (outcome, process) := linker.transportLib libInfo process
    (.loadTransportLib libInfo outcome, process)

/-- The loads for a list of requests. -/
def resolveAll : List LibRequest → Process →
    List (Call Handle AgentDefinition TransportDefinition) × Process
  | [], process => ([], process)
  | request :: rest, process =>
    let (call, process) := linker.resolve request process
    let (calls, process) := resolveAll rest process
    (call :: calls, process)

theorem resolveAll_cons (request : LibRequest) (rest : List LibRequest) (process : Process) :
    linker.resolveAll (request :: rest) process =
      ((linker.resolve request process).1 ::
          (linker.resolveAll rest (linker.resolve request process).2).1,
        (linker.resolveAll rest (linker.resolve request process).2).2) := rfl

theorem request_resolve (request : LibRequest) (process : Process) :
    (linker.resolve request process).1.request = request := by
  rcases request with ⟨_ | _, libInfo⟩ <;> rfl

theorem requests_resolveAll (requests : List LibRequest) (process : Process) :
    (linker.resolveAll requests process).1.map Call.request = requests := by
  induction requests generalizing process with
  | nil => rfl
  | cons request rest inductionHypothesis =>
    rw [resolveAll_cons, List.map_cons, request_resolve, inductionHypothesis]

theorem resolveAll_append (front back : List LibRequest) (process : Process) :
    linker.resolveAll (front ++ back) process =
      ((linker.resolveAll front process).1 ++
          (linker.resolveAll back (linker.resolveAll front process).2).1,
        (linker.resolveAll back (linker.resolveAll front process).2).2) := by
  induction front generalizing process with
  | nil => rfl
  | cons request rest inductionHypothesis =>
    rw [List.cons_append, resolveAll_cons, inductionHypothesis, resolveAll_cons,
      List.cons_append]

end DynamicLinker

end Requests

/-- What a start-up works on: the loader with its registries, the process, and the state of the
application service. -/
structure PluginHost (Process Service Handle AgentDefinition TransportDefinition : Type) where
  loader : LibLoader Handle AgentDefinition TransportDefinition
  process : Process
  service : Service
  loads : List (Call Handle AgentDefinition TransportDefinition) := []

section Hosts

variable {Process Service Handle AgentDefinition TransportDefinition : Type}
  [DecidableEq Handle]

/-- Load a library. -/
def PluginHost.load (linker : DynamicLinker Process Handle AgentDefinition TransportDefinition)
    (request : LibRequest)
    (host : PluginHost Process Service Handle AgentDefinition TransportDefinition) :
    OperationResult × PluginHost Process Service Handle AgentDefinition TransportDefinition :=
  let (call, process) := linker.resolve request host.process
  (host.loader.respond call,
    { host with loader := host.loader.perform call, process, loads := host.loads ++ [call] })

/-- The lib loader of the application, over a dynamic linker. -/
def DynamicLinker.libLoader
    (linker : DynamicLinker Process Handle AgentDefinition TransportDefinition) :
    ILibLoader (PluginHost Process Service Handle AgentDefinition TransportDefinition) where
  loadAgentLib libInfo := PluginHost.load linker (.agent, libInfo)
  loadTransportLib libInfo := PluginHost.load linker (.transport, libInfo)

omit [DecidableEq Handle] in
/-- An application service that reads the registries. -/
def PluginHost.appService
    (service : AgentRegistry AgentDefinition → AgentRegistry TransportDefinition →
      IAppService Service) :
    IAppService (PluginHost Process Service Handle AgentDefinition TransportDefinition) where
  executeCommand cmd host :=
    let (result, state) := (service host.loader.agentRegistry
      host.loader.transportRegistry).executeCommand cmd host.service
    (result, { host with service := state })

/-- A part of the start-up makes the loads for a list of requests, and its result is successful
if it was before and all of the loads obtain a definition. -/
structure Loads (linker : DynamicLinker Process Handle AgentDefinition TransportDefinition)
    (requests : List LibRequest)
    (before after : OperationResult ×
      PluginHost Process Service Handle AgentDefinition TransportDefinition) : Prop where
  loads : after.2.loads = before.2.loads ++ (linker.resolveAll requests before.2.process).1
  loader : after.2.loader =
    before.2.loader.after (linker.resolveAll requests before.2.process).1
  process : after.2.process = (linker.resolveAll requests before.2.process).2
  service : after.2.service = before.2.service
  success : after.1.success = (before.1.success &&
    (linker.resolveAll requests before.2.process).1.all fun call => call.obtains.isSome)

variable {linker : DynamicLinker Process Handle AgentDefinition TransportDefinition}
  {first second : List LibRequest}
  {before middle after : OperationResult ×
    PluginHost Process Service Handle AgentDefinition TransportDefinition}

theorem Loads.none : Loads linker [] before before :=
  ⟨(List.append_nil _).symm, rfl, rfl, rfl, (Bool.and_true _).symm⟩

theorem LibLoader.after_append {loader : LibLoader Handle AgentDefinition TransportDefinition}
    {front back : List (Call Handle AgentDefinition TransportDefinition)} :
    loader.after (front ++ back) = (loader.after front).after back := List.foldl_append

theorem Loads.append (former : Loads linker first before middle)
    (latter : Loads linker second middle after) :
    Loads linker (first ++ second) before after := by
  have resolved := linker.resolveAll_append first second before.2.process
  rw [← former.process] at resolved
  constructor
  · rw [latter.loads, former.loads, resolved, List.append_assoc]
  · rw [latter.loader, former.loader, resolved, LibLoader.after_append]
  · rw [latter.process, resolved]
  · rw [latter.service, former.service]
  · rw [latter.success, former.success, resolved, List.all_append, Bool.and_assoc]

/-- One load. -/
theorem Loads.single (request : LibRequest) (result : OperationResult)
    (host : PluginHost Process Service Handle AgentDefinition TransportDefinition) :
    Loads linker [request] (result, host)
      (result.merge (host.load linker request).1, (host.load linker request).2) where
  loads := rfl
  loader := rfl
  process := rfl
  service := rfl
  success := by
    have responds : (host.load linker request).1.success =
        (linker.resolve request host.process).1.obtains.isSome := respond_success
    rw [OperationResult.merge_success, responds, DynamicLinker.resolveAll_cons, List.all_cons]
    exact congrArg (result.success && ·) (Bool.and_true _).symm

/-- A library loop loads the libraries of its list. -/
theorem loads_loadLibs (kind : LibKind) (libs : List LibInfo)
    (loaded : OperationResult ×
      PluginHost Process Service Handle AgentDefinition TransportDefinition) :
    Loads linker (libs.map (kind, ·)) loaded
      (Startup.loadLibs (fun libInfo => PluginHost.load linker (kind, libInfo)) libs loaded) := by
  induction libs generalizing loaded with
  | nil => exact .none
  | cons libInfo rest inductionHypothesis =>
    obtain ⟨result, host⟩ := loaded
    exact (Loads.single (kind, libInfo) result host).append (inductionHypothesis _)

end Hosts

/-! ### The startup plan -/

namespace Startup

variable {State : Type} {appService : IAppService State} {config : AppConfig}
  {loaded : OperationResult × State}

/-- What a command reports, as part of a result. -/
def commandOutcome (answer : CommandResult) : OperationResult :=
  { success := answer.success, messages := answer.message }

theorem applyStartupPlan_of_loaded (named : config.pathToStartupUserPlan ≠ "")
    (last : (config.applyUserPlanOnStartup && (appService.executeCommand
      ⟨.loadPlanFromPath, config.pathToStartupUserPlan⟩ loaded.2).1.success) = false) :
    let answer := appService.executeCommand
      ⟨.loadPlanFromPath, config.pathToStartupUserPlan⟩ loaded.2
    applyStartupPlan appService config loaded =
      (loaded.1.merge (commandOutcome answer.1), answer.2) := by
  simp only [applyStartupPlan, if_pos named, startupCommand, last, Bool.false_eq_true, if_false]
  rfl

theorem applyStartupPlan_of_applied (named : config.pathToStartupUserPlan ≠ "")
    (applied : (config.applyUserPlanOnStartup && (appService.executeCommand
      ⟨.loadPlanFromPath, config.pathToStartupUserPlan⟩ loaded.2).1.success) = true) :
    let answer := appService.executeCommand
      ⟨.loadPlanFromPath, config.pathToStartupUserPlan⟩ loaded.2
    let last := appService.executeCommand ⟨.applyCurrentPlan, ""⟩ answer.2
    applyStartupPlan appService config loaded =
      ((loaded.1.merge (commandOutcome answer.1)).merge (commandOutcome last.1), last.2) := by
  simp only [applyStartupPlan, if_pos named, startupCommand, applied, if_true]
  rfl

end Startup

/-! ### The requests of a start-up -/

/-- The libraries of a config, as two loops visit them. -/
def configRequests (agents transports : VisitingOrder) (config : AppConfig) : List LibRequest :=
  (Startup.visitLibs agents config.agentLibList).map (.agent, ·) ++
    (Startup.visitLibs transports config.transportLibList).map (.transport, ·)

/-- The libraries of a config and of one of extra libraries, if there is one. -/
def startupRequests (orders : LibOrders) (config : AppConfig) (extra : Option AppConfig) :
    List LibRequest :=
  configRequests orders.agents orders.transports config ++
    (extra.map (configRequests orders.extraAgents orders.extraTransports)).getD []

/-- The libraries of a config, in any order. -/
def requestsOf (config : AppConfig) : Multiset LibRequest :=
  config.agentLibList.entries.map (fun entry => (.agent, entry.2)) +
    config.transportLibList.entries.map (fun entry => (.transport, entry.2))

theorem coe_configRequests (agents transports : VisitingOrder) (config : AppConfig) :
    (configRequests agents transports config : Multiset LibRequest) = requestsOf config := by
  rw [configRequests, ← Multiset.coe_add, ← Multiset.map_coe, ← Multiset.map_coe, coe_visitLibs,
    coe_visitLibs, Multiset.map_map, Multiset.map_map, requestsOf]
  rfl

theorem coe_startupRequests (orders : LibOrders) (config : AppConfig)
    (extra : Option AppConfig) :
    (startupRequests orders config extra : Multiset LibRequest) =
      requestsOf config + (extra.map requestsOf).getD 0 := by
  rw [startupRequests, ← Multiset.coe_add, coe_configRequests]
  cases extra with
  | none => rfl
  | some extraLibs =>
    exact congrArg (requestsOf config + ·) (coe_configRequests _ _ extraLibs)

section Startups

variable {Process Service Handle AgentDefinition TransportDefinition : Type}
  [DecidableEq Handle]
  (linker : DynamicLinker Process Handle AgentDefinition TransportDefinition)
  (service : AgentRegistry AgentDefinition → AgentRegistry TransportDefinition →
    IAppService Service)
  {jsoncons : Jsoncons} {fileSystem : FileSystem} {memory : Bool} {config : AppConfig}

theorem loads_loadConfigLibs (agents transports : VisitingOrder) (config : AppConfig)
    (loaded : OperationResult ×
      PluginHost Process Service Handle AgentDefinition TransportDefinition) :
    Loads linker (configRequests agents transports config) loaded
      (Startup.loadConfigLibs linker.libLoader agents transports config loaded) :=
  (loads_loadLibs .agent _ loaded).append (loads_loadLibs .transport _ _)

/-- Before the startup plan, a run has loaded its libraries. -/
theorem loads_startupRequests (orders : LibOrders) (config : AppConfig)
    (extra : Option AppConfig) (loaded : OperationResult ×
      PluginHost Process Service Handle AgentDefinition TransportDefinition) :
    Loads linker (startupRequests orders config extra) loaded
      (Startup.loadExtraLibs linker.libLoader orders extra
        (Startup.loadConfigLibs linker.libLoader orders.agents orders.transports config
          loaded)) := by
  refine (loads_loadConfigLibs linker orders.agents orders.transports config loaded).append ?_
  cases extra with
  | none => exact .none
  | some extraLibs => exact loads_loadConfigLibs linker _ _ extraLibs _

omit [DecidableEq Handle] in
/-- The startup plan is up to the service alone, and leaves everything else as it is. -/
theorem applyStartupPlan_appService (config : AppConfig) (loaded : OperationResult ×
      PluginHost Process Service Handle AgentDefinition TransportDefinition) :
    let alone := Startup.applyStartupPlan
      (service loaded.2.loader.agentRegistry loaded.2.loader.transportRegistry) config
      ({}, loaded.2.service)
    let finished := Startup.applyStartupPlan (PluginHost.appService service) config loaded
    finished.1.success = (loaded.1.success && alone.1.success) ∧
      finished.2 = { loaded.2 with service := alone.2 } := by
  intro alone finished
  by_cases named : config.pathToStartupUserPlan ≠ ""
  · cases applied : config.applyUserPlanOnStartup &&
      ((service loaded.2.loader.agentRegistry loaded.2.loader.transportRegistry).executeCommand
        ⟨.loadPlanFromPath, config.pathToStartupUserPlan⟩ loaded.2.service).1.success with
    | false =>
      have finishedLoad : finished = _ := Startup.applyStartupPlan_of_loaded named applied
      have aloneLoad : alone = _ := Startup.applyStartupPlan_of_loaded named applied
      rw [finishedLoad, aloneLoad]
      exact ⟨rfl, rfl⟩
    | true =>
      have finishedPlan : finished = _ := Startup.applyStartupPlan_of_applied named applied
      have alonePlan : alone = _ := Startup.applyStartupPlan_of_applied named applied
      rw [finishedPlan, alonePlan]
      exact ⟨Bool.and_assoc _ _ _, rfl⟩
  · have finishedNone : finished = loaded := if_neg named
    have aloneNone : alone = ({}, loaded.2.service) := if_neg named
    rw [finishedNone, aloneNone]
    exact ⟨(Bool.and_true _).symm, rfl⟩

/-- A run that is not stopped by its file of extra libraries makes the loads for its requests, and
is successful if these obtain definitions and the startup plan succeeds. -/
theorem applyConfig_loads {extra : Option AppConfig} (orders : LibOrders)
    (accepted : Startup.extraConfig jsoncons fileSystem memory config = .ok extra)
    (host : PluginHost Process Service Handle AgentDefinition TransportDefinition) :
    let run := Startup.applyConfigInOrders jsoncons fileSystem linker.libLoader
      (PluginHost.appService service) orders memory config host
    let loads := (linker.resolveAll (startupRequests orders config extra) host.process).1
    let loader := host.loader.after loads
    let plan := Startup.applyStartupPlan
      (service loader.agentRegistry loader.transportRegistry) config ({}, host.service)
    run.2.loads = host.loads ++ loads ∧ run.2.loader = loader ∧
      ∃ result, run.1 = some result ∧
        result.success = ((loads.all fun call => call.obtains.isSome) && plan.1.success) := by
  intro run loads loader plan
  have finished := Startup.applyConfig_of_ok linker.libLoader (PluginHost.appService service)
    orders host accepted
  have loaded := loads_startupRequests linker orders config extra ({}, host)
  obtain ⟨success, kept⟩ := applyStartupPlan_appService service config
    (Startup.loadExtraLibs linker.libLoader orders extra
      (Startup.loadConfigLibs linker.libLoader orders.agents orders.transports config ({}, host)))
  rw [loaded.loader, loaded.service, loaded.success, Bool.true_and] at success
  have final : run.2 = _ := (congrArg Prod.snd finished).trans kept
  refine ⟨?_, ?_, _, congrArg Prod.fst finished, success⟩
  · rw [final]
    exact loaded.loads
  · rw [final]
    exact loaded.loader

/-- A run with a file of extra libraries that is of no use is not successful. -/
theorem exists_extraConfig_of_success {orders : LibOrders}
    {host : PluginHost Process Service Handle AgentDefinition TransportDefinition}
    {result : OperationResult}
    (returned : (Startup.applyConfigInOrders jsoncons fileSystem linker.libLoader
      (PluginHost.appService service) orders memory config host).1 = some result)
    (success : result.success = true) :
    ∃ extra, Startup.extraConfig jsoncons fileSystem memory config = .ok extra := by
  cases read : Startup.extraConfig jsoncons fileSystem memory config with
  | ok extra => exact ⟨extra, rfl⟩
  | error failure =>
    cases failure with
    | rejected =>
      obtain ⟨extraResult, failed, same⟩ := Startup.applyConfig_of_rejected linker.libLoader
        (PluginHost.appService service) orders host read
      rw [same] at returned
      obtain rfl := Option.some.inj returned
      rw [OperationResult.merge_success, failed, Bool.and_false] at success
      cases success
    | thrown =>
      rw [Startup.applyConfig_of_thrown _ _ _ _ read] at returned
      cases returned

end Startups

/-! ### Loads that register what they obtain -/

namespace LibLoader

variable {Handle AgentDefinition TransportDefinition : Type} [DecidableEq Handle]
  {loader : LibLoader Handle AgentDefinition TransportDefinition}
  {call : Call Handle AgentDefinition TransportDefinition}
  {calls : List (Call Handle AgentDefinition TransportDefinition)}

/-- Loads do not change what is registered under a taken name. -/
theorem registered_after_of_some {entry : LibKind × String}
    {definition : AgentDefinition ⊕ TransportDefinition}
    (present : loader.registered entry = some definition) :
    (loader.after calls).registered entry = some definition := by
  induction calls generalizing loader with
  | nil => exact present
  | cons call rest inductionHypothesis =>
    refine inductionHypothesis ?_
    rw [registered_perform, present, Option.some_or]

/-- The loads of a sequence that obtain definitions register them all exactly if none of them
clashes. -/
theorem registers_after_iff
    (obtains : ∀ call ∈ calls, call.obtains.isSome = true) :
    (∀ call ∈ calls, (loader.after calls).Registers call) ↔
      ∀ front call back, calls = front ++ call :: back → (loader.after front).Unclashing call := by
  constructor
  · rintro registers front call back rfl obtained definition given present
    have kept : (loader.after (front ++ call :: back)).registered obtained.entry =
        some definition := by
      rw [after_append]
      exact registered_after_of_some present
    have placed := (registers_iff given).mp
      (registers call (List.mem_append_right front List.mem_cons_self))
    exact Option.some.inj (kept.symm.trans placed)
  · intro unclashing call member
    obtain ⟨front, back, rfl⟩ := List.append_of_mem member
    obtain ⟨obtained, given⟩ := Option.isSome_iff_exists.mp (obtains call member)
    have placed := (registered_perform_of_obtains given).mpr (unclashing front call back rfl)
    refine (registers_iff given).mpr ?_
    rw [after_append]
    show (((loader.after front).perform call).after back).registered obtained.entry = _
    exact registered_after_of_some placed

/-- The name that a request is for, with its kind. -/
def entryOf (request : LibRequest) : LibKind × String := (request.1, request.2.name)

omit [DecidableEq Handle] in
/-- A load obtains a definition for the name it is asked for. -/
theorem entry_of_obtains
    {obtained : Obtained Handle AgentDefinition TransportDefinition}
    (obtains : call.obtains = some obtained) :
    entryOf call.request = obtained.entry := by
  rcases call with ⟨libInfo, _ | opened | opened | ⟨opened, definition⟩⟩ |
    ⟨libInfo, _ | opened | opened | ⟨opened, definition⟩⟩ <;> cases obtains <;> rfl

/-- Loads do not register anything under a name that none of them is for. -/
theorem registered_after_of_notMem {entry : LibKind × String}
    (absent : entry ∉ calls.map fun call => entryOf call.request) :
    (loader.after calls).registered entry = loader.registered entry := by
  induction calls generalizing loader with
  | nil => rfl
  | cons call rest inductionHypothesis =>
    rw [List.map_cons, List.mem_cons, not_or] at absent
    have nothing : call.provides entry = none := by
      by_contra provides
      obtain ⟨definition, provides⟩ := Option.ne_none_iff_exists'.mp provides
      obtain ⟨obtained, obtains, same, _⟩ := exists_obtains_of_provides provides
      exact absent.1 ((entry_of_obtains obtains).trans same).symm
    show ((loader.perform call).after rest).registered entry = _
    rw [inductionHypothesis absent.2, registered_perform, nothing, Option.or_none]

/-- Loads for names that all differ, and under which nothing was registered, do not clash. -/
theorem unclashing_of_nodup (fresh : ∀ entry, loader.registered entry = none)
    (distinct : (calls.map fun call => entryOf call.request).Nodup) :
    ∀ front call back, calls = front ++ call :: back →
      (loader.after front).Unclashing call := by
  rintro front call back rfl obtained definition obtains present
  rw [List.map_append, List.nodup_append'] at distinct
  have absent : obtained.entry ∉ front.map fun call => entryOf call.request := by
    intro before
    rw [← entry_of_obtains obtains] at before
    exact distinct.2.2 before (List.mem_map_of_mem List.mem_cons_self)
  rw [registered_after_of_notMem absent, fresh] at present
  cases present

end LibLoader

/-- After any events a load reports success exactly for the definition that is registered then, if
and only if no other definition was registered under its name. And a start-up that succeeds has
loaded every library it was configured with; it has registered all of their definitions if and
only if none of these loads found another definition under its name. -/
theorem loads_reportRegistration_iff
    {Process Service Handle AgentDefinition TransportDefinition : Type} [DecidableEq Handle]
    (jsoncons : Jsoncons) (fileSystem : FileSystem)
    (linker : DynamicLinker Process Handle AgentDefinition TransportDefinition)
    (service : AgentRegistry AgentDefinition → AgentRegistry TransportDefinition →
      IAppService Service)
    (orders : LibOrders) (memory : Bool) (config : AppConfig)
    (loader : LibLoader Handle AgentDefinition TransportDefinition) (process : Process)
    (state : Service) :
    (∀ events call, (loader.afterEvents events).ReportsRegistration call ↔
      (loader.afterEvents events).Unclashing call) ∧
    let run := Startup.applyConfigInOrders jsoncons fileSystem linker.libLoader
      (PluginHost.appService service) orders memory config ⟨loader, process, state, []⟩
    ∀ result, run.1 = some result → result.success = true →
      (∃ extra, Startup.extraConfig jsoncons fileSystem memory config = .ok extra ∧
        (run.2.loads.map Call.request : Multiset LibRequest) =
          requestsOf config + (extra.map requestsOf).getD 0) ∧
      ((∀ call ∈ run.2.loads, run.2.loader.Registers call) ↔
        ∀ front call back, run.2.loads = front ++ call :: back →
          (loader.after front).Unclashing call) := by
  refine ⟨fun events call => reportsRegistration_iff, ?_⟩
  intro run result returned success
  obtain ⟨extra, accepted⟩ := exists_extraConfig_of_success linker service returned success
  obtain ⟨loads, finalLoader, other, returnedOther, successful⟩ :=
    applyConfig_loads linker service orders accepted
      ⟨loader, process, state, []⟩
  obtain rfl : result = other := Option.some.inj (returned.symm.trans returnedOther)
  rw [success, eq_comm, Bool.and_eq_true, List.all_eq_true] at successful
  have runLoads : run.2.loads =
    (linker.resolveAll (startupRequests orders config extra) process).1 := loads
  have runLoader : run.2.loader = loader.after run.2.loads := by
    rw [runLoads]
    exact finalLoader
  rw [runLoader]
  refine ⟨⟨extra, accepted, ?_⟩, registers_after_iff ?_⟩
  · rw [runLoads, DynamicLinker.requests_resolveAll, coe_startupRequests]
  · rw [runLoads]
    exact successful.1

/-! ### Two plugins of one name -/

/-- A linker that finds one agent definition in every library, called like the library. -/
def eponymousLinker : DynamicLinker Unit String String Unit where
  agentLib libInfo process := (.definition libInfo.path libInfo.path, process)
  transportLib _ process := (.notOpened, process)

/-- An agent `app` in a library. -/
def appIn (path : String) : LibInfo := ⟨"app", path, "getAgentDefinition"⟩

/-- A config with the agent of one library. -/
def firstAppConfig (pathToExtraLibList : String) : AppConfig where
  agentLibList := Finmap.singleton "app" (appIn "first.so")
  pathToExtraLibList := pathToExtraLibList
  applyUserPlanOnStartup := false

/-- A file of extra libraries with the agent of another library. -/
def secondAppLibs : Json :=
  .object [("agent_lib_list", .array [.object [("name", .string "app"),
    ("path", .string "second.so"), ("sym", .string "getAgentDefinition")]])]

/-- A process that has loaded nothing. -/
def bareHost : PluginHost Unit Unit String String Unit :=
  ⟨.initial ∅ ∅ fun _ => 0, (), (), []⟩

theorem visitLibs_of_entries {order : VisitingOrder} {libList : LibList} (libs : List LibInfo)
    (entries : (libList.entries.map fun entry => entry.2) = (libs : Multiset LibInfo))
    (short : libs.length ≤ 1) : Startup.visitLibs order libList = libs := by
  have visited := Multiset.coe_eq_coe.mp ((coe_visitLibs order libList).trans entries)
  rcases libs with _ | ⟨libInfo, _ | ⟨other, rest⟩⟩
  · exact visited.eq_nil
  · exact List.perm_singleton.mp visited
  · simp at short

theorem configRequests_of_entries {agents transports : VisitingOrder} {config : AppConfig}
    {libInfo : LibInfo}
    (entries : (config.agentLibList.entries.map fun entry => entry.2) = {libInfo})
    (none : config.transportLibList = ∅) :
    configRequests agents transports config = [(.agent, libInfo)] := by
  rw [configRequests, visitLibs_of_entries [libInfo] entries (Nat.le_refl 1), none,
    visitLibs_of_entries [] rfl (Nat.zero_le 1)]
  rfl

/-- The start-up with these libraries. -/
def appStartup (jsoncons : Jsoncons) (fileSystem : FileSystem) (orders : LibOrders)
    (config : AppConfig) :
    Option OperationResult × PluginHost Unit Unit String String Unit :=
  Startup.applyConfigInOrders jsoncons fileSystem eponymousLinker.libLoader
    (PluginHost.appService fun _ _ => agreeableService) orders false config bareHost

/-- The load of the agent of a library. -/
def appLoad (path : String) : Call String String Unit :=
  .loadAgentLib (appIn path) (.definition path path)

theorem configRequests_firstAppConfig {agents transports : VisitingOrder}
    {pathToExtraLibList : String} :
    configRequests agents transports (firstAppConfig pathToExtraLibList) =
      [(.agent, appIn "first.so")] :=
  configRequests_of_entries rfl rfl

theorem registered_bareHost (entry : LibKind × String) :
    bareHost.loader.registered entry = none := by
  rcases entry with ⟨_ | _, name⟩ <;> rfl

/-- A config with the agents of two libraries, and with a file of extra libraries. -/
def severalConfig : AppConfig where
  agentLibList := (Finmap.singleton "app" (appIn "first.so")).insert "relay"
    ⟨"relay", "relay.so", "getAgentDefinition"⟩
  pathToExtraLibList := "extra.json"
  applyUserPlanOnStartup := false

/-- A file with the agents of two extra libraries, of which one has the given name. -/
def extraLibs (name : String) : Json :=
  .object [("agent_lib_list", .array [
    .object [("name", .string name), ("path", .string "second.so"),
      ("sym", .string "getAgentDefinition")],
    .object [("name", .string "watch"), ("path", .string "watch.so"),
      ("sym", .string "getAgentDefinition")]])]

/-- What the file is read as. -/
def extraConfigOf (name : String) : AppConfig where
  agentLibList := (Finmap.singleton name ⟨name, "second.so", "getAgentDefinition"⟩).insert "watch"
    ⟨"watch", "watch.so", "getAgentDefinition"⟩
  applyUserPlanOnStartup := false

/-- The extra libraries are those of the document that the named file holds. -/
theorem extraConfig_holding {path : String} {document : Json} {config extra : AppConfig}
    (named : config.pathToExtraLibList = path) (given : path ≠ "")
    (read : JsonUtils.jsonToAppConfig (.reading [document]) (.holding path document.compact) false
      document = .ok extra) :
    Startup.extraConfig (.reading [document]) (.holding path document.compact) false config =
      .ok (some extra) := by
  have parsed : (Jsoncons.reading [document]).parse document.compact = some document := by
    simp [Jsoncons.reading]
  have opened : (FileSystem.holding path document.compact).read path = some document.compact :=
    if_pos rfl
  rw [Startup.extraConfig, named, if_neg given, opened]
  simp only [JsonUtils.fstreamToAppConfig, parsed, read]
  rfl

theorem extraConfig_severalConfig_spare :
    Startup.extraConfig (.reading [extraLibs "spare"])
      (.holding "extra.json" (extraLibs "spare").compact) false severalConfig =
    .ok (some (extraConfigOf "spare")) :=
  extraConfig_holding rfl (by decide) rfl

theorem eponymousLinker_obtains {requests : List LibRequest}
    (agents : ∀ request ∈ requests, request.1 = .agent) :
    ((eponymousLinker.resolveAll requests ()).1.all fun call => call.obtains.isSome) = true := by
  induction requests with
  | nil => rfl
  | cons request rest inductionHypothesis =>
    obtain ⟨isAgent, later⟩ := List.forall_mem_cons.mp agents
    obtain ⟨kind, libInfo⟩ := request
    cases isAgent
    rw [DynamicLinker.resolveAll_cons]
    exact inductionHypothesis later

/-- Four libraries with four names are all registered. -/
theorem loads_reportRegistration_iff_sample :
    let run := appStartup (.reading [extraLibs "spare"])
      (.holding "extra.json" (extraLibs "spare").compact) (.all (Classical.arbitrary VisitingOrder))
      severalConfig
    run.2.loads.length = 4 ∧ ∀ call ∈ run.2.loads, run.2.loader.Registers call := by
  simp only [appStartup, bareHost]
  obtain ⟨_, _, result, returned, success⟩ := applyConfig_loads eponymousLinker
    (fun _ _ => agreeableService) (.all (Classical.arbitrary VisitingOrder))
    extraConfig_severalConfig_spare ⟨.initial ∅ ∅ fun _ => 0, (), (), []⟩
  have agents : ∀ request ∈ startupRequests (.all (Classical.arbitrary VisitingOrder))
      severalConfig (some (extraConfigOf "spare")), request.1 = .agent := by
    intro request member
    rw [← Multiset.mem_coe, coe_startupRequests] at member
    revert request
    decide
  have obtains : result.success = true := by
    rw [success, eponymousLinker_obtains agents]
    rfl
  obtain ⟨⟨extra, accepted, requests⟩, registers⟩ := (loads_reportRegistration_iff
    (.reading [extraLibs "spare"]) (.holding "extra.json" (extraLibs "spare").compact)
    eponymousLinker (fun _ _ => agreeableService) (.all (Classical.arbitrary VisitingOrder)) false
    severalConfig (.initial ∅ ∅ fun _ => 0) () ()).2 result returned obtains
  rw [extraConfig_severalConfig_spare, Except.ok.injEq] at accepted
  subst accepted
  have count := congrArg Multiset.card requests
  have names := congrArg (Multiset.map entryOf) requests
  have four : Multiset.card (requestsOf severalConfig +
    ((some (extraConfigOf "spare")).map requestsOf).getD 0) = 4 := by decide
  have distinct : (Multiset.map entryOf (requestsOf severalConfig +
    ((some (extraConfigOf "spare")).map requestsOf).getD 0)).Nodup := by decide
  rw [four, Multiset.coe_card, List.length_map] at count
  rw [← names, Multiset.map_coe, Multiset.coe_nodup, List.map_map] at distinct
  exact ⟨count, registers.mpr (unclashing_of_nodup registered_bareHost distinct)⟩

/-- Of two libraries that define an agent `app` the second load reports success, and so does a
start-up that is configured with both; the agent of the second is not registered. -/
theorem secondApp_notRegistered :
    ¬(bareHost.loader.after [appLoad "first.so"]).ReportsRegistration (appLoad "second.so") ∧
    let run := appStartup (.reading [secondAppLibs]) (.holding "extra.json" secondAppLibs.compact)
      (.all (Classical.arbitrary VisitingOrder)) (firstAppConfig "extra.json")
    (∃ result, run.1 = some result ∧ result.success = true) ∧
      appLoad "second.so" ∈ run.2.loads ∧
      run.2.loader.registered (.agent, "app") = some (.inl "first.so") := by
  constructor
  · rw [reportsRegistration_iff]
    intro unclashing
    have same : (.inl "first.so" : String ⊕ Unit) = .inl "second.so" :=
      unclashing ⟨(.agent, "app"), "second.so", .inl "second.so"⟩ (.inl "first.so") rfl rfl
    exact absurd (Sum.inl.inj same) (by decide)
  · intro run
    have accepted : Startup.extraConfig (.reading [secondAppLibs])
        (.holding "extra.json" secondAppLibs.compact) false (firstAppConfig "extra.json") =
      .ok (some { agentLibList := Finmap.singleton "app" (appIn "second.so")
                  applyUserPlanOnStartup := false }) := rfl
    obtain ⟨loads, loader, result, returned, success⟩ := applyConfig_loads eponymousLinker
      (fun _ _ => agreeableService) (.all (Classical.arbitrary VisitingOrder)) accepted bareHost
    have requests : ∀ orders, startupRequests orders (firstAppConfig "extra.json")
        (some { agentLibList := Finmap.singleton "app" (appIn "second.so")
                applyUserPlanOnStartup := false }) =
        [(.agent, appIn "first.so"), (.agent, appIn "second.so")] := by
      intro orders
      rw [startupRequests, configRequests_firstAppConfig, Option.map_some, Option.getD_some,
        configRequests_of_entries rfl rfl]
      rfl
    rw [requests] at loads loader success
    refine ⟨⟨result, returned, success⟩, ?_, ?_⟩
    · rw [show run.2.loads = _ from loads]
      exact List.mem_cons_of_mem _ List.mem_cons_self
    · rw [show run.2.loader = _ from loader]
      rfl

end MavlinkHub
