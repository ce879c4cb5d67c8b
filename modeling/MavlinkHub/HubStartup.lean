/-
This file starts up the whole hub: the lib loader over a dynamic linker, and the
application service over the manager, which reads the registries that the loader fills.
A start-up visits hash maps at every stage: the two library lists of the config and the
two of the file of extra libraries, and then the two lists of the plan.

What it ends with is settled by the config and the files alone. The registries do not
depend on the orders, so the plan is parsed and carried out over the same definitions; and
neither does the outcome of the plan.
-/

import MavlinkHub.CurrentPlan
import MavlinkHub.PlanOrder
import MavlinkHub.PluginOrder

namespace MavlinkHub

open JsonUtils LibLoader Manager

/-! ### Plans up to the order of their maps -/

/-- The same policy, and the same entries in any order. -/
structure UserPlan.SameEntries (plan other : UserPlan) : Prop where
  policy : plan.policy = other.policy
  endpoints : plan.endpointList.entries.Perm other.endpointList.entries
  agents : plan.agentList.entries.Perm other.agentList.entries

theorem visit_perm {Value : Type} (first second : VisitingOrder) (map : StringMap Value) :
    (first.visit map).entries.Perm (second.visit map).entries :=
  AList.toFinmap_eq.mp ((first.visit_toFinmap map).trans (second.visit_toFinmap map).symm)

/-- A document is parsed to the same plan, whatever the orders of its maps. -/
theorem jsonToUserPlan_orders (jsoncons : Jsoncons) (first second : VisitingOrder)
    (memory : UserPlanPolicy) (planJson : Json) :
    Option.Rel UserPlan.SameEntries (jsonToUserPlan jsoncons first memory planJson)
      (jsonToUserPlan jsoncons second memory planJson) := by
  simp only [jsonToUserPlan]
  cases planPolicy jsoncons memory planJson with
  | none => exact .none
  | some policy =>
    cases endpoints : planList "endpoint_list" (jsonToEndpointList jsoncons) planJson policy with
    | none =>
      simp only [Option.bind_eq_bind, Option.bind_some, endpoints, Option.bind_none]
      exact .none
    | some endpointList =>
      cases agents : planList "agent_list" (jsonToAgentList jsoncons) planJson policy with
      | none =>
        simp only [Option.bind_eq_bind, Option.bind_some, endpoints, agents, Option.bind_none]
        exact .none
      | some agentList =>
        simp only [Option.bind_eq_bind, Option.bind_some, endpoints, agents]
        exact .some ⟨rfl, visit_perm first second endpointList, visit_perm first second agentList⟩

theorem fstreamToUserPlan_orders (jsoncons : Jsoncons) (first second : VisitingOrder)
    (memory : UserPlanPolicy) (text : String) :
    Option.Rel UserPlan.SameEntries (fstreamToUserPlan jsoncons first memory text)
      (fstreamToUserPlan jsoncons second memory text) := by
  rw [fstreamToUserPlan, fstreamToUserPlan]
  cases jsoncons.parse text with
  | none => exact .none
  | some planJson => exact jsonToUserPlan_orders jsoncons first second memory planJson

/-! ### The hub -/

section Hubs

variable {sdk : Sdk} {Process Handle : Type}

/-- What a start-up of the hub works on: the loader, the process, and the service over the
manager. -/
abbrev ConfiguredHub (sdk : Sdk) (Process Handle : Type) :=
  PluginHost Process (AppServiceImpl × World sdk) Handle sdk.AgentDefinition
    sdk.TransportDefinition

/-- The application service over the manager, whose views of the registries show what the loader
has filled them with. Its commands find the files, and what uninitialised members hold. -/
def hubService (jsoncons : Jsoncons) (fileSystem : FileSystem) (memory : StartupMemory)
    (order : VisitingOrder) (agentRegistry : AgentRegistry sdk.AgentDefinition)
    (transportRegistry : AgentRegistry sdk.TransportDefinition) :
    IAppService (AppServiceImpl × World sdk) where
  executeCommand cmd state :=
    AppService.executeCommand jsoncons (Manager.interface order) cmd
      { file := fileSystem.read cmd.payload
        success := memory.success
        policy := memory.policy
        order := order }
      state.1 { state.2 with agentRegistry, transportRegistry }

/-- The hub as the constructor of the application leaves it, over any registries. -/
def freshHub (loader : LibLoader Handle sdk.AgentDefinition sdk.TransportDefinition)
    (process : Process) (env : sdk.Env) : ConfiguredHub sdk Process Handle :=
  ⟨loader, process, ({}, .initial loader.agentRegistry loader.transportRegistry env), []⟩

/-- `startup::applyConfig` on the hub. -/
def startHub [DecidableEq Handle] (jsoncons : Jsoncons) (fileSystem : FileSystem)
    (linker : DynamicLinker Process Handle sdk.AgentDefinition sdk.TransportDefinition)
    (memory : StartupMemory) (libs : LibOrders) (order : VisitingOrder) (config : AppConfig)
    (hub : ConfiguredHub sdk Process Handle) :
    Option OperationResult × ConfiguredHub sdk Process Handle :=
  Startup.applyConfigInOrders jsoncons fileSystem linker.libLoader
    (PluginHost.appService (hubService jsoncons fileSystem memory order)) libs memory.extraFlag
    config hub

/-- What the manager answers is the same in two worlds, and so are the objects of the agents. -/
structure World.SameHub (world twin : World sdk) : Prop where
  endpointList : getMavlinkEndpointList world = getMavlinkEndpointList twin
  endpointState : ∀ name, getMavlinkEndpointState name world = getMavlinkEndpointState name twin
  userList : ∀ name,
    getMavlinkEndpointUserList name world = getMavlinkEndpointUserList name twin
  agents : ∀ name,
    (world.agents.lookup name).map (fun agent => (agent.definition, agent.object)) =
      (twin.agents.lookup name).map fun agent => (agent.definition, agent.object)
  agentState : ∀ name, getAgentState name world = getAgentState name twin

theorem World.SameHub.refl (world : World sdk) : world.SameHub world :=
  ⟨rfl, fun _ => rfl, fun _ => rfl, fun _ => rfl, fun _ => rfl⟩

variable {sameEnv : sdk.Env → sdk.Env → Prop} {sameEndpoint : sdk.Endpoint → sdk.Endpoint → Prop}

/-- Plans with the same entries lead to the same hub. -/
theorem sameHub_executePlan (unentangled : sdk.Unentangled sameEnv sameEndpoint)
    {world : World sdk} (reachable : world.Reachable) {plan other : UserPlan}
    (same : plan.SameEntries other) :
    (executePlan plan world).2.SameHub (executePlan other world).2 := by
  obtain ⟨_, views⟩ :=
    executePlan_views unentangled reachable same.policy same.endpoints same.agents
  have alike := (views "").alike
  refine ⟨Finset.ext fun name => ?_, alike.state unentangled,
    getMavlinkEndpointUserList_congr alike.registered fun name requester =>
      (views requester).counters name,
    fun name => (views name).agent, fun name => (views name).getAgentState unentangled⟩
  rw [getMavlinkEndpointList, getMavlinkEndpointList, mem_keys_iff_instanceAt,
    mem_keys_iff_instanceAt, alike.registered]

/-- The service keeps the same plan in two states, over managers that answer the same. -/
structure SameService (state twin : AppServiceImpl × World sdk) : Prop where
  plan : Option.Rel UserPlan.SameEntries state.1.currentPlan twin.1.currentPlan
  world : state.2.SameHub twin.2

/-! ### The startup plan -/

variable (jsoncons : Jsoncons) (fileSystem : FileSystem) (memory : StartupMemory)
  (first second : VisitingOrder) (agentRegistry : AgentRegistry sdk.AgentDefinition)
  (transportRegistry : AgentRegistry sdk.TransportDefinition)

/-- The plan in the file at a path, if there is one that parses. -/
def planInFile (order : VisitingOrder) (path : String) : Option UserPlan :=
  (fileSystem.read path).bind (fstreamToUserPlan jsoncons order memory.policy)

theorem planInFile_orders (path : String) :
    Option.Rel UserPlan.SameEntries (planInFile jsoncons fileSystem memory first path)
      (planInFile jsoncons fileSystem memory second path) := by
  rw [planInFile, planInFile]
  cases fileSystem.read path with
  | none => exact .none
  | some text => exact fstreamToUserPlan_orders jsoncons first second memory.policy text

/-- Loading a plan keeps it, if there is one. -/
theorem hubService_load (path : String) (world : World sdk) :
    let answer := (hubService jsoncons fileSystem memory first agentRegistry
      transportRegistry).executeCommand ⟨.loadPlanFromPath, path⟩ ({}, world)
    answer.1.success = (planInFile jsoncons fileSystem memory first path).isSome ∧
      answer.2 = (⟨planInFile jsoncons fileSystem memory first path⟩,
        { world with agentRegistry, transportRegistry }) := by
  simp only [hubService, AppService.executeCommand, planInFile]
  cases fileSystem.read path with
  | none => exact ⟨rfl, rfl⟩
  | some text =>
    simp only [Option.bind_some]
    cases fstreamToUserPlan jsoncons first memory.policy text with
    | none => exact ⟨rfl, rfl⟩
    | some plan => exact ⟨rfl, rfl⟩

/-- What applying the plan of a file leaves of the manager, if there is one. -/
def planApplied (plan : Option UserPlan) (world : World sdk) : World sdk :=
  plan.elim world fun plan => (executePlan plan world).2

/-- The startup plan is kept, and carried out if the config says so. -/
theorem applyStartupPlan_hubService {config : AppConfig} (named : config.pathToStartupUserPlan ≠ "")
    (world : World sdk) :
    let run := Startup.applyStartupPlan (hubService jsoncons fileSystem memory first agentRegistry
      transportRegistry) config ({}, ({}, world))
    let plan := planInFile jsoncons fileSystem memory first config.pathToStartupUserPlan
    let ready : World sdk := { world with agentRegistry, transportRegistry }
    run.1.success = plan.isSome ∧
      run.2 =
        (⟨plan⟩, if config.applyUserPlanOnStartup then planApplied plan ready else ready) := by
  intro run plan ready
  obtain ⟨success, loaded⟩ := hubService_load jsoncons fileSystem memory first agentRegistry
    transportRegistry config.pathToStartupUserPlan world
  cases applied : config.applyUserPlanOnStartup && plan.isSome with
  | false =>
    have last := applied
    rw [← success] at last
    have ran : run = _ := Startup.applyStartupPlan_of_loaded named last
    rw [ran]
    refine ⟨success, loaded.trans (congrArg (Prod.mk _) ?_)⟩
    rcases Bool.and_eq_false_iff.mp applied with kept | missing
    · rw [kept, if_neg Bool.false_ne_true]
    · rw [Option.isSome_eq_false_iff.mp missing |> Option.isNone_iff_eq_none.mp]
      exact (ite_self ready).symm
  | true =>
    have last := applied
    rw [← success] at last
    have ran : run = _ := Startup.applyStartupPlan_of_applied named last
    rw [loaded] at ran
    obtain ⟨wanted, given⟩ := Bool.and_eq_true_iff.mp applied
    obtain ⟨found, parsed⟩ := Option.isSome_iff_exists.mp given
    rw [show planInFile jsoncons fileSystem memory first config.pathToStartupUserPlan = some found
      from parsed] at ran success
    rw [ran, parsed, wanted, if_pos rfl]
    refine ⟨?_, rfl⟩
    show ((true && _) && true) = _
    rw [Bool.and_true, Bool.true_and]
    exact success

/-- The startup plan takes the manager where a run could have taken it. -/
theorem reachable_startupPlan (config : AppConfig) {world : World sdk} (start : world.Reachable)
    (reachable : { world with agentRegistry, transportRegistry }.Reachable) :
    (Startup.applyStartupPlan (hubService jsoncons fileSystem memory first agentRegistry
      transportRegistry) config ({}, ({}, world))).2.2.Reachable := by
  by_cases named : config.pathToStartupUserPlan ≠ ""
  · have state := (applyStartupPlan_hubService jsoncons fileSystem memory first agentRegistry
      transportRegistry named world).2
    rw [state]
    show (if _ then _ else _ : World sdk).Reachable
    split_ifs
    · cases planInFile jsoncons fileSystem memory first config.pathToStartupUserPlan with
      | none => exact reachable
      | some plan => exact reachable.perform (.executePlan plan)
    · exact reachable
  · rw [Startup.applyStartupPlan, if_neg named]
    exact start

/-- Two orders lead to the same service and the same success. -/
theorem sameService_startupPlan (unentangled : sdk.Unentangled sameEnv sameEndpoint)
    (config : AppConfig) (world : World sdk)
    (reachable : { world with agentRegistry, transportRegistry }.Reachable) :
    let run := fun order => Startup.applyStartupPlan (hubService jsoncons fileSystem memory order
      agentRegistry transportRegistry) config ({}, ({}, world))
    (run first).1.success = (run second).1.success ∧
      SameService (run first).2 (run second).2 := by
  intro run
  by_cases named : config.pathToStartupUserPlan ≠ ""
  · obtain ⟨success, state⟩ := applyStartupPlan_hubService jsoncons fileSystem memory first
      agentRegistry transportRegistry named world
    obtain ⟨otherSuccess, otherState⟩ := applyStartupPlan_hubService jsoncons fileSystem memory
      second agentRegistry transportRegistry named world
    rw [show (run first).1.success = _ from success,
      show (run second).1.success = _ from otherSuccess, show (run first).2 = _ from state,
      show (run second).2 = _ from otherState]
    have same := planInFile_orders jsoncons fileSystem memory first second
      config.pathToStartupUserPlan
    generalize planInFile jsoncons fileSystem memory first config.pathToStartupUserPlan = plan
      at same
    generalize planInFile jsoncons fileSystem memory second config.pathToStartupUserPlan = other
      at same
    cases same with
    | none => exact ⟨rfl, .none, by rw [planApplied]; exact .refl _⟩
    | @some plan other same =>
      refine ⟨rfl, .some same, ?_⟩
      by_cases applied : config.applyUserPlanOnStartup = true
      · simp only [if_pos applied]
        exact sameHub_executePlan unentangled reachable same
      · simp only [if_neg applied]
        exact .refl _
  · have none (order : VisitingOrder) : run order = ({}, ({}, world)) := if_neg named
    rw [none, none]
    exact ⟨rfl, .none, .refl world⟩

/-! ### Starting up -/

variable [DecidableEq Handle]
  {linker : DynamicLinker Process Handle sdk.AgentDefinition sdk.TransportDefinition}
  {config : AppConfig} {extra : Option AppConfig} (process : Process)

/-- The loads of a start-up. -/
def startupLoads (linker : DynamicLinker Process Handle sdk.AgentDefinition sdk.TransportDefinition)
    (process : Process) (libs : LibOrders) (config : AppConfig) (extra : Option AppConfig) :
    List (Call Handle sdk.AgentDefinition sdk.TransportDefinition) :=
  (linker.resolveAll (startupRequests libs config extra) process).1

omit [DecidableEq Handle] in
/-- Whether they all obtain a definition does not depend on the orders. -/
theorem all_startupLoads (independent : linker.Independent) (firstLibs secondLibs : LibOrders) :
    ((startupLoads linker process firstLibs config extra).all fun call => call.obtains.isSome) =
      (startupLoads linker process secondLibs config extra).all
        fun call => call.obtains.isSome := by
  have requested : (startupRequests firstLibs config extra).Perm
      (startupRequests secondLibs config extra) :=
    Multiset.coe_eq_coe.mp ((coe_startupRequests firstLibs config extra).trans
      (coe_startupRequests secondLibs config extra).symm)
  rw [startupLoads, startupLoads, DynamicLinker.resolveAll_of_independent independent,
    DynamicLinker.resolveAll_of_independent independent]
  exact (requested.map fun request => (linker.resolve request process).1).all_eq

/-- In two orders the loads of a start-up register the same definitions. -/
theorem registries_startup (independent : linker.Independent)
    (kept : NamesKept config.agentLibList ∧ NamesKept config.transportLibList)
    (extraKept : ∀ extraLibs, extra = some extraLibs →
      NamesKept extraLibs.agentLibList ∧ NamesKept extraLibs.transportLibList)
    (loader : LibLoader Handle sdk.AgentDefinition sdk.TransportDefinition)
    (firstLibs secondLibs : LibOrders) :
    (loader.after (startupLoads linker process firstLibs config extra)).agentRegistry =
        (loader.after (startupLoads linker process secondLibs config extra)).agentRegistry ∧
      (loader.after (startupLoads linker process firstLibs config extra)).transportRegistry =
        (loader.after (startupLoads linker process secondLibs config extra)).transportRegistry := by
  refine registries_eq fun entry => ?_
  have main : configDefinition linker process firstLibs.agents firstLibs.transports config entry =
      configDefinition linker process secondLibs.agents secondLibs.transports config entry :=
    configDefinition_eq _ _ _ _ kept entry
  cases extra with
  | none =>
    have registered (libs : LibOrders) :
        (loader.after (startupLoads linker process libs config none)).registered entry =
          (loader.registered entry).or
            (configDefinition linker process libs.agents libs.transports config entry) := by
      rw [registered_after, startupLoads,
        DynamicLinker.resolveAll_of_independent independent, startupRequests,
        Option.map_none, Option.getD_none, List.append_nil, configDefinition]
    rw [registered, registered, main]
  | some extraLibs =>
    rw [startupLoads, startupLoads, registered_startup independent,
      registered_startup independent, main,
      configDefinition_eq firstLibs.extraAgents firstLibs.extraTransports secondLibs.extraAgents
        secondLibs.extraTransports (extraKept extraLibs rfl)]

/-- What a start-up leaves of the hub. A file of extra libraries that is of no use stops it behind
the libraries of the config. -/
theorem startHub_leaves
    (linker : DynamicLinker Process Handle sdk.AgentDefinition sdk.TransportDefinition)
    (config : AppConfig) (libs : LibOrders)
    (loader : LibLoader Handle sdk.AgentDefinition sdk.TransportDefinition) (env : sdk.Env) :
    let hub := freshHub loader process env
    let run := startHub jsoncons fileSystem linker memory libs first config hub
    (∀ extra, Startup.extraConfig jsoncons fileSystem memory.extraFlag config = .ok extra →
      let loads := startupLoads linker process libs config extra
      let plan := Startup.applyStartupPlan (hubService jsoncons fileSystem memory first
        (loader.after loads).agentRegistry (loader.after loads).transportRegistry) config
        ({}, hub.service)
      run.2.loader = loader.after loads ∧ run.2.service = plan.2 ∧
        run.1.map OperationResult.success =
          some ((loads.all fun call => call.obtains.isSome) && plan.1.success)) ∧
    (∀ failure,
      Startup.extraConfig jsoncons fileSystem memory.extraFlag config = .error failure →
      run.2.loader = loader.after (startupLoads linker process libs config none) ∧
        run.2.service = hub.service ∧
        run.1.map OperationResult.success = match failure with
          | .rejected => some false
          | .thrown => none) := by
  intro hub run
  constructor
  · intro extra accepted loads plan
    have finished := Startup.applyConfig_of_ok linker.libLoader
      (PluginHost.appService (hubService jsoncons fileSystem memory first)) libs hub accepted
    have loaded := loads_startupRequests linker libs config extra ({}, hub)
    obtain ⟨success, kept⟩ := applyStartupPlan_appService
      (hubService jsoncons fileSystem memory first) config
      (Startup.loadExtraLibs linker.libLoader libs extra
        (Startup.loadConfigLibs linker.libLoader libs.agents libs.transports config ({}, hub)))
    rw [loaded.loader, loaded.service] at kept
    rw [loaded.loader, loaded.service, loaded.success, Bool.true_and] at success
    have final : run.2 = _ := (congrArg Prod.snd finished).trans kept
    have returned : run.1 = _ := congrArg Prod.fst finished
    rw [final, returned]
    exact ⟨loaded.loader, rfl, congrArg some success⟩
  · intro failure refused
    have loaded := loads_startupRequests linker libs config none ({}, hub)
    cases failure with
    | rejected =>
      obtain ⟨extraResult, failed, same⟩ := Startup.applyConfig_of_rejected linker.libLoader
        (PluginHost.appService (hubService jsoncons fileSystem memory first)) libs hub refused
      have final : run = _ := same
      rw [final]
      refine ⟨loaded.loader, loaded.service, congrArg some ?_⟩
      rw [OperationResult.merge_success, failed, Bool.and_false]
    | thrown =>
      have final : run = _ := Startup.applyConfig_of_thrown linker.libLoader
        (PluginHost.appService (hubService jsoncons fileSystem memory first)) libs hub refused
      rw [final]
      exact ⟨loaded.loader, loaded.service, rfl⟩

end Hubs

/-- Whatever the orders in which a start-up visits the maps of its config, of its file of extra
libraries and of its plan, it ends with the same success, with the same registries, with the same
plan in the application service, and with a manager in a reachable state that has the same
endpoints and agents in the same states and with the same users. -/
theorem startHub_orderIndependent {sdk : Sdk} {sameEnv : sdk.Env → sdk.Env → Prop}
    {sameEndpoint : sdk.Endpoint → sdk.Endpoint → Prop} {Process Handle : Type}
    [DecidableEq Handle]
    {linker : DynamicLinker Process Handle sdk.AgentDefinition sdk.TransportDefinition}
    {jsoncons : Jsoncons} {fileSystem : FileSystem} {memory : StartupMemory} {appCfgJson : Json}
    {config : AppConfig} (unentangled : sdk.Unentangled sameEnv sameEndpoint)
    (independent : linker.Independent)
    (parsed : jsonToAppConfig jsoncons fileSystem memory.flag appCfgJson = .ok config)
    (firstLibs secondLibs : LibOrders) (first second : VisitingOrder)
    (loader : LibLoader Handle sdk.AgentDefinition sdk.TransportDefinition) (process : Process)
    (env : sdk.Env) :
    let run := fun libs order => startHub jsoncons fileSystem linker memory libs order config
      (freshHub loader process env)
    (run firstLibs first).1.map OperationResult.success =
        (run secondLibs second).1.map OperationResult.success ∧
      (run firstLibs first).2.loader.agentRegistry =
        (run secondLibs second).2.loader.agentRegistry ∧
      (run firstLibs first).2.loader.transportRegistry =
        (run secondLibs second).2.loader.transportRegistry ∧
      (run firstLibs first).2.service.2.Reachable ∧
      SameService (run firstLibs first).2.service (run secondLibs second).2.service := by
  intro run
  have kept := namesKept_of_jsonToAppConfig parsed
  have start := World.reachable_initial loader.agentRegistry loader.transportRegistry env
  obtain ⟨goesOn, stops⟩ := startHub_leaves jsoncons fileSystem memory first process linker
    config firstLibs loader env
  obtain ⟨otherGoesOn, otherStops⟩ := startHub_leaves jsoncons fileSystem memory second process
    linker config secondLibs loader env
  cases extraLibs : Startup.extraConfig jsoncons fileSystem memory.extraFlag config with
  | error failure =>
    obtain ⟨loaded, service, success⟩ := stops failure extraLibs
    obtain ⟨otherLoaded, otherService, otherSuccess⟩ := otherStops failure extraLibs
    have noExtra : ∀ found : AppConfig, none = some found →
        NamesKept found.agentLibList ∧ NamesKept found.transportLibList :=
      fun _ given => (by cases given)
    obtain ⟨agents, transports⟩ := registries_startup process independent kept noExtra loader
      firstLibs secondLibs
    rw [← loaded, ← otherLoaded] at agents transports
    refine ⟨success.trans otherSuccess.symm, agents, transports, ?_⟩
    rw [show (run firstLibs first).2.service = _ from service,
      show (run secondLibs second).2.service = _ from otherService]
    exact ⟨start, .none, .refl _⟩
  | ok extra =>
    obtain ⟨loaded, service, success⟩ := goesOn extra extraLibs
    obtain ⟨otherLoaded, otherService, otherSuccess⟩ := otherGoesOn extra extraLibs
    have extraKept : ∀ found, extra = some found →
        NamesKept found.agentLibList ∧ NamesKept found.transportLibList := by
      rintro found rfl
      exact namesKept_of_extraConfig extraLibs
    obtain ⟨agents, transports⟩ := registries_startup process independent kept extraKept loader
      firstLibs secondLibs
    rw [agents, transports] at service success
    have ready := World.reachable_initial
      (loader.after (startupLoads linker process secondLibs config extra)).agentRegistry
      (loader.after (startupLoads linker process secondLibs config extra)).transportRegistry env
    have same := sameService_startupPlan jsoncons fileSystem memory first second _ _ unentangled
      config (freshHub loader process env).service.2 ready
    refine ⟨?_, ?_, ?_, ?_, ?_⟩
    · rw [show (run firstLibs first).1.map _ = _ from success,
        show (run secondLibs second).1.map _ = _ from otherSuccess,
        all_startupLoads process independent firstLibs secondLibs]
      exact congrArg (fun planned => some (_ && planned)) same.1
    · rwa [← loaded, ← otherLoaded] at agents
    · rwa [← loaded, ← otherLoaded] at transports
    · rw [show (run firstLibs first).2.service = _ from service]
      exact reachable_startupPlan jsoncons fileSystem memory first _ _ config start ready
    · rw [show (run firstLibs first).2.service = _ from service,
        show (run secondLibs second).2.service = _ from otherService]
      exact same.2

/-- A linker that finds the definitions of the sample in every library. -/
def sampleLinker : DynamicLinker Unit String SampleDefinition Unit where
  agentLib libInfo process := (.definition libInfo.path .courier, process)
  transportLib libInfo process := (.definition libInfo.path (), process)

theorem sampleLinker_independent : sampleLinker.Independent := by
  rintro ⟨_ | _, libInfo⟩ ⟨_ | _, other⟩ process <;> rfl

/-- A plan for two endpoints and an agent. -/
def linksPlan : Json :=
  .object [("policy", .string "discard"),
    ("endpoint_list", .array (["link", "spare"].map fun name =>
      .object [("name", .string name), ("type", .string "udp"), ("config", .object []),
        ("connect_on_create", .bool true)])),
    ("agent_list", .array [.object [("name", .string "courier"), ("type", .string "courier"),
      ("config", .object []), ("start_on_create", .bool true)]])]

/-- A config with a library for each registry, and with this plan. -/
def linksDocument : Json :=
  let libs (name : String) : Json := .array [.object [("name", .string name),
    ("path", .string (name ++ ".so")), ("sym", .string "getDefinition")]]
  .object [("agent_lib_list", libs "courier"), ("transport_lib_list", libs "udp"),
    ("path_to_startup_user_plan", .string "plan.json"),
    ("apply_user_plan_on_startup", .bool true)]

def linksConfig : AppConfig where
  agentLibList := Finmap.singleton "courier" ⟨"courier", "courier.so", "getDefinition"⟩
  transportLibList := Finmap.singleton "udp" ⟨"udp", "udp.so", "getDefinition"⟩
  pathToStartupUserPlan := "plan.json"
  applyUserPlanOnStartup := true

theorem startHub_orderIndependent_sample :
    let order := Classical.arbitrary VisitingOrder
    let run := fun order => startHub (.reading [linksPlan])
      (.holding "plan.json" linksPlan.compact) sampleLinker ⟨false, false, .discard, false⟩
      (.all order) order linksConfig
      (freshHub (.initial ∅ ∅ fun _ => 0) () () : ConfiguredHub sampleSdk Unit String)
    SameService (run order).2.service (run order.reversed).2.service := by
  intro order run
  have parsed : jsonToAppConfig (.reading [linksPlan]) (.holding "plan.json" linksPlan.compact)
      false linksDocument = .ok linksConfig := rfl
  exact (startHub_orderIndependent unentangled_sample sampleLinker_independent parsed
    (.all order) (.all order.reversed) order order.reversed (.initial ∅ ∅ fun _ => 0) ()
    ()).2.2.2.2

end MavlinkHub
