/-
This file shows that the order in which library maps are visited decides nothing about
the plugins. Of two loads of one name the first one counts, so the order of loads matters
in general. But a list that was parsed from a document has each name once, and a library
is registered under the name it is listed by. The loads of one list are therefore for
different names, and the two lists are loaded one after the other.
-/

import MavlinkHub.ConfiguredPlugins
import MavlinkHub.LibLists

namespace MavlinkHub

open JsonUtils LibLoader

/-! ### First registrations -/

namespace LibLoader

variable {Handle AgentDefinition TransportDefinition : Type}

/-- The definitions that a sequence of loads obtains, by name. -/
def provided (calls : List (Call Handle AgentDefinition TransportDefinition)) :
    List (Σ _ : LibKind × String, AgentDefinition ⊕ TransportDefinition) :=
  calls.filterMap fun call => call.obtains.map fun obtained =>
    ⟨obtained.entry, obtained.definition⟩

variable {call : Call Handle AgentDefinition TransportDefinition}
  {calls : List (Call Handle AgentDefinition TransportDefinition)}
  {obtained : Obtained Handle AgentDefinition TransportDefinition}

theorem provided_cons_of_none (obtains : call.obtains = none) :
    provided (call :: calls) = provided calls :=
  List.filterMap_cons_none (by rw [obtains, Option.map_none])

theorem provided_cons_of_some (obtains : call.obtains = some obtained) :
    provided (call :: calls) = ⟨obtained.entry, obtained.definition⟩ :: provided calls :=
  List.filterMap_cons_some (by rw [obtains, Option.map_some])

theorem keys_provided_sublist (calls : List (Call Handle AgentDefinition TransportDefinition)) :
    (provided calls).keys.Sublist (calls.map fun call => entryOf call.request) := by
  induction calls with
  | nil => exact List.Sublist.refl _
  | cons call rest inductionHypothesis =>
    rw [List.map_cons]
    cases obtains : call.obtains with
    | none =>
      rw [provided_cons_of_none obtains]
      exact inductionHypothesis.cons _
    | some obtained =>
      rw [provided_cons_of_some obtains, List.keys_cons, entry_of_obtains obtains]
      exact inductionHypothesis.cons_cons _

/-- What was registered stays, and of what is obtained for a free name the first is registered. -/
theorem registered_after [DecidableEq Handle]
    (loader : LibLoader Handle AgentDefinition TransportDefinition)
    (calls : List (Call Handle AgentDefinition TransportDefinition)) (entry : LibKind × String) :
    (loader.after calls).registered entry =
      (loader.registered entry).or ((provided calls).dlookup entry) := by
  induction calls generalizing loader with
  | nil => exact (Option.or_none).symm
  | cons call rest inductionHypothesis =>
    have step : (loader.after (call :: rest)).registered entry =
      ((loader.perform call).registered entry).or ((provided rest).dlookup entry) :=
        inductionHypothesis (loader.perform call)
    rw [step, registered_perform, Option.or_assoc]
    refine congrArg _ ?_
    cases obtains : call.obtains with
    | none => rw [Call.provides, obtains, Option.bind_none, Option.none_or,
        provided_cons_of_none obtains]
    | some obtained =>
      rw [Call.provides, obtains, Option.bind_some, provided_cons_of_some obtains]
      by_cases same : obtained.entry = entry
      · rw [if_pos same, Option.some_or, ← same, List.dlookup_cons_eq]
      · rw [if_neg same, Option.none_or, List.dlookup_cons_ne _ _ (Ne.symm same)]

end LibLoader

/-! ### Libraries that do not influence each other -/

namespace DynamicLinker

variable {Process Handle AgentDefinition TransportDefinition : Type}
  {linker : DynamicLinker Process Handle AgentDefinition TransportDefinition}

/-- Loading a library does not change the outcome of loading one. -/
def Independent (linker : DynamicLinker Process Handle AgentDefinition TransportDefinition) :
    Prop :=
  ∀ request other process,
    (linker.resolve request (linker.resolve other process).2).1 =
      (linker.resolve request process).1

/-- The loads for a list of requests, each as in one state of the process. -/
def outcomes (linker : DynamicLinker Process Handle AgentDefinition TransportDefinition)
    (process : Process) (requests : List LibRequest) :
    List (Call Handle AgentDefinition TransportDefinition) :=
  requests.map fun request => (linker.resolve request process).1

theorem resolveAll_of_independent (independent : linker.Independent) (requests : List LibRequest)
    (process : Process) :
    (linker.resolveAll requests process).1 = linker.outcomes process requests := by
  induction requests generalizing process with
  | nil => rfl
  | cons request rest inductionHypothesis =>
    rw [resolveAll_cons, inductionHypothesis, outcomes, outcomes, List.map_cons]
    exact congrArg _ (List.map_congr_left fun other _ => independent other request process)

theorem outcomes_append (process : Process) (front back : List LibRequest) :
    linker.outcomes process (front ++ back) =
      linker.outcomes process front ++ linker.outcomes process back :=
  List.map_append

/-- Requests for different names provide definitions for different names. -/
theorem nodupKeys_provided {requests : List LibRequest} (process : Process)
    (distinct : (requests.map entryOf).Nodup) :
    (provided (linker.outcomes process requests)).NodupKeys := by
  have names : (linker.outcomes process requests).map (fun call => entryOf call.request) =
      requests.map entryOf := by
    rw [outcomes, List.map_map]
    exact List.map_congr_left fun request _ => congrArg entryOf (request_resolve _ request process)
  exact (names ▸ keys_provided_sublist _).nodup distinct

end DynamicLinker

/-! ### Lists that were parsed -/

/-- Every library is listed by the name it is to be registered under. -/
def NamesKept (libList : LibList) : Prop :=
  ∀ name libInfo, libList.lookup name = some libInfo → libInfo.name = name

section Parsed

variable {jsoncons : Jsoncons} {fileSystem : FileSystem} {memory : Bool} {key : String}
  {appCfgJson : Json} {config : AppConfig}

theorem namesKept_empty : NamesKept ∅ := by
  intro name libInfo found
  rw [Finmap.lookup_empty] at found
  cases found

theorem namesKept_of_jsonToLibList {libListJson : Json} {libList : LibList}
    (parsed : jsonToLibList jsoncons libListJson = some libList) : NamesKept libList := by
  intro name libInfo found
  obtain ⟨libEntry, _, _, kept⟩ := (lookup_of_jsonToLibList parsed).mp found
  exact kept

theorem namesKept_of_configLibs {libList : LibList}
    (read : configLibs jsoncons key appCfgJson = .ok libList) : NamesKept libList := by
  rw [configLibs] at read
  split_ifs at read with present
  · cases parsed : jsonToLibList jsoncons (appCfgJson.get key) with
    | none =>
      rw [parsed] at read
      cases read
    | some parsedList =>
      rw [parsed] at read
      obtain rfl := Except.ok.inj read
      exact namesKept_of_jsonToLibList parsed
  · obtain rfl := Except.ok.inj read
    exact namesKept_empty

/-- In a config that was parsed from a document names are kept. -/
theorem namesKept_of_jsonToAppConfig
    (parsed : jsonToAppConfig jsoncons fileSystem memory appCfgJson = .ok config) :
    NamesKept config.agentLibList ∧ NamesKept config.transportLibList := by
  rw [jsonToAppConfig] at parsed
  cases agents : configLibs jsoncons "agent_lib_list" appCfgJson with
  | error failure => simp [agents, bind, Except.bind] at parsed
  | ok agentLibList =>
    cases transports : configLibs jsoncons "transport_lib_list" appCfgJson with
    | error failure => simp [agents, transports, bind, Except.bind] at parsed
    | ok transportLibList =>
      simp only [agents, transports, bind, Except.bind] at parsed
      split at parsed
      · cases parsed
      · split at parsed
        · cases parsed
        · split at parsed
          · cases parsed
          · obtain rfl := Except.ok.inj parsed
            exact ⟨namesKept_of_configLibs agents, namesKept_of_configLibs transports⟩

theorem namesKept_of_extraConfig {extra : AppConfig}
    (accepted : Startup.extraConfig jsoncons fileSystem memory config = .ok (some extra)) :
    NamesKept extra.agentLibList ∧ NamesKept extra.transportLibList := by
  rw [Startup.extraConfig] at accepted
  split_ifs at accepted with unnamed
  · cases accepted
  cases read : fileSystem.read config.pathToExtraLibList with
  | none =>
    rw [read] at accepted
    cases accepted
  | some text =>
    simp only [read, fstreamToAppConfig] at accepted
    cases parsed : jsoncons.parse text with
    | none =>
      rw [parsed] at accepted
      cases accepted
    | some extraJson =>
      simp only [parsed] at accepted
      cases converted : jsonToAppConfig jsoncons fileSystem memory extraJson with
      | error failure =>
        rw [converted] at accepted
        cases accepted
      | ok extraLibs =>
        rw [converted] at accepted
        cases accepted
        exact namesKept_of_jsonToAppConfig converted

/-- A loop visits each name once. -/
theorem names_visitLibs {libList : LibList} (order : VisitingOrder) (kept : NamesKept libList) :
    (Startup.visitLibs order libList).map LibInfo.name = (order.visit libList).keys := by
  rw [Startup.visitLibs, List.map_map, AList.keys, List.keys]
  refine List.map_congr_left fun entry member => ?_
  refine kept entry.1 entry.2 ?_
  rw [← lookup_visit order]
  exact AList.mem_lookup_iff.mpr member

theorem nodup_entries_configRequests {agents transports : VisitingOrder}
    (kept : NamesKept config.agentLibList ∧ NamesKept config.transportLibList) :
    ((configRequests agents transports config).map entryOf).Nodup := by
  have entries : (configRequests agents transports config).map entryOf =
      (agents.visit config.agentLibList).keys.map (LibKind.agent, ·) ++
        (transports.visit config.transportLibList).keys.map (LibKind.transport, ·) := by
    rw [← names_visitLibs agents kept.1, ← names_visitLibs transports kept.2, configRequests,
      List.map_append, List.map_map, List.map_map, List.map_map, List.map_map]
    rfl
  rw [entries, List.nodup_append]
  refine ⟨?_, ?_, ?_⟩
  · exact (agents.visit config.agentLibList).keys_nodup.map (Prod.mk_right_injective _)
  · exact (transports.visit config.transportLibList).keys_nodup.map (Prod.mk_right_injective _)
  · intro first agent second transport same
    obtain ⟨name, _, rfl⟩ := List.mem_map.mp agent
    obtain ⟨other, _, rfl⟩ := List.mem_map.mp transport
    cases same

end Parsed

/-! ### Two runs -/

section Runs

variable {Process Service Handle AgentDefinition TransportDefinition : Type}
  {linker : DynamicLinker Process Handle AgentDefinition TransportDefinition}
  {config extra : AppConfig} {process : Process}

/-- Two orders visit the same libraries. -/
theorem configRequests_perm (agents transports otherAgents otherTransports : VisitingOrder) :
    (configRequests agents transports config).Perm
      (configRequests otherAgents otherTransports config) :=
  Multiset.coe_eq_coe.mp ((coe_configRequests agents transports config).trans
    (coe_configRequests otherAgents otherTransports config).symm)

/-- The definition that the libraries of a config provide for a name. -/
def configDefinition (linker : DynamicLinker Process Handle AgentDefinition TransportDefinition)
    (process : Process) (agents transports : VisitingOrder) (config : AppConfig)
    (entry : LibKind × String) : Option (AgentDefinition ⊕ TransportDefinition) :=
  (provided (linker.outcomes process (configRequests agents transports config))).dlookup entry

theorem configDefinition_eq (agents transports otherAgents otherTransports : VisitingOrder)
    (kept : NamesKept config.agentLibList ∧ NamesKept config.transportLibList)
    (entry : LibKind × String) :
    configDefinition linker process agents transports config entry =
      configDefinition linker process otherAgents otherTransports config entry := by
  have distinct : (provided (linker.outcomes process
      (configRequests agents transports config))).NodupKeys :=
    DynamicLinker.nodupKeys_provided process (nodup_entries_configRequests kept)
  have outcomes : (linker.outcomes process (configRequests agents transports config)).Perm
      (linker.outcomes process (configRequests otherAgents otherTransports config)) :=
    (configRequests_perm agents transports otherAgents otherTransports).map _
  exact List.perm_dlookup entry distinct (outcomes.filterMap _)

/-- What is registered when the libraries of a start-up have been loaded. -/
theorem registered_startup [DecidableEq Handle] (independent : linker.Independent)
    (orders : LibOrders) (loader : LibLoader Handle AgentDefinition TransportDefinition)
    (entry : LibKind × String) :
    (loader.after (linker.resolveAll (startupRequests orders config (some extra))
        process).1).registered entry =
      ((loader.registered entry).or
        (configDefinition linker process orders.agents orders.transports config entry)).or
          (configDefinition linker process orders.extraAgents orders.extraTransports extra
            entry) := by
  rw [registered_after, DynamicLinker.resolveAll_of_independent independent, startupRequests,
    DynamicLinker.outcomes_append, provided, List.filterMap_append, List.dlookup_append,
    ← Option.or_assoc]
  rfl

/-- Registries in which the same is registered under every name are equal. -/
theorem registries_eq {loader other : LibLoader Handle AgentDefinition TransportDefinition}
    (same : ∀ entry, loader.registered entry = other.registered entry) :
    loader.agentRegistry = other.agentRegistry ∧
      loader.transportRegistry = other.transportRegistry := by
  constructor
  · refine Finmap.ext_lookup fun name => ?_
    exact Option.map_injective Sum.inl_injective (same (.agent, name))
  · refine Finmap.ext_lookup fun name => ?_
    exact Option.map_injective Sum.inr_injective (same (.transport, name))

theorem registered_congr {loader other : LibLoader Handle AgentDefinition TransportDefinition}
    (agents : loader.agentRegistry = other.agentRegistry)
    (transports : loader.transportRegistry = other.transportRegistry)
    (entry : LibKind × String) : loader.registered entry = other.registered entry := by
  rcases entry with ⟨_ | _, name⟩
  · rw [registered, registered, agents]
  · rw [registered, registered, transports]

/-- The library list of a config for one of the registries. -/
def libsOf (config : AppConfig) : LibKind → LibList
  | .agent => config.agentLibList
  | .transport => config.transportLibList

/-- A library of a config is requested. -/
theorem mem_configRequests {kind : LibKind} {name : String} {libInfo : LibInfo}
    (agents transports : VisitingOrder)
    (listed : (libsOf config kind).lookup name = some libInfo) :
    (kind, libInfo) ∈ configRequests agents transports config := by
  have visited : ∀ (order : VisitingOrder) (libList : LibList),
      libList.lookup name = some libInfo → libInfo ∈ Startup.visitLibs order libList := by
    intro order libList found
    rw [← lookup_visit order] at found
    exact List.mem_map_of_mem (AList.mem_lookup_iff.mp found)
  rw [configRequests, List.mem_append]
  cases kind with
  | agent => exact .inl (List.mem_map_of_mem (visited agents _ listed))
  | transport => exact .inr (List.mem_map_of_mem (visited transports _ listed))

/-- What a library of a config obtains is what the config provides under its name. -/
theorem configDefinition_of_obtains {kind : LibKind} {name : String} {libInfo : LibInfo}
    {obtained : Obtained Handle AgentDefinition TransportDefinition}
    (agents transports : VisitingOrder)
    (kept : NamesKept config.agentLibList ∧ NamesKept config.transportLibList)
    (listed : (libsOf config kind).lookup name = some libInfo)
    (obtains : (linker.resolve (kind, libInfo) process).1.obtains = some obtained) :
    configDefinition linker process agents transports config (kind, name) =
      some obtained.definition := by
  have named : libInfo.name = name := by
    cases kind with
    | agent => exact kept.1 name libInfo listed
    | transport => exact kept.2 name libInfo listed
  have entry : obtained.entry = (kind, name) := by
    rw [← entry_of_obtains obtains, DynamicLinker.request_resolve, entryOf, named]
  refine List.mem_dlookup (DynamicLinker.nodupKeys_provided process
    (nodup_entries_configRequests kept)) ?_
  rw [← entry]
  refine List.mem_filterMap.mpr ⟨_, List.mem_map_of_mem (mem_configRequests agents transports
    listed), ?_⟩
  rw [obtains, Option.map_some]

/-- In two orders the same libraries are requested. -/
theorem startupRequests_perm (first second : LibOrders) :
    (startupRequests first config (some extra)).Perm
      (startupRequests second config (some extra)) :=
  Multiset.coe_eq_coe.mp ((coe_startupRequests first config (some extra)).trans
    (coe_startupRequests second config (some extra)).symm)

end Runs

/-- Over equal registries a start-up with a config and a file of extra libraries that parse ends
with equal registries and the same success, whatever the order in which it visits its four
library maps. A library of the main config that loads is registered then, unless its name had
been registered before the start-up. -/
theorem plugins_orderIndependent
    {Process Service Handle AgentDefinition TransportDefinition : Type} [DecidableEq Handle]
    {linker : DynamicLinker Process Handle AgentDefinition TransportDefinition}
    (service : AgentRegistry AgentDefinition → AgentRegistry TransportDefinition →
      IAppService Service)
    {jsoncons : Jsoncons} {fileSystem : FileSystem} {memory extraMemory : Bool}
    {appCfgJson : Json} {config extra : AppConfig} (independent : linker.Independent)
    (parsed : jsonToAppConfig jsoncons fileSystem memory appCfgJson = .ok config)
    (accepted : Startup.extraConfig jsoncons fileSystem extraMemory config = .ok (some extra))
    (first second : LibOrders) (process : Process) (state : Service)
    {loader other : LibLoader Handle AgentDefinition TransportDefinition}
    (agents : loader.agentRegistry = other.agentRegistry)
    (transports : loader.transportRegistry = other.transportRegistry) :
    let run := fun orders loader => Startup.applyConfigInOrders jsoncons fileSystem
      linker.libLoader (PluginHost.appService service) orders extraMemory config
      ⟨loader, process, state, []⟩
    (run first loader).2.loader.agentRegistry = (run second other).2.loader.agentRegistry ∧
      (run first loader).2.loader.transportRegistry =
        (run second other).2.loader.transportRegistry ∧
      (∃ result otherResult, (run first loader).1 = some result ∧
        (run second other).1 = some otherResult ∧ result.success = otherResult.success) ∧
      ∀ kind name libInfo obtained, (libsOf config kind).lookup name = some libInfo →
        (linker.resolve (kind, libInfo) process).1.obtains = some obtained →
          loader.registered (kind, name) = none →
            (run first loader).2.loader.registered (kind, name) =
              some obtained.definition := by
  intro run
  have kept := namesKept_of_jsonToAppConfig parsed
  have extraKept := namesKept_of_extraConfig accepted
  obtain ⟨_, loaded, result, returned, success⟩ :=
    applyConfig_loads linker service first accepted ⟨loader, process, state, []⟩
  obtain ⟨_, otherLoaded, otherResult, otherReturned, otherSuccess⟩ :=
    applyConfig_loads linker service second accepted ⟨other, process, state, []⟩
  have final : (run first loader).2.loader = _ := loaded
  have otherFinal : (run second other).2.loader = _ := otherLoaded
  have same : ∀ entry, (run first loader).2.loader.registered entry =
      (run second other).2.loader.registered entry := by
    intro entry
    rw [final, otherFinal, registered_startup independent, registered_startup independent,
      registered_congr agents transports,
      configDefinition_eq first.agents first.transports second.agents second.transports kept,
      configDefinition_eq first.extraAgents first.extraTransports second.extraAgents
        second.extraTransports extraKept]
  obtain ⟨sameAgents, sameTransports⟩ := registries_eq same
  refine ⟨sameAgents, sameTransports, ⟨result, otherResult, returned, otherReturned, ?_⟩, ?_⟩
  · rw [final, otherFinal] at sameAgents sameTransports
    have outcomes : (linker.outcomes process (startupRequests first config (some extra))).Perm
        (linker.outcomes process (startupRequests second config (some extra))) :=
      (startupRequests_perm first second).map _
    rw [success, otherSuccess, sameAgents, sameTransports,
      DynamicLinker.resolveAll_of_independent independent,
      DynamicLinker.resolveAll_of_independent independent]
    exact congrArg (· && _) outcomes.all_eq
  · intro kind name libInfo obtained listed obtains free
    rw [final, registered_startup independent, free, Option.none_or,
      configDefinition_of_obtains _ _ kept listed obtains, Option.some_or]

theorem extraConfig_firstAppConfig :
    Startup.extraConfig (.reading [secondAppLibs]) (.holding "extra.json" secondAppLibs.compact)
      false (firstAppConfig "extra.json") =
    .ok (some { agentLibList := Finmap.singleton "app" (appIn "second.so")
                applyUserPlanOnStartup := false }) := rfl

theorem eponymousLinker_independent : eponymousLinker.Independent := by
  rintro ⟨_ | _, libInfo⟩ ⟨_ | _, other⟩ process <;> rfl

/-- Every map visited the other way round. -/
def VisitingOrder.reversed (order : VisitingOrder) : VisitingOrder where
  visit map := ⟨(order.visit map).entries.reverse,
    (List.perm_nodupKeys (List.reverse_perm _)).mpr (order.visit map).nodupKeys⟩
  visit_toFinmap map :=
    (AList.toFinmap_eq.mpr (List.reverse_perm _)).trans (order.visit_toFinmap map)

/-- A config file with the agents of two libraries, and with a file of extra libraries. -/
def severalDocument : Json :=
  .object [("agent_lib_list", .array [
      .object [("name", .string "app"), ("path", .string "first.so"),
        ("sym", .string "getAgentDefinition")],
      .object [("name", .string "relay"), ("path", .string "relay.so"),
        ("sym", .string "getAgentDefinition")]]),
    ("path_to_extra_lib_list", .string "extra.json")]

/-- Whichever way round the lists are visited, the registries are the same. Of the two agents
`app` the one of the main config is registered. -/
theorem plugins_orderIndependent_sample :
    let order := Classical.arbitrary VisitingOrder
    let run := fun orders => appStartup (.reading [extraLibs "app"])
      (.holding "extra.json" (extraLibs "app").compact) orders severalConfig
    (run (.all order)).2.loader.agentRegistry = (run (.all order.reversed)).2.loader.agentRegistry ∧
      (run (.all order)).2.loader.registered (.agent, "app") = some (.inl "first.so") ∧
      (run (.all order)).2.loader.registered (.agent, "relay") = some (.inl "relay.so") := by
  intro order run
  have parsed : jsonToAppConfig (.reading [extraLibs "app"])
      (.holding "extra.json" (extraLibs "app").compact) false severalDocument =
    .ok severalConfig := rfl
  have accepted : Startup.extraConfig (.reading [extraLibs "app"])
      (.holding "extra.json" (extraLibs "app").compact) false severalConfig =
    .ok (some (extraConfigOf "app")) := extraConfig_holding rfl (by decide) rfl
  have same : bareHost.loader.agentRegistry = bareHost.loader.agentRegistry := rfl
  obtain ⟨agents, _, _, registered⟩ := plugins_orderIndependent (fun _ _ => agreeableService)
    eponymousLinker_independent parsed accepted (.all order) (.all order.reversed) () () same rfl
  exact ⟨agents,
    registered .agent "app" (appIn "first.so") ⟨(.agent, "app"), "first.so", .inl "first.so"⟩
      rfl rfl rfl,
    registered .agent "relay" ⟨"relay", "relay.so", "getAgentDefinition"⟩
      ⟨(.agent, "relay"), "relay.so", .inl "relay.so"⟩ rfl rfl rfl⟩

/-- A process in which an agent `app` is registered already. -/
def builtinLoader : LibLoader String String Unit :=
  .initial ((∅ : AgentRegistry String).insert "app" "builtin.so") ∅ fun _ => 0

/-- Where `app` was registered before, it stays so, although the library of the main config
loads. -/
theorem builtinApp_stays :
    let run := Startup.applyConfigInOrders (.reading [secondAppLibs])
      (.holding "extra.json" secondAppLibs.compact) eponymousLinker.libLoader
      (PluginHost.appService fun _ _ => agreeableService)
      (.all (Classical.arbitrary VisitingOrder)) false (firstAppConfig "extra.json")
      ⟨builtinLoader, (), (), []⟩
    (firstAppConfig "extra.json").agentLibList.lookup "app" = some (appIn "first.so") ∧
      (eponymousLinker.resolve (.agent, appIn "first.so") ()).1.obtains =
        some ⟨(.agent, "app"), "first.so", .inl "first.so"⟩ ∧
      run.2.loader.registered (.agent, "app") = some (.inl "builtin.so") := by
  intro run
  obtain ⟨_, loaded, _⟩ := applyConfig_loads eponymousLinker (fun _ _ => agreeableService)
    (.all (Classical.arbitrary VisitingOrder)) extraConfig_firstAppConfig
    ⟨builtinLoader, (), (), []⟩
  have final : run.2.loader = _ := loaded
  refine ⟨rfl, rfl, ?_⟩
  rw [final]
  exact registered_after_of_some rfl

end MavlinkHub
