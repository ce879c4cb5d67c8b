/-
This file is about the overview tables of the UI. A status list is written by one loop
and read by another, and what is read are the entries that were written, with each state
replaced by its name. The tables are refreshed from such lists, so they show the agents
and endpoints the manager has, or what they showed before.
-/

import MavlinkHub.CurrentPlan
import MavlinkHub.EndpointUsers
import MavlinkHub.Library.Assignments

namespace MavlinkHub

open JsonUtils

/-- jsoncons reads a document back from the text it is written as. -/
def Jsoncons.Inverts (jsoncons : Jsoncons) (json : Json) : Prop :=
  jsoncons.parse (jsoncons.dump json) = some json

theorem Jsoncons.reading_inverts_head (json : Json) (rest : List Json) :
    (Jsoncons.reading (json :: rest)).Inverts json := by
  simp [Inverts, reading]

theorem Jsoncons.reading_inverts_tail {json other : Json} {rest : List Json}
    (different : other.compact ≠ json.compact) (inverts : (Jsoncons.reading rest).Inverts json) :
    (Jsoncons.reading (other :: rest)).Inverts json := by
  simpa [Inverts, reading, different] using inverts

/-! ### Status lists -/

/-- The document a list of states is written as. -/
def statusListJson {Value : Type} (key : String) (valueOf : Value → Int)
    (list : Traversal Value) : Json :=
  .object [(key, entriesToJson (fun name status =>
    .object [("name", .string name), ("status", .integer (valueOf status))]) list)]

/-- The document of `agentStatusListToJsonString`. -/
def agentStatusListJson (list : Traversal AgentState) : Json :=
  statusListJson "agent_status_list" agentStateValue list

/-- The document of `endpointStatusListToJsonString`. -/
def endpointStatusListJson (list : Traversal MavlinkEndpointState) : Json :=
  statusListJson "endpoint_status_list" endpointStateValue list

/-- A list has an entry for each value that can be looked up, with the name of the value, each
exactly once, and no other. -/
structure ListsExactly {Value : Type} (lookup : String → Option Value) (nameOf : Value → String)
    (list : List (String × String)) : Prop where
  distinct : (list.map Prod.fst).Nodup
  entry : ∀ name status, (name, status) ∈ list ↔
    ∃ value, lookup name = some value ∧ status = nameOf value

section StatusLists

variable {jsoncons : Jsoncons} {truncate : String → Int} {Value : Type} {valueOf : Value → Int}
  {nameOf : Value → String} {nameOfValue : Int → String} {key : String}

theorem agentStateNameOfValue_value (state : AgentState) :
    agentStateNameOfValue (agentStateValue state) = agentStateToString state := by
  cases state <;> rfl

theorem endpointStateNameOfValue_value (state : MavlinkEndpointState) :
    endpointStateNameOfValue (endpointStateValue state) = endpointStateToString state := by
  cases state <;> rfl

theorem statusEntry_of_small (name : String) (value : Int) (nonneg : 0 ≤ value)
    (small : value < 4) :
    statusEntry jsoncons truncate nameOfValue
        (.object [("name", .string name), ("status", .integer value)]) =
      .ok (name, nameOfValue value) := by
  have stored : Json.isStoredInteger value = true := by
    rw [Json.isStoredInteger, Bool.and_eq_true, decide_eq_true_eq, decide_eq_true_eq]
    omega
  have kept : value.bmod (2 ^ 32) = value := by
    rw [Int.bmod_def]
    omega
  have read : (Json.integer value).toInt truncate = some value := by
    rw [Json.toInt, if_pos stored, kept]
  have status : (Json.object [("name", .string name), ("status", .integer value)]).get "status" =
    .integer value := rfl
  rw [statusEntry, status, read]
  rfl

/-- The loop of a decoder over what the loop of an encoder has written. -/
theorem mapM_statusEntry (small : ∀ value, 0 ≤ valueOf value ∧ valueOf value < 4)
    (named : ∀ value, nameOfValue (valueOf value) = nameOf value)
    (entries : List (Σ _ : String, Value)) :
    (entries.map fun entry => Json.object
        [("name", .string entry.1), ("status", .integer (valueOf entry.2))]).mapM
        (statusEntry jsoncons truncate nameOfValue) =
      .ok (entries.map fun entry => (entry.1, nameOf entry.2)) := by
  induction entries with
  | nil => rfl
  | cons entry rest inductionHypothesis =>
    obtain ⟨nonneg, below⟩ := small entry.2
    rw [List.map_cons, List.mapM_cons, statusEntry_of_small _ _ nonneg below, named]
    show ((rest.map fun entry => Json.object
      [("name", .string entry.1), ("status", .integer (valueOf entry.2))]).mapM
        (statusEntry jsoncons truncate nameOfValue) >>= fun read => _) = _
    rw [inductionHypothesis]
    rfl

/-- A decoder reads the entries of the map, in the order in which they were written. -/
theorem statusListFromJsonString_dump (small : ∀ value, 0 ≤ valueOf value ∧ valueOf value < 4)
    (named : ∀ value, nameOfValue (valueOf value) = nameOf value) (list : Traversal Value)
    (inverts : jsoncons.Inverts (statusListJson key valueOf list)) :
    statusListFromJsonString jsoncons truncate key nameOfValue
        (jsoncons.dump (statusListJson key valueOf list)) =
      .ok (list.entries.map fun entry => (entry.1, nameOf entry.2)) := by
  have keyed : ∀ elements : List Json,
      (Json.object [(key, .array elements)]).contains key = true ∧
        (Json.object [(key, .array elements)]).get key = .array elements := by
    intro elements
    simp [Json.contains, Json.get, Json.members]
  rw [statusListFromJsonString, inverts]
  simp only [statusListJson, entriesToJson, keyed, Json.isObject, Json.isArray, Json.elements,
    Bool.not_true, Bool.or_self, Bool.false_eq_true, if_false]
  exact mapM_statusEntry small named list.entries

theorem agentStatusListFromJsonString_toJsonString (truncate : String → Int)
    (list : Traversal AgentState)
    (inverts : jsoncons.Inverts (agentStatusListJson list)) :
    agentStatusListFromJsonString jsoncons truncate (agentStatusListToJsonString jsoncons list) =
      .ok (list.entries.map fun entry => (entry.1, agentStateToString entry.2)) := by
  refine statusListFromJsonString_dump (fun state => ?_) agentStateNameOfValue_value list inverts
  cases state <;> decide

theorem endpointStatusListFromJsonString_toJsonString (truncate : String → Int)
    (list : Traversal MavlinkEndpointState)
    (inverts : jsoncons.Inverts (endpointStatusListJson list)) :
    endpointStatusListFromJsonString jsoncons truncate
        (endpointStatusListToJsonString jsoncons list) =
      .ok (list.entries.map fun entry => (entry.1, endpointStateToString entry.2)) := by
  refine statusListFromJsonString_dump (fun state => ?_) endpointStateNameOfValue_value list inverts
  cases state <;> decide

theorem listsExactly_entries (list : Traversal Value) (nameOf : Value → String) :
    ListsExactly list.toFinmap.lookup nameOf
      (list.entries.map fun entry => (entry.1, nameOf entry.2)) := by
  constructor
  · have keys : (list.entries.map fun entry => (entry.1, nameOf entry.2)).map Prod.fst =
        list.keys := by
      rw [List.map_map]
      rfl
    rw [keys]
    exact list.keys_nodup
  · intro name status
    rw [List.mem_map]
    constructor
    · rintro ⟨⟨name, value⟩, member, ⟨⟩⟩
      exact ⟨value, AList.mem_lookup_iff.mpr member, rfl⟩
    · rintro ⟨value, found, rfl⟩
      exact ⟨⟨name, value⟩, AList.mem_lookup_iff.mp found, rfl⟩

/-- The entries of a visited map list it exactly. -/
theorem listsExactly_visit (order : VisitingOrder) (map : StringMap Value)
    (nameOf : Value → String) :
    ListsExactly map.lookup nameOf
      ((order.visit map).entries.map fun entry => (entry.1, nameOf entry.2)) := by
  have listed := listsExactly_entries (order.visit map) nameOf
  rwa [order.visit_toFinmap] at listed

end StatusLists

/-! ### The overview tables -/

/-- `OverviewRow`. -/
structure OverviewRow where
  name : String := ""
  type : String := ""
  status : String := ""
  report : String := ""
  deriving DecidableEq

/-- The rows the controller holds. -/
structure OverviewTables where
  agentRows : List OverviewRow := []
  endpointRows : List OverviewRow := []

namespace CliUiController

variable {State : Type} (jsoncons : Jsoncons) (truncate : String → Int)
  (appService : IAppService State)

/-- The rows made of decoded entries. -/
def overviewRows (entries : List (String × String)) : List OverviewRow :=
  entries.map fun entry => { name := entry.1, status := entry.2 }

/-- One of the two tables after the answer to its command; `none` if the decoder throws. -/
def refreshRows (decode : String → Except ConversionFailure (List (String × String)))
    (result : CommandResult) (rows : List OverviewRow) : Option (List OverviewRow) :=
  if result.success then
    match decode result.data with
    | .ok entries => some (overviewRows entries)
    | .error .rejected => some rows
    | .error .thrown => none
  else some rows

/-- `CliUiController::updateOverviewData`. An exception of a decoder leaves it. -/
def updateOverviewData (tables : OverviewTables) (state : State) : OverviewTables × State :=
  let (agentResult, state) := appService.executeCommand ⟨.getAgentStatusAll, ""⟩ state
  match refreshRows (agentStatusListFromJsonString jsoncons truncate) agentResult
      tables.agentRows with
  | none => (tables, state)
  | some agentRows =>
    let (endpointResult, state) := appService.executeCommand ⟨.getEndpointStatusAll, ""⟩ state
    match refreshRows (endpointStatusListFromJsonString jsoncons truncate) endpointResult
        tables.endpointRows with
    | none => ({ tables with agentRows }, state)
    | some endpointRows => (⟨agentRows, endpointRows⟩, state)

variable {jsoncons truncate appService}

/-- A command that fails or whose answer does not decode leaves its rows alone. -/
theorem refreshRows_of_failed
    {decode : String → Except ConversionFailure (List (String × String))}
    {result : CommandResult} {rows : List OverviewRow}
    (failed : result.success = false ∨ ∀ entries, decode result.data ≠ .ok entries) :
    ∀ refreshed ∈ refreshRows decode result rows, refreshed = rows := by
  intro refreshed found
  rw [refreshRows] at found
  by_cases success : result.success = true
  · have undecoded := failed.resolve_left (by rw [success]; exact Bool.noConfusion)
    rw [if_pos success] at found
    cases decoded : decode result.data with
    | ok entries => exact absurd decoded (undecoded entries)
    | error failure =>
      rw [decoded] at found
      cases failure with
      | rejected => exact (Option.some.inj found).symm
      | thrown => cases found
  · rw [if_neg success] at found
    exact (Option.some.inj found).symm

section Answers

variable {tables : OverviewTables} {state middle last : State}
  {agentResult endpointResult : CommandResult} {agentRows endpointRows : List OverviewRow}

theorem updateOverviewData_of_agents_thrown
    (agentCall : appService.executeCommand ⟨.getAgentStatusAll, ""⟩ state = (agentResult, middle))
    (agents : refreshRows (agentStatusListFromJsonString jsoncons truncate) agentResult
      tables.agentRows = none) :
    updateOverviewData jsoncons truncate appService tables state = (tables, middle) := by
  simp only [updateOverviewData, agentCall, agents]

theorem updateOverviewData_of_endpoints_thrown
    (agentCall : appService.executeCommand ⟨.getAgentStatusAll, ""⟩ state = (agentResult, middle))
    (agents : refreshRows (agentStatusListFromJsonString jsoncons truncate) agentResult
      tables.agentRows = some agentRows)
    (endpointCall : appService.executeCommand ⟨.getEndpointStatusAll, ""⟩ middle =
      (endpointResult, last))
    (endpoints : refreshRows (endpointStatusListFromJsonString jsoncons truncate) endpointResult
      tables.endpointRows = none) :
    updateOverviewData jsoncons truncate appService tables state =
      ({ tables with agentRows }, last) := by
  simp only [updateOverviewData, agentCall, agents, endpointCall, endpoints]

theorem updateOverviewData_of_refreshed
    (agentCall : appService.executeCommand ⟨.getAgentStatusAll, ""⟩ state = (agentResult, middle))
    (agents : refreshRows (agentStatusListFromJsonString jsoncons truncate) agentResult
      tables.agentRows = some agentRows)
    (endpointCall : appService.executeCommand ⟨.getEndpointStatusAll, ""⟩ middle =
      (endpointResult, last))
    (endpoints : refreshRows (endpointStatusListFromJsonString jsoncons truncate) endpointResult
      tables.endpointRows = some endpointRows) :
    updateOverviewData jsoncons truncate appService tables state =
      (⟨agentRows, endpointRows⟩, last) := by
  simp only [updateOverviewData, agentCall, agents, endpointCall, endpoints]

end Answers

/-- A table is the one before if its command fails or its answer does not decode. -/
theorem updateOverviewData_keeps (tables : OverviewTables) (state : State) :
    let agentResult := appService.executeCommand ⟨.getAgentStatusAll, ""⟩ state
    let endpointResult := appService.executeCommand ⟨.getEndpointStatusAll, ""⟩ agentResult.2
    let updated := (updateOverviewData jsoncons truncate appService tables state).1
    ((agentResult.1.success = false ∨ ∀ entries,
        agentStatusListFromJsonString jsoncons truncate agentResult.1.data ≠ .ok entries) →
      updated.agentRows = tables.agentRows) ∧
    ((endpointResult.1.success = false ∨ ∀ entries,
        endpointStatusListFromJsonString jsoncons truncate endpointResult.1.data ≠ .ok entries) →
      updated.endpointRows = tables.endpointRows) := by
  intro agentResult endpointResult updated
  cases agents : refreshRows (agentStatusListFromJsonString jsoncons truncate) agentResult.1
      tables.agentRows with
  | none =>
    have same : updated = tables :=
      congrArg Prod.fst (updateOverviewData_of_agents_thrown rfl agents)
    rw [same]
    exact ⟨fun _ => rfl, fun _ => rfl⟩
  | some agentRows =>
    cases endpoints : refreshRows (endpointStatusListFromJsonString jsoncons truncate)
        endpointResult.1 tables.endpointRows with
    | none =>
      have same : updated = { tables with agentRows } :=
        congrArg Prod.fst (updateOverviewData_of_endpoints_thrown rfl agents rfl endpoints)
      rw [same]
      exact ⟨fun failed => refreshRows_of_failed failed _ agents, fun _ => rfl⟩
    | some endpointRows =>
      have same : updated = ⟨agentRows, endpointRows⟩ :=
        congrArg Prod.fst (updateOverviewData_of_refreshed rfl agents rfl endpoints)
      rw [same]
      exact ⟨fun failed => refreshRows_of_failed failed _ agents,
        fun failed => refreshRows_of_failed failed _ endpoints⟩

end CliUiController

/-! ### The tables over the manager -/

section Queries

variable {Entry Answer : Type} (order : VisitingOrder) (query : Entry → Option Answer)

/-- A loop that assigns the answer of every entry that has one. -/
theorem foldl_eq_assign {step : StringMap Answer → (Σ _ : String, Entry) → StringMap Answer}
    (files : ∀ answers entry answer, query entry.2 = some answer →
      step answers entry = answers.insert entry.1 answer)
    (skips : ∀ answers entry, query entry.2 = none → step answers entry = answers)
    (entries : List (Σ _ : String, Entry)) (answers : StringMap Answer) :
    entries.foldl step answers =
      Assignments.assign
        (entries.filterMap fun entry => (query entry.2).map fun answer => (entry.1, answer))
        answers := by
  induction entries generalizing answers with
  | nil => rfl
  | cons entry rest inductionHypothesis =>
    rw [List.foldl_cons, inductionHypothesis]
    cases answered : query entry.2 with
    | none =>
      rw [List.filterMap_cons_none (by rw [answered, Option.map_none]), skips _ _ answered]
    | some answer =>
      rw [List.filterMap_cons_some (by rw [answered, Option.map_some]), Assignments.assign_cons,
        files _ _ _ answered]

theorem queryAll_eq_assign (entries : StringMap Entry) :
    Manager.queryAll order query entries =
      Assignments.assign
        ((order.visit entries).entries.filterMap fun entry =>
          (query entry.2).map fun answer => (entry.1, answer)) ∅ := by
  refine foldl_eq_assign query (fun answers entry answer answered => ?_)
    (fun answers entry unanswered => ?_) _ _
  · simp only [answered]
  · simp only [unanswered]

/-- The keys of answered entries are among the keys, in the same order. -/
theorem keys_filterMap_sublist (entries : List (Σ _ : String, Entry)) :
    ((entries.filterMap fun entry => (query entry.2).map fun answer => (entry.1, answer)).map
      Prod.fst).Sublist (entries.map (·.1)) := by
  induction entries with
  | nil => exact .slnil
  | cons entry rest inductionHypothesis =>
    cases answered : query entry.2 with
    | none =>
      rw [List.filterMap_cons_none (by rw [answered, Option.map_none])]
      exact inductionHypothesis.cons entry.1
    | some answer =>
      rw [List.filterMap_cons_some (by rw [answered, Option.map_some])]
      exact inductionHypothesis.cons_cons entry.1

/-- Asking every entry of a map files under each name what its entry answers. -/
theorem lookup_queryAll (entries : StringMap Entry) (name : String) :
    (Manager.queryAll order query entries).lookup name =
      (entries.lookup name).bind query := by
  have distinct : (((order.visit entries).entries.filterMap fun entry =>
      (query entry.2).map fun answer => (entry.1, answer)).map Prod.fst).Nodup :=
    (keys_filterMap_sublist query _).nodup (order.visit entries).keys_nodup
  refine Option.ext fun answer => ?_
  rw [queryAll_eq_assign, Assignments.lookup_assign_eq_some_iff distinct, List.mem_filterMap]
  rw [← lookup_visit order entries, Option.bind_eq_some_iff]
  constructor
  · rintro ⟨⟨other, entry⟩, member, found⟩
    obtain ⟨answer, answered, ⟨⟩⟩ := Option.map_eq_some_iff.mp found
    exact ⟨entry, AList.mem_lookup_iff.mpr member, answered⟩
  · rintro ⟨entry, stored, answered⟩
    exact ⟨⟨name, entry⟩, AList.mem_lookup_iff.mp stored, by rw [answered, Option.map_some]⟩

end Queries

section Manager

variable {sdk : Sdk} {world : World sdk} (order : VisitingOrder)

theorem lookup_getMavlinkEndpointStateAll (name : String) :
    (Manager.getMavlinkEndpointStateAll order world).lookup name =
      Manager.getMavlinkEndpointState name world :=
  lookup_queryAll order _ _ name

theorem lookup_getAgentStateAll (name : String) :
    (Manager.getAgentStateAll order world).lookup name = Manager.getAgentState name world := by
  rw [Manager.getAgentStateAll, lookup_queryAll, Manager.getAgentState]
  cases world.agents.lookup name <;> rfl

theorem getAgentState_isSome_iff (name : String) :
    (Manager.getAgentState name world).isSome = true ↔ name ∈ world.agents := by
  rw [Manager.getAgentState, Option.isSome_map, ← Finmap.lookup_isSome]

/-- In a reachable world every registered endpoint has a state. -/
theorem getMavlinkEndpointState_isSome_iff (reachable : world.Reachable) (name : String) :
    (Manager.getMavlinkEndpointState name world).isSome = true ↔ name ∈ world.endpointDb := by
  rw [Manager.getMavlinkEndpointState, ← Finmap.lookup_isSome]
  cases stored : world.endpointDb.lookup name with
  | none => rfl
  | some entry =>
    have registered : instanceAt world.ledger.endpointDb name = some entry.endpoint := by
      rw [instanceAt]
      exact congrArg (Option.map _) stored
    have alive := (reachable.sound.alive entry.endpoint).mpr ⟨name, registered⟩
    obtain ⟨object, found⟩ := Finmap.mem_iff.mp (Finmap.mem_keys.mp alive)
    rw [Option.bind_some, found]
    rfl

end Manager

/-- A table has a row for each value that can be looked up, with the name of the value as its
status, exactly one for each name, and no other. -/
structure RowsExactly {Value : Type} (lookup : String → Option Value) (nameOf : Value → String)
    (rows : List OverviewRow) : Prop where
  distinct : (rows.map OverviewRow.name).Nodup
  row : ∀ row, row ∈ rows ↔
    ∃ value, lookup row.name = some value ∧ row = { name := row.name, status := nameOf value }

section Tables

variable {Value : Type} {lookup : String → Option Value} {nameOf : Value → String}

theorem ListsExactly.overviewRows {list : List (String × String)}
    (listed : ListsExactly lookup nameOf list) :
    RowsExactly lookup nameOf (CliUiController.overviewRows list) := by
  constructor
  · have names : (CliUiController.overviewRows list).map OverviewRow.name = list.map Prod.fst := by
      rw [CliUiController.overviewRows, List.map_map]
      rfl
    rw [names]
    exact listed.distinct
  · intro row
    rw [CliUiController.overviewRows, List.mem_map]
    constructor
    · rintro ⟨⟨name, status⟩, member, rfl⟩
      obtain ⟨value, found, rfl⟩ := (listed.entry name status).mp member
      exact ⟨value, found, rfl⟩
    · rintro ⟨value, found, same⟩
      exact ⟨(row.name, nameOf value), (listed.entry _ _).mpr ⟨value, found, rfl⟩, same.symm⟩

/-- A name has a row exactly if it can be looked up. -/
theorem RowsExactly.mem_names_iff {rows : List OverviewRow}
    (exact : RowsExactly lookup nameOf rows) (name : String) :
    name ∈ rows.map OverviewRow.name ↔ (lookup name).isSome = true := by
  rw [List.mem_map, Option.isSome_iff_exists]
  constructor
  · rintro ⟨row, member, rfl⟩
    obtain ⟨value, found, _⟩ := (exact.row row).mp member
    exact ⟨value, found⟩
  · rintro ⟨value, found⟩
    exact ⟨{ name, status := nameOf value }, (exact.row _).mpr ⟨value, found, rfl⟩, rfl⟩

end Tables

section Hub

variable {jsoncons : Jsoncons} {truncate : String → Int} {sdk : Sdk} {world : World sdk}
  {order : VisitingOrder} {inputs : AppServiceCommand → CallInputs}

/-- Over the manager both commands succeed and both answers decode. -/
theorem updateOverviewData_interface
    (agents : jsoncons.Inverts
      (agentStatusListJson (order.visit (Manager.getAgentStateAll order world))))
    (endpoints : jsoncons.Inverts
      (endpointStatusListJson (order.visit (Manager.getMavlinkEndpointStateAll order world))))
    (tables : OverviewTables) (service : AppServiceImpl) :
    CliUiController.updateOverviewData jsoncons truncate
        (AppService.interface jsoncons (Manager.interface order) inputs) tables (service, world) =
      (⟨CliUiController.overviewRows
          ((order.visit (Manager.getAgentStateAll order world)).entries.map fun entry =>
            (entry.1, agentStateToString entry.2)),
        CliUiController.overviewRows
          ((order.visit (Manager.getMavlinkEndpointStateAll order world)).entries.map fun entry =>
            (entry.1, endpointStateToString entry.2))⟩, (service, world)) := by
  have agentsDecoded := agentStatusListFromJsonString_toJsonString truncate _ agents
  have endpointsDecoded :=
    endpointStatusListFromJsonString_toJsonString truncate _ endpoints
  simp only [CliUiController.updateOverviewData, AppService.interface, AppService.executeCommand,
    Manager.interface, CliUiController.refreshRows, if_true, agentsDecoded, endpointsDecoded]

end Hub

/-- The overview shows exactly the state of the hub. A status list decodes to the entries of the
map it was made of, each state replaced by its name. After a refresh over the manager the tables
have one row for each registered agent and endpoint, with the name of its state. And a command
that fails or does not decode leaves its table as it was. -/
theorem overview_exact (jsoncons : Jsoncons) (truncate : String → Int) :
    (∀ (order : VisitingOrder) (map : StringMap AgentState),
      jsoncons.Inverts (agentStatusListJson (order.visit map)) →
      ∃ list, agentStatusListFromJsonString jsoncons truncate
          (agentStatusListToJsonString jsoncons (order.visit map)) = .ok list ∧
        ListsExactly map.lookup agentStateToString list) ∧
    (∀ (order : VisitingOrder) (map : StringMap MavlinkEndpointState),
      jsoncons.Inverts (endpointStatusListJson (order.visit map)) →
      ∃ list, endpointStatusListFromJsonString jsoncons truncate
          (endpointStatusListToJsonString jsoncons (order.visit map)) = .ok list ∧
        ListsExactly map.lookup endpointStateToString list) ∧
    (∀ (sdk : Sdk) (world : World sdk) (order : VisitingOrder)
        (inputs : AppServiceCommand → CallInputs) (tables : OverviewTables)
        (service : AppServiceImpl),
      jsoncons.Inverts (agentStatusListJson
        (order.visit (Manager.getAgentStateAll order world))) →
      jsoncons.Inverts (endpointStatusListJson
        (order.visit (Manager.getMavlinkEndpointStateAll order world))) →
      let updated := (CliUiController.updateOverviewData jsoncons truncate
        (AppService.interface jsoncons (Manager.interface order) inputs) tables
        (service, world)).1
      RowsExactly (Manager.getAgentState · world) agentStateToString updated.agentRows ∧
        RowsExactly (Manager.getMavlinkEndpointState · world) endpointStateToString
          updated.endpointRows ∧
        (∀ name, name ∈ updated.agentRows.map OverviewRow.name ↔ name ∈ world.agents) ∧
        (world.Reachable →
          ∀ name, name ∈ updated.endpointRows.map OverviewRow.name ↔ name ∈ world.endpointDb)) ∧
    ∀ (State : Type) (appService : IAppService State) (tables : OverviewTables) (state : State),
      let agentResult := appService.executeCommand ⟨.getAgentStatusAll, ""⟩ state
      let endpointResult := appService.executeCommand ⟨.getEndpointStatusAll, ""⟩ agentResult.2
      let updated :=
        (CliUiController.updateOverviewData jsoncons truncate appService tables state).1
      ((agentResult.1.success = false ∨ ∀ entries,
          agentStatusListFromJsonString jsoncons truncate agentResult.1.data ≠ .ok entries) →
        updated.agentRows = tables.agentRows) ∧
      ((endpointResult.1.success = false ∨ ∀ entries,
          endpointStatusListFromJsonString jsoncons truncate endpointResult.1.data ≠
            .ok entries) →
        updated.endpointRows = tables.endpointRows) := by
  refine ⟨fun order map inverts => ?_, fun order map inverts => ?_, ?_, ?_⟩
  · exact ⟨_, agentStatusListFromJsonString_toJsonString truncate _ inverts,
      listsExactly_visit order map agentStateToString⟩
  · exact ⟨_, endpointStatusListFromJsonString_toJsonString truncate _ inverts,
      listsExactly_visit order map endpointStateToString⟩
  · intro sdk world order inputs tables service agents endpoints updated
    have agentRows : RowsExactly (Manager.getAgentState · world) agentStateToString
        updated.agentRows := by
      have rows := (listsExactly_visit order (Manager.getAgentStateAll order world)
        agentStateToString).overviewRows
      simp only [lookup_getAgentStateAll] at rows
      simp only [updated, updateOverviewData_interface agents endpoints]
      exact rows
    have endpointRows : RowsExactly (Manager.getMavlinkEndpointState · world)
        endpointStateToString updated.endpointRows := by
      have rows := (listsExactly_visit order (Manager.getMavlinkEndpointStateAll order world)
        endpointStateToString).overviewRows
      simp only [lookup_getMavlinkEndpointStateAll] at rows
      simp only [updated, updateOverviewData_interface agents endpoints]
      exact rows
    refine ⟨agentRows, endpointRows, fun name => ?_, fun reachable name => ?_⟩
    · rw [agentRows.mem_names_iff, getAgentState_isSome_iff]
    · rw [endpointRows.mem_names_iff, getMavlinkEndpointState_isSome_iff reachable]
  · intro State appService tables state
    exact CliUiController.updateOverviewData_keeps tables state

/-- The sample with its plan executed, which leaves one endpoint and one agent. -/
def plannedWorld : World sampleSdk :=
  sampleWorld.perform (.executePlan samplePlan)

theorem plannedWorld_reachable : plannedWorld.Reachable :=
  (World.reachable_initial _ _ _).perform _

theorem eq_singleton_of_lookup {Value : Type} {map : StringMap Value} {name : String}
    {value : Value} (found : map.lookup name = some value)
    (only : ∀ other, (map.lookup other).isSome = true → other = name) :
    map = Finmap.singleton name value := by
  refine Finmap.ext_lookup fun other => ?_
  by_cases same : other = name
  · rw [same, found, Finmap.lookup_singleton_eq]
  · have absent : other ∉ Finmap.singleton (β := fun _ => Value) name value :=
      fun member => same ((Finmap.mem_singleton _ _ _).mp member)
    rw [Finmap.lookup_eq_none.mpr absent, ← Option.not_isSome_iff_eq_none]
    exact fun present => same (only other present)

theorem agentStates_plannedWorld (order : VisitingOrder) :
    Manager.getAgentStateAll order plannedWorld = Finmap.singleton "courier" .idle := by
  refine eq_singleton_of_lookup (lookup_getAgentStateAll order "courier") fun other present => ?_
  rw [lookup_getAgentStateAll, getAgentState_isSome_iff, ← Finmap.mem_keys] at present
  have keys : plannedWorld.agents.keys = {"courier"} := by decide
  exact Finset.mem_singleton.mp (keys ▸ present)

theorem endpointStates_plannedWorld (order : VisitingOrder) :
    Manager.getMavlinkEndpointStateAll order plannedWorld =
      Finmap.singleton "link" .connected := by
  refine eq_singleton_of_lookup (lookup_getMavlinkEndpointStateAll order "link")
    fun other present => ?_
  rw [lookup_getMavlinkEndpointStateAll,
    getMavlinkEndpointState_isSome_iff plannedWorld_reachable, ← Finmap.mem_keys] at present
  have keys : plannedWorld.endpointDb.keys = {"link"} := by decide
  exact Finset.mem_singleton.mp (keys ▸ present)

/-- The two documents a refresh over the sample exchanges. -/
def plannedDocuments : List Json :=
  [agentStatusListJson (AList.singleton "courier" .idle),
    endpointStatusListJson (AList.singleton "link" .connected)]

theorem overview_exact_sample :
    let updated := (CliUiController.updateOverviewData (.reading plannedDocuments) (fun _ => 0)
      (AppService.interface (.reading plannedDocuments)
        (Manager.interface (Classical.arbitrary VisitingOrder))
        fun _ => ⟨none, false, .discard, Classical.arbitrary VisitingOrder⟩) {}
      ({}, plannedWorld)).1
    "courier" ∈ updated.agentRows.map OverviewRow.name ∧
      "link" ∈ updated.endpointRows.map OverviewRow.name := by
  have agents : (Jsoncons.reading plannedDocuments).Inverts (agentStatusListJson
      ((Classical.arbitrary VisitingOrder).visit (Manager.getAgentStateAll
        (Classical.arbitrary VisitingOrder) plannedWorld))) := by
    rw [agentStates_plannedWorld, visit_singleton]
    exact Jsoncons.reading_inverts_head _ _
  have endpoints : (Jsoncons.reading plannedDocuments).Inverts (endpointStatusListJson
      ((Classical.arbitrary VisitingOrder).visit (Manager.getMavlinkEndpointStateAll
        (Classical.arbitrary VisitingOrder) plannedWorld))) := by
    rw [endpointStates_plannedWorld, visit_singleton]
    exact Jsoncons.reading_inverts_tail (by decide) (Jsoncons.reading_inverts_head _ _)
  have shown := (overview_exact (.reading plannedDocuments) fun _ => 0).2.2.1 sampleSdk plannedWorld
    (Classical.arbitrary VisitingOrder)
    (fun _ => ⟨none, false, .discard, Classical.arbitrary VisitingOrder⟩) {} {}
    agents endpoints
  refine ⟨(shown.2.2.1 "courier").mpr ?_,
    (shown.2.2.2 plannedWorld_reachable "link").mpr ?_⟩ <;> decide

end MavlinkHub
