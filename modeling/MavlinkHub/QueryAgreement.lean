/-
This file compares the three ways in which the application service answers a question
about an endpoint or an agent: the list of names, the list of all answers, and the answer
for one name. They go through different calls of the manager and different encoders, and
agree on every name but the empty one: a query by name takes an empty payload for a name
that is missing, although an entry of that name may be registered.
-/

import MavlinkHub.Overview

namespace MavlinkHub

open JsonUtils

/-! ### What the answers say -/

section Answers

variable (jsoncons : Jsoncons)

/-- A list of names contains a name. -/
def ListsName (key : String) (result : CommandResult) (name : String) : Prop :=
  result.success = true ∧ ∃ json elements, jsoncons.parse result.data = some json ∧
    json.get key = .array elements ∧ .string name ∈ elements

/-- The answer for one name gives a status. -/
def TellsStatus (key : String) (result : CommandResult) (status : String) : Prop :=
  result.success = true ∧ ∃ json, jsoncons.parse result.data = some json ∧
    json.get key = .string status

/-- A list of statuses gives a status for a name. -/
def ListsStatus (decode : String → Except ConversionFailure (List (String × String)))
    (result : CommandResult) (name status : String) : Prop :=
  result.success = true ∧ ∃ list, decode result.data = .ok list ∧ (name, status) ∈ list

/-- An object gives a report for a name. -/
def HasReport (name report : String) (json : Json) : Prop :=
  json.get "name" = .string name ∧ json.get "report" = .string report

/-- The answer for one name gives a report. -/
def TellsReport (result : CommandResult) (name report : String) : Prop :=
  result.success = true ∧ ∃ json, jsoncons.parse result.data = some json ∧
    HasReport name report (json.get "agent_report")

/-- A list of reports gives a report for a name. -/
def ListsReport (result : CommandResult) (name report : String) : Prop :=
  result.success = true ∧ ∃ json elements, jsoncons.parse result.data = some json ∧
    json.get "agent_report_list" = .array elements ∧
      ∃ element ∈ elements, HasReport name report element

end Answers

/-- A query for one name and a list of answers agree: the query succeeds exactly if the list has
an answer for the name, and then with the answer of the list. -/
structure AnswersAgree (result : CommandResult) (tells lists : String → Prop) : Prop where
  entry : result.success = true ↔ ∃ answer, lists answer
  same : result.success = true → ∀ answer, tells answer ↔ lists answer

section Documents

variable {jsoncons : Jsoncons} {order : VisitingOrder} {Value : Type}

/-- The list of names of a map contains the names of its entries. -/
theorem listsName_iff {key name : String} {map : StringMap Value} {result : CommandResult}
    (succeeds : result.success = true)
    (data : result.data = jsoncons.dump (.object [(key,
      vectorOfStringToJson (order.visit map).keys)]))
    (inverts : jsoncons.Inverts (.object [(key, vectorOfStringToJson (order.visit map).keys)])) :
    ListsName jsoncons key result name ↔ name ∈ map := by
  have parsed : jsoncons.parse result.data = some (.object [(key,
    vectorOfStringToJson (order.visit map).keys)]) := by rw [data, inverts]
  have keyed : (Json.object [(key, vectorOfStringToJson (order.visit map).keys)]).get key =
      .array ((order.visit map).keys.map .string) := by
    simp [Json.get, Json.members, vectorOfStringToJson]
  have visited : name ∈ (order.visit map).keys ↔ name ∈ map := by
    rw [← AList.mem_keys, ← Finmap.mem_toFinmap, order.visit_toFinmap]
  rw [← visited, ListsName, and_iff_right succeeds]
  constructor
  · rintro ⟨json, elements, parsedAs, list, member⟩
    obtain rfl := Option.some.inj (parsed.symm.trans parsedAs)
    obtain rfl := Json.array.inj (keyed.symm.trans list)
    obtain ⟨other, present, same⟩ := List.mem_map.mp member
    obtain rfl := Json.string.inj same
    exact present
  · intro present
    exact ⟨_, _, parsed, keyed, List.mem_map_of_mem present⟩

/-- A query by name succeeds exactly if the name is not empty and has an answer. -/
theorem queryByName_success {Answer State : Type} {kind named payload : String}
    {encode : Answer → String} {query : String → State → Option Answer × State} {state : State} :
    (AppService.queryByName kind named encode query payload state).1.success = true ↔
      payload ≠ "" ∧ (query payload state).1.isSome = true := by
  rw [AppService.queryByName]
  by_cases missing : payload = ""
  · rw [if_pos missing]
    exact iff_of_false Bool.false_ne_true fun given => given.1 missing
  · rw [if_neg missing, and_iff_right missing]
    cases answered : (query payload state).1 with
    | none =>
      simp only [answered]
      exact Iff.rfl
    | some answer =>
      simp only [answered]
      exact iff_of_true trivial rfl

/-- Its data is the encoded answer. -/
theorem queryByName_data {Answer State : Type} {kind named payload : String}
    {encode : Answer → String} {query : String → State → Option Answer × State} {state : State}
    {answer : Answer} (given : payload ≠ "") (answered : (query payload state).1 = some answer) :
    (AppService.queryByName kind named encode query payload state).1.data = encode answer := by
  rw [AppService.queryByName, if_neg given]
  simp only [answered]

/-- A query by name and a list agree if both say what the entry of the name says. -/
theorem answersAgree_of_lookup {result : CommandResult} {tells lists : String → Prop}
    {answered : Option Value} {nameOf : Value → String}
    (succeeds : result.success = true ↔ answered.isSome = true)
    (told : ∀ value, answered = some value → ∀ answer, tells answer ↔ answer = nameOf value)
    (listed : ∀ answer, lists answer ↔ ∃ value, answered = some value ∧ answer = nameOf value) :
    AnswersAgree result tells lists := by
  constructor
  · rw [succeeds, Option.isSome_iff_exists]
    constructor
    · rintro ⟨value, found⟩
      exact ⟨nameOf value, (listed _).mpr ⟨value, found, rfl⟩⟩
    · rintro ⟨answer, list⟩
      obtain ⟨value, found, _⟩ := (listed answer).mp list
      exact ⟨value, found⟩
  · intro success answer
    obtain ⟨value, found⟩ := Option.isSome_iff_exists.mp (succeeds.mp success)
    rw [told value found, listed, found]
    simp only [Option.some.injEq, exists_eq_left']

/-- The answer for one name gives the status it was encoded from. -/
theorem tellsStatus_iff {key status : String} {result : CommandResult} (other : String)
    (succeeds : result.success = true)
    (data : result.data = jsoncons.dump (.object [(key, .string status)]))
    (inverts : jsoncons.Inverts (.object [(key, .string status)])) :
    TellsStatus jsoncons key result other ↔ other = status := by
  have parsed : jsoncons.parse result.data = some (.object [(key, .string status)]) := by
    rw [data, inverts]
  have keyed : (Json.object [(key, .string status)]).get key = .string status := by
    simp [Json.get, Json.members]
  rw [TellsStatus, and_iff_right succeeds]
  constructor
  · rintro ⟨json, parsedAs, told⟩
    obtain rfl := Option.some.inj (parsed.symm.trans parsedAs)
    exact (Json.string.inj (keyed.symm.trans told)).symm
  · rintro rfl
    exact ⟨_, parsed, keyed⟩

/-- A decoded list gives the statuses of its entries. -/
theorem listsStatus_iff {decode : String → Except ConversionFailure (List (String × String))}
    {result : CommandResult} {list : List (String × String)} (succeeds : result.success = true)
    (decoded : decode result.data = .ok list) (name status : String) :
    ListsStatus decode result name status ↔ (name, status) ∈ list := by
  rw [ListsStatus, and_iff_right succeeds]
  constructor
  · rintro ⟨other, decodedAs, member⟩
    obtain rfl := Except.ok.inj (decoded.symm.trans decodedAs)
    exact member
  · intro member
    exact ⟨list, decoded, member⟩

/-- The document of `agentReportToJsonString`. -/
def agentReportJson (name report : String) : Json :=
  .object [("agent_report", .object [("name", .string name), ("report", .string report)])]

/-- The document of `agentReportListToJsonString`. -/
def agentReportListJson (list : Traversal String) : Json :=
  .object [("agent_report_list", entriesToJson (fun name report =>
    .object [("name", .string name), ("report", .string report)]) list)]

theorem hasReport_object (name report otherName otherReport : String) :
    HasReport name report (.object [("name", .string otherName), ("report", .string otherReport)]) ↔
      name = otherName ∧ report = otherReport := by
  have names : (Json.object [("name", .string otherName), ("report", .string otherReport)]).get
    "name" = .string otherName := rfl
  have reports : (Json.object [("name", .string otherName), ("report", .string otherReport)]).get
    "report" = .string otherReport := rfl
  rw [HasReport, names, reports, Json.string.injEq, Json.string.injEq]
  exact and_congr eq_comm eq_comm

/-- The answer for one name gives the report it was encoded from. -/
theorem tellsReport_iff {result : CommandResult} {name report : String} (other : String)
    (succeeds : result.success = true)
    (data : result.data = jsoncons.dump (agentReportJson name report))
    (inverts : jsoncons.Inverts (agentReportJson name report)) :
    TellsReport jsoncons result name other ↔ other = report := by
  have parsed : jsoncons.parse result.data = some (agentReportJson name report) := by
    rw [data, inverts]
  have keyed : (agentReportJson name report).get "agent_report" =
    .object [("name", .string name), ("report", .string report)] := rfl
  have told := hasReport_object name other name report
  rw [TellsReport, and_iff_right succeeds]
  constructor
  · rintro ⟨json, parsedAs, has⟩
    obtain rfl := Option.some.inj (parsed.symm.trans parsedAs)
    rw [keyed] at has
    exact (told.mp has).2
  · rintro rfl
    exact ⟨_, parsed, told.mpr ⟨rfl, rfl⟩⟩

/-- A list of reports gives the reports of the entries of its map. -/
theorem listsReport_iff {result : CommandResult} {map : StringMap String} (name report : String)
    (succeeds : result.success = true)
    (data : result.data = jsoncons.dump (agentReportListJson (order.visit map)))
    (inverts : jsoncons.Inverts (agentReportListJson (order.visit map))) :
    ListsReport jsoncons result name report ↔ map.lookup name = some report := by
  have parsed : jsoncons.parse result.data = some (agentReportListJson (order.visit map)) := by
    rw [data, inverts]
  have keyed : (agentReportListJson (order.visit map)).get "agent_report_list" =
    .array ((order.visit map).entries.map fun entry =>
      .object [("name", .string entry.1), ("report", .string entry.2)]) := rfl
  rw [ListsReport, and_iff_right succeeds, ← lookup_visit order map]
  constructor
  · rintro ⟨json, elements, parsedAs, list, element, member, has⟩
    obtain rfl := Option.some.inj (parsed.symm.trans parsedAs)
    obtain rfl := Json.array.inj (keyed.symm.trans list)
    obtain ⟨entry, present, rfl⟩ := List.mem_map.mp member
    obtain ⟨rfl, rfl⟩ := (hasReport_object _ _ _ _).mp has
    exact AList.mem_lookup_iff.mpr present
  · intro found
    refine ⟨_, _, parsed, keyed, _, List.mem_map_of_mem (AList.mem_lookup_iff.mp found), ?_⟩
    exact (hasReport_object _ _ _ _).mpr ⟨rfl, rfl⟩

end Documents

/-! ### The queries over the manager -/

section Hub

variable {sdk : Sdk} (jsoncons : Jsoncons) (truncate : String → Int) (order : VisitingOrder)
  (inputs : AppServiceCommand → CallInputs) (service : AppServiceImpl) (world : World sdk)

/-- What the application service answers to a command over the manager. -/
def hubAnswer (cmdType : AppServiceCommandType) (payload : String) : CommandResult :=
  ((AppService.interface jsoncons (Manager.interface order) inputs).executeCommand
    ⟨cmdType, payload⟩ (service, world)).1

/-- jsoncons reads the documents of the queries about a name back. -/
structure QueriesInvert (name : String) : Prop where
  endpointList : jsoncons.Inverts
    (.object [("endpoint_list", vectorOfStringToJson (order.visit world.endpointDb).keys)])
  endpointStatus : ∀ state, Manager.getMavlinkEndpointState name world = some state →
    jsoncons.Inverts (.object [("endpoint_status", .string (endpointStateToString state))])
  endpointStatusAll : jsoncons.Inverts
    (endpointStatusListJson (order.visit (Manager.getMavlinkEndpointStateAll order world)))
  agentList : jsoncons.Inverts
    (.object [("agent_list", vectorOfStringToJson (order.visit world.agents).keys)])
  agentStatus : ∀ state, Manager.getAgentState name world = some state →
    jsoncons.Inverts (.object [("agent_status", .string (agentStateToString state))])
  agentStatusAll : jsoncons.Inverts
    (agentStatusListJson (order.visit (Manager.getAgentStateAll order world)))
  agentReport : ∀ report, Manager.getAgentReport name world = some report →
    jsoncons.Inverts (agentReportJson name report)
  agentReportAll : jsoncons.Inverts
    (agentReportListJson (order.visit (Manager.getAgentReportAll order world)))

/-- The queries about a name agree: those for the name, the lists of names, and the lists of all
answers. -/
structure QueriesAgree (name : String) : Prop where
  endpointList :
    (hubAnswer jsoncons order inputs service world .getEndpointStatus name).success = true ↔
      ListsName jsoncons "endpoint_list"
        (hubAnswer jsoncons order inputs service world .getEndpointList "") name
  endpointStatus :
    AnswersAgree (hubAnswer jsoncons order inputs service world .getEndpointStatus name)
      (TellsStatus jsoncons "endpoint_status"
        (hubAnswer jsoncons order inputs service world .getEndpointStatus name))
      (ListsStatus (endpointStatusListFromJsonString jsoncons truncate)
        (hubAnswer jsoncons order inputs service world .getEndpointStatusAll "") name)
  agentList :
    (hubAnswer jsoncons order inputs service world .getAgentStatus name).success = true ↔
      ListsName jsoncons "agent_list"
        (hubAnswer jsoncons order inputs service world .getAgentList "") name
  agentStatus :
    AnswersAgree (hubAnswer jsoncons order inputs service world .getAgentStatus name)
      (TellsStatus jsoncons "agent_status"
        (hubAnswer jsoncons order inputs service world .getAgentStatus name))
      (ListsStatus (agentStatusListFromJsonString jsoncons truncate)
        (hubAnswer jsoncons order inputs service world .getAgentStatusAll "") name)
  agentReport :
    AnswersAgree (hubAnswer jsoncons order inputs service world .getAgentReport name)
      (TellsReport jsoncons
        (hubAnswer jsoncons order inputs service world .getAgentReport name) name)
      (ListsReport jsoncons
        (hubAnswer jsoncons order inputs service world .getAgentReportAll "") name)

variable {jsoncons truncate order inputs service world} {name : String}

theorem lookup_getAgentReportAll (name : String) :
    (Manager.getAgentReportAll order world).lookup name = Manager.getAgentReport name world := by
  rw [Manager.getAgentReportAll, lookup_queryAll, Manager.getAgentReport]
  cases world.agents.lookup name <;> rfl

theorem endpointStatus_success :
    (hubAnswer jsoncons order inputs service world .getEndpointStatus name).success = true ↔
      name ≠ "" ∧ (Manager.getMavlinkEndpointState name world).isSome = true :=
  queryByName_success

theorem agentStatus_success :
    (hubAnswer jsoncons order inputs service world .getAgentStatus name).success = true ↔
      name ≠ "" ∧ (Manager.getAgentState name world).isSome = true :=
  queryByName_success

theorem agentReport_success :
    (hubAnswer jsoncons order inputs service world .getAgentReport name).success = true ↔
      name ≠ "" ∧ (Manager.getAgentReport name world).isSome = true :=
  queryByName_success

/-- Both answers about the status of an endpoint are read from its state. -/
theorem endpointStatus_agree (inverts : QueriesInvert jsoncons order world name)
    (given : name ≠ "") :
    AnswersAgree (hubAnswer jsoncons order inputs service world .getEndpointStatus name)
      (TellsStatus jsoncons "endpoint_status"
        (hubAnswer jsoncons order inputs service world .getEndpointStatus name))
      (ListsStatus (endpointStatusListFromJsonString jsoncons truncate)
        (hubAnswer jsoncons order inputs service world .getEndpointStatusAll "") name) := by
  have succeeds :
      (hubAnswer jsoncons order inputs service world .getEndpointStatus name).success = true ↔
        (Manager.getMavlinkEndpointState name world).isSome = true :=
    endpointStatus_success.trans (and_iff_right given)
  have told : ∀ state, Manager.getMavlinkEndpointState name world = some state → ∀ status,
      TellsStatus jsoncons "endpoint_status"
        (hubAnswer jsoncons order inputs service world .getEndpointStatus name) status ↔
          status = endpointStateToString state := by
    intro state found status
    exact tellsStatus_iff status (succeeds.mpr (Option.isSome_iff_exists.mpr ⟨state, found⟩))
      (queryByName_data given found) (inverts.endpointStatus state found)
  refine answersAgree_of_lookup succeeds told fun status => ?_
  have decoded := endpointStatusListFromJsonString_toJsonString truncate _
    inverts.endpointStatusAll
  rw [listsStatus_iff rfl decoded, (listsExactly_visit order _ endpointStateToString).entry,
    lookup_getMavlinkEndpointStateAll]

theorem agentStatus_agree (inverts : QueriesInvert jsoncons order world name)
    (given : name ≠ "") :
    AnswersAgree (hubAnswer jsoncons order inputs service world .getAgentStatus name)
      (TellsStatus jsoncons "agent_status"
        (hubAnswer jsoncons order inputs service world .getAgentStatus name))
      (ListsStatus (agentStatusListFromJsonString jsoncons truncate)
        (hubAnswer jsoncons order inputs service world .getAgentStatusAll "") name) := by
  have succeeds :
      (hubAnswer jsoncons order inputs service world .getAgentStatus name).success = true ↔
        (Manager.getAgentState name world).isSome = true :=
    agentStatus_success.trans (and_iff_right given)
  have told : ∀ state, Manager.getAgentState name world = some state → ∀ status,
      TellsStatus jsoncons "agent_status"
        (hubAnswer jsoncons order inputs service world .getAgentStatus name) status ↔
          status = agentStateToString state := by
    intro state found status
    exact tellsStatus_iff status (succeeds.mpr (Option.isSome_iff_exists.mpr ⟨state, found⟩))
      (queryByName_data given found) (inverts.agentStatus state found)
  refine answersAgree_of_lookup succeeds told fun status => ?_
  have decoded := agentStatusListFromJsonString_toJsonString truncate _ inverts.agentStatusAll
  rw [listsStatus_iff rfl decoded, (listsExactly_visit order _ agentStateToString).entry,
    lookup_getAgentStateAll]

theorem agentReport_agree (inverts : QueriesInvert jsoncons order world name)
    (given : name ≠ "") :
    AnswersAgree (hubAnswer jsoncons order inputs service world .getAgentReport name)
      (TellsReport jsoncons
        (hubAnswer jsoncons order inputs service world .getAgentReport name) name)
      (ListsReport jsoncons
        (hubAnswer jsoncons order inputs service world .getAgentReportAll "") name) := by
  have succeeds :
      (hubAnswer jsoncons order inputs service world .getAgentReport name).success = true ↔
        (Manager.getAgentReport name world).isSome = true :=
    agentReport_success.trans (and_iff_right given)
  have told : ∀ report, Manager.getAgentReport name world = some report → ∀ other,
      TellsReport jsoncons (hubAnswer jsoncons order inputs service world .getAgentReport name)
        name other ↔ other = id report := by
    intro report found other
    exact tellsReport_iff other (succeeds.mpr (Option.isSome_iff_exists.mpr ⟨report, found⟩))
      (queryByName_data given found) (inverts.agentReport report found)
  refine answersAgree_of_lookup succeeds told fun report => ?_
  rw [listsReport_iff name report rfl rfl inverts.agentReportAll, lookup_getAgentReportAll]
  simp

/-- The queries agree on every name that is not empty. -/
theorem queriesAgree_of_ne (reachable : world.Reachable)
    (inverts : QueriesInvert jsoncons order world name) (given : name ≠ "") :
    QueriesAgree jsoncons truncate order inputs service world name where
  endpointList := by
    rw [endpointStatus_success, and_iff_right given,
      getMavlinkEndpointState_isSome_iff reachable, listsName_iff rfl rfl inverts.endpointList]
  endpointStatus := endpointStatus_agree inverts given
  agentList := by
    rw [agentStatus_success, and_iff_right given, getAgentState_isSome_iff,
      listsName_iff rfl rfl inverts.agentList]
  agentStatus := agentStatus_agree inverts given
  agentReport := agentReport_agree inverts given

/-- A query for the empty name fails. -/
theorem emptyName_fails :
    (hubAnswer jsoncons order inputs service world .getEndpointStatus "").success = false ∧
      (hubAnswer jsoncons order inputs service world .getAgentStatus "").success = false ∧
      (hubAnswer jsoncons order inputs service world .getAgentReport "").success = false := by
  simp only [Bool.eq_false_iff, ne_eq, endpointStatus_success, agentStatus_success,
    agentReport_success, not_true_eq_false, false_and, not_false_eq_true, and_self]

end Hub

/-- In a reachable world the queries for a name agree with the lists, for every name but the
empty one. The queries for that name fail, whatever is registered. -/
theorem queries_agree (jsoncons : Jsoncons) (truncate : String → Int) (order : VisitingOrder)
    (inputs : AppServiceCommand → CallInputs) (service : AppServiceImpl) {sdk : Sdk}
    {world : World sdk} (reachable : world.Reachable) :
    (∀ name, name ≠ "" → QueriesInvert jsoncons order world name →
      QueriesAgree jsoncons truncate order inputs service world name) ∧
    (hubAnswer jsoncons order inputs service world .getEndpointStatus "").success = false ∧
    (hubAnswer jsoncons order inputs service world .getAgentStatus "").success = false ∧
    (hubAnswer jsoncons order inputs service world .getAgentReport "").success = false :=
  ⟨fun _ given inverts => queriesAgree_of_ne reachable inverts given, emptyName_fails⟩

/-! ### Worlds with one endpoint and one agent -/

/-- The documents of the queries in a world with one connected endpoint and one idle agent. -/
def queryDocuments (endpoint agent : String) : List Json :=
  [.object [("endpoint_list", vectorOfStringToJson [endpoint])],
    .object [("endpoint_status", .string (endpointStateToString .connected))],
    endpointStatusListJson (AList.singleton endpoint .connected),
    .object [("agent_list", vectorOfStringToJson [agent])],
    .object [("agent_status", .string (agentStateToString .idle))],
    agentStatusListJson (AList.singleton agent .idle),
    agentReportJson agent "",
    agentReportListJson (AList.singleton agent "")]

/-- Documents whose texts differ are read back. -/
theorem Jsoncons.reading_inverts_of_mem {documents : List Json} {json : Json}
    (distinct : (documents.map Json.compact).Nodup) (member : json ∈ documents) :
    (Jsoncons.reading documents).Inverts json := by
  induction documents with
  | nil => cases member
  | cons first rest inductionHypothesis =>
    rw [List.map_cons, List.nodup_cons] at distinct
    obtain rfl | later := List.mem_cons.mp member
    · exact Jsoncons.reading_inverts_head _ _
    · refine Jsoncons.reading_inverts_tail (fun same => distinct.1 ?_)
        (inductionHypothesis distinct.2 later)
      rw [same]
      exact List.mem_map_of_mem later

/-- The one key of a map is visited. -/
theorem keys_visit_of_keys {Value : Type} (order : VisitingOrder) {map : StringMap Value}
    {name : String} (only : map.keys = {name}) : (order.visit map).keys = [name] := by
  have present : (map.lookup name).isSome = true := by
    rw [Finmap.lookup_isSome, ← Finmap.mem_keys, only, Finset.mem_singleton]
  obtain ⟨value, found⟩ := Option.isSome_iff_exists.mp present
  have single : map = Finmap.singleton name value := by
    refine eq_singleton_of_lookup found fun other stored => ?_
    rw [Finmap.lookup_isSome, ← Finmap.mem_keys, only, Finset.mem_singleton] at stored
    exact stored
  rw [single, visit_singleton]
  rfl

/-- A query has an answer for one name and for no other. -/
structure AnswersOnlyFor {Value : Type} (query : String → Option Value) (name : String)
    (value : Value) : Prop where
  answer : query name = some value
  only : ∀ other, (query other).isSome = true → other = name

section AnswersOnly

variable {Value : Type} {query : String → Option Value} {key : String} {value : Value}

theorem AnswersOnlyFor.eq (single : AnswersOnlyFor query key value) {name : String}
    {answer : Value} (found : query name = some answer) : name = key ∧ answer = value := by
  obtain rfl := single.only name (Option.isSome_iff_exists.mpr ⟨answer, found⟩)
  exact ⟨rfl, Option.some.inj (found.symm.trans single.answer)⟩

/-- The list of all answers has that one. -/
theorem AnswersOnlyFor.visit_all (single : AnswersOnlyFor query key value)
    {all : StringMap Value} (looked : ∀ name, all.lookup name = query name)
    (order : VisitingOrder) : order.visit all = AList.singleton key value := by
  have entry : all = Finmap.singleton key value := by
    refine eq_singleton_of_lookup ((looked key).trans single.answer) fun other present => ?_
    rw [looked] at present
    exact single.only other present
  rw [entry, visit_singleton]

end AnswersOnly

section SingleWorld

variable {world : World sampleSdk} {endpoint agent : String}

theorem answersOnly_endpointState (reachable : world.Reachable)
    (endpoints : world.endpointDb.keys = {endpoint})
    (connected : Manager.getMavlinkEndpointState endpoint world = some .connected) :
    AnswersOnlyFor (Manager.getMavlinkEndpointState · world) endpoint .connected := by
  refine ⟨connected, fun other present => ?_⟩
  rw [getMavlinkEndpointState_isSome_iff reachable, ← Finmap.mem_keys, endpoints] at present
  exact Finset.mem_singleton.mp present

/-- An agent of the sample is idle, and its report is empty. -/
theorem answersOnly_agent (agents : world.agents.keys = {agent}) :
    AnswersOnlyFor (Manager.getAgentState · world) agent .idle ∧
      AnswersOnlyFor (Manager.getAgentReport · world) agent "" := by
  have registered : agent ∈ world.agents := by
    rw [← Finmap.mem_keys, agents, Finset.mem_singleton]
  obtain ⟨entry, stored⟩ := Finmap.mem_iff.mp registered
  have only : ∀ other, (Manager.getAgentState other world).isSome = true → other = agent := by
    intro other present
    rw [getAgentState_isSome_iff, ← Finmap.mem_keys, agents] at present
    exact Finset.mem_singleton.mp present
  refine ⟨⟨?_, only⟩, ?_, fun other present => only other ?_⟩
  · rw [Manager.getAgentState, stored]
    rfl
  · rw [Manager.getAgentReport, stored]
    rfl
  · rwa [Manager.getAgentReport, Option.isSome_map, ← Option.isSome_map,
      ← Manager.getAgentState] at present

/-- In a world with one connected endpoint and one idle agent the documents of all queries are
read back. -/
theorem queriesInvert_of_single (endpoint agent : String) (reachable : world.Reachable)
    (order : VisitingOrder)
    (distinct : ((queryDocuments endpoint agent).map Json.compact).Nodup)
    (endpoints : world.endpointDb.keys = {endpoint}) (agents : world.agents.keys = {agent})
    (connected : Manager.getMavlinkEndpointState endpoint world = some .connected) (name : String) :
    QueriesInvert (.reading (queryDocuments endpoint agent)) order world name := by
  have inverts : ∀ json ∈ queryDocuments endpoint agent,
      (Jsoncons.reading (queryDocuments endpoint agent)).Inverts json :=
    fun json member => Jsoncons.reading_inverts_of_mem distinct member
  have endpointState := answersOnly_endpointState reachable endpoints connected
  obtain ⟨agentState, agentReport⟩ := answersOnly_agent agents
  constructor
  · rw [keys_visit_of_keys order endpoints]
    exact inverts _ (by simp [queryDocuments])
  · intro state found
    obtain ⟨rfl, rfl⟩ := endpointState.eq found
    exact inverts _ (by simp [queryDocuments])
  · rw [endpointState.visit_all (lookup_getMavlinkEndpointStateAll order)]
    exact inverts _ (by simp [queryDocuments])
  · rw [keys_visit_of_keys order agents]
    exact inverts _ (by simp [queryDocuments])
  · intro state found
    obtain ⟨rfl, rfl⟩ := agentState.eq found
    exact inverts _ (by simp [queryDocuments])
  · rw [agentState.visit_all (lookup_getAgentStateAll order)]
    exact inverts _ (by simp [queryDocuments])
  · intro text found
    obtain ⟨rfl, rfl⟩ := agentReport.eq found
    exact inverts _ (by simp [queryDocuments])
  · rw [agentReport.visit_all lookup_getAgentReportAll]
    exact inverts _ (by simp [queryDocuments])

end SingleWorld

/-- Inputs of the commands that no query reads. -/
noncomputable def plainInputs : AppServiceCommand → CallInputs :=
  fun _ => ⟨none, false, .discard, Classical.arbitrary VisitingOrder⟩

/-- After the sample plan the queries for its agent and its endpoint agree. -/
theorem queries_agree_sample :
    QueriesAgree (.reading (queryDocuments "link" "courier")) (fun _ => 0)
        (Classical.arbitrary VisitingOrder) plainInputs {} plannedWorld "courier" ∧
      QueriesAgree (.reading (queryDocuments "link" "courier")) (fun _ => 0)
        (Classical.arbitrary VisitingOrder) plainInputs {} plannedWorld "link" := by
  have inverts := queriesInvert_of_single "link" "courier" plannedWorld_reachable
    (Classical.arbitrary VisitingOrder) (by decide) (by decide) (by decide) (by decide)
  have agree := (queries_agree (.reading (queryDocuments "link" "courier")) (fun _ => 0)
    (Classical.arbitrary VisitingOrder) plainInputs {} plannedWorld_reachable).1
  exact ⟨agree "courier" (by decide) (inverts _), agree "link" (by decide) (inverts _)⟩

/-- The sample plan, with its endpoint and its agent named by the empty string. -/
def namelessPlan : UserPlan where
  endpointList := AList.insert "" ⟨"udp", ∅, true⟩ ∅
  agentList := AList.insert "" ⟨"courier", ∅, true⟩ ∅
  policy := .discard

/-- The sample with that plan executed. -/
def namelessWorld : World sampleSdk :=
  sampleWorld.perform (.executePlan namelessPlan)

/-- After that plan the lists have the empty name, and the queries for it fail. -/
theorem queries_disagree_on_empty :
    namelessWorld.Reachable ∧
      QueriesInvert (.reading (queryDocuments "" "")) (Classical.arbitrary VisitingOrder)
        namelessWorld "" ∧
      ¬ QueriesAgree (.reading (queryDocuments "" "")) (fun _ => 0)
        (Classical.arbitrary VisitingOrder) plainInputs {} namelessWorld "" := by
  have reachable : namelessWorld.Reachable := (World.reachable_initial _ _ _).perform _
  have inverts := queriesInvert_of_single "" "" reachable (Classical.arbitrary VisitingOrder)
    (by decide) (by decide) (by decide) (by decide) ""
  refine ⟨reachable, inverts, fun agree => ?_⟩
  have registered : "" ∈ namelessWorld.endpointDb := by decide
  have listed : ListsName (.reading (queryDocuments "" "")) "endpoint_list"
      (hubAnswer (.reading (queryDocuments "" "")) (Classical.arbitrary VisitingOrder) plainInputs
        {} namelessWorld .getEndpointList "") "" :=
    (listsName_iff rfl rfl inverts.endpointList).mpr registered
  exact (endpointStatus_success.mp (agree.endpointList.mpr listed)).1 rfl

end MavlinkHub
