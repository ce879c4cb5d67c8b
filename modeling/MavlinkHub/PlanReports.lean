/-
This file proves that a plan report says everything about the results it is made from. The
encoder builds it in two nested loops, which push onto an array inside of the object that they
fill. The loops are transcribed here and shown to write the document that the encoder of the
model writes.

A report lists the entries of a map in the order in which the map is visited, so only its
content up to that order is determined. The content is the multiset of the elements of an
array, and an element determines its entry.
-/

import MavlinkHub.Overview

namespace MavlinkHub

namespace JsonUtils

/-! ### The loops of the encoder -/

/-- `json[key].push_back(element)`. -/
def pushTo (key : String) (json element : Json) : Json :=
  json.set key ((json.get key).pushBack element)

/-- `entry_result`, after the loop over the messages of a result. -/
def entryResult (name : String) (result : OperationResult) : Json :=
  let entryResult := Json.object []
  let entryResult := entryResult.set "name" (.string name)
  let entryResult := entryResult.set "success" (.bool result.success)
  let entryResult := entryResult.set "messages" (.array [])
  result.messages.foldl (fun entryResult msg => pushTo "messages" entryResult (.string msg))
    entryResult

/-- The loop over one of the two maps. -/
def pushResults (key : String) (results : Traversal OperationResult) (executionResult : Json) :
    Json :=
  results.entries.foldl
    (fun executionResult entry => pushTo key executionResult (entryResult entry.1 entry.2))
    (executionResult.set key (.array []))

/-- `execution_result`, where the two maps are visited in orders of their own. -/
def executionResult (endpoints agents : VisitingOrder) (list : ExecutionResultList) : Json :=
  pushResults "agent_plan_result" (agents.visit list.agentPlanResult)
    (pushResults "endpoint_plan_result" (endpoints.visit list.endpointPlanResult) (.object []))

/-- `executionResultListToJsonString`, loop by loop. -/
def executionResultListToJsonStringInOrders (jsoncons : Jsoncons)
    (endpoints agents : VisitingOrder) (list : ExecutionResultList) : String :=
  jsoncons.asString (executionResult endpoints agents list)

section Members

variable {key other : String} {value old : Json} {rest : List (String × Json)}

theorem setMember_of_before (different : other ≠ key)
    (before : Json.keyBefore key.toList other.toList = true) :
    Json.setMember key value ((other, old) :: rest) = (key, value) :: (other, old) :: rest := by
  rw [Json.setMember, if_neg different, if_pos before]

theorem setMember_of_after (different : other ≠ key)
    (after : Json.keyBefore key.toList other.toList = false) :
    Json.setMember key value ((other, old) :: rest) =
      (other, old) :: Json.setMember key value rest := by
  rw [Json.setMember, if_neg different, if_neg (Bool.eq_false_iff.mp after)]

end Members

/-- Pushing onto the array of the first member. -/
theorem pushTo_head (key : String) (elements : List Json) (element : Json)
    (rest : List (String × Json)) :
    pushTo key (.object ((key, .array elements) :: rest)) element =
      .object ((key, .array (elements ++ [element])) :: rest) := by
  simp [pushTo, Json.set, Json.setMember, Json.get, Json.members, Json.pushBack]

/-- A loop that pushes what it makes of its items onto the array of the first member. -/
theorem foldl_pushTo {Item : Type} (key : String) (write : Item → Json) (items : List Item)
    (elements : List Json) (rest : List (String × Json)) :
    items.foldl (fun json item => pushTo key json (write item))
        (.object ((key, .array elements) :: rest)) =
      .object ((key, .array (elements ++ items.map write)) :: rest) := by
  induction items generalizing elements with
  | nil => rw [List.foldl_nil, List.map_nil, List.append_nil]
  | cons item later inductionHypothesis =>
    rw [List.foldl_cons, pushTo_head, inductionHypothesis, List.map_cons, List.append_assoc,
      List.singleton_append]

theorem entryResult_eq (name : String) (result : OperationResult) :
    entryResult name result = resultToJson name result := by
  have begun : (((Json.object []).set "name" (.string name)).set "success"
      (.bool result.success)).set "messages" (.array []) =
        .object (("messages", .array []) :: [("name", .string name),
          ("success", .bool result.success)]) := by
    have named : Json.setMember "success" (.bool result.success) [("name", .string name)] =
        [("name", .string name), ("success", .bool result.success)] :=
      setMember_of_after (by decide) (by decide)
    show Json.object (Json.setMember "messages" (.array [])
      (Json.setMember "success" (.bool result.success) [("name", .string name)])) = _
    rw [named]
    exact congrArg Json.object (setMember_of_before (by decide) (by decide))
  rw [entryResult, begun, foldl_pushTo, List.nil_append, resultToJson]

/-- Where the key comes first, the loop over a map leaves the array of its entries there. -/
theorem pushResults_eq {key : String} {executionResult : Json} {rest : List (String × Json)}
    (begun : executionResult.set key (.array []) = .object ((key, .array []) :: rest))
    (results : Traversal OperationResult) :
    pushResults key results executionResult =
      .object ((key, entriesToJson resultToJson results) :: rest) := by
  rw [pushResults, begun, foldl_pushTo, List.nil_append, entriesToJson]
  simp only [entryResult_eq]

theorem executionResult_eq (endpoints agents : VisitingOrder) (list : ExecutionResultList) :
    executionResult endpoints agents list =
      .object
        [("agent_plan_result", entriesToJson resultToJson (agents.visit list.agentPlanResult)),
          ("endpoint_plan_result",
            entriesToJson resultToJson (endpoints.visit list.endpointPlanResult))] := by
  have first : (Json.object []).set "endpoint_plan_result" (.array []) =
      .object [("endpoint_plan_result", .array [])] := rfl
  have second (value : Json) :
      (Json.object [("endpoint_plan_result", value)]).set "agent_plan_result" (.array []) =
        .object [("agent_plan_result", .array []), ("endpoint_plan_result", value)] :=
    congrArg Json.object (setMember_of_before (by decide) (by decide))
  rw [executionResult, pushResults_eq first, pushResults_eq (second _)]

/-- The encoder of the model writes what the loops write, where both maps are visited in its
order. -/
theorem executionResultListToJsonString_eq (jsoncons : Jsoncons) (order : VisitingOrder)
    (list : ExecutionResultList) :
    executionResultListToJsonString jsoncons order list =
      executionResultListToJsonStringInOrders jsoncons order order list := by
  rw [executionResultListToJsonStringInOrders, executionResult_eq, executionResultListToJsonString]

/-! ### What a report says -/

/-- The value is an array with exactly one element for each entry of a map. -/
def HoldsResults (json : Json) (results : StringMap OperationResult) : Prop :=
  json.isArray = true ∧
    (json.elements : Multiset Json) = results.entries.map fun entry => resultToJson entry.1 entry.2

/-- The document is a report of the results. -/
structure IsReportOf (report : Json) (list : ExecutionResultList) : Prop where
  isObject : report.isObject = true
  endpoints : HoldsResults (report.get "endpoint_plan_result") list.endpointPlanResult
  agents : HoldsResults (report.get "agent_plan_result") list.agentPlanResult

/-- The documents have the same two arrays, up to the order of their elements. -/
def AgreeUpToOrder (report other : Json) : Prop :=
  (report.get "endpoint_plan_result").elements.Perm
      (other.get "endpoint_plan_result").elements ∧
    (report.get "agent_plan_result").elements.Perm (other.get "agent_plan_result").elements

theorem holdsResults_visit (order : VisitingOrder) (results : StringMap OperationResult) :
    HoldsResults (entriesToJson resultToJson (order.visit results)) results := by
  have visited : ((order.visit results).entries : Multiset (Σ _ : String, OperationResult)) =
      results.entries := congrArg Finmap.entries (order.visit_toFinmap results)
  refine ⟨rfl, ?_⟩
  rw [← visited, Multiset.map_coe]
  rfl

theorem isReportOf_executionResult (endpoints agents : VisitingOrder)
    (list : ExecutionResultList) : IsReportOf (executionResult endpoints agents list) list := by
  rw [executionResult_eq]
  exact ⟨rfl, holdsResults_visit endpoints _, holdsResults_visit agents _⟩

/-- An element has the name, the flag and the messages of its entry, and the messages in order. -/
theorem resultToJson_injective :
    Function.Injective fun entry : Σ _ : String, OperationResult =>
      resultToJson entry.1 entry.2 := by
  rintro ⟨name, success, messages⟩ ⟨other, otherSuccess, otherMessages⟩ same
  simp only [resultToJson, Json.object.injEq, List.cons.injEq, Prod.mk.injEq, Json.array.injEq,
    Json.string.injEq, Json.bool.injEq, true_and, and_true] at same
  obtain ⟨sameMessages, rfl, rfl⟩ := same
  have text : Function.Injective Json.string := fun _ _ => Json.string.inj
  rw [List.map_injective_iff.mpr text sameMessages]

/-- The elements of the array determine the map. -/
theorem HoldsResults.eq_iff {json other : Json} {results others : StringMap OperationResult}
    (holds : HoldsResults json results) (otherHolds : HoldsResults other others) :
    json.elements.Perm other.elements ↔ results = others := by
  rw [← Multiset.coe_eq_coe, holds.2, otherHolds.2,
    (Multiset.map_injective resultToJson_injective).eq_iff, Finmap.ext_iff]

theorem IsReportOf.agree_iff {report other : Json} {list others : ExecutionResultList}
    (reports : IsReportOf report list) (otherReports : IsReportOf other others) :
    AgreeUpToOrder report other ↔ list = others := by
  rw [AgreeUpToOrder, reports.endpoints.eq_iff otherReports.endpoints,
    reports.agents.eq_iff otherReports.agents]
  cases list
  cases others
  simp only [ExecutionResultList.mk.injEq]

theorem parse_executionResult {jsoncons : Jsoncons} {endpoints agents : VisitingOrder}
    {list : ExecutionResultList}
    (inverts : jsoncons.Inverts (executionResult endpoints agents list)) :
    jsoncons.parse (executionResultListToJsonStringInOrders jsoncons endpoints agents list) =
      some (executionResult endpoints agents list) := by
  have dumped : executionResultListToJsonStringInOrders jsoncons endpoints agents list =
      jsoncons.dump (executionResult endpoints agents list) := by
    rw [executionResultListToJsonStringInOrders, executionResult_eq]
    rfl
  rw [dumped]
  exact inverts

/-- Two lists are written alike exactly if they are equal. -/
theorem executionResultListToJsonString_eq_iff {jsoncons : Jsoncons} {order : VisitingOrder}
    {list others : ExecutionResultList}
    (inverts : jsoncons.Inverts (executionResult order order list))
    (otherInverts : jsoncons.Inverts (executionResult order order others)) :
    executionResultListToJsonString jsoncons order list =
      executionResultListToJsonString jsoncons order others ↔ list = others := by
  constructor
  · intro written
    simp only [executionResultListToJsonString_eq] at written
    have parsed := parse_executionResult inverts
    rw [written, parse_executionResult otherInverts, Option.some.injEq] at parsed
    refine ((isReportOf_executionResult order order list).agree_iff
      (isReportOf_executionResult order order others)).mp ?_
    rw [parsed]
    exact ⟨.refl _, .refl _⟩
  · intro same
    rw [same]

end JsonUtils

open JsonUtils

/-- A plan report is read as an object with one element for each result, and the reports of two
lists agree up to the order of their arrays only if the lists are equal. The two maps of a
list may be visited in any orders. -/
theorem planReport_lossless {jsoncons : Jsoncons} {endpoints agents : VisitingOrder}
    {list : ExecutionResultList}
    (inverts : jsoncons.Inverts (executionResult endpoints agents list)) :
    (∀ order, executionResultListToJsonString jsoncons order list =
        executionResultListToJsonStringInOrders jsoncons order order list) ∧
      ∃ report,
        jsoncons.parse (executionResultListToJsonStringInOrders jsoncons endpoints agents list) =
            some report ∧
          IsReportOf report list ∧
          ∀ (otherEndpoints otherAgents : VisitingOrder) (others : ExecutionResultList),
            jsoncons.Inverts (executionResult otherEndpoints otherAgents others) →
              ∃ other,
                jsoncons.parse (executionResultListToJsonStringInOrders jsoncons otherEndpoints
                    otherAgents others) = some other ∧
                  (AgreeUpToOrder report other ↔ list = others) := by
  refine ⟨fun order => executionResultListToJsonString_eq jsoncons order list, _,
    parse_executionResult inverts, isReportOf_executionResult endpoints agents list, ?_⟩
  intro otherEndpoints otherAgents others otherInverts
  refine ⟨_, parse_executionResult otherInverts, ?_⟩
  exact (isReportOf_executionResult endpoints agents list).agree_iff
    (isReportOf_executionResult otherEndpoints otherAgents others)

/-- The results of one endpoint and one agent. -/
def someResults (messages : List String) : ExecutionResultList where
  endpointPlanResult := Finmap.singleton "udp" ⟨true, messages⟩
  agentPlanResult := Finmap.singleton "relay" ⟨false, []⟩

theorem someResults_ne : someResults ["created", "connected"] ≠
    someResults ["connected", "created"] := by
  intro same
  have read := congrArg (fun list => list.endpointPlanResult.lookup "udp") same
  simp [someResults] at read

/-- Two reports that differ in the order of two messages. -/
theorem planReport_lossless_sample :
    let order := Classical.arbitrary VisitingOrder
    let first := someResults ["created", "connected"]
    let second := someResults ["connected", "created"]
    let jsoncons := Jsoncons.reading
      [executionResult order order first, executionResult order order second]
    ∃ report other,
      jsoncons.parse (executionResultListToJsonStringInOrders jsoncons order order first) =
          some report ∧
        jsoncons.parse (executionResultListToJsonStringInOrders jsoncons order order second) =
          some other ∧
        ¬AgreeUpToOrder report other := by
  intro order first second jsoncons
  have inverts : jsoncons.Inverts (executionResult order order first) :=
    Jsoncons.reading_inverts_head _ _
  have different : (executionResult order order first).compact ≠
      (executionResult order order second).compact := by
    simp only [executionResult_eq, first, second, someResults, visit_singleton]
    decide
  have otherInverts : jsoncons.Inverts (executionResult order order second) :=
    Jsoncons.reading_inverts_tail different (Jsoncons.reading_inverts_head _ _)
  obtain ⟨_, report, parsed, _, others⟩ := planReport_lossless inverts
  obtain ⟨other, otherParsed, agree⟩ := others order order second otherInverts
  exact ⟨report, other, parsed, otherParsed, agree.not.mpr someResults_ne⟩

end MavlinkHub
