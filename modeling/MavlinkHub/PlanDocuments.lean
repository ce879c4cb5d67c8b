/-
This file is about the parser of user plans on whole documents. Its two policies are
read off one description: the entries that a list of a document has, which is the
sequence of assignments its well-formed elements make. Under `best_effort` that is
what the plan contains; under `discard` the plan contains the same or there is no plan.

A name that two elements of a list claim is assigned twice, and only the later element
is in the plan, under either policy.
-/

import MavlinkHub.JsonUtils
import MavlinkHub.Library.Assignments

namespace MavlinkHub

/-! ### Editing a document -/

namespace Json

/-- A member of an object, with the value changed if it belongs to the key. -/
def changeValue (key : String) (change : Json → Json) (member : String × Json) : String × Json :=
  if member.1 = key then (member.1, change member.2) else member

/-- An object with the values of one key changed; other values are left alone. -/
def changeMember (key : String) (change : Json → Json) : Json → Json
  | .object members => .object (members.map (changeValue key change))
  | json => json

variable {key other : String} {change : Json → Json} {json : Json}

theorem changeValue_fst (member : String × Json) :
    (changeValue key change member).1 = member.1 := by
  rw [changeValue]
  split_ifs <;> rfl

theorem hasKey_comp_changeValue :
    (fun member : String × Json => decide (member.1 = other)) ∘ changeValue key change =
      fun member => decide (member.1 = other) := by
  funext member
  rw [Function.comp_apply, changeValue_fst]

@[simp] theorem contains_changeMember :
    (json.changeMember key change).contains other = json.contains other := by
  cases json with
  | object members =>
    show (members.map (changeValue key change)).any _ = members.any _
    rw [List.any_map, hasKey_comp_changeValue]
  | _ => rfl

/-- The member that a lookup finds in a changed object is the changed one it found before. -/
theorem get_changeMember_object (members : List (String × Json)) :
    ((Json.object members).changeMember key change).get other =
      (((members.find? fun member => member.1 = other).map (changeValue key change)).map
        (·.2)).getD .null := by
  show (((members.map (changeValue key change)).find? fun member =>
    decide (member.1 = other)).map (·.2)).getD .null = _
  rw [List.find?_map, hasKey_comp_changeValue]

theorem get_changeMember_self (present : json.contains key = true) :
    (json.changeMember key change).get key = change (json.get key) := by
  cases json with
  | object members =>
    rw [get_changeMember_object, get, Json.members]
    cases found : members.find? fun member => decide (member.1 = key) with
    | none =>
      have absent : (Json.object members).contains key = false := by
        simpa [contains, Json.members] using found
      rw [absent] at present
      cases present
    | some member =>
      have same : member.1 = key := by simpa using List.find?_some found
      simp only [Option.map_some, Option.getD_some, changeValue, if_pos same]
  | _ => cases present

theorem get_changeMember_of_ne (different : other ≠ key) :
    (json.changeMember key change).get other = json.get other := by
  cases json with
  | object members =>
    rw [get_changeMember_object, get, Json.members]
    cases found : members.find? fun member => decide (member.1 = other) with
    | none => rfl
    | some member =>
      have same : member.1 = other := by simpa using List.find?_some found
      have apart : member.1 ≠ key := same ▸ different
      simp only [Option.map_some, changeValue, if_neg apart]
  | _ => rfl

end Json

/-! ### The entries of a list -/

open JsonUtils

section Lists

variable {Entry : Type} {parseEntry : Json → Option (String × Entry)} {policy : UserPlanPolicy}
  {elements : List Json} {list : StringMap Entry} {key : String} {planJson : Json}

/-- The elements under a key of a document: none if the key is missing or holds no array. -/
def elementsAt (key : String) (planJson : Json) : List Json :=
  if planJson.contains key then (planJson.get key).elements else []

/-- What the elements under a key assign, those left out that do not describe an entry. -/
def entriesAt (parseEntry : Json → Option (String × Entry)) (key : String) (planJson : Json) :
    StringMap Entry :=
  Assignments.assign ((elementsAt key planJson).filterMap parseEntry) ∅

/-- A list is missing, or an array whose elements all describe an entry. -/
def ListAccepted (accepted : Json → Bool) (key : String) (planJson : Json) : Prop :=
  planJson.contains key = true →
    (planJson.get key).isArray = true ∧ ∀ element ∈ elementsAt key planJson, accepted element = true

instance (accepted : Json → Bool) : Decidable (ListAccepted accepted key planJson) :=
  inferInstanceAs (Decidable (_ → _))

theorem listAccepted_elements {accepted : Json → Bool} (all : ListAccepted accepted key planJson) :
    ∀ element ∈ elementsAt key planJson, accepted element = true := by
  intro element member
  by_cases present : planJson.contains key = true
  · exact (all present).2 element member
  · rw [elementsAt, if_neg present] at member
    cases member

/-- Under `BEST_EFFORT` the loop goes over all elements. -/
theorem collectEntries_bestEffort :
    collectEntries parseEntry .bestEffort elements list =
      some (Assignments.assign (elements.filterMap parseEntry) list) := by
  induction elements generalizing list with
  | nil => rfl
  | cons element rest inductionHypothesis =>
    cases parsed : parseEntry element with
    | none =>
      rw [List.filterMap_cons_none parsed, ← inductionHypothesis]
      simp only [collectEntries, parsed, if_pos]
    | some entry =>
      rw [List.filterMap_cons_some parsed, Assignments.assign_cons, ← inductionHypothesis]
      simp only [collectEntries, parsed]

/-- Under any other policy the loop goes over all elements or gives up. -/
theorem collectEntries_of_ne_bestEffort (strict : policy ≠ .bestEffort) :
    collectEntries parseEntry policy elements list =
      if ∀ element ∈ elements, (parseEntry element).isSome = true then
        some (Assignments.assign (elements.filterMap parseEntry) list)
      else none := by
  induction elements generalizing list with
  | nil => rfl
  | cons element rest inductionHypothesis =>
    cases parsed : parseEntry element with
    | none =>
      have refused : ¬∀ other ∈ element :: rest, (parseEntry other).isSome = true := by
        intro accepted
        have described := accepted element List.mem_cons_self
        rw [parsed] at described
        cases described
      rw [if_neg refused]
      simp only [collectEntries, parsed, if_neg strict]
    | some entry =>
      rw [List.filterMap_cons_some parsed, Assignments.assign_cons]
      simp only [List.forall_mem_cons, parsed, Option.isSome_some, true_and]
      rw [← inductionHypothesis]
      simp only [collectEntries, parsed]

/-- Under `BEST_EFFORT` a list of a document is what its elements assign. -/
theorem planList_bestEffort :
    planList key (jsonToList parseEntry) planJson .bestEffort =
      some (entriesAt parseEntry key planJson) := by
  by_cases present : planJson.contains key = true
  · rw [planList, if_pos present, entriesAt, elementsAt, if_pos present]
    cases planJson.get key with
    | array elements =>
      simp only [jsonToList, collectEntries_bestEffort, Json.elements]
    | _ => rfl
  · rw [planList, if_neg present, entriesAt, elementsAt, if_neg present]
    rfl

/-- Under `DISCARD` it is the same if the list is accepted, and there is no plan otherwise. -/
theorem planList_discard {accepted : Json → Bool}
    (described : ∀ element, (parseEntry element).isSome = accepted element) :
    planList key (jsonToList parseEntry) planJson .discard =
      if ListAccepted accepted key planJson then some (entriesAt parseEntry key planJson)
      else none := by
  by_cases present : planJson.contains key = true
  · simp only [planList, ListAccepted, entriesAt, elementsAt, present, forall_const]
    cases planJson.get key with
    | array elements =>
      have strict : UserPlanPolicy.discard ≠ .bestEffort := by decide
      simp only [jsonToList, collectEntries_of_ne_bestEffort strict, described, Json.isArray,
        Json.elements, true_and]
      split_ifs <;> rfl
    | _ => rfl
  · have accept : ListAccepted accepted key planJson := fun contained => absurd contained present
    rw [if_pos accept, planList, if_neg present, entriesAt, elementsAt, if_neg present]
    rfl

/-- A list that is accepted is what its elements assign under every policy. -/
theorem planList_of_accepted {accepted : Json → Bool}
    (described : ∀ element, (parseEntry element).isSome = accepted element)
    (accept : ListAccepted accepted key planJson) :
    planList key (jsonToList parseEntry) planJson policy =
      some (entriesAt parseEntry key planJson) := by
  by_cases lenient : policy = .bestEffort
  · rw [lenient, planList_bestEffort]
  · by_cases present : planJson.contains key = true
    · obtain ⟨isArray, all⟩ := accept present
      rw [planList, if_pos present, entriesAt]
      rw [elementsAt, if_pos present] at all ⊢
      cases found : planJson.get key with
      | array elements =>
        rw [found, Json.elements] at all
        simp only [jsonToList, collectEntries_of_ne_bestEffort lenient, described, if_pos all]
        rfl
      | _ =>
        rw [found] at isArray
        cases isArray
    · rw [planList, if_neg present, entriesAt, elementsAt, if_neg present]
      rfl

end Lists

/-! ### The elements of the two lists -/

section Elements

variable (jsoncons : Jsoncons)

/-- An element of `endpoint_list` that passes the checks: the required keys, an object as
configuration and a boolean as flag. -/
def wellFormedEndpoint (entry : Json) : Bool :=
  (entry.contains "name" && entry.contains "type" && entry.contains "config" &&
    entry.contains "connect_on_create") &&
  (entry.get "config").isObject && (entry.get "connect_on_create").isBool

/-- An element of `agent_list` that passes the checks. The flag may be missing. -/
def wellFormedAgent (entry : Json) : Bool :=
  (entry.contains "name" && entry.contains "type" && entry.contains "config") &&
  (entry.get "config").isObject &&
  (!entry.contains "start_on_create" || (entry.get "start_on_create").isBool)

/-- The name an element claims. -/
def elementName (entry : Json) : String :=
  jsoncons.asString (entry.get "name")

/-- The endpoint an element describes. -/
def endpointSpec (entry : Json) : MavlinkEndpointEntry where
  type := jsoncons.asString (entry.get "type")
  config := configOf jsoncons (entry.get "config")
  connectOnCreate := (entry.get "connect_on_create").asBool

/-- The agent an element describes. -/
def agentSpec (entry : Json) : AgentEntry where
  type := jsoncons.asString (entry.get "type")
  config := configOf jsoncons (entry.get "config")
  startOnCreate :=
    if entry.contains "start_on_create" then (entry.get "start_on_create").asBool else false

theorem endpointEntry_eq (entry : Json) :
    endpointEntry jsoncons entry =
      if wellFormedEndpoint entry then
        some (elementName jsoncons entry, endpointSpec jsoncons entry)
      else none := by
  rw [endpointEntry, wellFormedEndpoint]
  split_ifs <;> first | rfl | simp_all

theorem agentEntry_eq (entry : Json) :
    agentEntry jsoncons entry =
      if wellFormedAgent entry then some (elementName jsoncons entry, agentSpec jsoncons entry)
      else none := by
  rw [agentEntry, wellFormedAgent, agentSpec]
  split_ifs <;> first | rfl | simp_all

theorem endpointEntry_isSome (entry : Json) :
    (endpointEntry jsoncons entry).isSome = wellFormedEndpoint entry := by
  rw [endpointEntry_eq]
  cases wellFormedEndpoint entry <;> rfl

theorem agentEntry_isSome (entry : Json) :
    (agentEntry jsoncons entry).isSome = wellFormedAgent entry := by
  rw [agentEntry_eq]
  cases wellFormedAgent entry <;> rfl

end Elements

/-! ### The plan of a document -/

/-- Every list the document has is an array of well-formed elements. -/
def ListsWellFormed (planJson : Json) : Prop :=
  ListAccepted wellFormedEndpoint "endpoint_list" planJson ∧
    ListAccepted wellFormedAgent "agent_list" planJson

instance (planJson : Json) : Decidable (ListsWellFormed planJson) :=
  inferInstanceAs (Decidable (_ ∧ _))

section Plans

variable {jsoncons : Jsoncons} {order other : VisitingOrder} {memory garbage : UserPlanPolicy}
  {planJson : Json}

/-- The plan made of what the lists of a document assign. -/
def planOf (jsoncons : Jsoncons) (order : VisitingOrder) (planJson : Json)
    (policy : UserPlanPolicy) : UserPlan where
  endpointList := order.visit (entriesAt (endpointEntry jsoncons) "endpoint_list" planJson)
  agentList := order.visit (entriesAt (agentEntry jsoncons) "agent_list" planJson)
  policy := policy

theorem jsonToUserPlan_bestEffort
    (lenient : planPolicy jsoncons memory planJson = some .bestEffort) :
    jsonToUserPlan jsoncons order memory planJson =
      some (planOf jsoncons order planJson .bestEffort) := by
  have endpoints : planList "endpoint_list" (jsonToEndpointList jsoncons) planJson .bestEffort =
    some (entriesAt (endpointEntry jsoncons) "endpoint_list" planJson) := planList_bestEffort
  have agents : planList "agent_list" (jsonToAgentList jsoncons) planJson .bestEffort =
    some (entriesAt (agentEntry jsoncons) "agent_list" planJson) := planList_bestEffort
  simp only [jsonToUserPlan, lenient, Option.bind_eq_bind, Option.bind_some, endpoints, agents]
  rfl

theorem jsonToUserPlan_discard (strict : planPolicy jsoncons memory planJson = some .discard) :
    jsonToUserPlan jsoncons order memory planJson =
      if ListsWellFormed planJson then some (planOf jsoncons order planJson .discard)
      else none := by
  have endpoints : planList "endpoint_list" (jsonToEndpointList jsoncons) planJson .discard = _ :=
    planList_discard (endpointEntry_isSome jsoncons)
  have agents : planList "agent_list" (jsonToAgentList jsoncons) planJson .discard = _ :=
    planList_discard (agentEntry_isSome jsoncons)
  simp only [jsonToUserPlan, strict, Option.bind_eq_bind, Option.bind_some, endpoints, agents,
    ListsWellFormed]
  by_cases endpointsAccepted : ListAccepted wellFormedEndpoint "endpoint_list" planJson
  · by_cases agentsAccepted : ListAccepted wellFormedAgent "agent_list" planJson
    · simp only [endpointsAccepted, agentsAccepted, if_true, and_self, Option.bind_some]
      rfl
    · simp only [endpointsAccepted, agentsAccepted, if_true, and_false, if_false,
        Option.bind_some, Option.bind_none]
  · simp only [endpointsAccepted, false_and, if_false, Option.bind_none]

/-- Well-formed lists make the same plan under every policy, but for the policy itself. -/
theorem jsonToUserPlan_of_wellFormed {policy : UserPlanPolicy}
    (read : planPolicy jsoncons memory planJson = some policy)
    (accepted : ListsWellFormed planJson) :
    jsonToUserPlan jsoncons order memory planJson =
      some (planOf jsoncons order planJson policy) := by
  have endpoints : planList "endpoint_list" (jsonToEndpointList jsoncons) planJson policy = _ :=
    planList_of_accepted (endpointEntry_isSome jsoncons) accepted.1
  have agents : planList "agent_list" (jsonToAgentList jsoncons) planJson policy = _ :=
    planList_of_accepted (agentEntry_isSome jsoncons) accepted.2
  simp only [jsonToUserPlan, read, Option.bind_eq_bind, Option.bind_some, endpoints, agents]
  rfl

/-- A list that is refused only costs the plan under `DISCARD`. -/
theorem planList_isSome {Entry : Type} {policy : UserPlanPolicy} (key : String)
    (jsonToList : Json → UserPlanPolicy → Option (StringMap Entry)) (planJson : Json)
    (lenient : policy ≠ .discard) : (planList key jsonToList planJson policy).isSome = true := by
  rw [planList]
  by_cases present : planJson.contains key = true
  · rw [if_pos present]
    cases jsonToList (planJson.get key) policy with
    | some list => rfl
    | none => rw [if_neg lenient, Option.isSome_some]
  · rw [if_neg present, Option.isSome_some]

theorem jsonToUserPlan_isSome {policy : UserPlanPolicy}
    (read : planPolicy jsoncons memory planJson = some policy) (lenient : policy ≠ .discard) :
    (jsonToUserPlan jsoncons order memory planJson).isSome = true := by
  obtain ⟨endpointList, endpoints⟩ := Option.isSome_iff_exists.mp
    (planList_isSome "endpoint_list" (jsonToEndpointList jsoncons) planJson lenient)
  obtain ⟨agentList, agents⟩ := Option.isSome_iff_exists.mp
    (planList_isSome "agent_list" (jsonToAgentList jsoncons) planJson lenient)
  simp only [jsonToUserPlan, read, Option.bind_eq_bind, Option.bind_some, endpoints, agents]
  rfl

/-! ### The two policies on one document -/

/-- The document with another policy. -/
def withPolicy (policy : String) (planJson : Json) : Json :=
  planJson.changeMember "policy" fun _ => .string policy

/-- A list with every malformed element deleted; anything but an array becomes the empty list. -/
def cleanList (wellFormed : Json → Bool) (json : Json) : Json :=
  .array (json.elements.filter wellFormed)

/-- The document with its two lists cleaned. -/
def cleaned (planJson : Json) : Json :=
  (planJson.changeMember "endpoint_list" (cleanList wellFormedEndpoint)).changeMember "agent_list"
    (cleanList wellFormedAgent)

/-- Two plans with the same endpoint and agent maps. -/
def SameLists (plan another : UserPlan) : Prop :=
  plan.endpointList.toFinmap = another.endpointList.toFinmap ∧
    plan.agentList.toFinmap = another.agentList.toFinmap

theorem planPolicy_withPolicy (policy : String) (present : planJson.contains "policy" = true) :
    planPolicy jsoncons memory (withPolicy policy planJson) =
      if policy = "discard" then some .discard
      else if policy = "best_effort" then some .bestEffort
      else none := by
  rw [planPolicy, withPolicy, Json.contains_changeMember, if_pos present,
    Json.get_changeMember_self present]
  rfl

theorem elementsAt_withPolicy {key policy : String} (different : key ≠ "policy") :
    elementsAt key (withPolicy policy planJson) = elementsAt key planJson := by
  rw [elementsAt, elementsAt, withPolicy, Json.contains_changeMember,
    Json.get_changeMember_of_ne different]

theorem listAccepted_withPolicy {accepted : Json → Bool} {key policy : String}
    (different : key ≠ "policy") :
    ListAccepted accepted key (withPolicy policy planJson) ↔
      ListAccepted accepted key planJson := by
  rw [ListAccepted, ListAccepted, elementsAt_withPolicy different, withPolicy,
    Json.contains_changeMember, Json.get_changeMember_of_ne different]

/-- The lists of a plan do not depend on what the document says its policy is. -/
theorem planOf_withPolicy (policy : UserPlanPolicy) (name : String) :
    planOf jsoncons order (withPolicy name planJson) policy =
      planOf jsoncons order planJson policy := by
  simp only [planOf, entriesAt, elementsAt_withPolicy (by decide : "endpoint_list" ≠ "policy"),
    elementsAt_withPolicy (by decide : "agent_list" ≠ "policy")]

theorem listsWellFormed_withPolicy (policy : String) :
    ListsWellFormed (withPolicy policy planJson) ↔ ListsWellFormed planJson :=
  and_congr (listAccepted_withPolicy (by decide)) (listAccepted_withPolicy (by decide))

theorem planPolicy_cleaned :
    planPolicy jsoncons memory (cleaned planJson) = planPolicy jsoncons memory planJson := by
  simp only [planPolicy, cleaned, Json.contains_changeMember,
    Json.get_changeMember_of_ne (by decide : "policy" ≠ "agent_list"),
    Json.get_changeMember_of_ne (by decide : "policy" ≠ "endpoint_list")]

theorem contains_cleaned (key : String) :
    (cleaned planJson).contains key = planJson.contains key := by
  rw [cleaned, Json.contains_changeMember, Json.contains_changeMember]

theorem get_cleaned_endpointList (present : planJson.contains "endpoint_list" = true) :
    (cleaned planJson).get "endpoint_list" =
      cleanList wellFormedEndpoint (planJson.get "endpoint_list") := by
  rw [cleaned, Json.get_changeMember_of_ne (by decide), Json.get_changeMember_self present]

theorem get_cleaned_agentList (present : planJson.contains "agent_list" = true) :
    (cleaned planJson).get "agent_list" =
      cleanList wellFormedAgent (planJson.get "agent_list") := by
  rw [cleaned, Json.get_changeMember_self (Json.contains_changeMember.trans present),
    Json.get_changeMember_of_ne (by decide)]

/-- What cleaning does to one list, as both lists of a document show it. -/
structure CleansList (wellFormed : Json → Bool) (key : String) (planJson clean : Json) : Prop where
  contains : clean.contains key = planJson.contains key
  get : planJson.contains key = true → clean.get key = cleanList wellFormed (planJson.get key)

theorem CleansList.elementsAt_eq {wellFormed : Json → Bool} {key : String} {clean : Json}
    (cleans : CleansList wellFormed key planJson clean) :
    elementsAt key clean = (elementsAt key planJson).filter wellFormed := by
  rw [elementsAt, elementsAt, cleans.contains]
  by_cases present : planJson.contains key = true
  · rw [if_pos present, if_pos present, cleans.get present]
    rfl
  · rw [if_neg present, if_neg present, List.filter_nil]

theorem CleansList.accepted {wellFormed : Json → Bool} {key : String} {clean : Json}
    (cleans : CleansList wellFormed key planJson clean) : ListAccepted wellFormed key clean := by
  intro contained
  have present : planJson.contains key = true := cleans.contains ▸ contained
  refine ⟨?_, fun element member => ?_⟩
  · rw [cleans.get present]
    rfl
  · rw [cleans.elementsAt_eq] at member
    exact (List.mem_filter.mp member).2

theorem CleansList.entriesAt_eq {Entry : Type} {parseEntry : Json → Option (String × Entry)}
    {wellFormed : Json → Bool} {key : String} {clean : Json}
    (cleans : CleansList wellFormed key planJson clean)
    (described : ∀ element, (parseEntry element).isSome = wellFormed element) :
    entriesAt parseEntry key clean = entriesAt parseEntry key planJson := by
  have same : ∀ elements : List Json,
      (elements.filter wellFormed).filterMap parseEntry = elements.filterMap parseEntry := by
    intro elements
    rw [List.filterMap_filter]
    refine List.filterMap_congr fun element _ => ?_
    rw [← described]
    cases parseEntry element <;> rfl
  rw [entriesAt, entriesAt, cleans.elementsAt_eq, same]

theorem cleansList_endpointList :
    CleansList wellFormedEndpoint "endpoint_list" planJson (cleaned planJson) :=
  ⟨contains_cleaned _, get_cleaned_endpointList⟩

theorem cleansList_agentList :
    CleansList wellFormedAgent "agent_list" planJson (cleaned planJson) :=
  ⟨contains_cleaned _, get_cleaned_agentList⟩

theorem planOf_cleaned (policy : UserPlanPolicy) :
    planOf jsoncons order (cleaned planJson) policy = planOf jsoncons order planJson policy := by
  rw [planOf, planOf, cleansList_endpointList.entriesAt_eq (endpointEntry_isSome jsoncons),
    cleansList_agentList.entriesAt_eq (agentEntry_isSome jsoncons)]

/-- Two plans made of the same document have the same lists, whatever order they are in. -/
theorem sameLists_planOf (policy another : UserPlanPolicy) :
    SameLists (planOf jsoncons order planJson policy) (planOf jsoncons other planJson another) := by
  constructor <;> simp only [planOf, VisitingOrder.visit_toFinmap]

theorem jsonToUserPlan_withPolicy_bestEffort (present : planJson.contains "policy" = true) :
    jsonToUserPlan jsoncons order memory (withPolicy "best_effort" planJson) =
      some (planOf jsoncons order planJson .bestEffort) := by
  rw [jsonToUserPlan_bestEffort (planPolicy_withPolicy "best_effort" present), planOf_withPolicy]

theorem jsonToUserPlan_withPolicy_discard (present : planJson.contains "policy" = true) :
    jsonToUserPlan jsoncons order memory (withPolicy "discard" planJson) =
      if ListsWellFormed planJson then some (planOf jsoncons order planJson .discard)
      else none := by
  rw [jsonToUserPlan_discard (planPolicy_withPolicy "discard" present), planOf_withPolicy]
  simp only [listsWellFormed_withPolicy]

theorem jsonToUserPlan_cleaned (present : planJson.contains "policy" = true) :
    jsonToUserPlan jsoncons order memory (cleaned (withPolicy "discard" planJson)) =
      some (planOf jsoncons order planJson .discard) := by
  have accepted : ListsWellFormed (cleaned (withPolicy "discard" planJson)) :=
    ⟨cleansList_endpointList.accepted, cleansList_agentList.accepted⟩
  have strict : planPolicy jsoncons memory (cleaned (withPolicy "discard" planJson)) =
      some .discard := planPolicy_cleaned.trans (planPolicy_withPolicy "discard" present)
  rw [jsonToUserPlan_discard strict, if_pos accepted, planOf_cleaned, planOf_withPolicy]

/-- A document with a policy is the document with the policy it names. -/
theorem jsonToUserPlan_withPolicy_own (present : planJson.contains "policy" = true) :
    jsonToUserPlan jsoncons order memory
        (withPolicy (jsoncons.asString (planJson.get "policy")) planJson) =
      jsonToUserPlan jsoncons order memory planJson := by
  have endpointKey : "endpoint_list" ≠ "policy" := by decide
  have agentKey : "agent_list" ≠ "policy" := by decide
  have samePolicy : planPolicy jsoncons memory
      (withPolicy (jsoncons.asString (planJson.get "policy")) planJson) =
      planPolicy jsoncons memory planJson := by
    rw [planPolicy_withPolicy _ present, planPolicy, if_pos present]
  rw [jsonToUserPlan, jsonToUserPlan, samePolicy]
  simp only [planList, withPolicy, Json.contains_changeMember,
    Json.get_changeMember_of_ne endpointKey, Json.get_changeMember_of_ne agentKey]

/-- The two policies agree and differ only by filtering. A document with a policy is read as
the policy it names. Under `best_effort` there always is a plan. Under `discard` there is one
exactly if every list the document has is an array of well-formed elements, and then it has
the lists of the plan under `best_effort`. The latter always has the lists of the plan that
the cleaned document yields under `discard`. -/
theorem jsonToUserPlan_agree (jsoncons : Jsoncons) (order other : VisitingOrder)
    (memory garbage : UserPlanPolicy) (planJson : Json)
    (present : planJson.contains "policy" = true) :
    (jsonToUserPlan jsoncons order memory planJson =
      jsonToUserPlan jsoncons order memory
        (withPolicy (jsoncons.asString (planJson.get "policy")) planJson)) ∧
    (jsonToUserPlan jsoncons order memory (withPolicy "best_effort" planJson)).isSome = true ∧
    ((jsonToUserPlan jsoncons other garbage (withPolicy "discard" planJson)).isSome = true ↔
      ListsWellFormed planJson) ∧
    (∀ lenient ∈ jsonToUserPlan jsoncons order memory (withPolicy "best_effort" planJson),
      ∀ strict ∈ jsonToUserPlan jsoncons other garbage (withPolicy "discard" planJson),
        SameLists lenient strict) ∧
    ∃ lenient ∈ jsonToUserPlan jsoncons order memory (withPolicy "best_effort" planJson),
      ∃ strict ∈ jsonToUserPlan jsoncons other garbage (cleaned (withPolicy "discard" planJson)),
        SameLists lenient strict := by
  rw [jsonToUserPlan_withPolicy_own present, jsonToUserPlan_withPolicy_bestEffort present,
    jsonToUserPlan_withPolicy_discard present, jsonToUserPlan_cleaned present]
  refine ⟨rfl, rfl, ?_, ?_, ⟨_, rfl, _, rfl, sameLists_planOf _ _⟩⟩
  · by_cases accepted : ListsWellFormed planJson
    · simp only [accepted, if_true, Option.isSome_some]
    · simp only [accepted, if_false, Option.isSome_none, Bool.false_eq_true]
  · rintro lenient ⟨⟩ strict parsed
    by_cases accepted : ListsWellFormed planJson
    · rw [if_pos accepted] at parsed
      cases parsed
      exact sameLists_planOf _ _
    · rw [if_neg accepted] at parsed
      cases parsed

end Plans

/-- A document with a well-formed endpoint and one without a configuration. -/
def mixedPlan : Json :=
  .object
    [("policy", .string "discard"),
      ("endpoint_list", .array
        [.object [("name", .string "link"), ("type", .string "udp"), ("config", .object []),
            ("connect_on_create", .bool true)],
          .object [("name", .string "spare"), ("type", .string "udp")]])]

theorem jsonToUserPlan_agree_sample :
    (jsonToUserPlan (.reading []) (Classical.arbitrary VisitingOrder) .discard
        (withPolicy "best_effort" mixedPlan)).isSome = true ∧
      (jsonToUserPlan (.reading []) (Classical.arbitrary VisitingOrder) .discard
        (withPolicy "discard" mixedPlan)).isSome ≠ true := by
  obtain ⟨_, lenient, strict, _⟩ := jsonToUserPlan_agree (.reading [])
    (Classical.arbitrary VisitingOrder) (Classical.arbitrary VisitingOrder) .discard .discard
    mixedPlan (by decide)
  have malformed : ¬ListsWellFormed mixedPlan := by decide
  exact ⟨lenient, fun parsed => malformed (strict.mp parsed)⟩

/-! ### Names claimed twice -/

/-- Every element under a key is represented: the map has an entry for each, and holds under
the name of each what the element describes. -/
structure RepresentsList {Entry : Type} (jsoncons : Jsoncons) (spec : Json → Entry) (key : String)
    (planJson : Json) (map : StringMap Entry) : Prop where
  size : map.keys.card = (elementsAt key planJson).length
  entry : ∀ element ∈ elementsAt key planJson,
    map.lookup (elementName jsoncons element) = some (spec element)

/-- Every element of the two lists of a document is represented in a plan. -/
structure RepresentsDocument (jsoncons : Jsoncons) (planJson : Json) (plan : UserPlan) :
    Prop where
  endpoints : RepresentsList jsoncons (endpointSpec jsoncons) "endpoint_list" planJson
    plan.endpointList.toFinmap
  agents : RepresentsList jsoncons (agentSpec jsoncons) "agent_list" planJson
    plan.agentList.toFinmap

/-- No two elements of one list claim the same name. -/
def NamesDistinct (jsoncons : Jsoncons) (planJson : Json) : Prop :=
  ((elementsAt "endpoint_list" planJson).map (elementName jsoncons)).Nodup ∧
    ((elementsAt "agent_list" planJson).map (elementName jsoncons)).Nodup

section Names

variable {jsoncons : Jsoncons} {order : VisitingOrder} {memory : UserPlanPolicy}
  {planJson : Json} {Entry : Type} {parseEntry : Json → Option (String × Entry)}
  {wellFormed : Json → Bool} {spec : Json → Entry} {key : String}

theorem filterMap_eq_map_of_wellFormed
    (described : ∀ element, parseEntry element =
      if wellFormed element then some (elementName jsoncons element, spec element) else none)
    {elements : List Json} (accepted : ∀ element ∈ elements, wellFormed element = true) :
    elements.filterMap parseEntry =
      elements.map fun element => (elementName jsoncons element, spec element) := by
  rw [← List.filterMap_eq_map]
  refine List.filterMap_congr fun element member => ?_
  rw [described, if_pos (accepted element member)]
  rfl

/-- An accepted list is represented exactly if its elements claim distinct names. -/
theorem representsList_iff_nodup
    (described : ∀ element, parseEntry element =
      if wellFormed element then some (elementName jsoncons element, spec element) else none)
    (accepted : ∀ element ∈ elementsAt key planJson, wellFormed element = true) :
    RepresentsList jsoncons spec key planJson (entriesAt parseEntry key planJson) ↔
      ((elementsAt key planJson).map (elementName jsoncons)).Nodup := by
  rw [entriesAt, filterMap_eq_map_of_wellFormed described accepted]
  have names : ((elementsAt key planJson).map fun element =>
      (elementName jsoncons element, spec element)).map Prod.fst =
      (elementsAt key planJson).map (elementName jsoncons) := by
    rw [List.map_map]
    rfl
  constructor
  · intro represented
    have size := represented.size
    have assigned : ((elementsAt key planJson).map fun element =>
        (elementName jsoncons element, spec element)).length =
        (elementsAt key planJson).length := List.length_map _
    rw [← assigned, Assignments.card_keys_assign_eq_length_iff, names] at size
    exact size
  · intro distinct
    rw [← names] at distinct
    refine ⟨?_, fun element member => ?_⟩
    · rw [Assignments.card_keys_assign_eq_length_iff.mpr distinct, List.length_map]
    · exact Assignments.lookup_assign_of_nodup distinct (List.mem_map_of_mem member)

instance : Decidable (NamesDistinct jsoncons planJson) :=
  inferInstanceAs (Decidable (_ ∧ _))

/-- What a well-formed document yields represents it exactly if the names are distinct. -/
theorem representsDocument_planOf_iff (accepted : ListsWellFormed planJson)
    (policy : UserPlanPolicy) :
    RepresentsDocument jsoncons planJson (planOf jsoncons order planJson policy) ↔
      NamesDistinct jsoncons planJson := by
  have endpointsAccepted : ∀ element ∈ elementsAt "endpoint_list" planJson,
      wellFormedEndpoint element = true := listAccepted_elements accepted.1
  have agentsAccepted : ∀ element ∈ elementsAt "agent_list" planJson,
      wellFormedAgent element = true := listAccepted_elements accepted.2
  have endpoints := representsList_iff_nodup (endpointEntry_eq jsoncons) endpointsAccepted
  have agents := representsList_iff_nodup (agentEntry_eq jsoncons) agentsAccepted
  rw [NamesDistinct, ← endpoints, ← agents]
  constructor
  · rintro ⟨first, second⟩
    simp only [planOf, VisitingOrder.visit_toFinmap] at first second
    exact ⟨first, second⟩
  · rintro ⟨first, second⟩
    constructor <;> simpa only [planOf, VisitingOrder.visit_toFinmap]

end Names

/-- A strict plan represents every element of its document, and a document in which two
elements of a list claim one name is rejected, exactly if there are no two such elements
unless some list is malformed. -/
theorem strictPlan_untruncated_iff (jsoncons : Jsoncons) (order : VisitingOrder)
    (memory : UserPlanPolicy) (planJson : Json) (present : planJson.contains "policy" = true)
    (strict : jsoncons.asString (planJson.get "policy") = "discard") :
    ((∀ plan ∈ jsonToUserPlan jsoncons order memory planJson,
        RepresentsDocument jsoncons planJson plan) ∧
      (¬NamesDistinct jsoncons planJson →
        jsonToUserPlan jsoncons order memory planJson = none)) ↔
      (ListsWellFormed planJson → NamesDistinct jsoncons planJson) := by
  have policy : planPolicy jsoncons memory planJson = some .discard := by
    rw [planPolicy, if_pos present, strict]
    rfl
  rw [jsonToUserPlan_discard policy]
  by_cases accepted : ListsWellFormed planJson
  · rw [if_pos accepted]
    constructor
    · rintro ⟨_, rejected⟩ _
      by_contra repeated
      cases rejected repeated
    · intro distinct
      refine ⟨?_, fun repeated => absurd (distinct accepted) repeated⟩
      rintro plan ⟨⟩
      exact (representsDocument_planOf_iff accepted .discard).mpr (distinct accepted)
  · rw [if_neg accepted]
    refine iff_of_true ⟨?_, fun _ => rfl⟩ fun contrary => absurd contrary accepted
    rintro plan ⟨⟩

/-- A strict document whose two endpoints claim the same name. -/
def twinPlan : Json :=
  .object
    [("policy", .string "discard"),
      ("endpoint_list", .array
        [.object [("name", .string "link"), ("type", .string "udp"), ("config", .object []),
            ("connect_on_create", .bool true)],
          .object [("name", .string "link"), ("type", .string "serial"), ("config", .object []),
            ("connect_on_create", .bool false)]])]

/-- A strict document whose endpoints claim two names. -/
def pairedPlan : Json :=
  .object
    [("policy", .string "discard"),
      ("agent_list", .array
        [.object [("name", .string "relay"), ("type", .string "courier"), ("config", .object [])],
          .object
            [("name", .string "watch"), ("type", .string "courier"), ("config", .object [])]]),
      ("endpoint_list", .array
        [.object [("name", .string "link"), ("type", .string "udp"), ("config", .object []),
            ("connect_on_create", .bool true)],
          .object [("name", .string "spare"), ("type", .string "udp"), ("config", .object []),
            ("connect_on_create", .bool false)]])]

theorem strictPlan_untruncated_iff_sample :
    ∃ plan ∈ jsonToUserPlan (.reading []) (Classical.arbitrary VisitingOrder) .discard pairedPlan,
      RepresentsDocument (.reading []) pairedPlan plan := by
  have represented := ((strictPlan_untruncated_iff (.reading [])
    (Classical.arbitrary VisitingOrder) .discard pairedPlan (by decide) rfl).mpr
      fun _ => by decide).1
  have accepted : ListsWellFormed pairedPlan := by decide
  have parsed : jsonToUserPlan (.reading []) (Classical.arbitrary VisitingOrder) .discard
      pairedPlan = some (planOf (.reading []) (Classical.arbitrary VisitingOrder) pairedPlan
        .discard) := (jsonToUserPlan_discard rfl).trans (if_pos accepted)
  exact ⟨_, parsed, represented _ parsed⟩

/-- The strict parser accepts two endpoints of one name and keeps the second. -/
theorem twinPlan_truncated :
    ∃ plan ∈ jsonToUserPlan (.reading []) (Classical.arbitrary VisitingOrder) .discard twinPlan,
      (elementsAt "endpoint_list" twinPlan).length = 2 ∧
        plan.endpointList.toFinmap.keys.card = 1 ∧
        ¬RepresentsDocument (.reading []) twinPlan plan := by
  have policy : planPolicy (.reading []) .discard twinPlan = some .discard := rfl
  have accepted : ListsWellFormed twinPlan := by decide
  refine ⟨_, (jsonToUserPlan_discard policy).trans (if_pos accepted), rfl, ?_, ?_⟩
  · simp only [planOf, VisitingOrder.visit_toFinmap]
    rfl
  · rw [representsDocument_planOf_iff accepted]
    rintro ⟨distinct, _⟩
    revert distinct
    decide

end MavlinkHub
