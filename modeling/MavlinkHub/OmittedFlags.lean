/-
This file leaves a flag out of an element of a plan whose value was false anyway. The
parser of agents reads a missing flag as false, so the plan stays the same. The parser of
endpoints refuses an element without a flag. The plan then stays the same only where the
element did not matter: the document is refused in any case, or another element of the
list decides what is stored under its name.
-/

import MavlinkHub.PlanDocuments

namespace MavlinkHub

open JsonUtils

/-! ### Deleting a member -/

namespace Json

/-- An object without the members of one key; other values are left alone. -/
def removeMember (key : String) : Json → Json
  | .object members => .object (members.filter fun member => member.1 ≠ key)
  | json => json

variable {key other : String} {json : Json}

theorem contains_removeMember_self : (json.removeMember key).contains key = false := by
  cases json with
  | object members =>
    rw [removeMember, contains, Json.members, List.any_filter]
    simp
  | _ => rfl

/-- A member of another key is not deleted. -/
theorem kept_and_hasKey (different : other ≠ key) (member : String × Json) :
    (decide (member.1 ≠ key) && decide (member.1 = other)) = decide (member.1 = other) := by
  by_cases same : member.1 = other
  · simp [same, different]
  · simp [same]

theorem contains_removeMember_of_ne (different : other ≠ key) :
    (json.removeMember key).contains other = json.contains other := by
  cases json with
  | object members =>
    rw [removeMember, contains, contains, Json.members, Json.members, List.any_filter]
    exact congrArg members.any (funext (kept_and_hasKey different))
  | _ => rfl

theorem get_removeMember_of_ne (different : other ≠ key) :
    (json.removeMember key).get other = json.get other := by
  cases json with
  | object members =>
    have found : (members.filter fun member => decide (member.1 ≠ key)).find?
        (fun member => decide (member.1 = other)) =
        members.find? fun member => decide (member.1 = other) := by
      simp only [List.find?_filter, Bool.decide_and, Bool.decide_eq_true,
        kept_and_hasKey different]
    rw [removeMember, get, get, Json.members, Json.members, found]
  | _ => rfl

end Json

/-! ### Documents without a flag -/

/-- A list with a member deleted from the element at a position. -/
def withoutMember (flag : String) (index : Nat) : Json → Json
  | .array elements => .array (elements.modify index (Json.removeMember flag))
  | json => json

/-- A document with a flag deleted from the element at a position of a list. -/
def withoutFlag (key flag : String) (index : Nat) (planJson : Json) : Json :=
  planJson.changeMember key (withoutMember flag index)

section Flags

variable {jsoncons : Jsoncons} {order : VisitingOrder} {memory : UserPlanPolicy}
  {planJson element : Json} {front back : List Json} {key flag other : String} {index : Nat}

theorem contains_withoutFlag :
    (withoutFlag key flag index planJson).contains other = planJson.contains other :=
  Json.contains_changeMember

theorem get_withoutFlag_of_ne (different : other ≠ key) :
    (withoutFlag key flag index planJson).get other = planJson.get other :=
  Json.get_changeMember_of_ne different

theorem elementsAt_withoutFlag :
    elementsAt key (withoutFlag key flag index planJson) =
      (elementsAt key planJson).modify index (Json.removeMember flag) := by
  rw [elementsAt, elementsAt, contains_withoutFlag]
  by_cases present : planJson.contains key = true
  · rw [if_pos present, if_pos present, withoutFlag, Json.get_changeMember_self present]
    cases planJson.get key with
    | array elements => rfl
    | _ => exact (List.modify_nil _ _).symm
  · rw [if_neg present, if_neg present, List.modify_nil]

theorem modify_length_front (change : Json → Json) :
    (front ++ element :: back).modify front.length change = front ++ change element :: back := by
  induction front with
  | nil => rfl
  | cons head rest inductionHypothesis =>
    rw [List.cons_append, List.length_cons, List.modify_succ_cons, inductionHypothesis,
      List.cons_append]

theorem planPolicy_withoutFlag (different : "policy" ≠ key) :
    planPolicy jsoncons memory (withoutFlag key flag index planJson) =
      planPolicy jsoncons memory planJson := by
  rw [planPolicy, planPolicy, contains_withoutFlag, get_withoutFlag_of_ne different]

/-- A list with elements is an array under its key. -/
theorem get_of_elementsAt (elements : elementsAt key planJson = front ++ element :: back) :
    planJson.contains key = true ∧ planJson.get key = .array (front ++ element :: back) := by
  rw [elementsAt] at elements
  by_cases present : planJson.contains key = true
  · rw [if_pos present] at elements
    refine ⟨present, ?_⟩
    cases list : planJson.get key with
    | array others =>
      rw [list, Json.elements] at elements
      rw [elements]
    | _ => simp [list, Json.elements] at elements
  · rw [if_neg present] at elements
    simp at elements

theorem get_withoutFlag (elements : elementsAt key planJson = front ++ element :: back) :
    (withoutFlag key flag front.length planJson).get key =
      .array (front ++ element.removeMember flag :: back) := by
  obtain ⟨present, list⟩ := get_of_elementsAt elements
  rw [withoutFlag, Json.get_changeMember_self present, list, withoutMember, modify_length_front]

/-! ### Agents -/

/-- A missing flag is read as false. -/
theorem agentEntry_removeMember (isFalse : element.get "start_on_create" = .bool false) :
    agentEntry jsoncons (element.removeMember "start_on_create") =
      agentEntry jsoncons element := by
  have name : "name" ≠ "start_on_create" := by decide
  have type : "type" ≠ "start_on_create" := by decide
  have config : "config" ≠ "start_on_create" := by decide
  simp only [agentEntry, Json.contains_removeMember_self, Json.contains_removeMember_of_ne name,
    Json.contains_removeMember_of_ne type, Json.contains_removeMember_of_ne config,
    Json.get_removeMember_of_ne name, Json.get_removeMember_of_ne type,
    Json.get_removeMember_of_ne config, isFalse]
  cases element.contains "start_on_create" <;> rfl

/-- The loop does not see a difference between elements that describe the same entry. -/
theorem collectEntries_replace {Entry : Type} {parseEntry : Json → Option (String × Entry)}
    {other : Json} (same : parseEntry other = parseEntry element) (policy : UserPlanPolicy)
    (front back : List Json) (list : StringMap Entry) :
    collectEntries parseEntry policy (front ++ other :: back) list =
      collectEntries parseEntry policy (front ++ element :: back) list := by
  induction front generalizing list with
  | nil => simp only [List.nil_append, collectEntries, same]
  | cons head rest inductionHypothesis =>
    simp only [List.cons_append, collectEntries, inductionHypothesis]

theorem planList_withoutFlag_of_ne {Entry : Type}
    {jsonToList : Json → UserPlanPolicy → Option (StringMap Entry)} {policy : UserPlanPolicy}
    (different : other ≠ key) :
    planList other jsonToList (withoutFlag key flag index planJson) policy =
      planList other jsonToList planJson policy := by
  rw [planList, planList, contains_withoutFlag, get_withoutFlag_of_ne different]

/-- Deleting a flag that is false from an agent leaves the plan unchanged. -/
theorem jsonToUserPlan_withoutFlag_agent
    (elements : elementsAt "agent_list" planJson = front ++ element :: back)
    (isFalse : element.get "start_on_create" = .bool false) :
    jsonToUserPlan jsoncons order memory
        (withoutFlag "agent_list" "start_on_create" front.length planJson) =
      jsonToUserPlan jsoncons order memory planJson := by
  have policyKey : "policy" ≠ "agent_list" := by decide
  have endpointKey : "endpoint_list" ≠ "agent_list" := by decide
  have agents : ∀ policy, planList "agent_list" (jsonToAgentList jsoncons)
      (withoutFlag "agent_list" "start_on_create" front.length planJson) policy =
      planList "agent_list" (jsonToAgentList jsoncons) planJson policy := by
    intro policy
    have described : agentEntry jsoncons (element.removeMember "start_on_create") =
      agentEntry jsoncons element := agentEntry_removeMember isFalse
    have same := collectEntries_replace described policy front back ∅
    rw [planList, planList, contains_withoutFlag, get_withoutFlag elements,
      (get_of_elementsAt elements).2]
    simp only [jsonToAgentList, jsonToList, same]
  simp only [jsonToUserPlan, planPolicy_withoutFlag policyKey,
    planList_withoutFlag_of_ne endpointKey, agents]

/-! ### Endpoints -/

/-- The endpoint that the well-formed elements of a list describe under a name; the last of
them if there are several. -/
def lastEndpoint (jsoncons : Jsoncons) (name : String) (elements : List Json) :
    Option MavlinkEndpointEntry :=
  ((elements.filter fun element =>
    wellFormedEndpoint element && decide (elementName jsoncons element = name)).getLast?).map
      (endpointSpec jsoncons)

/-- Another element decides what is stored under the name of an element: a later one, or an
earlier one that describes the same endpoint. -/
def Overridden (jsoncons : Jsoncons) (front : List Json) (element : Json) (back : List Json) :
    Prop :=
  (∃ later ∈ back, wellFormedEndpoint later = true ∧
      elementName jsoncons later = elementName jsoncons element) ∨
    lastEndpoint jsoncons (elementName jsoncons element) front =
      some (endpointSpec jsoncons element)

/-- The flag of an endpoint can be left out: the document is refused with and without it, or its
element is skipped with and without it, or overridden. -/
def FlagOmittable (jsoncons : Jsoncons) (memory : UserPlanPolicy) (planJson : Json)
    (front : List Json) (element : Json) (back : List Json) : Prop :=
  match planPolicy jsoncons memory planJson with
  | none => True
  | some .discard => ¬ListsWellFormed planJson
  | some .bestEffort => wellFormedEndpoint element = true → Overridden jsoncons front element back
  | some (.unassigned _) => ¬ListAccepted wellFormedEndpoint "endpoint_list" planJson

/-- Without its flag an endpoint is not well-formed. -/
theorem wellFormedEndpoint_removeMember :
    wellFormedEndpoint (element.removeMember "connect_on_create") = false := by
  rw [wellFormedEndpoint, Json.contains_removeMember_self, Bool.and_false, Bool.false_and,
    Bool.false_and]

theorem endpointEntry_removeMember :
    endpointEntry jsoncons (element.removeMember "connect_on_create") = none := by
  rw [endpointEntry_eq, wellFormedEndpoint_removeMember]
  rfl

/-- What a list assigns to a name last is the endpoint it describes last. -/
theorem lastAssigned_endpoints (name : String) (elements : List Json) :
    Assignments.lastAssigned name (elements.filterMap (endpointEntry jsoncons)) =
      lastEndpoint jsoncons name elements := by
  rw [Assignments.lastAssigned, lastEndpoint, ← List.getLast?_map, ← List.getLast?_map]
  refine congrArg List.getLast? ?_
  induction elements with
  | nil => rfl
  | cons head rest inductionHypothesis =>
    by_cases accepted : wellFormedEndpoint head = true
    · have described : endpointEntry jsoncons head =
          some (elementName jsoncons head, endpointSpec jsoncons head) := by
        rw [endpointEntry_eq, if_pos accepted]
      by_cases same : elementName jsoncons head = name
      · simp [described, accepted, same, inductionHypothesis]
      · simp [described, same, inductionHypothesis]
    · have skipped : endpointEntry jsoncons head = none := by
        rw [endpointEntry_eq, if_neg accepted]
      simp [skipped, accepted, inductionHypothesis]

theorem mem_endpointNames_iff (name : String) (elements : List Json) :
    name ∈ (elements.filterMap (endpointEntry jsoncons)).map Prod.fst ↔
      ∃ later ∈ elements, wellFormedEndpoint later = true ∧
        elementName jsoncons later = name := by
  rw [List.mem_map]
  constructor
  · rintro ⟨entry, member, rfl⟩
    obtain ⟨later, present, described⟩ := List.mem_filterMap.mp member
    rw [endpointEntry_eq] at described
    split_ifs at described with accepted
    cases described
    exact ⟨later, present, accepted, rfl⟩
  · rintro ⟨later, present, accepted, rfl⟩
    have described : endpointEntry jsoncons later =
        some (elementName jsoncons later, endpointSpec jsoncons later) := by
      rw [endpointEntry_eq, if_pos accepted]
    exact ⟨_, List.mem_filterMap.mpr ⟨later, present, described⟩, rfl⟩

/-- Under `BEST_EFFORT` an endpoint can be skipped exactly if it is skipped anyway or another
element decides what is stored under its name. -/
theorem entries_skipped_iff :
    Assignments.assign ((front ++ element.removeMember "connect_on_create" :: back).filterMap
          (endpointEntry jsoncons)) (∅ : StringMap MavlinkEndpointEntry) =
        Assignments.assign ((front ++ element :: back).filterMap (endpointEntry jsoncons)) ∅ ↔
      (wellFormedEndpoint element = true → Overridden jsoncons front element back) := by
  rw [List.filterMap_append, List.filterMap_append,
    List.filterMap_cons_none endpointEntry_removeMember, Assignments.assign_append,
    Assignments.assign_append]
  by_cases accepted : wellFormedEndpoint element = true
  · have described : endpointEntry jsoncons element =
        some (elementName jsoncons element, endpointSpec jsoncons element) := by
      rw [endpointEntry_eq, if_pos accepted]
    rw [List.filterMap_cons_some described, Assignments.assign_cons, eq_comm,
      Assignments.assign_insert_eq_iff, mem_endpointNames_iff, Assignments.lookup_assign,
      Finmap.lookup_empty, Option.or_none, lastAssigned_endpoints]
    exact (imp_iff_right accepted).symm
  · have skipped : endpointEntry jsoncons element = none := by
      rw [endpointEntry_eq, if_neg accepted]
    rw [List.filterMap_cons_none skipped]
    exact iff_of_true rfl fun contrary => absurd contrary accepted

end Flags

theorem VisitingOrder.visit_injective (order : VisitingOrder) {Value : Type}
    {first second : StringMap Value} (same : order.visit first = order.visit second) :
    first = second := by
  rw [← order.visit_toFinmap first, same, order.visit_toFinmap]

section Documents

variable {jsoncons : Jsoncons} {order : VisitingOrder} {memory policy : UserPlanPolicy}
  {planJson other element : Json} {front back : List Json}

/-- The plans of two documents that differ in their endpoints only. -/
theorem jsonToUserPlan_eq_iff (read : planPolicy jsoncons memory planJson = some policy)
    (readOther : planPolicy jsoncons memory other = some policy)
    (agents : planList "agent_list" (jsonToAgentList jsoncons) other policy =
      planList "agent_list" (jsonToAgentList jsoncons) planJson policy) :
    jsonToUserPlan jsoncons order memory other = jsonToUserPlan jsoncons order memory planJson ↔
      planList "agent_list" (jsonToAgentList jsoncons) planJson policy = none ∨
        planList "endpoint_list" (jsonToEndpointList jsoncons) other policy =
          planList "endpoint_list" (jsonToEndpointList jsoncons) planJson policy := by
  simp only [jsonToUserPlan, read, readOther, agents, Option.bind_eq_bind, Option.bind_some]
  cases planList "agent_list" (jsonToAgentList jsoncons) planJson policy with
  | none => simp
  | some agentList =>
    have injective : Function.Injective fun endpointList : StringMap MavlinkEndpointEntry =>
        (⟨order.visit endpointList, order.visit agentList, policy⟩ : UserPlan) :=
      fun first second same => order.visit_injective (congrArg UserPlan.endpointList same)
    have mapped := (Option.map_injective injective).eq_iff
      (a := planList "endpoint_list" (jsonToEndpointList jsoncons) other policy)
      (b := planList "endpoint_list" (jsonToEndpointList jsoncons) planJson policy)
    rw [Option.map_eq_bind, Option.map_eq_bind] at mapped
    exact mapped.trans (or_iff_right (Option.some_ne_none _)).symm

/-- A list that is refused is empty under a policy that is neither of the two. -/
theorem planList_unassigned {Entry : Type} {parseEntry : Json → Option (String × Entry)}
    {accepted : Json → Bool} {key : String}
    (described : ∀ element, (parseEntry element).isSome = accepted element) (value : Int) :
    planList key (jsonToList parseEntry) planJson (.unassigned value) =
      some (if ListAccepted accepted key planJson then entriesAt parseEntry key planJson
        else ∅) := by
  by_cases present : planJson.contains key = true
  · simp only [planList, ListAccepted, entriesAt, elementsAt, present, forall_const]
    cases planJson.get key with
    | array elements =>
      have strict : UserPlanPolicy.unassigned value ≠ .bestEffort := UserPlanPolicy.noConfusion
      simp only [jsonToList, collectEntries_of_ne_bestEffort strict, described, Json.isArray,
        Json.elements, true_and]
      split_ifs <;> first | rfl | contradiction
    | _ => rfl
  · have accept : ListAccepted accepted key planJson := fun contained => absurd contained present
    rw [if_pos accept, planList, if_neg present, entriesAt, elementsAt, if_neg present]
    rfl

/-- A document whose element has no flag has an endpoint list that is not accepted. -/
theorem not_listAccepted_withoutFlag
    (elements : elementsAt "endpoint_list" planJson = front ++ element :: back) :
    ¬ListAccepted wellFormedEndpoint "endpoint_list"
      (withoutFlag "endpoint_list" "connect_on_create" front.length planJson) := by
  intro accepted
  have all := listAccepted_elements accepted
  rw [elementsAt_withoutFlag, elements, modify_length_front] at all
  have refused := all _ (List.mem_append_right front List.mem_cons_self)
  rw [wellFormedEndpoint_removeMember] at refused
  cases refused

/-- An accepted list with an element is not empty. -/
theorem entriesAt_ne_empty
    (elements : elementsAt "endpoint_list" planJson = front ++ element :: back)
    (accepted : ListAccepted wellFormedEndpoint "endpoint_list" planJson) :
    entriesAt (endpointEntry jsoncons) "endpoint_list" planJson ≠ ∅ := by
  have all := listAccepted_elements accepted
  rw [elements] at all
  have present := List.mem_append_right front (List.mem_cons_self (a := element) (l := back))
  have named : elementName jsoncons element ∈
      ((front ++ element :: back).filterMap (endpointEntry jsoncons)).map Prod.fst :=
    (mem_endpointNames_iff _ _).mpr ⟨element, present, all element present, rfl⟩
  intro empty
  have keys := congrArg Finmap.keys empty
  rw [entriesAt, elements, Assignments.keys_assign, Finmap.keys_empty, Finset.empty_union] at keys
  have member := List.mem_toFinset.mpr named
  rw [keys] at member
  exact absurd member (Finset.notMem_empty _)

/-- Deleting a flag that is false from an endpoint leaves the plan unchanged exactly if the flag
can be left out. -/
theorem jsonToUserPlan_withoutFlag_endpoint_iff
    (elements : elementsAt "endpoint_list" planJson = front ++ element :: back) :
    jsonToUserPlan jsoncons order memory
          (withoutFlag "endpoint_list" "connect_on_create" front.length planJson) =
        jsonToUserPlan jsoncons order memory planJson ↔
      FlagOmittable jsoncons memory planJson front element back := by
  have policyKey : "policy" ≠ "endpoint_list" := by decide
  have agentKey : "agent_list" ≠ "endpoint_list" := by decide
  have policies : planPolicy jsoncons memory
      (withoutFlag "endpoint_list" "connect_on_create" front.length planJson) =
    planPolicy jsoncons memory planJson := planPolicy_withoutFlag policyKey
  have refused := not_listAccepted_withoutFlag elements
  cases read : planPolicy jsoncons memory planJson with
  | none =>
    rw [read] at policies
    simp only [FlagOmittable, jsonToUserPlan, read, policies]
    exact iff_true_intro rfl
  | some policy =>
    rw [read] at policies
    rw [jsonToUserPlan_eq_iff read policies (planList_withoutFlag_of_ne agentKey)]
    simp only [FlagOmittable, read]
    cases policy with
    | discard =>
      have endpoints : ∀ document, planList "endpoint_list" (jsonToEndpointList jsoncons) document
          .discard = _ := fun document => planList_discard (endpointEntry_isSome jsoncons)
      have agents : planList "agent_list" (jsonToAgentList jsoncons) planJson .discard = _ :=
        planList_discard (agentEntry_isSome jsoncons)
      rw [endpoints, endpoints, agents, if_neg refused, ListsWellFormed]
      by_cases endpointsAccepted : ListAccepted wellFormedEndpoint "endpoint_list" planJson <;>
        by_cases agentsAccepted : ListAccepted wellFormedAgent "agent_list" planJson <;>
          simp [endpointsAccepted, agentsAccepted]
    | bestEffort =>
      have endpoints : ∀ document, planList "endpoint_list" (jsonToEndpointList jsoncons) document
          .bestEffort = _ := fun document => planList_bestEffort
      have agents : planList "agent_list" (jsonToAgentList jsoncons) planJson .bestEffort = _ :=
        planList_bestEffort
      rw [endpoints, endpoints, agents, or_iff_right (Option.some_ne_none _), Option.some.injEq,
        entriesAt, entriesAt, elementsAt_withoutFlag, elements, modify_length_front]
      exact entries_skipped_iff
    | unassigned value =>
      have endpoints : ∀ document, planList "endpoint_list" (jsonToEndpointList jsoncons) document
          (.unassigned value) = _ :=
        fun document => planList_unassigned (endpointEntry_isSome jsoncons) value
      have agents : planList "agent_list" (jsonToAgentList jsoncons) planJson
          (.unassigned value) = _ := planList_unassigned (agentEntry_isSome jsoncons) value
      rw [endpoints, endpoints, agents, or_iff_right (Option.some_ne_none _), Option.some.injEq,
        if_neg refused]
      by_cases accepted : ListAccepted wellFormedEndpoint "endpoint_list" planJson
      · rw [if_pos accepted]
        exact iff_of_false (entriesAt_ne_empty elements accepted).symm (not_not.mpr accepted)
      · rw [if_neg accepted]
        exact iff_of_true rfl accepted

end Documents

/-- Deleting a flag that is false never changes a plan if it is the flag of an agent. Deleting
the flag of an endpoint, false or not, leaves the plan unchanged exactly if it can be left out. -/
theorem omittedFlags_iff (jsoncons : Jsoncons) (order : VisitingOrder) (memory : UserPlanPolicy)
    (planJson : Json) :
    (∀ front element back, elementsAt "agent_list" planJson = front ++ element :: back →
      element.get "start_on_create" = .bool false →
        jsonToUserPlan jsoncons order memory
            (withoutFlag "agent_list" "start_on_create" front.length planJson) =
          jsonToUserPlan jsoncons order memory planJson) ∧
      ∀ front element back, elementsAt "endpoint_list" planJson = front ++ element :: back →
        (jsonToUserPlan jsoncons order memory
              (withoutFlag "endpoint_list" "connect_on_create" front.length planJson) =
            jsonToUserPlan jsoncons order memory planJson ↔
          FlagOmittable jsoncons memory planJson front element back) :=
  ⟨fun _ _ _ => jsonToUserPlan_withoutFlag_agent,
    fun _ _ _ => jsonToUserPlan_withoutFlag_endpoint_iff⟩

/-- An endpoint that is not to be connected. -/
def unconnectedEndpoint : Json :=
  .object [("name", .string "link"), ("type", .string "udp"), ("config", .object []),
    ("connect_on_create", .bool false)]

/-- A document with such an endpoint, any number of times. -/
def unconnectedPlan (policy : String) (times : Nat) : Json :=
  .object [("policy", .string policy),
    ("endpoint_list", .array (List.replicate times unconnectedEndpoint))]

/-- Described twice, it can do without the flag of the first description. -/
theorem omittedFlags_iff_sample :
    let order := Classical.arbitrary VisitingOrder
    jsonToUserPlan (.reading []) order .discard
        (withoutFlag "endpoint_list" "connect_on_create" 0 (unconnectedPlan "best_effort" 2)) =
      jsonToUserPlan (.reading []) order .discard (unconnectedPlan "best_effort" 2) := by
  intro order
  refine ((omittedFlags_iff (.reading []) order .discard (unconnectedPlan "best_effort" 2)).2 []
    unconnectedEndpoint [unconnectedEndpoint] rfl).mpr ?_
  exact fun _ => .inl ⟨unconnectedEndpoint, List.mem_singleton_self _, rfl, rfl⟩

/-- Without its flag the endpoint is refused under the one policy, and silently missing under the
other. -/
theorem unconnectedPlan_changes :
    let order := Classical.arbitrary VisitingOrder
    (jsonToUserPlan (.reading []) order .discard (unconnectedPlan "discard" 1)).isSome = true ∧
      jsonToUserPlan (.reading []) order .discard
          (withoutFlag "endpoint_list" "connect_on_create" 0 (unconnectedPlan "discard" 1)) = none ∧
        jsonToUserPlan (.reading []) order .discard
            (withoutFlag "endpoint_list" "connect_on_create" 0 (unconnectedPlan "best_effort" 1)) ≠
          jsonToUserPlan (.reading []) order .discard (unconnectedPlan "best_effort" 1) := by
  intro order
  have accepted : ListsWellFormed (unconnectedPlan "discard" 1) := by decide
  have refused : ¬ListsWellFormed
    (withoutFlag "endpoint_list" "connect_on_create" 0 (unconnectedPlan "discard" 1)) := by decide
  have strict : ∀ document, document.get "policy" = .string "discard" →
      document.contains "policy" = true →
        planPolicy (.reading []) .discard document = some .discard := by
    intro document policy present
    rw [planPolicy, if_pos present, policy]
    rfl
  refine ⟨?_, ?_, ?_⟩
  · rw [jsonToUserPlan_discard (strict _ rfl rfl), if_pos accepted, Option.isSome_some]
  · rw [jsonToUserPlan_discard (strict _ rfl rfl), if_neg refused]
  · intro same
    have elements : elementsAt "endpoint_list" (unconnectedPlan "best_effort" 1) = [] ++ _ :: [] :=
      rfl
    have omittable := (jsonToUserPlan_withoutFlag_endpoint_iff elements).mp same
    rcases omittable rfl with ⟨later, member, _⟩ | earlier
    · cases member
    · cases earlier

end MavlinkHub
