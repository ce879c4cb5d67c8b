/-
This file transcribes the value types the manager exchanges with its callers: the
result of an operation and how results are merged, the plan a user submits, and the
per-entry report of validating or executing one.

An `std::unordered_map` keyed by strings appears in two roles. A map that is only
looked up and assigned to is a finite partial function (`StringMap`). A map that a
range-`for` visits also fixes an unspecified visiting order, and is a `Traversal`:
the same entries, in the order in which the loop meets them.
-/

import Mathlib.Data.Finmap

namespace MavlinkHub

/-- An `unordered_map` keyed by strings, as the finite partial function it stores. -/
abbrev StringMap (Value : Type) := Finmap fun _ : String => Value

/-- An `unordered_map` keyed by strings, with the order in which a range-`for` visits it. -/
abbrev Traversal (Value : Type) := AList fun _ : String => Value

/-- A choice of the order in which a range-`for` visits each `unordered_map`. -/
structure VisitingOrder where
  visit : {Value : Type} → StringMap Value → Traversal Value
  visit_toFinmap : ∀ {Value : Type} (map : StringMap Value), (visit map).toFinmap = map

instance : Nonempty VisitingOrder := by
  have visited {Value : Type} (map : StringMap Value) :
      ∃ entries : Traversal Value, entries.toFinmap = map := by
    exact Finmap.induction_on map fun entries => ⟨entries, rfl⟩
  exact ⟨⟨fun map => (visited map).choose, fun map => (visited map).choose_spec⟩⟩

/-- A traversal has the entries of its map. -/
theorem lookup_visit {Value : Type} (order : VisitingOrder) (map : StringMap Value)
    (name : String) : (order.visit map).lookup name = map.lookup name := by
  rw [← Finmap.lookup_toFinmap, order.visit_toFinmap]

theorem mem_visit {Value : Type} (order : VisitingOrder) (map : StringMap Value) (name : String) :
    name ∈ order.visit map ↔ name ∈ map := by
  rw [← AList.lookup_isSome, lookup_visit, Finmap.lookup_isSome]

/-- There is one order in which to visit a single entry. -/
theorem visit_singleton {Value : Type} (order : VisitingOrder) (name : String) (value : Value) :
    order.visit (Finmap.singleton name value) = AList.singleton name value := by
  have same : (order.visit (Finmap.singleton name value)).toFinmap =
      (AList.singleton name value).toFinmap := order.visit_toFinmap _
  rw [AList.toFinmap_eq, AList.singleton_entries, List.perm_singleton] at same
  exact AList.ext same

/-- The key-value configuration of a transport or an agent. -/
abbrev Config := StringMap String

/-- `OperationResult`: a success flag and the messages collected on the way. -/
structure OperationResult where
  success : Bool := true
  messages : List String := []
  deriving DecidableEq

/-- `OperationResult::merge`: successful only if both are, messages appended. -/
def OperationResult.merge (result other : OperationResult) : OperationResult where
  success := result.success && other.success
  messages := result.messages ++ other.messages

@[simp] theorem OperationResult.merge_success (result other : OperationResult) :
    (result.merge other).success = (result.success && other.success) := rfl

/-- `UserPlanPolicy`. A member that was never assigned may hold a value no enumerator has. -/
inductive UserPlanPolicy
  | discard
  | bestEffort
  | unassigned (value : Int)
  deriving DecidableEq

/-- `MavlinkEndpointEntry`: one endpoint of a plan. -/
structure MavlinkEndpointEntry where
  type : String
  config : Config
  connectOnCreate : Bool
  deriving DecidableEq

/-- `AgentEntry`: one agent of a plan. -/
structure AgentEntry where
  type : String
  config : Config
  startOnCreate : Bool := false
  deriving DecidableEq

/-- `UserPlan`. Both lists are maps, so no name occurs twice in one of them. -/
structure UserPlan where
  endpointList : Traversal MavlinkEndpointEntry
  agentList : Traversal AgentEntry
  policy : UserPlanPolicy

/-- `ExecutionResultList`: the outcome of every entry of a plan, by name. -/
structure ExecutionResultList where
  endpointPlanResult : StringMap OperationResult := ∅
  agentPlanResult : StringMap OperationResult := ∅

/-- `std::unordered_map<std::string, OperationResult>::operator[]`: a key without an entry
reads as a value-initialised `OperationResult`, whose `success` is true. -/
def resultAt (results : StringMap OperationResult) (name : String) : OperationResult :=
  (results.lookup name).getD {}

/-- `AgentState`. -/
inductive AgentState
  | idle
  | starting
  | active
  | stopping
  deriving DecidableEq

/-- `MavlinkEndpointState`. -/
inductive MavlinkEndpointState
  | disconnected
  | connecting
  | connected
  | disconnecting
  deriving DecidableEq

end MavlinkHub
