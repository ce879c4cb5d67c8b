/-
This file asks when the policy of a plan makes a difference. Validation does not look at
it. If every entry validates, every entry is attempted under any policy, and if none does,
the report is that of the validation. Otherwise some entry validates in a plan that
another entry spoils. Under `DISCARD` it is reported as discarded, and under any other
policy it is reported with a message of the operation that was called for it.
-/

import MavlinkHub.PlanExecution

namespace MavlinkHub

open KeyedLoop Manager

/-- The same entries under another policy. -/
def UserPlan.withPolicy (plan : UserPlan) (policy : UserPlanPolicy) : UserPlan :=
  { plan with policy := policy }

variable {sdk : Sdk} {world : World sdk} {plan : UserPlan} {policy other : UserPlanPolicy}

/-- Validation does not look at the policy. -/
theorem validatePlan_withPolicy :
    validatePlan (plan.withPolicy policy) world = validatePlan plan world := rfl

/-- `validatePlan` accepts no entry of the plan. -/
def RefusesAll (plan : UserPlan) (world : World sdk) : Prop :=
  (∀ name ∈ plan.endpointList.keys,
      (resultAt (validatePlan plan world).endpointPlanResult name).success = false) ∧
    ∀ name ∈ plan.agentList.keys,
      (resultAt (validatePlan plan world).agentPlanResult name).success = false

/-- `validatePlan` accepts all entries of the plan or none. -/
def ValidatesAlike (plan : UserPlan) (world : World sdk) : Prop :=
  AcceptsAll plan world ∨ RefusesAll plan world

/-! ### Plans whose entries validate alike -/

/-- A loop that reports a verdict for each entry and changes nothing collects the verdicts. -/
theorem forEach_reported {Spec : Type} {verdict : String → Spec → OperationResult}
    {body : String → Spec → World sdk → OperationResult × World sdk} {entries : Traversal Spec}
    (reported : ∀ name spec, entries.lookup name = some spec →
      body name spec world = (verdict name spec, world)) :
    forEach body entries.entries ∅ world = (collect verdict entries.entries, world) := by
  rw [forEach_still verdict fun entry member =>
    reported entry.1 entry.2 (AList.mem_lookup_iff.mpr member)]
  rfl

/-- If no entry validates, executing a plan is validating it. -/
theorem executePlan_eq_validation (refuses : RefusesAll plan world) :
    executePlan plan world = (validatePlan plan world, world) := by
  have endpoints : forEach
      (executeEndpointEntry (validatePlan plan world).endpointPlanResult
        (discardsPlan plan (validatePlan plan world))) plan.endpointList.entries ∅ world =
      ((validatePlan plan world).endpointPlanResult, world) := by
    refine forEach_reported fun epName epSpec listed => ?_
    have refused := refuses.1 epName (AList.lookup_isSome.mp (Option.isSome_of_eq_some listed))
    rw [executeEndpointEntry, refused, resultAt_endpoint listed]
    rfl
  have agents : forEach
      (executeAgentEntry (validatePlan plan world).agentPlanResult
        (discardsPlan plan (validatePlan plan world))) plan.agentList.entries ∅ world =
      ((validatePlan plan world).agentPlanResult, world) := by
    refine forEach_reported fun agName agSpec listed => ?_
    have refused := refuses.2 agName (AList.lookup_isSome.mp (Option.isSome_of_eq_some listed))
    rw [executeAgentEntry, refused, resultAt_agent listed]
    rfl
  rw [executePlan]
  dsimp only
  rw [endpoints, agents]

/-- A plan whose entries validate alike is executed alike under all policies. -/
theorem executePlan_withPolicy (alike : ValidatesAlike plan world) :
    executePlan (plan.withPolicy policy) world = executePlan (plan.withPolicy other) world := by
  rcases alike with accepts | refuses
  · have all (policy : UserPlanPolicy) : AcceptsAll (plan.withPolicy policy) world := accepts
    rw [executePlan_eq_attempts (all policy), executePlan_eq_attempts (all other)]
    rfl
  · have none (policy : UserPlanPolicy) : RefusesAll (plan.withPolicy policy) world := refuses
    rw [executePlan_eq_validation (none policy), executePlan_eq_validation (none other)]
    rfl

/-! ### Plans that the policy decides -/

/-- A result has a message of an operation of the manager. -/
def Answered (result : OperationResult) : Prop :=
  ∃ text, "[Manager] : " ++ text ∈ result.messages

theorem Answered.merge_left {result : OperationResult} (answered : Answered result)
    (later : OperationResult) : Answered (result.merge later) := by
  obtain ⟨text, member⟩ := answered
  exact ⟨text, List.mem_append_left _ member⟩

theorem Answered.merge_empty {result : OperationResult} (answered : Answered result) :
    Answered (OperationResult.merge {} result) := answered

theorem addMavlinkEndpoint_answered (name : String) (world : World sdk) :
    Answered (addMavlinkEndpoint name world).1 := by
  rw [addMavlinkEndpoint]
  cases world.endpointDb.lookup name with
  | none =>
    refine ⟨"Mavlink Endpoint is created with name: " ++ name, ?_⟩
    rw [← String.append_assoc]
    exact List.mem_singleton_self _
  | some entry =>
    refine ⟨"Failed to add a mavlink endpoint with name: " ++ name ++ ". It already exists.", ?_⟩
    rw [← String.append_assoc, ← String.append_assoc]
    exact List.mem_singleton_self _

theorem addAgent_answered (name type : String) (config : Config) (world : World sdk) :
    Answered (addAgent name type config world).1 := by
  rw [addAgent]
  cases world.agents.lookup name with
  | some agent =>
    refine ⟨"Failed to add Agent [" ++ name ++ "]. It already exists.", ?_⟩
    rw [← String.append_assoc, ← String.append_assoc]
    exact List.mem_singleton_self _
  | none =>
    cases world.agentRegistry.definitionAt type with
    | none =>
      refine ⟨"Failed to add agent [" ++ name ++ "]. The type is not registered.", ?_⟩
      rw [← String.append_assoc, ← String.append_assoc]
      exact List.mem_singleton_self _
    | some definition =>
      -- The messages of the third-party parser come first.
      dsimp only
      split
      · refine ⟨"Agent [" ++ name ++ "] is added.", List.mem_append_right _ ?_⟩
        rw [← String.append_assoc, ← String.append_assoc]
        exact List.mem_singleton_self _
      · refine ⟨"Failed to add Agent [" ++ name ++ "]. Please check the config.",
          List.mem_append_right _ ?_⟩
        rw [← String.append_assoc, ← String.append_assoc]
        exact List.mem_singleton_self _

theorem attemptEndpoint_answered (epName : String) (epSpec : MavlinkEndpointEntry)
    (world : World sdk) : Answered (attemptEndpoint epName epSpec world).1 := by
  have added := (addMavlinkEndpoint_answered epName world).merge_empty
  rw [attemptEndpoint]
  dsimp only
  split_ifs
  · exact added.merge_left _
  · exact added

theorem attemptAgent_answered (agName : String) (agSpec : AgentEntry) (world : World sdk) :
    Answered (attemptAgent agName agSpec world).1 := by
  have added := (addAgent_answered agName agSpec.type agSpec.config world).merge_empty
  rw [attemptAgent]
  dsimp only
  split_ifs
  · exact added.merge_left _
  · exact added

/-- The texts of a discarded plan have no blank before the colon. -/
theorem not_answered_of_discarded {success : Bool} {text : String} :
    ¬Answered ⟨success, ["[Manager]: " ++ text]⟩ := by
  rintro ⟨answer, member⟩
  have same := congrArg String.toList (List.mem_singleton.mp member)
  simp [String.toList_append] at same

section Entries

variable {validation : StringMap OperationResult}

theorem executeEndpointEntry_discarded {epName : String} (epSpec : MavlinkEndpointEntry)
    (valid : (resultAt validation epName).success = true) (world : World sdk) :
    ¬Answered (executeEndpointEntry validation true epName epSpec world).1 := by
  have reported : (executeEndpointEntry validation true epName epSpec world).1 =
      ⟨false, ["[Manager]: " ++
        ("Endpoint [" ++ epName ++ "] is discarded because of the policy")]⟩ := by
    rw [executeEndpointEntry, valid, ← String.append_assoc, ← String.append_assoc]
    rfl
  rw [reported]
  exact not_answered_of_discarded

theorem executeAgentEntry_discarded {agName : String} (agSpec : AgentEntry)
    (valid : (resultAt validation agName).success = true) (world : World sdk) :
    ¬Answered (executeAgentEntry validation true agName agSpec world).1 := by
  have reported : (executeAgentEntry validation true agName agSpec world).1 =
      ⟨false, ["[Manager]: " ++ ("Agent [" ++ agName ++
        "] is valid but the plan is discarded because of the policy")]⟩ := by
    rw [executeAgentEntry, valid, ← String.append_assoc, ← String.append_assoc]
    rfl
  rw [reported]
  exact not_answered_of_discarded

end Entries

/-- What a loop files for an entry is what its body answers in some world. -/
theorem forEach_report {Spec : Type}
    (body : String → Spec → World sdk → OperationResult × World sdk) {entries : Traversal Spec}
    {name : String} {spec : Spec} (listed : entries.lookup name = some spec) (world : World sdk) :
    ∃ before, (forEach body entries.entries ∅ world).1.lookup name =
      some (body name spec before).1 := by
  obtain ⟨front, back, split⟩ := List.append_of_mem (AList.mem_lookup_iff.mp listed)
  rw [split]
  exact ⟨_, lookup_forEach_of_split (lookup_of_split split).2.2⟩

/-- Two loops of which one answers an entry and the other does not file different reports. -/
theorem forEach_ne {Spec : Type}
    {silent answering : String → Spec → World sdk → OperationResult × World sdk}
    {entries : Traversal Spec} {name : String} {spec : Spec}
    (listed : entries.lookup name = some spec)
    (silence : ∀ before, ¬Answered (silent name spec before).1)
    (answer : ∀ before, Answered (answering name spec before).1) (world other : World sdk) :
    (forEach silent entries.entries ∅ world).1 ≠ (forEach answering entries.entries ∅ other).1 := by
  intro same
  obtain ⟨before, silently⟩ := forEach_report silent listed world
  obtain ⟨otherBefore, answered⟩ := forEach_report answering listed other
  rw [same, answered, Option.some.injEq] at silently
  exact silence before (silently ▸ answer otherBefore)

theorem discardsPlan_discard (spoilt : ¬AcceptsAll plan world) :
    discardsPlan (plan.withPolicy .discard) (validatePlan plan world) = true := by
  rw [← validatePlan_withPolicy, ← Bool.not_eq_false, discardsPlan_eq]
  exact fun kept => spoilt (kept rfl)

theorem discardsPlan_bestEffort :
    discardsPlan (plan.withPolicy .bestEffort) (validatePlan plan world) = false := by
  rw [← validatePlan_withPolicy, discardsPlan_eq]
  rintro ⟨⟩

/-- If some entry of a plan validates and another does not, the policy decides what is
reported. -/
theorem executePlan_ne (divided : ¬ValidatesAlike plan world) :
    (executePlan (plan.withPolicy .discard) world).1 ≠
      (executePlan (plan.withPolicy .bestEffort) world).1 := by
  obtain ⟨spoilt, someValid⟩ := not_or.mp divided
  intro same
  have endpoints := congrArg ExecutionResultList.endpointPlanResult same
  have agents := congrArg ExecutionResultList.agentPlanResult same
  simp only [executePlan, validatePlan_withPolicy, discardsPlan_discard spoilt,
    discardsPlan_bestEffort] at endpoints agents
  refine someValid ⟨fun epName named => ?_, fun agName named => ?_⟩
  · by_contra valid
    rw [Bool.not_eq_false] at valid
    obtain ⟨epSpec, listed⟩ := Option.isSome_iff_exists.mp (AList.lookup_isSome.mpr named)
    refine forEach_ne listed (executeEndpointEntry_discarded epSpec valid) (fun before => ?_)
      world world endpoints
    rw [executeEndpointEntry_of_valid epSpec valid]
    exact attemptEndpoint_answered epName epSpec before
  · by_contra valid
    rw [Bool.not_eq_false] at valid
    obtain ⟨agSpec, listed⟩ := Option.isSome_iff_exists.mp (AList.lookup_isSome.mpr named)
    refine forEach_ne listed (executeAgentEntry_discarded agSpec valid) (fun before => ?_)
      _ _ agents
    rw [executeAgentEntry_of_valid agSpec valid]
    exact attemptAgent_answered agName agSpec before

/-- The policy makes no difference to what is reported exactly if all entries validate or
none. -/
theorem executePlan_policy_iff :
    (∀ policy other, (executePlan (plan.withPolicy policy) world).1 =
      (executePlan (plan.withPolicy other) world).1) ↔ ValidatesAlike plan world := by
  constructor
  · intro same
    by_contra divided
    exact executePlan_ne divided (same .discard .bestEffort)
  · intro alike policy other
    rw [executePlan_withPolicy alike]

end MavlinkHub
