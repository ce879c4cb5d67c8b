/-
This file transcribes the validation and execution of a user plan. Validation reads
the state once and files a verdict for every entry; execution first scans the
verdicts for one that makes the whole plan void, and then visits the entries,
endpoints before agents, reading each verdict back.
-/

import MavlinkHub.Library.KeyedLoop
import MavlinkHub.Manager

namespace MavlinkHub

namespace Manager

open KeyedLoop

variable {sdk : Sdk}

/-! ### Validation -/

/-- The verdict of `validatePlan` on one endpoint entry. -/
def validateEndpointEntry (world : World sdk) (epName : String) (epSpec : MavlinkEndpointEntry) :
    OperationResult :=
  let nameAvailabilityResult : OperationResult := match world.endpointDb.lookup epName with
    | none =>
      { success := true
        messages := ["[Manager]: The name [" ++ epName ++
          "] is AVAILABLE to be used as a Mavlink Endpoint name."] }
    | some _ =>
      { success := false
        messages := ["[Manager]: The name [" ++ epName ++
          "] is NOT AVAILABLE to be used as a Mavlink Endpoint name."] }
  let configValidationResult : OperationResult :=
    match world.transportRegistry.lookup epSpec.type with
    | some definition =>
      if (sdk.parseTransportConfig definition epSpec.config).ok then
        { success := true
          messages := ["[Manager]: The endpoint type [" ++ epSpec.type ++
            "] is registered and the given config is VALID."] }
      else
        { success := false
          messages := ["Manager]: The endpoint type [" ++ epSpec.type ++
            "] is registered HOWEVER the given config is INVALID."] }
    | none =>
      { success := false
        messages := ["[Manager]: The endpoint type [" ++ epSpec.type ++ "] is not registered."] }
  (OperationResult.merge {} nameAvailabilityResult).merge configValidationResult

/-- The verdict of `validatePlan` on one agent entry. -/
def validateAgentEntry (world : World sdk) (agName : String) (agSpec : AgentEntry) :
    OperationResult :=
  let nameCollisionResult : OperationResult := match world.agents.lookup agName with
    | none =>
      { success := true
        messages := ["[Manager]: The name [" ++ agName ++
          "] is AVAILABLE to be used as an Agent name."] }
    | some _ =>
      { success := false
        messages := ["[Manager]: The name [" ++ agName ++
          "] is NOT AVAILABLE to be used as an Agent name."] }
  let configValidationResult : OperationResult :=
    match world.agentRegistry.definitionAt agSpec.type with
    | some definition =>
      if (sdk.parseConfig definition agSpec.config).ok then
        { success := true
          messages := ["[Manager]: The agent type [" ++ agSpec.type ++
            "] is registered and the given config is VALID."] }
      else
        { success := false
          messages := ["Manager]: The agent type [" ++ agSpec.type ++
            "] is registered HOWEVER the given config is INVALID."] }
    | none =>
      { success := false
        messages := ["[Manager]: The agent type [" ++ agSpec.type ++ "] is not registered."] }
  (OperationResult.merge {} nameCollisionResult).merge configValidationResult

/-- `Manager::validatePlan`. -/
def validatePlan (plan : UserPlan) (world : World sdk) : ExecutionResultList where
  endpointPlanResult := collect (validateEndpointEntry world) plan.endpointList.entries
  agentPlanResult := collect (validateAgentEntry world) plan.agentList.entries

/-! ### Execution -/

/-- One of the two loops that decide whether to discard the plan: it stops at the first entry
that makes the plan void. -/
def scanForDiscard {Spec : Type} (policy : UserPlanPolicy)
    (validation : StringMap OperationResult) :
    List (Σ _ : String, Spec) → Bool → Bool
  | [], discardPlan => discardPlan
  | ⟨name, _⟩ :: rest, discardPlan =>
    let validity := resultAt validation name
    if policy = .discard then
      if !validity.success then true else scanForDiscard policy validation rest discardPlan
    else scanForDiscard policy validation rest discardPlan

/-- The body of the endpoint loop of `executePlan`. -/
def executeEndpointEntry (validation : StringMap OperationResult) (discardPlan : Bool)
    (epName : String) (epSpec : MavlinkEndpointEntry) (world : World sdk) :
    OperationResult × World sdk :=
  let validity := resultAt validation epName
  if !validity.success then
    (resultAt validation epName, world)
  else if discardPlan then
    ({ success := false
       messages := ["[Manager]: Endpoint [" ++ epName ++ "] is discarded because of the policy"] },
      world)
  else
    let (addResult, added) := addMavlinkEndpoint epName world
    let execResult := OperationResult.merge {} addResult
    if addResult.success && epSpec.connectOnCreate then
      let (connectResult, connected) :=
        connectMavlinkEndpoint epName epSpec.type epSpec.config added
      (execResult.merge connectResult, connected)
    else
      (execResult, added)

/-- The body of the agent loop of `executePlan`. -/
def executeAgentEntry (validation : StringMap OperationResult) (discardPlan : Bool)
    (agName : String) (agSpec : AgentEntry) (world : World sdk) : OperationResult × World sdk :=
  let validity := resultAt validation agName
  if !validity.success then
    (resultAt validation agName, world)
  else if discardPlan then
    (OperationResult.merge {}
      { success := false
        messages := ["[Manager]: Agent [" ++ agName ++
          "] is valid but the plan is discarded because of the policy"] }, world)
  else
    let (addResult, added) := addAgent agName agSpec.type agSpec.config world
    let execResult := OperationResult.merge {} addResult
    if addResult.success && agSpec.startOnCreate then
      let (startResult, started) := startAgent agName added
      (execResult.merge startResult, started)
    else
      (execResult, added)

/-- The flag `discard_plan` after both scans. -/
def discardsPlan (plan : UserPlan) (validation : ExecutionResultList) : Bool :=
  scanForDiscard plan.policy validation.agentPlanResult plan.agentList.entries
    (scanForDiscard plan.policy validation.endpointPlanResult plan.endpointList.entries false)

/-- `Manager::executePlan`. -/
def executePlan (plan : UserPlan) (world : World sdk) : ExecutionResultList × World sdk :=
  let validation := validatePlan plan world
  let discardPlan := discardsPlan plan validation
  let (endpointPlanResult, endpointsDone) :=
    forEach (executeEndpointEntry validation.endpointPlanResult discardPlan)
      plan.endpointList.entries ∅ world
  let (agentPlanResult, agentsDone) :=
    forEach (executeAgentEntry validation.agentPlanResult discardPlan)
      plan.agentList.entries ∅ endpointsDone
  (⟨endpointPlanResult, agentPlanResult⟩, agentsDone)

end Manager

end MavlinkHub
