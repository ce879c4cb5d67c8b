/-
This file asks which commands have a defined outcome. Two runs of a command that differ
only in what uninitialised members happen to hold are compared. The success of a command
that is not carried out is such a member, and so is the policy of a plan whose document
gives none.

That policy is read twice. Whether the document is accepted depends on it unless its lists
are well-formed, which every policy accepts. The plan is then kept with whatever the member
holds, and a later command that applies it reports what that policy makes of it.
-/

import MavlinkHub.PlanPolicy
import MavlinkHub.PlanReports
import MavlinkHub.Startup

namespace MavlinkHub

open JsonUtils Manager

/-- The service does something about a command. -/
def AppServiceCommandType.CarriedOut : AppServiceCommandType → Prop
  | .getCurrentPlan | .getStatus | .addMavlinkEndpoint | .editMavlinkEndpoint
  | .connectMavlinkEndpoint | .disconnectMavlinkEndpoint | .removeMavlinkEndpoint | .addAgent
  | .editAgent | .startAgent | .stopAgent | .removeAgent => False
  | _ => True

/-- The text that a command loads a plan from. -/
def AppServiceCommand.planText (cmd : AppServiceCommand) (file : Option String) :
    Option String :=
  match cmd.cmdType with
  | .loadPlanFromPath => file
  | .loadPlanFromJsonText => some cmd.payload
  | _ => none

/-! ### Uninitialised members -/

/-- What the members that nothing initialises hold in one run: the success of the result, the
policy of a plan that the command parses, and that of the plan the service keeps. -/
structure CommandMemory where
  success : Bool
  parsedPolicy : UserPlanPolicy
  keptPolicy : UserPlanPolicy

/-- A plan that the service keeps. Its policy is missing if its document gave none. -/
structure KeptPlan where
  endpointList : Traversal MavlinkEndpointEntry
  agentList : Traversal AgentEntry
  policy : Option UserPlanPolicy

/-- The plan in a run, where a missing policy is whatever its member holds. -/
def KeptPlan.plan (kept : KeptPlan) (memory : UserPlanPolicy) : UserPlan where
  endpointList := kept.endpointList
  agentList := kept.agentList
  policy := kept.policy.getD memory

/-- What both runs of a command find. -/
structure CommandSetting (sdk : Sdk) where
  jsoncons : Jsoncons
  file : Option String := none
  order : VisitingOrder
  managerOrder : VisitingOrder
  kept : Option KeptPlan := none
  world : World sdk

namespace CommandSetting

variable {sdk : Sdk} (setting : CommandSetting sdk) (cmd : AppServiceCommand)

/-- The service in a run. -/
def service (memory : CommandMemory) : AppServiceImpl where
  currentPlan := setting.kept.map (·.plan memory.keptPolicy)

/-- `AppService::executeCommand` in a run, over the manager. -/
def run (memory : CommandMemory) : CommandResult × AppServiceImpl × World sdk :=
  AppService.executeCommand setting.jsoncons (Manager.interface setting.managerOrder) cmd
    ⟨setting.file, memory.success, memory.parsedPolicy, setting.order⟩ (setting.service memory)
    setting.world

/-- jsoncons reads every report of the kept plan back. -/
def ReportsInvert : Prop :=
  ∀ kept ∈ setting.kept, ∀ policy, setting.jsoncons.Inverts
    (executionResult setting.order setting.order
      (executePlan (kept.plan policy) setting.world).1)

end CommandSetting

/-- A command has the same result in all runs, and reports no success if it is not carried
out. -/
structure DefinedOutcome {sdk : Sdk} (setting : CommandSetting sdk) (cmd : AppServiceCommand) :
    Prop where
  same : ∀ memory garbage, (setting.run cmd memory).1 = (setting.run cmd garbage).1
  refused : ¬cmd.cmdType.CarriedOut → ∀ memory, (setting.run cmd memory).1.success = false

/-- A command is carried out. A plan document that it loads names a policy or has well-formed
lists, and of a kept plan without a policy that it applies all entries validate or none. -/
structure OutcomeDecided {sdk : Sdk} (setting : CommandSetting sdk) (cmd : AppServiceCommand) :
    Prop where
  carriedOut : cmd.cmdType.CarriedOut
  loads : ∀ text, cmd.planText setting.file = some text →
    ∀ planJson, setting.jsoncons.parse text = some planJson →
      planJson.contains "policy" = true ∨ ListsWellFormed planJson
  applies : cmd.cmdType = .applyCurrentPlan → ∀ kept ∈ setting.kept, kept.policy = none →
    ValidatesAlike (kept.plan .discard) setting.world

/-! ### Loading a plan -/

section Loads

variable {jsoncons : Jsoncons} {order : VisitingOrder} {text : String} {planJson : Json}

/-- A load tells whether the plan was accepted, and no more. -/
theorem finishLoad_result_eq_iff {first second : Option UserPlan}
    {service other : AppServiceImpl} :
    (AppService.finishLoad first service).1 = (AppService.finishLoad second other).1 ↔
      first.isSome = second.isSome := by
  cases first with
  | none =>
    cases second with
    | none => exact iff_of_true rfl rfl
    | some plan => exact iff_of_false (fun same => by cases same) Bool.false_ne_true
  | some plan =>
    cases second with
    | none => exact iff_of_false (fun same => by cases same) Bool.false_ne_true.symm
    | some other => exact iff_of_true rfl rfl

/-- A document is accepted or refused under all policies alike exactly if it names one or has
well-formed lists. -/
theorem planAccepted_iff :
    (∀ policy otherPolicy,
      (stringToUserPlan jsoncons order policy text).isSome =
        (stringToUserPlan jsoncons order otherPolicy text).isSome) ↔
      ∀ planJson, jsoncons.parse text = some planJson →
        planJson.contains "policy" = true ∨ ListsWellFormed planJson := by
  simp only [stringToUserPlan]
  cases jsoncons.parse text with
  | none =>
    refine iff_of_true (fun _ _ => rfl) ?_
    rintro planJson ⟨⟩
  | some planJson =>
    simp only [Option.some.injEq, forall_eq']
    have decided : (∀ memory garbage : StartupMemory,
        (true && (jsonToUserPlan jsoncons order memory.policy planJson).isSome) =
          (true && (jsonToUserPlan jsoncons order garbage.policy planJson).isSome)) ↔
        (planJson.contains "policy" = true ∨ ListsWellFormed planJson) :=
      planDecided_iff (some true)
    simp only [Bool.true_and] at decided
    rw [← decided]
    constructor
    · intro same memory garbage
      exact same memory.policy garbage.policy
    · intro same policy otherPolicy
      exact same ⟨true, false, policy, false⟩ ⟨true, false, otherPolicy, false⟩

/-- What the service keeps of a document without a policy. -/
def keptOf (jsoncons : Jsoncons) (order : VisitingOrder) (planJson : Json) : KeptPlan where
  endpointList := order.visit (entriesAt (endpointEntry jsoncons) "endpoint_list" planJson)
  agentList := order.visit (entriesAt (agentEntry jsoncons) "agent_list" planJson)
  policy := none

theorem stringToUserPlan_of_missing (parsed : jsoncons.parse text = some planJson)
    (missing : ¬planJson.contains "policy" = true) (accepted : ListsWellFormed planJson)
    (memory : UserPlanPolicy) :
    stringToUserPlan jsoncons order memory text =
      some ((keptOf jsoncons order planJson).plan memory) := by
  simp only [stringToUserPlan, parsed,
    jsonToUserPlan_of_wellFormed (planPolicy_of_missing missing memory) accepted]
  rfl

end Loads

section Outcomes

variable {sdk : Sdk} {setting : CommandSetting sdk} {cmd : AppServiceCommand} {text : String}

theorem result_of_planText (loads : cmd.planText setting.file = some text)
    (memory : CommandMemory) :
    (setting.run cmd memory).1 =
      (AppService.finishLoad
        (stringToUserPlan setting.jsoncons setting.order memory.parsedPolicy text)
        (setting.service memory)).1 := by
  obtain ⟨cmdType, payload⟩ := cmd
  cases cmdType with
  | loadPlanFromPath =>
    have opened : setting.file = some text := loads
    simp only [CommandSetting.run, AppService.executeCommand, opened]
    rfl
  | loadPlanFromJsonText =>
    cases loads
    rfl
  | _ => cases loads

/-- A command that is carried out, and neither loads a plan nor applies one, assigns its result
without reading a policy. -/
theorem result_of_carriedOut (carried : cmd.cmdType.CarriedOut)
    (loads : cmd.planText setting.file = none) (other : cmd.cmdType ≠ .applyCurrentPlan)
    (memory garbage : CommandMemory) :
    (setting.run cmd memory).1 = (setting.run cmd garbage).1 := by
  obtain ⟨cmdType, payload⟩ := cmd
  cases cmdType with
  | loadPlanFromPath =>
    have missing : setting.file = none := loads
    simp only [CommandSetting.run, AppService.executeCommand, missing]
  | loadPlanFromJsonText => cases loads
  | checkCurrentPlan =>
    simp only [CommandSetting.run, AppService.executeCommand, CommandSetting.service]
    cases setting.kept <;> rfl
  | applyCurrentPlan => exact absurd rfl other
  | _ => first | rfl | exact carried.elim

/-- A command that is not carried out returns its result as it was created. -/
theorem result_of_not_carriedOut (left : ¬cmd.cmdType.CarriedOut) (memory : CommandMemory) :
    (setting.run cmd memory).1 = { success := memory.success } := by
  obtain ⟨cmdType, payload⟩ := cmd
  cases cmdType <;> first | rfl | exact absurd trivial left

/-- The result of applying a plan is its report. -/
theorem result_of_apply {payload : String} {kept : KeptPlan} (keeps : setting.kept = some kept)
    (memory : CommandMemory) :
    (setting.run ⟨.applyCurrentPlan, payload⟩ memory).1 =
      { success := true
        message := ["[AppService]: The current plan is applied and the detailed report has " ++
          "been produced."]
        data := executionResultListToJsonString setting.jsoncons setting.order
          (executePlan (kept.plan memory.keptPolicy) setting.world).1 } := by
  simp only [CommandSetting.run, AppService.executeCommand, CommandSetting.service, keeps,
    Option.map_some]
  rfl

theorem KeptPlan.plan_of_missing {kept : KeptPlan} (missing : kept.policy = none)
    (memory : UserPlanPolicy) :
    kept.plan memory = (kept.plan .discard).withPolicy memory := by
  simp only [KeptPlan.plan, UserPlan.withPolicy, missing, Option.getD_none]

/-- Applying a plan reports the same under all policies exactly if its entries validate
alike. -/
theorem applied_eq_iff {kept : KeptPlan} {payload : String} (keeps : setting.kept = some kept)
    (missing : kept.policy = none)
    (inverts : ∀ policy, setting.jsoncons.Inverts (executionResult setting.order setting.order
      (executePlan (kept.plan policy) setting.world).1)) :
    (∀ memory garbage, (setting.run ⟨.applyCurrentPlan, payload⟩ memory).1 =
        (setting.run ⟨.applyCurrentPlan, payload⟩ garbage).1) ↔
      ValidatesAlike (kept.plan .discard) setting.world := by
  rw [← executePlan_policy_iff]
  simp only [result_of_apply keeps, CommandResult.mk.injEq, true_and,
    executionResultListToJsonString_eq_iff (inverts _) (inverts _),
    ← KeptPlan.plan_of_missing missing]
  constructor
  · intro same policy other
    exact same ⟨true, policy, policy⟩ ⟨true, other, other⟩
  · intro same memory garbage
    exact same memory.keptPolicy garbage.keptPolicy

/-- Applying the current plan has the same result in all runs exactly if there is no plan, its
policy was assigned, or its entries validate alike. -/
theorem apply_same_iff {payload : String} (inverts : setting.ReportsInvert) :
    (∀ memory garbage, (setting.run ⟨.applyCurrentPlan, payload⟩ memory).1 =
        (setting.run ⟨.applyCurrentPlan, payload⟩ garbage).1) ↔
      ∀ kept ∈ setting.kept, kept.policy = none →
        ValidatesAlike (kept.plan .discard) setting.world := by
  cases keeps : setting.kept with
  | none =>
    refine iff_of_true (fun memory garbage => ?_) ?_
    · simp only [CommandSetting.run, AppService.executeCommand, CommandSetting.service, keeps,
        Option.map_none]
    · rintro kept ⟨⟩
  | some kept =>
    simp only [Option.mem_some_iff, forall_eq']
    cases given : kept.policy with
    | none =>
      rw [applied_eq_iff keeps given (inverts kept (Option.mem_def.mpr keeps))]
      simp only [forall_const]
    | some policy =>
      refine iff_of_true (fun memory garbage => ?_) ?_
      · simp only [result_of_apply keeps, KeptPlan.plan, given, Option.getD_some]
      · rintro ⟨⟩

/-- Loading a plan has the same result in all runs exactly if every policy accepts it. -/
theorem load_same_iff (loads : cmd.planText setting.file = some text) :
    (∀ memory garbage, (setting.run cmd memory).1 = (setting.run cmd garbage).1) ↔
      ∀ planJson, setting.jsoncons.parse text = some planJson →
        planJson.contains "policy" = true ∨ ListsWellFormed planJson := by
  have accepted : (∀ policy otherPolicy,
      (stringToUserPlan setting.jsoncons setting.order policy text).isSome =
        (stringToUserPlan setting.jsoncons setting.order otherPolicy text).isSome) ↔ _ :=
    planAccepted_iff
  rw [← accepted]
  simp only [result_of_planText loads, finishLoad_result_eq_iff]
  constructor
  · intro same policy otherPolicy
    exact same ⟨true, policy, policy⟩ ⟨true, otherPolicy, otherPolicy⟩
  · intro same memory garbage
    exact same memory.parsedPolicy garbage.parsedPolicy

/-- A command that is carried out has the same result in all runs exactly if its outcome is
decided. -/
theorem same_iff_of_carriedOut (inverts : setting.ReportsInvert)
    (carried : cmd.cmdType.CarriedOut) :
    (∀ memory garbage, (setting.run cmd memory).1 = (setting.run cmd garbage).1) ↔
      OutcomeDecided setting cmd := by
  by_cases applies : cmd.cmdType = .applyCurrentPlan
  · obtain ⟨cmdType, payload⟩ := cmd
    subst applies
    rw [apply_same_iff inverts]
    constructor
    · intro alike
      refine ⟨carried, ?_, fun _ => alike⟩
      rintro text ⟨⟩
    · intro decided
      exact decided.applies rfl
  · cases loads : cmd.planText setting.file with
    | none =>
      refine iff_of_true (result_of_carriedOut carried loads applies)
        ⟨carried, ?_, fun isApply => absurd isApply applies⟩
      intro text found
      rw [loads] at found
      cases found
    | some text =>
      rw [load_same_iff loads]
      constructor
      · intro accepted
        refine ⟨carried, ?_, fun isApply => absurd isApply applies⟩
        intro other found
        rw [loads, Option.some.injEq] at found
        exact found ▸ accepted
      · intro decided
        exact decided.loads text loads

end Outcomes

/-- A command has a defined outcome exactly if it is carried out, any plan document that it loads
names a policy or has well-formed lists, and of a kept plan without a policy that it applies
all entries validate or none. -/
theorem definedOutcome_iff {sdk : Sdk} {setting : CommandSetting sdk}
    (inverts : setting.ReportsInvert) (cmd : AppServiceCommand) :
    DefinedOutcome setting cmd ↔ OutcomeDecided setting cmd := by
  by_cases carried : cmd.cmdType.CarriedOut
  · rw [← same_iff_of_carriedOut inverts carried]
    constructor
    · intro defined
      exact defined.same
    · intro same
      exact ⟨same, fun left => absurd carried left⟩
  · refine iff_of_false (fun defined => ?_) fun decided => carried decided.carriedOut
    have reported := defined.refused carried ⟨true, .discard, .discard⟩
    rw [result_of_not_carriedOut carried] at reported
    cases reported

/-! ### Undefined outcomes -/

/-- A plan document without a policy, and with an endpoint that is not well-formed. -/
def unruledPlan : Json :=
  .object [("endpoint_list", .array [.object [("name", .string "link")]])]

/-- A plan document without a policy, for an endpoint of an unknown type and an agent. -/
def dividedPlan : Json :=
  .object
    [("agent_list", .array [.object
      [("config", .object []), ("name", .string "courier"), ("type", .string "courier")]]),
    ("endpoint_list", .array [.object
      [("config", .object []), ("connect_on_create", .bool true), ("name", .string "link"),
        ("type", .string "tcp")]])]

/-- What the service keeps of it. -/
def dividedKept : KeptPlan where
  endpointList := AList.singleton "link" ⟨"tcp", ∅, true⟩
  agentList := AList.singleton "courier" ⟨"courier", ∅, false⟩
  policy := none

theorem keptOf_dividedPlan (jsoncons : Jsoncons) (order : VisitingOrder) :
    keptOf jsoncons order dividedPlan = dividedKept := by
  have endpoints : entriesAt (endpointEntry jsoncons) "endpoint_list" dividedPlan =
      Finmap.singleton "link" ⟨"tcp", ∅, true⟩ := rfl
  have agents : entriesAt (agentEntry jsoncons) "agent_list" dividedPlan =
      Finmap.singleton "courier" ⟨"courier", ∅, false⟩ := rfl
  rw [keptOf, endpoints, agents, visit_singleton, visit_singleton]
  rfl

theorem dividedKept_divided : ¬ValidatesAlike (dividedKept.plan .discard) sampleWorld := by
  rintro (accepts | refuses)
  · exact absurd (accepts.1 "link" List.mem_cons_self) (by decide)
  · exact absurd (refuses.2 "courier" List.mem_cons_self) (by decide)

/-- The report on it when the result for the agent is the given one. -/
def dividedReport (courier : OperationResult) : ExecutionResultList where
  endpointPlanResult := Finmap.singleton "link"
    ⟨false, ["[Manager]: The name [link] is AVAILABLE to be used as a Mavlink Endpoint name.",
      "[Manager]: The endpoint type [tcp] is not registered."]⟩
  agentPlanResult := Finmap.singleton "courier" courier

theorem executePlan_dividedKept {policy : UserPlanPolicy} {discardPlan : Bool}
    {courier : OperationResult}
    (flag : discardsPlan (dividedKept.plan policy)
      (validatePlan (dividedKept.plan policy) sampleWorld) = discardPlan)
    (reported : (executeAgentEntry
      (validatePlan (dividedKept.plan policy) sampleWorld).agentPlanResult discardPlan "courier"
      ⟨"courier", ∅, false⟩ sampleWorld).1 = courier) :
    (executePlan (dividedKept.plan policy) sampleWorld).1 = dividedReport courier := by
  simp only [executePlan, flag]
  exact congrArg (ExecutionResultList.mk _) (congrArg (Finmap.singleton "courier") reported)

/-- The result for the agent if the policy holds `DISCARD`. -/
def courierDiscarded : OperationResult :=
  ⟨false, ["[Manager]: Agent [courier] is valid but the plan is discarded because of the policy"]⟩

/-- The result for the agent if it holds anything else. -/
def courierAdded : OperationResult :=
  ⟨true, ["[Manager] : Agent [courier] is added."]⟩

theorem executePlan_dividedKept_discard :
    (executePlan (dividedKept.plan .discard) sampleWorld).1 = dividedReport courierDiscarded := by
  have flag : discardsPlan (dividedKept.plan .discard)
      (validatePlan (dividedKept.plan .discard) sampleWorld) = true := by decide
  exact executePlan_dividedKept flag (by decide)

theorem executePlan_dividedKept_lenient {policy : UserPlanPolicy} (lenient : policy ≠ .discard) :
    (executePlan (dividedKept.plan policy) sampleWorld).1 = dividedReport courierAdded := by
  have flag : discardsPlan (dividedKept.plan policy)
      (validatePlan (dividedKept.plan policy) sampleWorld) = false :=
    discardsPlan_eq.mpr fun strict => absurd strict lenient
  have reported : (executeAgentEntry
      (validatePlan (dividedKept.plan .discard) sampleWorld).agentPlanResult false "courier"
      ⟨"courier", ∅, false⟩ sampleWorld).1 = courierAdded := by decide
  exact executePlan_dividedKept flag reported

/-- What the report is written as. -/
def dividedReportJson (courier : OperationResult) : Json :=
  .object
    [("agent_plan_result", .array [resultToJson "courier" courier]),
      ("endpoint_plan_result", .array [resultToJson "link" ⟨false,
        ["[Manager]: The name [link] is AVAILABLE to be used as a Mavlink Endpoint name.",
          "[Manager]: The endpoint type [tcp] is not registered."]⟩])]

theorem executionResult_dividedReport (order : VisitingOrder) (courier : OperationResult) :
    executionResult order order (dividedReport courier) = dividedReportJson courier := by
  rw [executionResult_eq, dividedReport, visit_singleton, visit_singleton]
  rfl

/-- The documents of the sample. -/
def dividedDocuments : List Json :=
  [dividedPlan, unruledPlan, dividedReportJson courierDiscarded, dividedReportJson courierAdded]

/-- The sample world, and a service that keeps the divided plan. -/
def dividedSetting (order : VisitingOrder) : CommandSetting sampleSdk where
  jsoncons := .reading dividedDocuments
  order := order
  managerOrder := order
  kept := some dividedKept
  world := sampleWorld

theorem dividedSetting_reportsInvert (order : VisitingOrder) :
    (dividedSetting order).ReportsInvert := by
  rintro kept ⟨⟩ policy
  show (Jsoncons.reading dividedDocuments).Inverts
    (executionResult order order (executePlan _ sampleWorld).1)
  by_cases strict : policy = .discard
  · rw [strict, executePlan_dividedKept_discard, executionResult_dividedReport]
    exact Jsoncons.reading_inverts_tail (by decide) (Jsoncons.reading_inverts_tail (by decide)
      (Jsoncons.reading_inverts_head _ _))
  · rw [executePlan_dividedKept_lenient strict, executionResult_dividedReport]
    exact Jsoncons.reading_inverts_tail (by decide) (Jsoncons.reading_inverts_tail (by decide)
      (Jsoncons.reading_inverts_tail (by decide) (Jsoncons.reading_inverts_head _ _)))

/-- The report on the divided plan is undefined. -/
theorem definedOutcome_iff_sample :
    ¬DefinedOutcome (dividedSetting (Classical.arbitrary VisitingOrder))
      ⟨.applyCurrentPlan, ""⟩ := by
  rw [definedOutcome_iff (dividedSetting_reportsInvert _)]
  exact fun decided => dividedKept_divided (decided.applies rfl dividedKept rfl rfl)

/-- The status command reports what its result held before. A plan without a policy is loaded or
refused by what its policy holds, and if it is kept, its report depends on that as well. -/
theorem undefinedOutcomes :
    let order := Classical.arbitrary VisitingOrder
    let setting := dividedSetting order
    (setting.run ⟨.getStatus, ""⟩ ⟨true, .discard, .discard⟩).1 = { success := true } ∧
      ¬DefinedOutcome setting ⟨.getStatus, ""⟩ ∧
      ¬DefinedOutcome setting ⟨.loadPlanFromJsonText, unruledPlan.compact⟩ ∧
      (∀ memory, (setting.run ⟨.loadPlanFromJsonText, dividedPlan.compact⟩ memory).2.1 =
        setting.service { memory with keptPolicy := memory.parsedPolicy }) ∧
      ¬DefinedOutcome setting ⟨.applyCurrentPlan, ""⟩ := by
  intro order setting
  have unruled : setting.jsoncons.parse unruledPlan.compact = some unruledPlan :=
    Jsoncons.reading_inverts_tail (by decide) (Jsoncons.reading_inverts_head _ _)
  have divided : setting.jsoncons.parse dividedPlan.compact = some dividedPlan :=
    Jsoncons.reading_inverts_head _ _
  refine ⟨rfl, ?_, ?_, ?_, ?_⟩
  · intro defined
    exact Bool.noConfusion (defined.refused id ⟨true, .discard, .discard⟩)
  · intro defined
    exact absurd ((load_same_iff rfl).mp defined.same unruledPlan unruled) (by decide)
  · intro memory
    have missing : ¬dividedPlan.contains "policy" = true := by decide
    have loaded : stringToUserPlan setting.jsoncons setting.order memory.parsedPolicy
        dividedPlan.compact = some (dividedKept.plan memory.parsedPolicy) := by
      rw [stringToUserPlan_of_missing divided missing (by decide), keptOf_dividedPlan]
    simp only [CommandSetting.run, AppService.executeCommand, loaded]
    rfl
  · intro defined
    exact dividedKept_divided ((apply_same_iff (dividedSetting_reportsInvert order)).mp
      defined.same dividedKept rfl rfl)

end MavlinkHub
