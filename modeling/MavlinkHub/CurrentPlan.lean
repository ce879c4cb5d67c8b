/-
This file follows the plan the application service keeps. A command reaches the
manager through at most one request, which a record of the manager's interface makes
visible, and writes to the kept plan only if it is a load whose text parses or the
deletion. So after any history of commands, whatever else happens to the manager in
between, the service holds what the last such write left.
-/

import MavlinkHub.AppService
import MavlinkHub.Library.Register
import MavlinkHub.Run

namespace MavlinkHub

open JsonUtils

/-! ### Requests to the manager -/

/-- A call of the service into the manager. -/
inductive ManagerRequest
  | validatePlan (plan : UserPlan)
  | executePlan (plan : UserPlan)
  | getMavlinkEndpointList
  | getMavlinkEndpointState (name : String)
  | getMavlinkEndpointStateAll
  | getAgentList
  | getAgentState (name : String)
  | getAgentStateAll
  | getAgentReport (name : String)
  | getAgentReportAll

namespace IManager

variable {State : Type} (manager : IManager State)

/-- What a request leaves of the manager. -/
def serve : ManagerRequest → State → State
  | .validatePlan plan, state => (manager.validatePlan plan state).2
  | .executePlan plan, state => (manager.executePlan plan state).2
  | .getMavlinkEndpointList, state => (manager.getMavlinkEndpointList state).2
  | .getMavlinkEndpointState name, state => (manager.getMavlinkEndpointState name state).2
  | .getMavlinkEndpointStateAll, state => (manager.getMavlinkEndpointStateAll state).2
  | .getAgentList, state => (manager.getAgentList state).2
  | .getAgentState name, state => (manager.getAgentState name state).2
  | .getAgentStateAll, state => (manager.getAgentStateAll state).2
  | .getAgentReport name, state => (manager.getAgentReport name state).2
  | .getAgentReportAll, state => (manager.getAgentReportAll state).2

/-- Answer a call and write it down. -/
def note {Answer : Type} (request : ManagerRequest) (call : State → Answer × State)
    (noted : State × List ManagerRequest) : Answer × (State × List ManagerRequest) :=
  ((call noted.1).1, ((call noted.1).2, noted.2 ++ [request]))

/-- The same manager, with a record of the calls into it. -/
def recorded : IManager (State × List ManagerRequest) where
  validatePlan plan := note (.validatePlan plan) (manager.validatePlan plan)
  executePlan plan := note (.executePlan plan) (manager.executePlan plan)
  getMavlinkEndpointList := note .getMavlinkEndpointList manager.getMavlinkEndpointList
  getMavlinkEndpointState name :=
    note (.getMavlinkEndpointState name) (manager.getMavlinkEndpointState name)
  getMavlinkEndpointStateAll :=
    note .getMavlinkEndpointStateAll manager.getMavlinkEndpointStateAll
  getAgentList := note .getAgentList manager.getAgentList
  getAgentState name := note (.getAgentState name) (manager.getAgentState name)
  getAgentStateAll := note .getAgentStateAll manager.getAgentStateAll
  getAgentReport name := note (.getAgentReport name) (manager.getAgentReport name)
  getAgentReportAll := note .getAgentReportAll manager.getAgentReportAll

theorem recorded_serve (request : ManagerRequest) (noted : State × List ManagerRequest) :
    manager.recorded.serve request noted =
      (manager.serve request noted.1, noted.2 ++ [request]) := by
  cases request <;> rfl

end IManager

/-- The manager behind its interface. Its lists come in the order of its maps. -/
def Manager.interface {sdk : Sdk} (order : VisitingOrder) : IManager (World sdk) where
  validatePlan plan world := (Manager.validatePlan plan world, world)
  executePlan plan world := Manager.executePlan plan world
  getMavlinkEndpointList world := ((order.visit world.endpointDb).keys, world)
  getMavlinkEndpointState name world := (Manager.getMavlinkEndpointState name world, world)
  getMavlinkEndpointStateAll world :=
    (order.visit (Manager.getMavlinkEndpointStateAll order world), world)
  getAgentList world := ((order.visit world.agents).keys, world)
  getAgentState name world := (Manager.getAgentState name world, world)
  getAgentStateAll world := (order.visit (Manager.getAgentStateAll order world), world)
  getAgentReport name world := (Manager.getAgentReport name world, world)
  getAgentReportAll world := (order.visit (Manager.getAgentReportAll order world), world)

/-- The only request that changes the manager is the execution of a plan. -/
theorem Manager.interface_serve {sdk : Sdk} (order : VisitingOrder) {request : ManagerRequest}
    (harmless : ∀ plan, request ≠ .executePlan plan) (world : World sdk) :
    (Manager.interface order).serve request world = world := by
  cases request with
  | executePlan plan => exact absurd rfl (harmless plan)
  | _ => rfl

/-! ### What a command does -/

/-- A call of `executeCommand`. -/
structure CommandCall where
  cmd : AppServiceCommand
  inputs : CallInputs

namespace CommandCall

variable (jsoncons : Jsoncons) (call : CommandCall)

/-- The plan a load command parses; `none` if it fails or the command is not a load. -/
def loads : Option UserPlan :=
  match call.cmd.cmdType with
  | .loadPlanFromPath =>
    call.inputs.file.bind (fstreamToUserPlan jsoncons call.inputs.order call.inputs.policy)
  | .loadPlanFromJsonText =>
    stringToUserPlan jsoncons call.inputs.order call.inputs.policy call.cmd.payload
  | _ => none

/-- What a command writes to the kept plan, `none` if it leaves it alone. -/
def writes : Option (Option UserPlan) :=
  if call.cmd.cmdType = .deleteCurrentPlan then some none else (call.loads jsoncons).map some

theorem writes_eq_none_iff : call.writes jsoncons = none ↔
    call.cmd.cmdType ≠ .deleteCurrentPlan ∧ call.loads jsoncons = none := by
  by_cases deleted : call.cmd.cmdType = .deleteCurrentPlan <;> simp [writes, deleted]

theorem writes_eq_some_some_iff {plan : UserPlan} :
    call.writes jsoncons = some (some plan) ↔ call.loads jsoncons = some plan := by
  by_cases deleted : call.cmd.cmdType = .deleteCurrentPlan
  · simp [writes, loads, deleted]
  · simp [writes, deleted]

/-- The request a command makes when the kept plan is `currentPlan`. -/
def request (currentPlan : Option UserPlan) : Option ManagerRequest :=
  match call.cmd.cmdType with
  | .checkCurrentPlan => currentPlan.map .validatePlan
  | .applyCurrentPlan => currentPlan.map .executePlan
  | .getEndpointList => some .getMavlinkEndpointList
  | .getEndpointStatus =>
    if call.cmd.payload = "" then none else some (.getMavlinkEndpointState call.cmd.payload)
  | .getEndpointStatusAll => some .getMavlinkEndpointStateAll
  | .getAgentList => some .getAgentList
  | .getAgentStatus =>
    if call.cmd.payload = "" then none else some (.getAgentState call.cmd.payload)
  | .getAgentStatusAll => some .getAgentStateAll
  | .getAgentReport =>
    if call.cmd.payload = "" then none else some (.getAgentReport call.cmd.payload)
  | .getAgentReportAll => some .getAgentReportAll
  | _ => none

end CommandCall

namespace AppService

variable {State : Type} {jsoncons : Jsoncons}

@[simp] theorem finishLoad_currentPlan (userPlan : Option UserPlan) (service : AppServiceImpl) :
    (finishLoad userPlan service).2.currentPlan = userPlan.or service.currentPlan := by
  cases userPlan <;> rfl

@[simp] theorem finishLoad_success (userPlan : Option UserPlan) (service : AppServiceImpl) :
    (finishLoad userPlan service).1.success = userPlan.isSome := by
  cases userPlan <;> rfl

/-- A query by name reaches the manager unless the name is empty. -/
theorem queryByName_state {Answer : Type} (kind named : String) (encode : Answer → String)
    (query : String → State → Option Answer × State) (payload : String) (state : State) :
    (queryByName kind named encode query payload state).2 =
      if payload = "" then state else (query payload state).2 := by
  unfold queryByName
  split
  · rfl
  · rcases query payload state with ⟨answer, queried⟩
    cases answer <;> rfl

/-- The plan the service keeps after a command. -/
theorem executeCommand_currentPlan (manager : IManager State) (call : CommandCall)
    (service : AppServiceImpl) (state : State) :
    (executeCommand jsoncons manager call.cmd call.inputs service state).2.1.currentPlan =
      (call.writes jsoncons).getD service.currentPlan := by
  rcases call with ⟨⟨cmdType, payload⟩, inputs⟩
  cases cmdType with
  | loadPlanFromPath =>
    rcases inputs with ⟨file, success, policy, order⟩
    cases file with
    | none => rfl
    | some text =>
      show (finishLoad _ service).2.currentPlan = _
      rw [finishLoad_currentPlan]
      cases parsed : fstreamToUserPlan jsoncons order policy text <;>
        simp [CommandCall.writes, CommandCall.loads, parsed]
  | loadPlanFromJsonText =>
    show (finishLoad _ service).2.currentPlan = _
    rw [finishLoad_currentPlan]
    cases parsed : stringToUserPlan jsoncons inputs.order inputs.policy payload <;>
      simp [CommandCall.writes, CommandCall.loads, parsed]
  | checkCurrentPlan | applyCurrentPlan =>
    rcases service with ⟨_ | plan⟩ <;> rfl
  | _ => rfl

/-- A command reaches the manager through its request and in no other way. -/
theorem executeCommand_state (manager : IManager State) (call : CommandCall)
    (service : AppServiceImpl) (state : State) :
    (executeCommand jsoncons manager call.cmd call.inputs service state).2.2 =
      match call.request service.currentPlan with
      | none => state
      | some request => manager.serve request state := by
  rcases call with ⟨⟨cmdType, payload⟩, inputs⟩
  cases cmdType with
  | loadPlanFromPath => rcases inputs with ⟨_ | text, success, policy, order⟩ <;> rfl
  | checkCurrentPlan | applyCurrentPlan => rcases service with ⟨_ | plan⟩ <;> rfl
  | getEndpointStatus | getAgentStatus | getAgentReport =>
    refine (queryByName_state _ _ _ _ payload state).trans ?_
    by_cases missing : payload = "" <;> simp [CommandCall.request, missing, IManager.serve]
  | _ => rfl

end AppService

/-! ### The service at work -/

/-- The service over its manager, with the calls it has made into the manager so far. -/
structure App (sdk : Sdk) where
  world : World sdk
  service : AppServiceImpl := {}
  requests : List ManagerRequest := []

/-- Something that happens to the application: a command, or a step the manager takes without
the service. -/
inductive AppEvent (sdk : Sdk)
  | command (call : CommandCall)
  | operation (operation : Operation sdk)

/-- What an event writes to the kept plan. -/
def AppEvent.writes {sdk : Sdk} (jsoncons : Jsoncons) : AppEvent sdk → Option (Option UserPlan)
  | .command call => call.writes jsoncons
  | .operation _ => none

namespace App

variable {sdk : Sdk} (jsoncons : Jsoncons)

/-- Carry out a command. -/
def execute (app : App sdk) (call : CommandCall) : CommandResult × App sdk :=
  let (result, service, world, requests) :=
    AppService.executeCommand jsoncons (Manager.interface call.inputs.order).recorded call.cmd
      call.inputs app.service (app.world, app.requests)
  (result, { world := world, service := service, requests := requests })

/-- The effect of an event. -/
def perform (app : App sdk) : AppEvent sdk → App sdk
  | .command call => (app.execute jsoncons call).2
  | .operation operation => { app with world := app.world.perform operation }

/-- The application after a history of events, from a fresh service over a manager. -/
def after (world : World sdk) (events : List (AppEvent sdk)) : App sdk :=
  events.foldl (perform jsoncons) { world := world }

theorem perform_currentPlan (app : App sdk) (event : AppEvent sdk) :
    (app.perform jsoncons event).service.currentPlan =
      (event.writes jsoncons).getD app.service.currentPlan := by
  cases event with
  | command call =>
    exact AppService.executeCommand_currentPlan (Manager.interface call.inputs.order).recorded call
      app.service (app.world, app.requests)
  | operation operation => rfl

/-- After any history the service keeps what the last write to the kept plan left. -/
theorem after_currentPlan (world : World sdk) (events : List (AppEvent sdk)) :
    (after jsoncons world events).service.currentPlan =
      (Register.lastWrite (AppEvent.writes jsoncons) events).getD none :=
  Register.read_foldl (perform jsoncons) (fun app => app.service.currentPlan)
    (perform_currentPlan jsoncons) { world := world } events

/-- A command appends its request to the record, and the manager serves it. -/
theorem execute_request (app : App sdk) (call : CommandCall) :
    ((app.execute jsoncons call).2.world, (app.execute jsoncons call).2.requests) =
      match call.request app.service.currentPlan with
      | none => (app.world, app.requests)
      | some request =>
        ((Manager.interface call.inputs.order).serve request app.world,
          app.requests ++ [request]) := by
  refine (AppService.executeCommand_state (Manager.interface call.inputs.order).recorded call
    app.service (app.world, app.requests)).trans ?_
  cases call.request app.service.currentPlan with
  | none => rfl
  | some request => exact IManager.recorded_serve _ request _

theorem execute_of_request_eq_none {app : App sdk} {call : CommandCall}
    (silent : call.request app.service.currentPlan = none) :
    (app.execute jsoncons call).2.world = app.world ∧
      (app.execute jsoncons call).2.requests = app.requests := by
  have served := app.execute_request jsoncons call
  rw [silent] at served
  exact Prod.mk.inj served

theorem execute_of_request_eq_some {app : App sdk} {call : CommandCall} {request : ManagerRequest}
    (asked : call.request app.service.currentPlan = some request) :
    (app.execute jsoncons call).2.world =
        (Manager.interface call.inputs.order).serve request app.world ∧
      (app.execute jsoncons call).2.requests = app.requests ++ [request] := by
  have served := app.execute_request jsoncons call
  rw [asked] at served
  exact Prod.mk.inj served

variable {jsoncons}

/-- The service holds a plan exactly if some load parsed it and every later command is neither
the deletion nor a load that succeeds. -/
theorem after_currentPlan_eq_some_iff (world : World sdk) (events : List (AppEvent sdk))
    (plan : UserPlan) :
    (after jsoncons world events).service.currentPlan = some plan ↔
      ∃ front call back, events = front ++ .command call :: back ∧
        call.loads jsoncons = some plan ∧ ∀ later, .command later ∈ back →
          later.cmd.cmdType ≠ .deleteCurrentPlan ∧ later.loads jsoncons = none := by
  have silent_iff : ∀ events : List (AppEvent sdk),
      (∀ later ∈ events, later.writes jsoncons = none) ↔ ∀ later, .command later ∈ events →
        later.cmd.cmdType ≠ .deleteCurrentPlan ∧ later.loads jsoncons = none := by
    intro events
    constructor
    · intro silent later member
      exact (later.writes_eq_none_iff jsoncons).mp (silent _ member)
    · rintro silent (later | operation) member
      · exact (later.writes_eq_none_iff jsoncons).mpr (silent later member)
      · rfl
  rw [after_currentPlan, Option.getD_eq_iff, or_iff_left (by simp),
    Register.lastWrite_eq_some_iff]
  constructor
  · rintro ⟨front, call | operation, back, split, written, silent⟩
    · exact ⟨front, call, back, split, (call.writes_eq_some_some_iff jsoncons).mp written,
        (silent_iff back).mp silent⟩
    · cases written
  · rintro ⟨front, call, back, split, loaded, silent⟩
    exact ⟨front, .command call, back, split, (call.writes_eq_some_some_iff jsoncons).mpr loaded,
      (silent_iff back).mpr silent⟩

/-! ### The contract of a command -/

/-- What a command may do to the kept plan and to the manager. -/
structure CommandContract (jsoncons : Jsoncons) (app : App sdk) (call : CommandCall) : Prop where
  load : call.cmd.cmdType = .loadPlanFromPath ∨ call.cmd.cmdType = .loadPlanFromJsonText →
    (app.execute jsoncons call).1.success = (call.loads jsoncons).isSome
  /-- Only a successful load and the deletion change the kept plan. -/
  keep : call.cmd.cmdType ≠ .deleteCurrentPlan → call.loads jsoncons = none →
    (app.execute jsoncons call).2.service = app.service
  check : ∀ plan, call.cmd.cmdType = .checkCurrentPlan → app.service.currentPlan = some plan →
    (app.execute jsoncons call).1.success = true ∧
      (app.execute jsoncons call).2.requests = app.requests ++ [.validatePlan plan]
  apply : ∀ plan, call.cmd.cmdType = .applyCurrentPlan → app.service.currentPlan = some plan →
    (app.execute jsoncons call).1.success = true ∧
      (app.execute jsoncons call).2.requests = app.requests ++ [.executePlan plan] ∧
      (app.execute jsoncons call).2.world = (Manager.executePlan plan app.world).2
  /-- Without a plan neither is carried out, and the manager is not called. -/
  refuse : call.cmd.cmdType = .checkCurrentPlan ∨ call.cmd.cmdType = .applyCurrentPlan →
    app.service.currentPlan = none →
    (app.execute jsoncons call).1.success = false ∧
      (app.execute jsoncons call).2.requests = app.requests ∧
      (app.execute jsoncons call).2.world = app.world
  /-- Only the application of the plan changes the manager. -/
  frame : call.cmd.cmdType ≠ .applyCurrentPlan → (app.execute jsoncons call).2.world = app.world

/-- Only `APPLY_CURRENT_PLAN` asks for the execution of a plan. -/
theorem request_ne_executePlan {call : CommandCall} {currentPlan : Option UserPlan}
    (other : call.cmd.cmdType ≠ .applyCurrentPlan) (plan : UserPlan) :
    call.request currentPlan ≠ some (.executePlan plan) := by
  rcases call with ⟨⟨cmdType, payload⟩, inputs⟩
  cases cmdType with
  | applyCurrentPlan => exact absurd rfl other
  | checkCurrentPlan => cases currentPlan <;> simp [CommandCall.request]
  | getEndpointStatus | getAgentStatus | getAgentReport =>
    by_cases missing : payload = "" <;> simp [CommandCall.request, missing]
  | _ => simp [CommandCall.request]

theorem execute_success_of_load {app : App sdk} {call : CommandCall}
    (load : call.cmd.cmdType = .loadPlanFromPath ∨ call.cmd.cmdType = .loadPlanFromJsonText) :
    (app.execute jsoncons call).1.success = (call.loads jsoncons).isSome := by
  rcases call with ⟨⟨cmdType, payload⟩, file, success, policy, order⟩
  rcases load with rfl | rfl
  · cases file with
    | none => rfl
    | some text => exact AppService.finishLoad_success _ app.service
  · exact AppService.finishLoad_success _ app.service

theorem execute_world_of_ne {app : App sdk} {call : CommandCall}
    (other : call.cmd.cmdType ≠ .applyCurrentPlan) :
    (app.execute jsoncons call).2.world = app.world := by
  cases asked : call.request app.service.currentPlan with
  | none => exact (execute_of_request_eq_none jsoncons asked).1
  | some request =>
    rw [(execute_of_request_eq_some jsoncons asked).1]
    refine Manager.interface_serve call.inputs.order (fun plan same => ?_) app.world
    exact request_ne_executePlan other plan (asked.trans (congrArg some same))

/-- Every command meets the contract, in every state. -/
theorem commandContract (app : App sdk) (call : CommandCall) :
    CommandContract jsoncons app call where
  load := execute_success_of_load
  keep kept failed := by
    have unchanged := app.perform_currentPlan jsoncons (.command call)
    rw [AppEvent.writes, (call.writes_eq_none_iff jsoncons).mpr ⟨kept, failed⟩] at unchanged
    exact congrArg AppServiceImpl.mk unchanged
  check plan checked loaded := by
    have asked : call.request app.service.currentPlan = some (.validatePlan plan) := by
      simp [CommandCall.request, checked, loaded]
    refine ⟨?_, (execute_of_request_eq_some jsoncons asked).2⟩
    simp [execute, AppService.executeCommand, checked, loaded]
  apply plan applied loaded := by
    have asked : call.request app.service.currentPlan = some (.executePlan plan) := by
      simp [CommandCall.request, applied, loaded]
    obtain ⟨executed, noted⟩ := execute_of_request_eq_some jsoncons asked
    refine ⟨?_, noted, executed⟩
    simp [execute, AppService.executeCommand, applied, loaded]
  refuse := by
    rintro (checked | applied) empty
    · have silent : call.request app.service.currentPlan = none := by
        simp [CommandCall.request, checked, empty]
      obtain ⟨same, unnoted⟩ := execute_of_request_eq_none jsoncons silent
      refine ⟨?_, unnoted, same⟩
      simp [execute, AppService.executeCommand, checked, empty]
    · have silent : call.request app.service.currentPlan = none := by
        simp [CommandCall.request, applied, empty]
      obtain ⟨same, unnoted⟩ := execute_of_request_eq_none jsoncons silent
      refine ⟨?_, unnoted, same⟩
      simp [execute, AppService.executeCommand, applied, empty]
  frame := execute_world_of_ne

end App

/-- The service tracks the last plan loaded, and every command meets its contract, after any
history of commands and of steps the manager takes without the service. -/
theorem appService_tracksPlan {sdk : Sdk} (jsoncons : Jsoncons) (world : World sdk)
    (events : List (AppEvent sdk)) :
    (∀ plan, (App.after jsoncons world events).service.currentPlan = some plan ↔
      ∃ front call back, events = front ++ .command call :: back ∧
        call.loads jsoncons = some plan ∧ ∀ later, .command later ∈ back →
          later.cmd.cmdType ≠ .deleteCurrentPlan ∧ later.loads jsoncons = none) ∧
      ∀ call, App.CommandContract jsoncons (App.after jsoncons world events) call :=
  ⟨App.after_currentPlan_eq_some_iff world events, App.commandContract _⟩

end MavlinkHub
