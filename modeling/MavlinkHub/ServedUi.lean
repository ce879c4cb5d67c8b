/-
This file puts the UI in front of the hub: every service call of the controller, by a
worker or by a refresh, is answered by the application service over the manager, while
the manager goes on under operations of its own. A service call is answered in one step
here, at its return; what a query reads while the manager goes on is the subject of
`BulkQueries`.

The commands that the controller can issue are the eight queries of its menu. So the UI
leaves no trace in the hub, and whatever it stores or shows is an answer to one of them.
-/

import MavlinkHub.Overview
import MavlinkHub.Stopping

namespace MavlinkHub

open JsonUtils Transition

/-! ### What a controller asks and gets -/

/-- The command is on the menu. -/
def AppServiceCommand.OnMenu (cmd : AppServiceCommand) : Prop :=
  ∃ descriptor ∈ CliUiController.commandDescriptors, descriptor.type = cmd.cmdType

/-- The commands of the menu load, apply and delete no plan. -/
theorem AppServiceCommand.OnMenu.isQuery {cmd : AppServiceCommand} (onMenu : cmd.OnMenu) :
    cmd.cmdType ≠ .applyCurrentPlan ∧ cmd.cmdType ≠ .deleteCurrentPlan ∧
      cmd.cmdType ≠ .loadPlanFromPath ∧ cmd.cmdType ≠ .loadPlanFromJsonText := by
  obtain ⟨descriptor, member, same⟩ := onMenu
  have queries : ∀ descriptor ∈ CliUiController.commandDescriptors,
      descriptor.type ≠ .applyCurrentPlan ∧ descriptor.type ≠ .deleteCurrentPlan ∧
        descriptor.type ≠ .loadPlanFromPath ∧ descriptor.type ≠ .loadPlanFromJsonText := by
    decide
  rw [← same]
  exact queries descriptor member

namespace CliUiController

variable {controller : CliUiController} {jsoncons : Jsoncons} {truncate : String → Int}
  {event : Event} {stage : Option CommandStage}

theorem onMenu_of_committedDescriptor {descriptor : AppServiceCommandDescriptor} {payload : String}
    (committed : controller.committedDescriptor = some descriptor) :
    AppServiceCommand.OnMenu ⟨descriptor.type, payload⟩ := by
  rw [committedDescriptor] at committed
  split_ifs at committed
  exact ⟨descriptor, List.mem_of_getElem? committed, rfl⟩

/-- The commands that were accepted are on the menu, and what is kept or shown was stored. -/
structure Sourced (controller : CliUiController) : Prop where
  accepted : ∀ cmd, .accept cmd ∈ controller.history → cmd.OnMenu
  kept : ∀ result, controller.commandResult = some result →
    ∃ cmd, .store cmd result ∈ controller.history
  read : ∀ result, controller.uiCall = .rendering result →
    ∃ cmd, .store cmd result ∈ controller.history
  shown : ∀ name result, controller.resultPane = some (name, result) →
    ∃ cmd, .store cmd result ∈ controller.history

/-- What an event does not store or show it takes over. -/
theorem Sourced.of_history (sourced : controller.Sourced) {moved : CliUiController}
    {actions : List CommandAction} (history : moved.history = controller.history ++ actions)
    (accepted : ∀ cmd, .accept cmd ∈ actions → cmd.OnMenu)
    (kept : ∀ result, moved.commandResult = some result →
      controller.commandResult = some result ∨ ∃ cmd, .store cmd result ∈ actions)
    (read : ∀ result, moved.uiCall = .rendering result →
      controller.uiCall = .rendering result ∨ controller.commandResult = some result)
    (shown : ∀ name result, moved.resultPane = some (name, result) →
      controller.resultPane = some (name, result) ∨ controller.uiCall = .rendering result) :
    moved.Sourced := by
  have longer {result : CommandResult} (stored : ∃ cmd, .store cmd result ∈ controller.history) :
      ∃ cmd, .store cmd result ∈ moved.history := by
    obtain ⟨cmd, member⟩ := stored
    exact ⟨cmd, history ▸ List.mem_append_left _ member⟩
  refine ⟨fun cmd member => ?_, fun result found => ?_, fun result found => ?_,
    fun name result found => ?_⟩
  · rw [history] at member
    exact (List.mem_append.mp member).elim (sourced.accepted cmd) (accepted cmd)
  · rcases kept result found with old | ⟨cmd, new⟩
    · exact longer (sourced.kept result old)
    · exact ⟨cmd, history ▸ List.mem_append_right _ new⟩
  · exact longer ((read result found).elim (sourced.read result) (sourced.kept result))
  · exact longer ((shown name result found).elim (sourced.shown name result)
      (sourced.read result))

/-- Most events write nothing, store nothing and have nothing to show. -/
theorem Sourced.of_silent (sourced : controller.Sourced) {moved : CliUiController}
    (history : moved.history = controller.history)
    (commandResult : moved.commandResult = controller.commandResult ∨ moved.commandResult = none)
    (uiCall : moved.uiCall = controller.uiCall ∨ ∀ result, moved.uiCall ≠ .rendering result)
    (resultPane : moved.resultPane = controller.resultPane ∨ moved.resultPane = none) :
    moved.Sourced := by
  refine sourced.of_history (history.trans (List.append_nil _).symm)
    (fun _ member => absurd member List.not_mem_nil) (fun result found => .inl ?_)
    (fun result found => .inl ?_) fun name result found => .inl ?_
  · rcases commandResult with same | none
    · rwa [← same]
    · rw [none] at found
      cases found
  · exact uiCall.elim (fun same => same ▸ found) fun other => absurd found (other result)
  · rcases resultPane with same | none
    · rwa [← same]
    · rw [none] at found
      cases found

theorem Sourced.next (sourced : controller.Sourced) (enabled : controller.Enabled event) :
    (controller.next jsoncons truncate event).Sourced := by
  cases event with
  | commitCommand | setPayload | clearPayload | finish =>
    exact sourced.of_silent rfl (.inl rfl) (.inl rfl) (.inl rfl)
  | clearResult => exact sourced.of_silent rfl (.inr rfl) (.inl rfl) (.inl rfl)
  | joinExecution | updateOverviewData | startThread =>
    exact sourced.of_silent rfl (.inl rfl) (.inr fun _ => UiCall.noConfusion) (.inl rfl)
  | joined cmd =>
    refine sourced.of_silent rfl (.inl rfl) (.inr fun _ found => ?_) (.inl rfl)
    cases cmd <;> cases found
  | executeCurrentCommand =>
    rw [CliUiController.next]
    rcases controller.executeCurrentCommand_cases with same | ⟨descriptor, committed, _, same⟩
    · rw [same]
      exact sourced
    · rw [same]
      refine sourced.of_history rfl (fun cmd member => ?_) (fun _ => .inl) (fun _ found => ?_)
        fun _ _ => .inl
      · cases List.mem_singleton.mp member
        exact onMenu_of_committedDescriptor committed
      · cases found
  | render =>
    rw [CliUiController.next, render]
    split
    · exact sourced.of_silent rfl (.inl rfl) (.inl rfl) (.inr rfl)
    · next result stored =>
      refine sourced.of_history (List.append_nil _).symm
        (fun _ member => absurd member List.not_mem_nil) (fun _ => .inl) (fun other found => ?_)
        fun _ _ => .inl
      cases found
      exact .inr stored
  | agentsReturn result =>
    obtain ⟨uiCall, tables, free, same⟩ := @agentsReturn_cases controller jsoncons truncate result
    rw [CliUiController.next, same]
    refine sourced.of_silent rfl (.inl rfl) (.inr fun _ found => ?_) (.inl rfl)
    rcases free with rfl | rfl <;> cases found
  | endpointsReturn result =>
    obtain ⟨uiCall, tables, free, same⟩ :=
      @endpointsReturn_cases controller jsoncons truncate result
    rw [CliUiController.next, same]
    refine sourced.of_silent rfl (.inl rfl) (.inr fun _ found => ?_) (.inl rfl)
    rcases free with rfl | rfl <;> cases found
  | renderName result =>
    refine sourced.of_history (List.append_nil _).symm
      (fun _ member => absurd member List.not_mem_nil) (fun _ => .inl) (fun _ found => ?_)
      fun name other found => ?_
    · cases found
    · cases found
      exact .inr enabled
  | call worker cmd =>
    refine sourced.of_history rfl (fun other member => ?_) (fun _ => .inl) (fun _ => .inl)
      fun _ _ => .inl
    cases List.mem_singleton.mp member
  | answer worker cmd result =>
    refine sourced.of_history rfl (fun other member => ?_) (fun _ => .inl) (fun _ => .inl)
      fun _ _ => .inl
    cases List.mem_singleton.mp member
  | store worker cmd result =>
    refine sourced.of_history rfl (fun other member => ?_) (fun other found => ?_) (fun _ => .inl)
      fun _ _ => .inl
    · cases List.mem_singleton.mp member
    · cases found
      exact .inr ⟨cmd, List.mem_singleton.mpr rfl⟩

end CliUiController

/-! ### The controller inside the UI -/

namespace CliUi

variable {ui : CliUi} {jsoncons : Jsoncons} {truncate : String → Int} {event : Event}

/-- The controller moves by its own events, but for the `join` in `stop`. -/
theorem controller_next (jsoncons : Jsoncons) (truncate : String → Int) (ui : CliUi)
    (event : Event) :
    (ui.next jsoncons truncate event).controller = ui.controller ∨
      (∃ move, event = .controller move ∧
        (ui.next jsoncons truncate event).controller =
          ui.controller.next jsoncons truncate move) ∨
      ∃ worker, event = .joined worker ∧
        (ui.next jsoncons truncate event).controller =
          { ui.controller with executeThread := none } := by
  cases event with
  | controller move => exact .inr (.inl ⟨move, rfl, rfl⟩)
  | joined worker =>
    cases worker with
    | none => exact .inl rfl
    | some index => exact .inr (.inr ⟨_, rfl, rfl⟩)
  | _ => exact .inl rfl

/-- The controller has a serial history, and shows what was stored. -/
structure Serial (ui : CliUi) : Prop where
  atStage : ∃ stage, ui.controller.AtStage stage
  sourced : ui.controller.Sourced

theorem serial_initial (tables : OverviewTables) : (initial tables).Serial :=
  ⟨(tracked_initial tables).atStage, fun _ member => absurd member List.not_mem_nil,
    nofun, nofun, nofun⟩

theorem Serial.next (serial : ui.Serial) (enabled : ui.Enabled event) :
    (ui.next jsoncons truncate event).Serial := by
  obtain ⟨⟨stage, atStage⟩, sourced⟩ := serial
  rcases ui.controller_next jsoncons truncate event with
    same | ⟨move, rfl, same⟩ | ⟨worker, rfl, same⟩
  · exact ⟨⟨stage, same ▸ atStage⟩, same ▸ sourced⟩
  · exact ⟨same ▸ atStage.next move enabled.1, same ▸ sourced.next enabled.1⟩
  · refine ⟨⟨stage, ?_⟩, ?_⟩
    · rw [same]
      exact atStage.of_uiCall rfl rfl rfl rfl (fun _ held => by cases held) fun _ _ => rfl
    · rw [same]
      exact sourced.of_silent rfl (.inl rfl) (.inl rfl) (.inl rfl)

/-- A command that a worker gets the answer to is on the menu. -/
theorem Serial.onMenu (serial : ui.Serial) {worker : Nat} {cmd : AppServiceCommand}
    {result : CommandResult} (enabled : ui.Enabled (.controller (.answer worker cmd result))) :
    cmd.OnMenu := by
  have after : (ui.next (.reading []) (fun _ => 0) _).Serial := serial.next enabled
  obtain ⟨⟨stage, atStage⟩, sourced⟩ := after
  have answered : SerialAction.answer cmd result ∈ ui.controller.history ++ [.answer cmd result] :=
    List.mem_append_right _ (List.mem_singleton.mpr rfl)
  exact sourced.accepted cmd ((SerialStage.mem_of_serial atStage.history).2 answered)

/-- The command and the answer of a service call that returns. -/
def Event.returned : Event → Option (AppServiceCommand × CommandResult)
  | .controller (.answer _ cmd result) => some (cmd, result)
  | .controller (.agentsReturn result) => some (⟨.getAgentStatusAll, ""⟩, result)
  | .controller (.endpointsReturn result) => some (⟨.getEndpointStatusAll, ""⟩, result)
  | _ => none

/-- The controller calls the service for nothing but the queries of its menu. -/
theorem Serial.onMenu_of_returned (serial : ui.Serial) (enabled : ui.Enabled event)
    {call : AppServiceCommand × CommandResult} (returned : event.returned = some call) :
    call.1.OnMenu := by
  cases event with
  | controller move =>
    cases move with
    | answer worker cmd result =>
      cases returned
      exact serial.onMenu enabled
    | agentsReturn result =>
      cases returned
      exact ⟨AppServiceCommandType.getAgentStatusAll.descriptor, by decide, rfl⟩
    | endpointsReturn result =>
      cases returned
      exact ⟨AppServiceCommandType.getEndpointStatusAll.descriptor, by decide, rfl⟩
    | _ => cases returned
  | _ => cases returned

end CliUi

/-! ### The UI in front of the hub -/

/-- The UI with the service and the manager that answer it. -/
structure ServedUi (sdk : Sdk) where
  ui : CliUi
  service : AppServiceImpl
  world : World sdk

namespace ServedUi

variable {sdk : Sdk}

/-- What happens: an event of the UI, where a service call that returns has found some inputs, or
a step that the manager takes without the UI. -/
inductive Event (sdk : Sdk)
  | ui (event : CliUi.Event) (inputs : CallInputs)
  | operate (operation : Operation sdk)

/-- The step of the manager. -/
def Event.operation : Event sdk → Option (Operation sdk)
  | .ui _ _ => none
  | .operate operation => some operation

variable (jsoncons : Jsoncons) (truncate : String → Int) (served : ServedUi sdk)

/-- Carry out a command of the UI. -/
def serve (inputs : CallInputs) (cmd : AppServiceCommand) :
    CommandResult × AppServiceImpl × World sdk :=
  AppService.executeCommand jsoncons (Manager.interface inputs.order) cmd inputs served.service
    served.world

/-- When an event can happen: a service call returns what the service answers. -/
def Enabled : Event sdk → Prop
  | .ui event inputs => served.ui.Enabled event ∧
      ∀ call ∈ event.returned, (served.serve jsoncons inputs call.1).1 = call.2
  | .operate _ => True

/-- What an event leads to. -/
def next : Event sdk → ServedUi sdk
  | .ui event inputs =>
    match event.returned with
    | none => { served with ui := served.ui.next jsoncons truncate event }
    | some call =>
      let (_, service, world) := served.serve jsoncons inputs call.1
      { ui := served.ui.next jsoncons truncate event, service, world }
  | .operate operation => { served with world := served.world.perform operation }

/-- The UI in front of the hub. -/
def machine : Machine (ServedUi sdk) (Event sdk) where
  enabled served event := served.Enabled jsoncons event
  next served event := served.next jsoncons truncate event

instance (served : ServedUi sdk) : DecidablePred (served.Enabled jsoncons)
  | .ui event _ => inferInstanceAs (Decidable (_ ∧ ∀ call ∈ event.returned, _))
  | .operate _ => isTrue trivial

instance (served : ServedUi sdk) (event : Event sdk) :
    Decidable ((machine jsoncons truncate).enabled served event) :=
  inferInstanceAs (Decidable (served.Enabled jsoncons event))

/-- The UI as `start` has it when it creates the UI thread: the tables have been refreshed. -/
def started (inputs : AppServiceCommand → CallInputs) (order : VisitingOrder)
    (service : AppServiceImpl) (world : World sdk) : ServedUi sdk :=
  let (tables, service, world) := CliUiController.updateOverviewData jsoncons truncate
    (AppService.interface jsoncons (Manager.interface order) inputs) {} (service, world)
  { ui := .initial tables, service, world }

/-! ### The UI leaves no trace -/

variable {jsoncons truncate served} {first last : ServedUi sdk} {events : List (Event sdk)}

/-- A command of the menu leaves the service and the manager as they are. -/
theorem serve_onMenu {cmd : AppServiceCommand} (onMenu : cmd.OnMenu) (inputs : CallInputs) :
    (served.serve jsoncons inputs cmd).2 = (served.service, served.world) := by
  obtain ⟨unapplied, undeleted, noPath, noText⟩ := onMenu.isQuery
  let call : CommandCall := ⟨cmd, inputs⟩
  have silent : call.writes jsoncons = none := by
    rw [call.writes_eq_none_iff]
    refine ⟨undeleted, ?_⟩
    rw [CommandCall.loads]
    split
    · exact absurd ‹_› noPath
    · exact absurd ‹_› noText
    · rfl
  have plan := @AppService.executeCommand_currentPlan _ jsoncons (Manager.interface inputs.order)
    call served.service served.world
  have state := @AppService.executeCommand_state _ jsoncons (Manager.interface inputs.order) call
    served.service served.world
  rw [silent, Option.getD_none] at plan
  refine Prod.ext (congrArg AppServiceImpl.mk plan) (state.trans ?_)
  cases asked : call.request served.service.currentPlan with
  | none => rfl
  | some request =>
    exact Manager.interface_serve inputs.order (fun plan same =>
      App.request_ne_executePlan unapplied plan (same ▸ asked)) served.world

/-- What the runs of a UI keep. -/
theorem serial_run (run : (machine jsoncons truncate).Runs (fun _ _ => True) first events last)
    (serial : first.ui.Serial) : last.ui.Serial := by
  refine run.invariant (fun served => served.ui.Serial) (fun served event serial enabled _ => ?_)
    serial
  cases event with
  | operate operation => exact serial
  | ui event inputs =>
    have after : (served.ui.next jsoncons truncate event).Serial := serial.next enabled.1
    show (served.next jsoncons truncate (.ui event inputs)).ui.Serial
    rw [next]
    cases event.returned <;> exact after

/-- An event of the UI changes nothing but the UI. -/
theorem next_ui (serial : served.ui.Serial) {event : CliUi.Event} {inputs : CallInputs}
    (enabled : served.Enabled jsoncons (.ui event inputs)) :
    served.next jsoncons truncate (.ui event inputs) =
      { served with ui := served.ui.next jsoncons truncate event } := by
  rw [next]
  cases returned : event.returned with
  | none => rfl
  | some call =>
    have unchanged : (served.serve jsoncons inputs call.1).2 = (served.service, served.world) :=
      serve_onMenu (serial.onMenu_of_returned enabled.1 returned) inputs
    simp only [unchanged]

/-- A refresh leaves the service and the manager as they are. -/
theorem updateOverviewData_state (jsoncons : Jsoncons) (truncate : String → Int)
    (inputs : AppServiceCommand → CallInputs) (order : VisitingOrder) (tables : OverviewTables)
    (service : AppServiceImpl) (world : World sdk) :
    (CliUiController.updateOverviewData jsoncons truncate
      (AppService.interface jsoncons (Manager.interface order) inputs) tables
      (service, world)).2 = (service, world) := by
  let appService : IAppService (AppServiceImpl × World sdk) :=
    AppService.interface jsoncons (Manager.interface order) inputs
  cases agents : CliUiController.refreshRows (agentStatusListFromJsonString jsoncons truncate)
      (appService.executeCommand ⟨.getAgentStatusAll, ""⟩ (service, world)).1
      tables.agentRows with
  | none => exact congrArg Prod.snd (CliUiController.updateOverviewData_of_agents_thrown rfl agents)
  | some agentRows =>
    cases endpoints : CliUiController.refreshRows
        (endpointStatusListFromJsonString jsoncons truncate)
        (appService.executeCommand ⟨.getEndpointStatusAll, ""⟩ (service, world)).1
        tables.endpointRows with
    | none =>
      exact congrArg Prod.snd
        (CliUiController.updateOverviewData_of_endpoints_thrown rfl agents rfl endpoints)
    | some endpointRows =>
      exact congrArg Prod.snd
        (CliUiController.updateOverviewData_of_refreshed rfl agents rfl endpoints)

theorem started_eq (jsoncons : Jsoncons) (truncate : String → Int)
    (inputs : AppServiceCommand → CallInputs) (order : VisitingOrder) (service : AppServiceImpl)
    (world : World sdk) :
    started jsoncons truncate inputs order service world =
      { ui := .initial (CliUiController.updateOverviewData jsoncons truncate
          (AppService.interface jsoncons (Manager.interface order) inputs) {} (service, world)).1
        service, world } := by
  have unchanged := updateOverviewData_state jsoncons truncate inputs order {} service world
  rw [started]
  simp only [unchanged]

/-- The manager takes the steps it takes without the UI, and no others. -/
theorem run_world (run : (machine jsoncons truncate).Runs (fun _ _ => True) first events last)
    (serial : first.ui.Serial) :
    Run World.Step first.world (events.filterMap Event.operation) last.world ∧
      last.service = first.service := by
  refine run.traceInvariant (fun trace served =>
    Run World.Step first.world (trace.filterMap Event.operation) served.world ∧
      served.service = first.service) (fun trace before event after passed held step => ?_)
    ⟨.done _, rfl⟩
  obtain ⟨worldRun, service⟩ := held
  obtain ⟨enabled, _, rfl⟩ := step
  rw [List.filterMap_append]
  cases event with
  | operate operation => exact ⟨worldRun.append (.single rfl), service⟩
  | ui event inputs =>
    have unchanged : before.next jsoncons truncate (.ui event inputs) =
        { before with ui := before.ui.next jsoncons truncate event } :=
      next_ui (serial_run passed serial) enabled
    show Run World.Step first.world (_ ++ []) (before.next jsoncons truncate _).world ∧
      (before.next jsoncons truncate _).service = first.service
    rw [unchanged, List.append_nil]
    exact ⟨worldRun, service⟩

theorem serial_started (jsoncons : Jsoncons) (truncate : String → Int)
    (inputs : AppServiceCommand → CallInputs) (order : VisitingOrder) (service : AppServiceImpl)
    (world : World sdk) : (started jsoncons truncate inputs order service world).ui.Serial := by
  rw [started_eq]
  exact CliUi.serial_initial _

end ServedUi

section Results

variable {sdk : Sdk} {jsoncons : Jsoncons} {truncate : String → Int}
  {inputs : AppServiceCommand → CallInputs} {order : VisitingOrder} {service : AppServiceImpl}
  {world : World sdk} {events : List (ServedUi.Event sdk)} {served : ServedUi sdk}

/-- The UI only reads the hub. Whatever the user does and however its threads interleave with the
manager's own steps, the manager takes those steps and no others, and the service keeps its
plan. Every answer is one to a query of the menu, and whatever is stored or shown is such an
answer. -/
theorem ui_readsOnly
    (run : (ServedUi.machine jsoncons truncate).Runs (fun _ _ => True)
      (.started jsoncons truncate inputs order service world) events served) :
    (Run World.Step world (events.filterMap ServedUi.Event.operation) served.world ∧
        served.service = service) ∧
      (∀ cmd result, .answer cmd result ∈ served.ui.controller.history → cmd.OnMenu) ∧
      ∀ result, (served.ui.controller.commandResult = some result ∨
          ∃ name, served.ui.controller.resultPane = some (name, result)) →
        ∃ cmd, .answer cmd result ∈ served.ui.controller.history := by
  have serial := ServedUi.serial_started jsoncons truncate inputs order service world
  obtain ⟨⟨stage, atStage⟩, sourced⟩ := ServedUi.serial_run run serial
  have traceless := ServedUi.run_world run serial
  rw [ServedUi.started_eq] at traceless
  refine ⟨traceless, fun cmd result answered => ?_, fun result found => ?_⟩
  · exact sourced.accepted cmd ((SerialStage.mem_of_serial atStage.history).2 answered)
  · obtain ⟨cmd, stored⟩ := found.elim (sourced.kept result)
      fun ⟨name, shown⟩ => sourced.shown name result shown
    exact ⟨cmd, (SerialStage.mem_of_serial atStage.history).1 stored⟩

end Results

/-! ### The sample -/

section Sample

/-- The inputs of a call whose answer does not depend on them. -/
noncomputable def someInputs : CallInputs :=
  ⟨none, false, .discard, Classical.arbitrary VisitingOrder⟩

/-- The status of an agent without a name is asked for, and while the worker is in the service a
plan is executed. -/
noncomputable def namelessQuery : List (ServedUi.Event sampleSdk) :=
  let cmd : AppServiceCommand := ⟨.getAgentStatus, ""⟩
  let failure : CommandResult :=
    ⟨false, ["[AppService]: Agent status is not retrieved because the agent name is missing"], ""⟩
  [.ui (.handler .start) someInputs, .ui (.handler .build) someInputs,
    .ui (.handler .built) someInputs, .ui (.handler .install) someInputs,
    .ui (.controller (.commitCommand 4)) someInputs,
    .ui (.controller .executeCurrentCommand) someInputs,
    .ui (.controller (.joined (some cmd))) someInputs,
    .ui (.controller (.startThread cmd)) someInputs,
    .ui (.controller (.call 0 cmd)) someInputs, .operate (.executePlan samplePlan),
    .ui (.controller (.answer 0 cmd failure)) someInputs,
    .ui (.controller (.store 0 cmd failure)) someInputs]

/-- The UI over the empty sample. -/
noncomputable def sampleUi : ServedUi sampleSdk :=
  .started (.reading []) (fun _ => 0) (fun _ => someInputs) someInputs.order {} sampleWorld

theorem ui_readsOnly_sample :
    let served := namelessQuery.foldl (ServedUi.next (.reading []) fun _ => 0) sampleUi
    Run World.Step sampleWorld [.executePlan samplePlan] served.world ∧
      ∃ cmd, .answer cmd ⟨false,
        ["[AppService]: Agent status is not retrieved because the agent name is missing"], ""⟩ ∈
          served.ui.controller.history ∧ cmd.OnMenu := by
  intro served
  have run : (ServedUi.machine (.reading []) fun _ => 0).Runs (fun _ _ => True) sampleUi
      namelessQuery served := Machine.runs_of_play rfl
  obtain ⟨⟨traceless, _⟩, onMenu, answered⟩ := ui_readsOnly run
  obtain ⟨cmd, member⟩ := answered _ (.inl rfl)
  exact ⟨traceless, cmd, member, onMenu cmd _ member⟩

end Sample

end MavlinkHub
