/-
This file transcribes the controller of the UI as a machine of the UI thread and the
worker threads it starts. The calls of the UI thread come one after the other; a call
that waits for another thread, or that reads what another thread writes, is cut into the
parts between which those threads may move. The answers of the service are arbitrary.

The record of what the controller does to its commands is the history of a serial
executor: a command is accepted, called, answered and stored before the next one is
accepted. The flag that is set and cleared under the mutex carries this; the `join` in
between only waits for the callback of a worker that has stored its result.
-/

import MavlinkHub.Library.Machine
import MavlinkHub.Library.SerialHistory
import MavlinkHub.Overview

namespace MavlinkHub

/-- Where a worker thread is. It has stored its result while it runs the callback. -/
inductive WorkerPhase
  | spawned
  | inService
  | returned (result : CommandResult)
  | stored
  | done
  deriving DecidableEq

/-- A worker thread, which has its own copy of its command. -/
structure Worker where
  cmd : AppServiceCommand
  phase : WorkerPhase
  deriving DecidableEq

/-- Which call of the controller the UI thread is in. -/
inductive UiCall
  | idle
  /-- In `joinExecution`, for `executeCurrentCommand` if there is a command to start. -/
  | joining (cmd : Option AppServiceCommand)
  /-- In `executeCurrentCommand`, about to create the thread. -/
  | starting (cmd : AppServiceCommand)
  /-- In one of the two service calls of `updateOverviewData`. -/
  | fetchingAgents
  | fetchingEndpoints
  /-- The result pane has read a result and not yet the name. -/
  | rendering (result : CommandResult)
  deriving DecidableEq

/-- What is done to a command. -/
abbrev CommandAction := SerialAction AppServiceCommand CommandResult

/-- How far a command is. -/
abbrev CommandStage := SerialStage AppServiceCommand CommandResult

/-- `CliUiControllerImpl`, the threads that work on it, and what the result pane shows. -/
structure CliUiController where
  committedCommand : Int := -1
  payload : String := ""
  executing : Bool := false
  executedCommand : String := ""
  commandResult : Option CommandResult := none
  /-- The worker that `execute_thread` holds, if it is joinable. -/
  executeThread : Option Nat := none
  tables : OverviewTables := {}
  uiCall : UiCall := .idle
  workers : List Worker := []
  /-- The name and the result in the result pane; `none` if it is empty. -/
  resultPane : Option (String × CommandResult) := none
  /-- The commands accepted, called, answered and stored so far. -/
  history : List CommandAction := []

namespace CliUiController

/-- `command_descriptors`. -/
def commandDescriptors : List AppServiceCommandDescriptor :=
  [AppServiceCommandType.getEndpointList, .getEndpointStatus, .getEndpointStatusAll, .getAgentList,
    .getAgentStatus, .getAgentStatusAll, .getAgentReport, .getAgentReportAll].map (·.descriptor)

variable (controller : CliUiController)

/-- `validCommittedCommand`. -/
def validCommittedCommand : Bool :=
  controller.committedCommand ≥ 0 && controller.committedCommand < commandDescriptors.length

/-- The descriptor at the committed index, if that is valid. -/
def committedDescriptor : Option AppServiceCommandDescriptor :=
  if controller.validCommittedCommand then
    commandDescriptors[controller.committedCommand.toNat]?
  else none

/-- What happens to a controller. A call that goes on carries what it has in hand. -/
inductive Event
  /-- Calls of the UI thread. -/
  | commitCommand (index : Int)
  | setPayload (value : String)
  | clearPayload
  | clearResult
  | executeCurrentCommand
  | joinExecution
  | updateOverviewData
  /-- The result pane reads the result. -/
  | render
  /-- The UI thread goes on: the `join` returns, the worker is created, a service call returns,
  the result pane reads the name. -/
  | joined (cmd : Option AppServiceCommand)
  | startThread (cmd : AppServiceCommand)
  | agentsReturn (result : CommandResult)
  | endpointsReturn (result : CommandResult)
  | renderName (result : CommandResult)
  /-- A worker calls the service, gets its answer, stores it, and ends after its callback. -/
  | call (worker : Nat) (cmd : AppServiceCommand)
  | answer (worker : Nat) (cmd : AppServiceCommand) (result : CommandResult)
  | store (worker : Nat) (cmd : AppServiceCommand) (result : CommandResult)
  | finish (worker : Nat) (cmd : AppServiceCommand)

/-- A `join` of the execute thread would return. -/
def Joinable : Prop :=
  ∀ worker ∈ controller.executeThread,
    (controller.workers[worker]?).map Worker.phase = some .done

/-- The UI thread is inside a service call of `updateOverviewData`. -/
def Fetching : Prop :=
  controller.uiCall = .fetchingAgents ∨ controller.uiCall = .fetchingEndpoints

/-- A worker is inside `app_service.executeCommand`. -/
def InService (worker : Nat) : Prop :=
  (controller.workers[worker]?).map Worker.phase = some .inService

/-- When an event can happen. -/
def Enabled : Event → Prop
  | .commitCommand _ | .setPayload _ | .clearPayload | .clearResult | .executeCurrentCommand
  | .joinExecution | .updateOverviewData | .render => controller.uiCall = .idle
  | .joined cmd => controller.uiCall = .joining cmd ∧ controller.Joinable
  | .startThread cmd => controller.uiCall = .starting cmd
  | .agentsReturn _ => controller.uiCall = .fetchingAgents
  | .endpointsReturn _ => controller.uiCall = .fetchingEndpoints
  | .renderName result => controller.uiCall = .rendering result
  | .call worker cmd => controller.workers[worker]? = some ⟨cmd, .spawned⟩
  | .answer worker cmd _ => controller.workers[worker]? = some ⟨cmd, .inService⟩
  | .store worker cmd result => controller.workers[worker]? = some ⟨cmd, .returned result⟩
  | .finish worker cmd => controller.workers[worker]? = some ⟨cmd, .stored⟩

/-- `executeCurrentCommand` up to its `join`. The committed index and the payload are the UI
thread's own, so what comes before the mutex is locked can be taken together with it. -/
def executeCurrentCommand : CliUiController :=
  match controller.committedDescriptor with
  | none => controller
  | some descriptor =>
    if controller.executing then controller
    else
      { controller with
        executing := true
        executedCommand := descriptor.name
        uiCall := .joining (some ⟨descriptor.type, controller.payload⟩)
        history := controller.history ++ [.accept ⟨descriptor.type, controller.payload⟩] }

/-- `executeCurrentCommand` creates the worker and assigns it to the execute thread. -/
def startThread (cmd : AppServiceCommand) : CliUiController :=
  { controller with
    executeThread := some controller.workers.length
    uiCall := .idle
    workers := controller.workers ++ [⟨cmd, .spawned⟩] }

/-- The UI thread leaves a service call of `updateOverviewData`; if a decoder throws, the
exception leaves the function. -/
def agentsReturn (jsoncons : Jsoncons) (truncate : String → Int) (result : CommandResult) :
    CliUiController :=
  match refreshRows (JsonUtils.agentStatusListFromJsonString jsoncons truncate) result
      controller.tables.agentRows with
  | none => { controller with uiCall := .idle }
  | some agentRows =>
    { controller with uiCall := .fetchingEndpoints, tables := { controller.tables with agentRows } }

def endpointsReturn (jsoncons : Jsoncons) (truncate : String → Int) (result : CommandResult) :
    CliUiController :=
  match refreshRows (JsonUtils.endpointStatusListFromJsonString jsoncons truncate) result
      controller.tables.endpointRows with
  | none => { controller with uiCall := .idle }
  | some endpointRows =>
    { controller with uiCall := .idle, tables := { controller.tables with endpointRows } }

/-- The result pane, once it has read the result. -/
def render : CliUiController :=
  match controller.commandResult with
  | none => { controller with resultPane := none }
  | some result => { controller with uiCall := .rendering result }

/-- What an event leads to. -/
def next (jsoncons : Jsoncons) (truncate : String → Int) : Event → CliUiController
  | .commitCommand index => { controller with committedCommand := index }
  | .setPayload value => { controller with payload := value }
  | .clearPayload => { controller with payload := "" }
  | .clearResult => { controller with commandResult := none }
  | .executeCurrentCommand => controller.executeCurrentCommand
  | .joinExecution => { controller with uiCall := .joining none }
  | .updateOverviewData => { controller with uiCall := .fetchingAgents }
  | .render => controller.render
  | .joined cmd =>
    { controller with executeThread := none, uiCall := cmd.elim .idle .starting }
  | .startThread cmd => controller.startThread cmd
  | .agentsReturn result => controller.agentsReturn jsoncons truncate result
  | .endpointsReturn result => controller.endpointsReturn jsoncons truncate result
  | .renderName result =>
    { controller with uiCall := .idle, resultPane := some (controller.executedCommand, result) }
  | .call worker cmd =>
    { controller with
      workers := controller.workers.set worker ⟨cmd, .inService⟩
      history := controller.history ++ [.call cmd] }
  | .answer worker cmd result =>
    { controller with
      workers := controller.workers.set worker ⟨cmd, .returned result⟩
      history := controller.history ++ [.answer cmd result] }
  | .store worker cmd result =>
    { controller with
      executing := false
      commandResult := some result
      workers := controller.workers.set worker ⟨cmd, .stored⟩
      history := controller.history ++ [.store cmd result] }
  | .finish worker cmd =>
    { controller with workers := controller.workers.set worker ⟨cmd, .done⟩ }

instance : Decidable controller.Joinable :=
  inferInstanceAs (Decidable (∀ worker ∈ controller.executeThread, _))

instance : ∀ event, Decidable (controller.Enabled event)
  | .commitCommand _ | .setPayload _ | .clearPayload | .clearResult | .executeCurrentCommand
  | .joinExecution | .updateOverviewData | .render | .startThread _ | .agentsReturn _
  | .endpointsReturn _ | .renderName _ | .call _ _ | .answer _ _ _ | .store _ _ _
  | .finish _ _ => inferInstanceAs (Decidable (_ = _))
  | .joined _ => inferInstanceAs (Decidable (_ ∧ _))

/-- A controller, with a way to read the answers of the service. -/
def machine (jsoncons : Jsoncons) (truncate : String → Int) : Machine CliUiController Event where
  enabled := Enabled
  next controller event := controller.next jsoncons truncate event

instance (jsoncons : Jsoncons) (truncate : String → Int) (event : Event) :
    Decidable ((machine jsoncons truncate).enabled controller event) :=
  inferInstanceAs (Decidable (controller.Enabled event))

end CliUiController

/-! ### Serial execution -/

/-- How far the command of a worker is. -/
def Worker.stage (worker : Worker) : Option CommandStage :=
  match worker.phase with
  | .spawned => some (.accepted worker.cmd)
  | .inService => some (.called worker.cmd)
  | .returned result => some (.answered worker.cmd result)
  | .stored | .done => none

/-- How far the command is that the UI thread is about to start. -/
def UiCall.stage : UiCall → Option CommandStage
  | .joining (some cmd) => some (.accepted cmd)
  | .starting cmd => some (.accepted cmd)
  | _ => none

namespace CliUiController

open Transition

variable (controller : CliUiController)

/-- The commands that are under way in any thread. -/
def stages : List CommandStage :=
  controller.uiCall.stage.toList ++ controller.workers.filterMap Worker.stage

/-- The controller is at a stage of a serial executor: the record is a run of it, one thread has
the command if there is one, and the flag says whether there is. -/
structure AtStage (stage : Option CommandStage) : Prop where
  history : Run SerialStage.Advances none controller.history stage
  stages : controller.stages = stage.toList
  executing : controller.executing = stage.isSome
  /-- The execute thread is one of the workers, and no longer joinable when a new one is
  assigned. -/
  held : ∀ worker ∈ controller.executeThread, worker < controller.workers.length
  joined : ∀ cmd, controller.uiCall = .starting cmd → controller.executeThread = none

variable {controller} {stage : Option CommandStage} {action : CommandAction}
  {current : CommandStage} {worker : Nat} {running : Worker}

theorem atStage_initial : ({} : CliUiController).AtStage none :=
  ⟨.done none, rfl, rfl, nofun, nofun⟩

/-- The UI thread moves on with what it has under way. -/
theorem AtStage.of_uiCall (atStage : controller.AtStage stage) {moved : CliUiController}
    (history : moved.history = controller.history) (workers : moved.workers = controller.workers)
    (executing : moved.executing = controller.executing)
    (kept : moved.uiCall.stage = controller.uiCall.stage)
    (held : ∀ worker ∈ moved.executeThread, worker < controller.workers.length)
    (joined : ∀ cmd, moved.uiCall = .starting cmd → moved.executeThread = none) :
    moved.AtStage stage := by
  refine ⟨?_, ?_, ?_, ?_, joined⟩
  · rw [history]
    exact atStage.history
  · rw [CliUiController.stages, kept, workers]
    exact atStage.stages
  · rw [executing]
    exact atStage.executing
  · rw [workers]
    exact held

/-- If a worker has a command, it is the one under way, and the UI thread has none. -/
theorem AtStage.of_worker (atStage : controller.AtStage stage)
    (found : controller.workers[worker]? = some running) (active : running.stage = some current) :
    stage = some current ∧ controller.uiCall.stage = none ∧
      controller.workers.filterMap Worker.stage = [current] := by
  have member : current ∈ controller.workers.filterMap Worker.stage :=
    List.mem_filterMap.mpr ⟨running, List.mem_of_getElem? found, active⟩
  have together := atStage.stages
  rw [CliUiController.stages] at together
  cases stage with
  | none =>
    rw [Option.toList_none, List.append_eq_nil_iff] at together
    rw [together.2] at member
    cases member
  | some under =>
    rw [Option.toList_some] at together
    rcases List.append_eq_singleton_iff.mp together with ⟨idle, sole⟩ | ⟨_, nobody⟩
    · have same : current = under := by
        rw [sole, List.mem_singleton] at member
        exact member
      refine ⟨congrArg some same.symm, ?_, by rw [sole, same]⟩
      exact Option.toList_eq_nil_iff.mp idle
    · rw [nobody] at member
      cases member

/-- A worker moves on with the command under way. -/
theorem AtStage.of_action (atStage : controller.AtStage stage)
    (found : controller.workers[worker]? = some running) (active : running.stage = some current)
    {other : Worker} (advances : SerialStage.Advances (some current) action other.stage)
    {moved : CliUiController} (history : moved.history = controller.history ++ [action])
    (workers : moved.workers = controller.workers.set worker other)
    (executing : moved.executing = other.stage.isSome)
    (uiCall : moved.uiCall = controller.uiCall)
    (thread : moved.executeThread = controller.executeThread) : moved.AtStage other.stage := by
  obtain ⟨rfl, idle, sole⟩ := atStage.of_worker found active
  refine ⟨?_, ?_, executing, ?_, ?_⟩
  · rw [history]
    exact atStage.history.append (.single advances)
  · rw [CliUiController.stages, uiCall, idle, workers, Parties.stages_set_of_sole sole found active]
    rfl
  · rw [thread, workers, List.length_set]
    exact atStage.held
  · rw [uiCall, thread]
    exact atStage.joined

/-- A worker ends. -/
theorem AtStage.finish (atStage : controller.AtStage stage) {cmd : AppServiceCommand}
    (found : controller.workers[worker]? = some ⟨cmd, .stored⟩) :
    { controller with workers := controller.workers.set worker ⟨cmd, .done⟩ }.AtStage stage := by
  have same : (controller.workers.set worker ⟨cmd, .done⟩).filterMap Worker.stage =
      controller.workers.filterMap Worker.stage :=
    Parties.stages_set_of_none found rfl rfl
  refine ⟨atStage.history, ?_, atStage.executing, fun held member => ?_, atStage.joined⟩
  · rw [CliUiController.stages, same]
    exact atStage.stages
  · rw [List.length_set]
    exact atStage.held held member

/-- `executeCurrentCommand` does nothing if no valid command is committed, or one is under way. -/
theorem executeCurrentCommand_of_ignored
    (ignored : controller.committedDescriptor = none ∨ controller.executing = true) :
    controller.executeCurrentCommand = controller := by
  rw [executeCurrentCommand]
  cases committed : controller.committedDescriptor with
  | none => rfl
  | some descriptor =>
    have busy : controller.executing = true := by
      rw [committed] at ignored
      exact ignored.resolve_left (Option.some_ne_none _)
    exact if_pos busy

/-- Otherwise it accepts the committed command. -/
theorem executeCurrentCommand_of_accepted {descriptor : AppServiceCommandDescriptor}
    (committed : controller.committedDescriptor = some descriptor)
    (free : controller.executing = false) :
    controller.executeCurrentCommand =
      { controller with
        executing := true
        executedCommand := descriptor.name
        uiCall := .joining (some ⟨descriptor.type, controller.payload⟩)
        history := controller.history ++ [.accept ⟨descriptor.type, controller.payload⟩] } := by
  simp [executeCurrentCommand, committed, free]

variable (controller) in
theorem executeCurrentCommand_cases :
    controller.executeCurrentCommand = controller ∨
      ∃ descriptor, controller.committedDescriptor = some descriptor ∧
        controller.executing = false ∧
        controller.executeCurrentCommand =
          { controller with
            executing := true
            executedCommand := descriptor.name
            uiCall := .joining (some ⟨descriptor.type, controller.payload⟩)
            history := controller.history ++
              [.accept ⟨descriptor.type, controller.payload⟩] } := by
  cases committed : controller.committedDescriptor with
  | none => exact .inl (executeCurrentCommand_of_ignored (.inl committed))
  | some descriptor =>
    cases free : controller.executing with
    | true => exact .inl (executeCurrentCommand_of_ignored (.inr free))
    | false =>
      exact .inr ⟨descriptor, rfl, rfl, executeCurrentCommand_of_accepted committed free⟩

/-- Without the flag no command is under way. -/
theorem AtStage.of_free (atStage : controller.AtStage stage) (idle : controller.uiCall = .idle)
    (free : controller.executing = false) :
    stage = none ∧ controller.workers.filterMap Worker.stage = [] := by
  have unoccupied : stage = none := by
    rw [← Option.isNone_iff_eq_none, ← Option.not_isSome, ← atStage.executing, free]
    rfl
  have nobody := atStage.stages
  rw [CliUiController.stages, idle, unoccupied] at nobody
  exact ⟨unoccupied, nobody⟩

theorem AtStage.executeCurrentCommand (atStage : controller.AtStage stage)
    (idle : controller.uiCall = .idle) :
    ∃ after, controller.executeCurrentCommand.AtStage after := by
  rcases controller.executeCurrentCommand_cases with same | ⟨descriptor, _, free, accepts⟩
  · rw [same]
    exact ⟨stage, atStage⟩
  · rw [accepts]
    obtain ⟨rfl, nobody⟩ := atStage.of_free idle free
    refine ⟨_, atStage.history.append (.single (.accept _)), ?_, rfl, atStage.held, nofun⟩
    rw [CliUiController.stages, nobody]
    rfl

theorem AtStage.joined_next (atStage : controller.AtStage stage) {cmd : Option AppServiceCommand}
    (joining : controller.uiCall = .joining cmd) :
    { controller with executeThread := none, uiCall := cmd.elim .idle .starting }.AtStage
      stage := by
  refine atStage.of_uiCall rfl rfl rfl ?_ nofun fun _ _ => rfl
  rw [joining]
  cases cmd <;> rfl

theorem AtStage.startThread (atStage : controller.AtStage stage) {cmd : AppServiceCommand}
    (starting : controller.uiCall = .starting cmd) :
    (controller.startThread cmd).AtStage stage := by
  refine ⟨atStage.history, ?_, atStage.executing, ?_, nofun⟩
  · have before := atStage.stages
    rw [CliUiController.stages, starting] at before
    rw [CliUiController.stages, CliUiController.startThread, List.filterMap_append, ← before]
    have rest : controller.workers.filterMap Worker.stage = [] := by
      cases stage with
      | none => cases before
      | some under => exact (List.cons.inj before).2
    rw [rest]
    rfl
  · rintro held ⟨⟩
    rw [CliUiController.startThread, List.length_append]
    exact Nat.lt_succ_self _

variable {jsoncons : Jsoncons} {truncate : String → Int}

/-- A service call of a refresh that returns changes the tables and goes on or ends. -/
theorem agentsReturn_cases (result : CommandResult) :
    ∃ uiCall tables, (uiCall = .idle ∨ uiCall = .fetchingEndpoints) ∧
      controller.agentsReturn jsoncons truncate result = { controller with uiCall, tables } := by
  rw [agentsReturn]
  split
  · exact ⟨_, _, .inl rfl, rfl⟩
  · exact ⟨_, _, .inr rfl, rfl⟩

theorem endpointsReturn_cases (result : CommandResult) :
    ∃ uiCall tables, (uiCall = .idle ∨ uiCall = .fetchingEndpoints) ∧
      controller.endpointsReturn jsoncons truncate result = { controller with uiCall, tables } := by
  rw [endpointsReturn]
  split
  · exact ⟨_, _, .inl rfl, rfl⟩
  · exact ⟨_, _, .inl rfl, rfl⟩

theorem Fetching.stage_eq_none (fetching : controller.Fetching) :
    controller.uiCall.stage = none := by
  rcases fetching with agents | endpoints
  · rw [agents]
    rfl
  · rw [endpoints]
    rfl

theorem AtStage.of_fetch (atStage : controller.AtStage stage) (fetching : controller.Fetching)
    {uiCall : UiCall} (moves : uiCall = .idle ∨ uiCall = .fetchingEndpoints)
    (tables : OverviewTables) : { controller with uiCall, tables }.AtStage stage := by
  have idle := fetching.stage_eq_none
  rcases moves with rfl | rfl
  · exact atStage.of_uiCall rfl rfl rfl idle.symm atStage.held nofun
  · exact atStage.of_uiCall rfl rfl rfl idle.symm atStage.held nofun

theorem AtStage.render (atStage : controller.AtStage stage) (idle : controller.uiCall = .idle) :
    controller.render.AtStage stage := by
  rw [CliUiController.render]
  split
  · exact atStage.of_uiCall rfl rfl rfl rfl atStage.held atStage.joined
  · exact atStage.of_uiCall rfl rfl rfl (by rw [idle]; rfl) atStage.held nofun

theorem AtStage.call (atStage : controller.AtStage stage) {cmd : AppServiceCommand}
    (found : controller.workers[worker]? = some ⟨cmd, .spawned⟩) :
    (controller.next jsoncons truncate (.call worker cmd)).AtStage (some (.called cmd)) := by
  obtain ⟨rfl, _, _⟩ := atStage.of_worker found rfl
  have called : Worker.stage ⟨cmd, .inService⟩ = some (.called cmd) := rfl
  rw [← called]
  exact atStage.of_action found rfl (.call cmd) rfl rfl atStage.executing rfl rfl

theorem AtStage.answer (atStage : controller.AtStage stage) {cmd : AppServiceCommand}
    (found : controller.workers[worker]? = some ⟨cmd, .inService⟩) (result : CommandResult) :
    (controller.next jsoncons truncate (.answer worker cmd result)).AtStage
      (some (.answered cmd result)) := by
  obtain ⟨rfl, _, _⟩ := atStage.of_worker found rfl
  have answered : Worker.stage ⟨cmd, .returned result⟩ = some (.answered cmd result) := rfl
  rw [← answered]
  exact atStage.of_action found rfl (.answer cmd result) rfl rfl atStage.executing rfl rfl

theorem AtStage.store (atStage : controller.AtStage stage) {cmd : AppServiceCommand}
    {result : CommandResult}
    (found : controller.workers[worker]? = some ⟨cmd, .returned result⟩) :
    (controller.next jsoncons truncate (.store worker cmd result)).AtStage none := by
  have stored : Worker.stage ⟨cmd, .stored⟩ = none := rfl
  rw [← stored]
  exact atStage.of_action found rfl (.store cmd result) rfl rfl rfl rfl rfl

/-- Every event leads from a stage of a serial executor to a stage of it. -/
theorem AtStage.next (atStage : controller.AtStage stage) (event : Event)
    (enabled : controller.Enabled event) :
    ∃ after, (controller.next jsoncons truncate event).AtStage after := by
  cases event with
  | commitCommand | setPayload | clearPayload | clearResult =>
    exact ⟨stage, atStage.of_uiCall rfl rfl rfl rfl atStage.held atStage.joined⟩
  | executeCurrentCommand => exact atStage.executeCurrentCommand enabled
  | joinExecution =>
    have idle : controller.uiCall = .idle := enabled
    exact ⟨stage, atStage.of_uiCall rfl rfl rfl (by rw [idle]; rfl) atStage.held nofun⟩
  | updateOverviewData =>
    have idle : controller.uiCall = .idle := enabled
    exact ⟨stage, atStage.of_uiCall rfl rfl rfl (by rw [idle]; rfl) atStage.held nofun⟩
  | render => exact ⟨stage, atStage.render enabled⟩
  | joined cmd => exact ⟨stage, atStage.joined_next enabled.1⟩
  | startThread cmd => exact ⟨stage, atStage.startThread enabled⟩
  | agentsReturn result =>
    obtain ⟨uiCall, tables, moves, same⟩ := controller.agentsReturn_cases result
    rw [CliUiController.next, same]
    exact ⟨stage, atStage.of_fetch (.inl enabled) moves tables⟩
  | endpointsReturn result =>
    obtain ⟨uiCall, tables, moves, same⟩ := controller.endpointsReturn_cases result
    rw [CliUiController.next, same]
    exact ⟨stage, atStage.of_fetch (.inr enabled) moves tables⟩
  | renderName result =>
    have rendering : controller.uiCall = .rendering result := enabled
    exact ⟨stage, atStage.of_uiCall rfl rfl rfl (by rw [rendering]; rfl) atStage.held nofun⟩
  | call worker cmd => exact ⟨_, atStage.call enabled⟩
  | answer worker cmd result => exact ⟨_, atStage.answer enabled result⟩
  | store worker cmd result => exact ⟨none, atStage.store enabled⟩
  | finish worker cmd => exact ⟨stage, atStage.finish enabled⟩

/-- After every run the controller is at a stage of a serial executor. -/
theorem exists_atStage {allowed : CliUiController → Event → Prop} {events : List Event}
    (run : (machine jsoncons truncate).Runs allowed {} events controller) :
    ∃ stage, controller.AtStage stage :=
  run.invariant (fun controller => ∃ stage, controller.AtStage stage)
    (fun _ event ⟨_, atStage⟩ enabled _ => atStage.next event enabled) ⟨none, atStage_initial⟩

/-! ### Completion -/

/-- The UI thread and the workers go on with what they are at. -/
def GoesOn (_ : CliUiController) : Event → Prop
  | .joined _ | .startThread _ | .call _ _ | .answer _ _ _ | .store _ _ _ | .finish _ _ => True
  | _ => False

variable (jsoncons truncate) in
/-- If the threads go on, the command under way is finished, and no other is accepted. -/
def Completes (controller : CliUiController) : Prop :=
  ∃ events last, (machine jsoncons truncate).Runs GoesOn controller events last ∧
    last.AtStage none ∧ SerialStage.accepts last.history = SerialStage.accepts controller.history

theorem Completes.of_next (event : Event) (enabled : controller.Enabled event)
    (goesOn : controller.GoesOn event)
    (accepted : SerialStage.accepts (controller.next jsoncons truncate event).history =
      SerialStage.accepts controller.history)
    (completes : (controller.next jsoncons truncate event).Completes jsoncons truncate) :
    controller.Completes jsoncons truncate := by
  obtain ⟨events, last, run, free, same⟩ := completes
  exact ⟨event :: events, last, .next ⟨enabled, goesOn, rfl⟩ run, free, same.trans accepted⟩

/-- Where the worker of a command is. -/
def phaseAt : CommandStage → WorkerPhase
  | .accepted _ => .spawned
  | .called _ => .inService
  | .answered _ result => .returned result

theorem worker_eq_of_stage (active : running.stage = some current) :
    running = ⟨current.job, phaseAt current⟩ := by
  rcases running with ⟨cmd, _ | _ | result | _ | _⟩ <;> cases active
  · rfl
  · rfl
  · rfl

/-- A command that the UI thread does not have is with a worker. -/
theorem AtStage.exists_worker (atStage : controller.AtStage (some current))
    (idle : controller.uiCall.stage = none) :
    ∃ worker : Nat, controller.workers[worker]? = some ⟨current.job, phaseAt current⟩ := by
  have sole := atStage.stages
  rw [CliUiController.stages, idle] at sole
  have member : current ∈ controller.workers.filterMap Worker.stage := by
    rw [show controller.workers.filterMap Worker.stage = [current] from sole]
    exact List.mem_singleton_self _
  obtain ⟨running, present, active⟩ := List.mem_filterMap.mp member
  obtain ⟨worker, found⟩ := List.mem_iff_getElem?.mp present
  exact ⟨worker, by rw [found, worker_eq_of_stage active]⟩

theorem AtStage.completes_of_none (atStage : controller.AtStage none) :
    controller.Completes jsoncons truncate :=
  ⟨[], controller, .done controller, atStage, rfl⟩

section Completion

variable {cmd : AppServiceCommand} {result : CommandResult}

theorem AtStage.completes_of_answered (atStage : controller.AtStage (some (.answered cmd result)))
    (idle : controller.uiCall.stage = none) : controller.Completes jsoncons truncate := by
  obtain ⟨worker, found⟩ := atStage.exists_worker idle
  exact .of_next (.store worker cmd result) found trivial (SerialStage.accepts_append nofun)
    (atStage.store found).completes_of_none

theorem AtStage.completes_of_called (atStage : controller.AtStage (some (.called cmd)))
    (idle : controller.uiCall.stage = none) : controller.Completes jsoncons truncate := by
  obtain ⟨worker, found⟩ := atStage.exists_worker idle
  exact .of_next (.answer worker cmd ⟨true, [], ""⟩) found trivial
    (SerialStage.accepts_append nofun)
    ((atStage.answer found _).completes_of_answered idle)

theorem AtStage.completes_of_spawned (atStage : controller.AtStage (some (.accepted cmd)))
    (idle : controller.uiCall.stage = none) : controller.Completes jsoncons truncate := by
  obtain ⟨worker, found⟩ := atStage.exists_worker idle
  exact .of_next (.call worker cmd) found trivial (SerialStage.accepts_append nofun)
    ((atStage.call found).completes_of_called idle)

theorem AtStage.completes_of_starting (atStage : controller.AtStage (some (.accepted cmd)))
    (starting : controller.uiCall = .starting cmd) : controller.Completes jsoncons truncate :=
  .of_next (.startThread cmd) starting trivial rfl
    ((atStage.startThread starting).completes_of_spawned rfl)

theorem AtStage.completes_of_joinable (atStage : controller.AtStage (some (.accepted cmd)))
    (joining : controller.uiCall = .joining (some cmd)) (joinable : controller.Joinable) :
    controller.Completes jsoncons truncate :=
  .of_next (.joined (some cmd)) ⟨joining, joinable⟩ trivial rfl
    ((atStage.joined_next joining).completes_of_starting rfl)

/-- The worker that the UI thread waits for has stored its result, and ends. -/
theorem AtStage.completes_of_joining (atStage : controller.AtStage (some (.accepted cmd)))
    (joining : controller.uiCall = .joining (some cmd)) :
    controller.Completes jsoncons truncate := by
  by_cases joinable : controller.Joinable
  · exact atStage.completes_of_joinable joining joinable
  · rw [Joinable, not_forall] at joinable
    obtain ⟨worker, joinable⟩ := joinable
    obtain ⟨held, unfinished⟩ := Classical.not_imp.mp joinable
    obtain ⟨running, found⟩ : ∃ running, controller.workers[worker]? = some running :=
      ⟨_, List.getElem?_eq_getElem (atStage.held worker held)⟩
    have inactive : running.stage = none := by
      rw [Option.eq_none_iff_forall_ne_some]
      intro current active
      have idle := (atStage.of_worker found active).2.1
      rw [joining] at idle
      cases idle
    rw [found] at unfinished
    rcases running with ⟨own, _ | _ | result | _ | _⟩
    · cases inactive
    · cases inactive
    · cases inactive
    · refine .of_next (.finish worker own) found trivial rfl
        ((atStage.finish found).completes_of_joinable joining ?_)
      intro other member
      obtain rfl : worker = other := by
        rw [held] at member
        exact Option.some.inj member
      show ((controller.workers.set worker ⟨own, .done⟩)[worker]?).map Worker.phase = _
      rw [List.getElem?_set_self (atStage.held worker held)]
      rfl
    · exact absurd rfl unfinished

/-- A command that the UI thread has is the one under way. -/
theorem AtStage.of_stage_uiCall (atStage : controller.AtStage stage)
    (has : controller.uiCall.stage = some current) : stage = some current := by
  have together := atStage.stages
  rw [CliUiController.stages, has] at together
  cases stage with
  | none => cases together
  | some under => exact congrArg some (List.cons.inj together).1.symm

/-- Whatever is under way can be finished. -/
theorem AtStage.completes (atStage : controller.AtStage stage) :
    controller.Completes jsoncons truncate := by
  cases has : controller.uiCall.stage with
  | none =>
    rcases stage with _ | cmd | cmd | ⟨cmd, result⟩
    · exact atStage.completes_of_none
    · exact atStage.completes_of_spawned has
    · exact atStage.completes_of_called has
    · exact atStage.completes_of_answered has
  | some current =>
    obtain rfl := atStage.of_stage_uiCall has
    cases call : controller.uiCall with
    | joining cmd =>
      rw [call] at has
      cases cmd with
      | none => cases has
      | some cmd =>
        obtain rfl := Option.some.inj has
        exact atStage.completes_of_joining call
    | starting cmd =>
      rw [call] at has
      obtain rfl := Option.some.inj has
      exact atStage.completes_of_starting call
    | _ =>
      rw [call] at has
      cases has

end Completion

/-! ### What the events do -/

section Acceptance

variable (controller : CliUiController)

/-- A click on the button would be accepted. -/
def Accepts : Prop :=
  controller.committedDescriptor ≠ none ∧ controller.executing = false

/-- The event accepts a command. -/
def AcceptedBy (event : Event) : Prop :=
  event = .executeCurrentCommand ∧ controller.Accepts

instance : Decidable controller.Accepts :=
  inferInstanceAs (Decidable (_ ≠ _ ∧ _ = _))

instance : DecidablePred controller.AcceptedBy
  | .executeCurrentCommand =>
    decidable_of_iff controller.Accepts ⟨fun accepts => ⟨rfl, accepts⟩, And.right⟩
  | .commitCommand _ | .setPayload _ | .clearPayload | .clearResult | .joinExecution
  | .updateOverviewData | .render | .joined _ | .startThread _ | .agentsReturn _
  | .endpointsReturn _ | .renderName _ | .call _ _ | .answer _ _ _ | .store _ _ _
  | .finish _ _ => isFalse fun accepted => (by cases accepted.1)

end Acceptance

variable {event : Event}

theorem executeCurrentCommand_of_not_accepts (refuses : ¬controller.Accepts) :
    controller.executeCurrentCommand = controller := by
  rw [Accepts, not_and, Bool.not_eq_false] at refuses
  refine executeCurrentCommand_of_ignored ?_
  by_cases committed : controller.committedDescriptor = none
  · exact .inl committed
  · exact .inr (refuses committed)

/-- The event is about a thread: its `join`, its creation, or one of its moves. -/
def Event.AboutThread : Event → Prop
  | .joined _ | .startThread _ | .call _ _ | .answer _ _ _ | .store _ _ _ | .finish _ _ => True
  | _ => False

/-- The other events leave the threads alone, and also the flag unless they accept a command. -/
theorem threads_next (jsoncons : Jsoncons) (truncate : String → Int)
    (other : ¬event.AboutThread) :
    (controller.next jsoncons truncate event).workers = controller.workers ∧
      (controller.next jsoncons truncate event).executeThread = controller.executeThread ∧
      (¬controller.AcceptedBy event →
        (controller.next jsoncons truncate event).executing = controller.executing) := by
  cases event with
  | commitCommand | setPayload | clearPayload | clearResult | joinExecution | updateOverviewData
  | renderName => exact ⟨rfl, rfl, fun _ => rfl⟩
  | executeCurrentCommand =>
    rw [next]
    rcases controller.executeCurrentCommand_cases with same | ⟨descriptor, committed, free, same⟩
    · rw [same]
      exact ⟨rfl, rfl, fun _ => rfl⟩
    · have accepts : controller.Accepts := ⟨committed ▸ Option.some_ne_none descriptor, free⟩
      rw [same]
      exact ⟨rfl, rfl, fun refused => absurd ⟨rfl, accepts⟩ refused⟩
  | render =>
    rw [next, render]
    split <;> exact ⟨rfl, rfl, fun _ => rfl⟩
  | agentsReturn result =>
    obtain ⟨uiCall, tables, _, same⟩ := controller.agentsReturn_cases result
    rw [next, same]
    exact ⟨rfl, rfl, fun _ => rfl⟩
  | endpointsReturn result =>
    obtain ⟨uiCall, tables, _, same⟩ := controller.endpointsReturn_cases result
    rw [next, same]
    exact ⟨rfl, rfl, fun _ => rfl⟩
  | joined | startThread | call | answer | store | finish => exact absurd trivial other

/-- An event leaves the workers alone, moves one that has not ended, or creates one. -/
theorem workers_next (jsoncons : Jsoncons) (truncate : String → Int)
    (enabled : controller.Enabled event) :
    (controller.next jsoncons truncate event).workers = controller.workers ∨
      (∃ worker running other, controller.workers[worker]? = some running ∧
        running.phase ≠ .done ∧
        (controller.next jsoncons truncate event).workers = controller.workers.set worker other) ∨
      ∃ cmd, event = .startThread cmd ∧
        (controller.next jsoncons truncate event).workers =
          controller.workers ++ [⟨cmd, .spawned⟩] := by
  cases event with
  | joined => exact .inl rfl
  | startThread cmd => exact .inr (.inr ⟨cmd, rfl, rfl⟩)
  | call worker | answer worker | store worker | finish worker =>
    exact .inr (.inl ⟨worker, _, _, enabled, fun ended => (by cases ended), rfl⟩)
  | _ => exact .inl (threads_next jsoncons truncate id).1

/-- Without an acceptance the UI thread gets no command. -/
theorem uiCall_stage_next (none : controller.uiCall.stage = none)
    (enabled : controller.Enabled event) (refused : ¬controller.AcceptedBy event) :
    (controller.next jsoncons truncate event).uiCall.stage = Option.none := by
  cases event with
  | commitCommand | setPayload | clearPayload | clearResult | call | answer | store | finish =>
    exact none
  | executeCurrentCommand =>
    have same := executeCurrentCommand_of_not_accepts fun accepts => refused ⟨rfl, accepts⟩
    rw [next, same]
    exact none
  | render =>
    rw [next, render]
    split
    · exact none
    · rfl
  | agentsReturn result =>
    obtain ⟨uiCall, tables, moves, same⟩ := controller.agentsReturn_cases result
    rw [next, same]
    rcases moves with rfl | rfl <;> rfl
  | endpointsReturn result =>
    obtain ⟨uiCall, tables, moves, same⟩ := controller.endpointsReturn_cases result
    rw [next, same]
    rcases moves with rfl | rfl <;> rfl
  | joined cmd =>
    rw [enabled.1] at none
    cases cmd with
    | none => rfl
    | some cmd => cases none
  | startThread cmd =>
    rw [show controller.uiCall = .starting cmd from enabled] at none
    cases none
  | joinExecution | updateOverviewData | renderName => rfl

/-- Without an acceptance the flag is at most cleared. -/
theorem executing_next (refused : ¬controller.AcceptedBy event)
    (free : controller.executing = false) :
    (controller.next jsoncons truncate event).executing = false := by
  cases event with
  | joined | startThread | call | answer | finish => exact free
  | store => rfl
  | _ => exact ((threads_next jsoncons truncate id).2.2 refused).trans free

/-! ### What a run does to the commands -/

/-- The command that is committed: the type at the committed index, and the payload. -/
def committed (controller : CliUiController) : Option AppServiceCommand :=
  controller.committedDescriptor.map fun descriptor => ⟨descriptor.type, controller.payload⟩

/-- What an event does to commands, in the state in which it happens. An execution that is not
ignored accepts the command that is committed then. -/
def Event.actions (controller : CliUiController) : Event → List CommandAction
  | .executeCurrentCommand =>
    if controller.executing then [] else controller.committed.toList.map .accept
  | .call _ cmd => [.call cmd]
  | .answer _ cmd result => [.answer cmd result]
  | .store _ cmd result => [.store cmd result]
  | _ => []

/-- What the events of a run do to commands. -/
def actionsOf (jsoncons : Jsoncons) (truncate : String → Int) :
    CliUiController → List Event → List CommandAction
  | _, [] => []
  | controller, event :: rest =>
    event.actions controller ++
      actionsOf jsoncons truncate (controller.next jsoncons truncate event) rest

/-- The result that can be read after an event: the one that was stored last, unless it has been
cleared. -/
def Event.leavesResult (before : Option CommandResult) : Event → Option CommandResult
  | .store _ _ result => some result
  | .clearResult => none
  | _ => before

theorem history_next_actions (jsoncons : Jsoncons) (truncate : String → Int)
    (controller : CliUiController) (event : Event) :
    (controller.next jsoncons truncate event).history =
      controller.history ++ event.actions controller := by
  cases event with
  | executeCurrentCommand =>
    rw [next, Event.actions, executeCurrentCommand, committed]
    cases controller.committedDescriptor with
    | none => simp
    | some descriptor =>
      cases controller.executing with
      | true => exact (List.append_nil _).symm
      | false => rfl
  | render =>
    rw [next, render]
    split <;> exact (List.append_nil _).symm
  | agentsReturn result =>
    obtain ⟨uiCall, tables, _, same⟩ := controller.agentsReturn_cases result
    rw [next, same]
    exact (List.append_nil _).symm
  | endpointsReturn result =>
    obtain ⟨uiCall, tables, _, same⟩ := controller.endpointsReturn_cases result
    rw [next, same]
    exact (List.append_nil _).symm
  | call | answer | store => rfl
  | _ => exact (List.append_nil _).symm

theorem commandResult_next (jsoncons : Jsoncons) (truncate : String → Int)
    (controller : CliUiController) (event : Event) :
    (controller.next jsoncons truncate event).commandResult =
      event.leavesResult controller.commandResult := by
  cases event with
  | executeCurrentCommand =>
    rw [next]
    rcases controller.executeCurrentCommand_cases with same | ⟨_, _, _, same⟩ <;> rw [same] <;> rfl
  | render =>
    rw [next, render]
    split <;> rfl
  | agentsReturn result =>
    obtain ⟨uiCall, tables, _, same⟩ := controller.agentsReturn_cases result
    rw [next, same]
    rfl
  | endpointsReturn result =>
    obtain ⟨uiCall, tables, _, same⟩ := controller.endpointsReturn_cases result
    rw [next, same]
    rfl
  | _ => rfl

/-- The record and the result are those of the run. -/
theorem record_run {allowed : CliUiController → Event → Prop} {first : CliUiController}
    {events : List Event} (run : (machine jsoncons truncate).Runs allowed first events controller) :
    controller.history = first.history ++ actionsOf jsoncons truncate first events ∧
      controller.commandResult = events.foldl Event.leavesResult first.commandResult := by
  induction run with
  | done state => exact ⟨(List.append_nil _).symm, rfl⟩
  | @next first middle last event rest head _ inductionHypothesis =>
    obtain ⟨_, _, rfl⟩ := head
    obtain ⟨history, commandResult⟩ := inductionHypothesis
    refine ⟨history.trans ?_, commandResult.trans ?_⟩
    · rw [actionsOf, ← List.append_assoc]
      exact congrArg (· ++ _) (history_next_actions jsoncons truncate first event)
    · exact congrArg (rest.foldl Event.leavesResult ·)
        (commandResult_next jsoncons truncate first event)

/-! ### The law of command execution -/

/-- Commands are executed one after the other, each once. -/
structure ExecutesSerially (jsoncons : Jsoncons) (truncate : String → Int) (events : List Event)
    (controller : CliUiController) : Prop where
  alone : ∀ first second, controller.InService first → controller.InService second →
    first = second
  /-- The record says what has been done to commands, each acceptance with the index and the
  payload that were committed at that moment. -/
  recorded : controller.history = actionsOf jsoncons truncate {} events
  /-- The accepted commands are called in order. One may still wait for its call. -/
  called : ∃ waiting, waiting.length ≤ 1 ∧
    SerialStage.accepts controller.history = SerialStage.calls controller.history ++ waiting
  /-- The record consists of whole executions, from the acceptance of a command to the storing of
  its result, and of what has been done to one more command. -/
  stored : ∃ finished stage, controller.history = SerialStage.serialHistory finished stage
  /-- What can be read is the result that was stored last, unless it has been cleared. -/
  result : controller.commandResult = events.foldl Event.leavesResult none
  /-- Whether an execution is ignored. -/
  ignored : controller.Enabled .executeCurrentCommand →
    (controller.next jsoncons truncate .executeCurrentCommand = controller ↔
      controller.validCommittedCommand = false ∨
        (SerialStage.stores controller.history).length <
          (SerialStage.accepts controller.history).length)
  /-- If the threads go on, all accepted commands are called, and their results stored. -/
  completed : ∃ events last, (machine jsoncons truncate).Runs GoesOn controller events last ∧
    SerialStage.calls last.history = SerialStage.accepts controller.history ∧
    (SerialStage.stores last.history).map Prod.fst = SerialStage.accepts controller.history

theorem AtStage.alone (atStage : controller.AtStage stage) {first second : Nat}
    (inService : controller.InService first) (alsoInService : controller.InService second) :
    first = second := by
  obtain ⟨running, found, phase⟩ := Option.map_eq_some_iff.mp inService
  obtain ⟨other, foundOther, phaseOther⟩ := Option.map_eq_some_iff.mp alsoInService
  have active : running.stage = some (.called running.cmd) := by rw [Worker.stage, phase]
  have activeOther : other.stage = some (.called other.cmd) := by rw [Worker.stage, phaseOther]
  have sole := (atStage.of_worker foundOther activeOther).2.2
  exact Parties.index_unique sole foundOther activeOther found active

theorem committedDescriptor_eq_none_iff (controller : CliUiController) :
    controller.committedDescriptor = none ↔ controller.validCommittedCommand = false := by
  rw [committedDescriptor]
  cases valid : controller.validCommittedCommand with
  | false => exact iff_of_true rfl rfl
  | true =>
    rw [validCommittedCommand, Bool.and_eq_true, decide_eq_true_iff, decide_eq_true_iff] at valid
    have bound : controller.committedCommand.toNat < commandDescriptors.length := by omega
    rw [if_pos rfl, List.getElem?_eq_getElem bound]
    exact iff_of_false (Option.some_ne_none _) Bool.noConfusion

/-- An execution is ignored if no valid command is committed or one is under way. -/
theorem AtStage.executeCurrentCommand_eq_self_iff (atStage : controller.AtStage stage) :
    controller.executeCurrentCommand = controller ↔
      controller.validCommittedCommand = false ∨ stage.isSome = true := by
  rw [← committedDescriptor_eq_none_iff, ← atStage.executing]
  refine ⟨fun same => ?_, executeCurrentCommand_of_ignored⟩
  by_contra accepted
  rw [not_or, Bool.not_eq_true] at accepted
  obtain ⟨descriptor, committed⟩ := Option.ne_none_iff_exists'.mp accepted.1
  rw [executeCurrentCommand_of_accepted committed accepted.2] at same
  have busy := congrArg CliUiController.executing same
  rw [accepted.2] at busy
  cases busy

/-- After every run the controller executes serially. -/
theorem executesSerially_run {allowed : CliUiController → Event → Prop} {events : List Event}
    (run : (machine jsoncons truncate).Runs allowed {} events controller) :
    controller.ExecutesSerially jsoncons truncate events := by
  obtain ⟨stage, atStage⟩ := exists_atStage run
  obtain ⟨recorded, result⟩ := record_run run
  refine ⟨fun _ _ => atStage.alone, recorded, ⟨SerialStage.waiting stage, ?_, ?_⟩, ?_, result,
    fun _ => ?_, ?_⟩
  · rcases stage with _ | _ | _ | _ <;> simp [SerialStage.waiting]
  · exact SerialStage.accepts_eq_calls_append stage atStage.history
  · obtain ⟨finished, same⟩ := SerialStage.exists_serialHistory atStage.history
    exact ⟨finished, stage, same⟩
  · rw [← SerialStage.isSome_iff_unstored stage atStage.history]
    exact atStage.executeCurrentCommand_eq_self_iff
  · obtain ⟨events, last, run, free, same⟩ := atStage.completes
    obtain ⟨called, stored⟩ := SerialStage.finished_of_free free.history
    exact ⟨events, last, run, called.trans same, stored.trans same⟩

end CliUiController

/-- After every run of the UI thread and the workers, commands have been executed serially and
exactly once: those that were committed when they were accepted, and the result that can be read
is that of the last one. -/
theorem commandExecution_serial {jsoncons : Jsoncons} {truncate : String → Int}
    {events : List CliUiController.Event} {controller : CliUiController}
    (run : (CliUiController.machine jsoncons truncate).Runs (fun _ _ => True) {} events
      controller) : controller.ExecutesSerially jsoncons truncate events :=
  CliUiController.executesSerially_run run

/-- The status of an endpoint, and while it is being queried another payload and another click;
then the list of agents, accepted while the first worker still runs its callback. -/
def twoCommands : List CliUiController.Event :=
  [.commitCommand 1, .setPayload "link", .executeCurrentCommand,
    .joined (some ⟨.getEndpointStatus, "link"⟩), .startThread ⟨.getEndpointStatus, "link"⟩,
    .call 0 ⟨.getEndpointStatus, "link"⟩, .commitCommand 3, .clearPayload, .executeCurrentCommand,
    .answer 0 ⟨.getEndpointStatus, "link"⟩ ⟨true, [], "connected"⟩,
    .store 0 ⟨.getEndpointStatus, "link"⟩ ⟨true, [], "connected"⟩, .executeCurrentCommand,
    .finish 0 ⟨.getEndpointStatus, "link"⟩, .joined (some ⟨.getAgentList, ""⟩),
    .startThread ⟨.getAgentList, ""⟩, .call 1 ⟨.getAgentList, ""⟩]

theorem commandExecution_serial_sample :
    let controller := twoCommands.foldl (CliUiController.machine (.reading []) fun _ => 0).next {}
    SerialStage.calls controller.history = [⟨.getEndpointStatus, "link"⟩, ⟨.getAgentList, ""⟩] ∧
      controller.commandResult = some ⟨true, [], "connected"⟩ ∧
      controller.ExecutesSerially (.reading []) (fun _ => 0) twoCommands := by
  intro controller
  have run : (CliUiController.machine (.reading []) fun _ => 0).Runs (fun _ _ => True) {}
      twoCommands controller := Machine.runs_of_play rfl
  have serial := commandExecution_serial run
  exact ⟨rfl, serial.result, serial⟩

end MavlinkHub
