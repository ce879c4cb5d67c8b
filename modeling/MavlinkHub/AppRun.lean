/-
This file puts the members of the application together as `App::run` and the destructor of
`AppImpl` use them: the signal handler is started before the UI and stopped after it; then
the members go in the reverse of the order in which they are declared, the UI before the
service and the manager that it calls.

`CliUiHandler::stop` can return while a command is in flight. The destructor of the
controller waits once more, for the thread that the controller holds. If the UI thread
and the main thread never use `execute_thread` at the same time, that is every worker that
has not ended. So nobody is in the service when the manager goes, and nothing that `run`
started is left at the end.
-/

import MavlinkHub.ServedUi
import MavlinkHub.SignalStop
import MavlinkHub.Teardown

namespace MavlinkHub

open Transition

/-! ### The execute thread between two threads -/

namespace CliUi

variable {ui : CliUi} {jsoncons : Jsoncons} {truncate : String → Int} {event : Event}

/-- The main thread is in a `join` of the execute thread while the UI thread joins or assigns it,
which `std::thread` leaves undefined. -/
def racing (ui : CliUi) : Bool :=
  match ui.commandWait, ui.controller.uiCall with
  | .joining _, .joining _ | .joining _, .starting _ => true
  | _, _ => false

/-- What the runs without such a race keep: the execute thread holds every worker that has not
ended, also while `stop` waits for it. -/
structure Held (ui : CliUi) : Prop where
  ordered : ui.handler.Ordered
  stopped : ui.handler.mainThread = .returned → ui.handler.running = false
  atStage : ∃ stage, ui.controller.AtStage stage
  holds : ui.controller.HoldsUnfinished
  idle : ui.handler.uiThread ≠ .looping → ui.controller.uiCall = .idle
  waits : ∀ worker, ui.commandWait = .joining worker → ui.controller.executeThread = worker
  past : ui.commandWait ≠ .passed → ui.handler.mainThread ≠ .exiting ∧
    ui.handler.mainThread ≠ .joining ∧ ui.handler.mainThread ≠ .returned

theorem held_initial (tables : OverviewTables) : (initial tables).Held := by
  have tracked := tracked_initial tables
  exact ⟨tracked.ordered, nofun, tracked.atStage, tracked.holds, tracked.idle, nofun, tracked.past⟩

theorem Held.handler (held : ui.Held) {event : CliUiHandler.Event}
    (enabled : ui.Enabled (.handler event)) :
    (ui.next jsoncons truncate (.handler event)).Held := by
  obtain ⟨possible, admits⟩ := enabled
  refine ⟨held.ordered.next possible, fun returned => ?_, held.atStage, held.holds,
    fun outside => ?_, held.waits, fun before => ?_⟩
  · cases event with
    | join => rfl
    | start | exit => cases returned
    | enterStop =>
      have running := held.ordered.running possible.1
      simp [next, CliUiHandler.next, running] at returned
    | checkActive =>
      simp only [next, CliUiHandler.next] at returned
      split at returned <;> cases returned
    | requestShutdown | build | built | install | leave | fail | endRoutine =>
      exact held.stopped returned
  · rcases CliUiHandler.uiThread_next held.ordered possible outside with was | rfl
    · exact held.idle was
    · exact admits
  · have past := held.past before
    show (ui.handler.next event).mainThread ≠ _ ∧ (ui.handler.next event).mainThread ≠ _ ∧
      (ui.handler.next event).mainThread ≠ _
    rcases CliUiHandler.mainThread_next held.ordered possible with
      same | ⟨_, now⟩ | ⟨_, now⟩ | ⟨rfl, _⟩ | ⟨was, _⟩ | ⟨was, _⟩
    · rwa [same]
    · rw [now]
      decide
    · rw [now]
      decide
    · exact absurd admits before
    · exact absurd was past.1
    · exact absurd was past.2.1

theorem Held.controller (held : ui.Held) (calm : ui.racing = false) {event : CliUiController.Event}
    (enabled : ui.Enabled (.controller event)) :
    (ui.next jsoncons truncate (.controller event)).Held := by
  obtain ⟨possible, thread⟩ := enabled
  obtain ⟨stage, atStage⟩ := held.atStage
  refine ⟨held.ordered, held.stopped, atStage.next event possible,
    held.holds.next atStage possible, fun outside => ?_, fun worker joining => ?_, held.past⟩
  · exact (uiCall_of_worker (thread.resolve_right outside)).trans (held.idle outside)
  · have joins : ui.commandWait = .joining worker := joining
    rcases CliUiController.executeThread_next jsoncons truncate ui.controller event with
      same | ⟨cmd, rfl⟩ | ⟨cmd, rfl, _⟩
    · exact same.trans (held.waits worker joins)
    · rw [racing, joins, possible.1] at calm
      cases calm
    · rw [racing, joins, show ui.controller.uiCall = .starting cmd from possible] at calm
      cases calm

/-- Where the execute thread has ended, every worker has. -/
theorem Held.all_ended (held : ui.Held) (ended : ui.Ended ui.controller.executeThread)
    (index : Nat) : ¬ui.controller.Unfinished index := by
  intro unfinished
  have done := ended index (held.holds index unfinished)
  obtain ⟨running, found, alive⟩ := unfinished
  rw [found] at done
  exact alive (Option.some.inj done)

/-- The execute thread can be given up when all workers have ended. -/
theorem Held.release (held : ui.Held) (ended : ∀ index, ¬ui.controller.Unfinished index)
    {wait : CommandWait} (passed : wait = .passed) :
    { ui with controller := { ui.controller with executeThread := none }
              commandWait := wait }.Held := by
  obtain ⟨stage, atStage⟩ := held.atStage
  subst passed
  refine ⟨held.ordered, held.stopped, ⟨stage, ?_⟩, fun index unfinished => ?_, held.idle, nofun,
    fun before => absurd rfl before⟩
  · exact atStage.of_uiCall rfl rfl rfl rfl (fun _ held => by cases held) fun _ _ => rfl
  · exact absurd unfinished (ended index)

/-- Inside `stop` only the wait for a command changes. -/
theorem Held.wait (held : ui.Held) (stopping : ui.handler.mainThread = .stopping)
    {wait : CommandWait}
    (waits : ∀ worker, wait = .joining worker → ui.controller.executeThread = worker) :
    { ui with commandWait := wait }.Held := by
  refine ⟨held.ordered, held.stopped, held.atStage, held.holds, held.idle, waits, fun _ => ?_⟩
  rw [stopping]
  decide

/-- Every event keeps the execute thread where it is needed, but for a race. -/
theorem Held.next (held : ui.Held) (calm : ui.racing = false) (enabled : ui.Enabled event) :
    (ui.next jsoncons truncate event).Held := by
  cases event with
  | handler event => exact held.handler enabled
  | controller event => exact held.controller calm enabled
  | readExecuting =>
    refine held.wait enabled.1 fun worker looked => ?_
    split at looked <;> cases looked
  | joinExecution =>
    refine held.wait enabled.1 fun worker waits => ?_
    cases waits
    rfl
  | joined worker =>
    obtain ⟨joining, ended⟩ := enabled
    obtain rfl := held.waits worker joining
    cases thread : ui.controller.executeThread with
    | none =>
      exact ⟨held.ordered, held.stopped, held.atStage, held.holds, held.idle, nofun,
        fun before => absurd rfl before⟩
    | some index => exact held.release (held.all_ended ended) rfl

/-- When `stop` has returned and all workers have ended, nobody uses the controller. -/
theorem Held.unmoved (held : ui.Held) (returned : ui.handler.mainThread = .returned)
    (ended : ∀ index, ¬ui.controller.Unfinished index) (event : CliUiController.Event) :
    ¬ui.Enabled (.controller event) := by
  rintro ⟨possible, ofWorker | looping⟩
  · cases event with
    | call worker cmd => exact ended worker ⟨_, possible, nofun⟩
    | answer worker cmd result => exact ended worker ⟨_, possible, nofun⟩
    | store worker cmd result => exact ended worker ⟨_, possible, nofun⟩
    | finish worker cmd => exact ended worker ⟨_, possible, nofun⟩
    | _ => exact ofWorker.elim
  · rw [held.ordered.ended returned] at looping
    cases looping

/-- Once `stop` has returned it stays so, and no thread is created or given up. -/
theorem Held.returned_next (held : ui.Held) (enabled : ui.Enabled event)
    (returned : ui.handler.mainThread = .returned) :
    (ui.next jsoncons truncate event).handler.mainThread = .returned ∧
      (ui.next jsoncons truncate event).controller.executeThread = ui.controller.executeThread ∧
      ∀ index, (ui.next jsoncons truncate event).controller.Unfinished index →
        ui.controller.Unfinished index := by
  cases event with
  | handler event =>
    refine ⟨?_, rfl, fun _ => id⟩
    show (ui.handler.next event).mainThread = .returned
    rcases CliUiHandler.mainThread_next held.ordered enabled.1 with
      same | ⟨was, _⟩ | ⟨was, _⟩ | ⟨rfl, _⟩ | ⟨was, _⟩ | ⟨was, _⟩
    · rwa [same]
    · cases was.symm.trans returned
    · cases was.symm.trans returned
    · cases enabled.1.symm.trans returned
    · cases was.symm.trans returned
    · cases was.symm.trans returned
  | controller event =>
    have ofWorker : OfWorker event := by
      refine enabled.2.resolve_right fun looping => ?_
      rw [held.ordered.ended returned] at looping
      cases looping
    refine ⟨returned, ?_, fun index unfinished => ?_⟩
    · rcases CliUiController.executeThread_next jsoncons truncate ui.controller event with
        same | ⟨cmd, rfl⟩ | ⟨cmd, rfl, _⟩
      · exact same
      · exact ofWorker.elim
      · exact ofWorker.elim
    · rcases CliUiController.unfinished_next enabled.1 unfinished with was | ⟨cmd, rfl, _⟩
      · exact was
      · exact ofWorker.elim
  | readExecuting => exact ⟨returned, rfl, fun _ => id⟩
  | joinExecution => exact ⟨returned, rfl, fun _ => id⟩
  | joined worker =>
    have past := held.past fun passed => by cases passed.symm.trans enabled.1
    exact absurd returned past.2.2

end CliUi

/-! ### The application -/

/-- Where the main thread is in `App::run` and in the destructor of `AppImpl`. -/
inductive AppStage
  /-- `applyConfig` has returned. -/
  | configured
  /-- `signal_handler->start()` has returned; then comes all that is done to the UI. -/
  | handlingSignals
  | stoppingSignals
  /-- `run` has returned. -/
  | returned
  /-- In the destructors of the signal handler and of the UI handler. -/
  | destroyingSignals
  | destroyingUi
  /-- In the `joinExecution` of the destructor of the controller. -/
  | joiningExecution (worker : Option Nat)
  | uiDestroyed
  | managerDestroyed
  deriving DecidableEq

/-- `AppImpl`, with what its members work on. -/
structure AppImpl (sdk : Sdk) where
  stage : AppStage := .configured
  signalHandler : SignalHandler
  served : ServedUi sdk

namespace AppImpl

/-- `SIGINT` and `SIGTERM`. -/
def terminationSignals : List Signal := [2, 15]

variable {sdk : Sdk}

/-- What happens to the application. -/
inductive Event (sdk : Sdk)
  /-- `signal_handler->start()`. If it throws, the exception ends the process. -/
  | startSignals
  /-- `cli_handler.start()`. -/
  | startUi (inputs : AppServiceCommand → CallInputs) (order : VisitingOrder)
  /-- A signal arrives, the thread in `sigwait` moves, or `signal_handler->stop()` goes on. -/
  | signal (event : SignalHandler.Event)
  /-- The UI, its workers, `cli_handler.stop()` or the manager go on. -/
  | served (event : ServedUi.Event sdk)
  /-- `signal_handler->stop()` is entered, and returns; so does `run`. -/
  | stopSignals
  | returnFromRun
  /-- The destructors: of the signal handler, of the UI handler, of its controller with the `join`
  that it may wait in, and of the manager. -/
  | destroySignalHandler
  | destroyUiHandler
  | joinExecution
  | joined (worker : Option Nat)
  | destroyManager (order : VisitingOrder)

/-- An event of the UI that is a call of the application's own. -/
def IsCall : ServedUi.Event sdk → Prop
  | .ui (.handler .start) _ | .ui (.handler .requestShutdown) _ => True
  | _ => False

variable (jsoncons : Jsoncons) (truncate : String → Int) (app : AppImpl sdk)

/-- When an event can happen. The manager takes no step after it is destroyed. -/
def Enabled : Event sdk → Prop
  | .startSignals => app.stage = .configured ∧
      app.signalHandler.Enabled terminationSignals (.start .started)
  | .startUi _ _ => app.stage = .handlingSignals ∧
      app.served.ui.Enabled (.handler .start)
  | .signal event => ¬event.BeginsCall ∧ app.signalHandler.Enabled terminationSignals event
  | .served event => ¬IsCall event ∧ app.stage ≠ .managerDestroyed ∧
      app.served.Enabled jsoncons event
  | .stopSignals => app.stage = .handlingSignals ∧
      app.served.ui.handler.mainThread = .returned ∧
      app.signalHandler.Enabled terminationSignals .enterStop
  | .returnFromRun => app.stage = .stoppingSignals ∧ app.signalHandler.stopPhase = .outside
  | .destroySignalHandler => app.stage = .returned ∧
      app.signalHandler.Enabled terminationSignals .enterStop
  | .destroyUiHandler => app.stage = .destroyingSignals ∧
      app.signalHandler.stopPhase = .outside ∧ app.served.ui.handler.mainThread = .returned
  | .joinExecution => app.stage = .destroyingUi
  | .joined worker => app.stage = .joiningExecution worker ∧ app.served.ui.Ended worker
  | .destroyManager _ => app.stage = .uiDestroyed

/-- `requestShutdown`, called by the thread in `sigwait`. -/
def requestShutdown : AppImpl sdk :=
  { app with served.ui.handler.shutdownRequested := true }

/-- The signal handler moves. When its thread gets past `requestShutdown` the flag is set. -/
def moveSignal (event : SignalHandler.Event) : AppImpl sdk :=
  let moved := { app with signalHandler := app.signalHandler.next terminationSignals event }
  if event = .finishRequest then moved.requestShutdown else moved

/-- `CliUiHandler::start` refreshes the tables and creates the UI thread. -/
def startUi (inputs : AppServiceCommand → CallInputs) (order : VisitingOrder) : AppImpl sdk :=
  let (tables, service, world) := CliUiController.updateOverviewData jsoncons truncate
    (AppService.interface jsoncons (Manager.interface order) inputs)
    app.served.ui.controller.tables (app.served.service, app.served.world)
  { app with
    served :=
      { ui :=
          { app.served.ui with
            handler := app.served.ui.handler.next .start
            controller := { app.served.ui.controller with tables } }
        service, world } }

/-- `CliUiHandler::~CliUiHandler` calls `stop`, and then the members go. -/
def destroyUiHandler : AppImpl sdk :=
  if app.served.ui.handler.running then
    { app with served.ui.handler.mainThread := .stopping }
  else { app with stage := .destroyingUi }

/-- What an event leads to. -/
def next : Event sdk → AppImpl sdk
  | .startSignals =>
    { app with
      stage := .handlingSignals
      signalHandler := app.signalHandler.next terminationSignals (.start .started) }
  | .startUi inputs order => app.startUi jsoncons truncate inputs order
  | .signal event => app.moveSignal event
  | .served event => { app with served := app.served.next jsoncons truncate event }
  | .stopSignals =>
    { app with
      stage := .stoppingSignals
      signalHandler := app.signalHandler.next terminationSignals .enterStop }
  | .returnFromRun => { app with stage := .returned }
  | .destroySignalHandler =>
    { app with
      stage := .destroyingSignals
      signalHandler := app.signalHandler.next terminationSignals .enterStop }
  | .destroyUiHandler => app.destroyUiHandler
  | .joinExecution =>
    { app with stage := .joiningExecution app.served.ui.controller.executeThread }
  | .joined _ =>
    { app with stage := .uiDestroyed, served.ui.controller.executeThread := none }
  | .destroyManager order =>
    { app with
      stage := .managerDestroyed, served.world := Manager.destroy order app.served.world }

/-- An application that has applied its configuration, in a thread with some mask and a process
with some pending signals. -/
def initial (mask : Finset Signal) (processPending : PendingSignals) (service : AppServiceImpl)
    (world : World sdk) : AppImpl sdk :=
  { signalHandler := .initial mask processPending, served := ⟨.initial {}, service, world⟩ }

/-- The application. -/
def machine : Machine (AppImpl sdk) (Event sdk) where
  enabled app event := app.Enabled jsoncons event
  next app event := app.next jsoncons truncate event

/-- The event does not get the two threads to the execute thread at the same time. -/
def RaceFree (event : Event sdk) : Prop :=
  (app.next jsoncons truncate event).served.ui.racing = false

instance : DecidablePred (@IsCall sdk)
  | .ui (.handler event) _ =>
    match event with
    | .start | .requestShutdown => isTrue trivial
    | .enterStop | .checkActive | .exit | .join | .build | .built | .install | .leave | .fail
    | .endRoutine => isFalse id
  | .ui (.controller _) _ | .ui .readExecuting _ | .ui .joinExecution _ | .ui (.joined _) _
  | .operate _ => isFalse id

instance : DecidablePred (app.Enabled jsoncons)
  | .startSignals | .startUi _ _ | .signal _ | .returnFromRun | .destroySignalHandler
  | .joined _ => inferInstanceAs (Decidable (_ ∧ _))
  | .served _ | .stopSignals | .destroyUiHandler => inferInstanceAs (Decidable (_ ∧ _ ∧ _))
  | .joinExecution | .destroyManager _ => inferInstanceAs (Decidable (_ = _))

instance (event : Event sdk) : Decidable ((machine jsoncons truncate).enabled app event) :=
  inferInstanceAs (Decidable (app.Enabled jsoncons event))

instance (event : Event sdk) : Decidable (app.RaceFree jsoncons truncate event) :=
  inferInstanceAs (Decidable (_ = _))

/-! ### What the main thread has behind it -/

/-- `stop` of the UI handler has returned. -/
def UiStopped : Prop :=
  app.served.ui.handler.mainThread = .returned

/-- If the signal handler is started, its `stop` has not returned. -/
def SignalsStopping : Prop :=
  app.signalHandler.started = true → app.signalHandler.stopPhase ≠ .outside

/-- `stop` of the signal handler has returned. -/
def SignalsStopped : Prop :=
  app.signalHandler.stopPhase = .outside ∧ app.signalHandler.started = false

/-- What has been done when the main thread is at a stage. -/
def Behind : AppStage → Prop
  | .configured | .handlingSignals => app.signalHandler.stopPhase = .outside
  | .stoppingSignals | .destroyingSignals => app.UiStopped ∧ app.SignalsStopping
  | .returned | .destroyingUi => app.UiStopped ∧ app.SignalsStopped
  | .joiningExecution worker => app.UiStopped ∧ app.SignalsStopped ∧
      app.served.ui.controller.executeThread = worker
  | .uiDestroyed => app.UiStopped ∧ app.SignalsStopped ∧
      ∀ index, ¬app.served.ui.controller.Unfinished index
  | .managerDestroyed => app.UiStopped ∧ app.SignalsStopped ∧
      (∀ index, ¬app.served.ui.controller.Unfinished index) ∧
      app.served.world.agents = ∅ ∧ app.served.world.endpointDb = ∅

/-- What the runs of the application keep. -/
structure Orderly (mask : Finset Signal) (app : AppImpl sdk) : Prop where
  held : app.served.ui.Held
  serial : app.served.ui.Serial
  saved : app.signalHandler.Saved terminationSignals mask
  staffed : app.signalHandler.Staffed
  reachable : app.served.world.Reachable
  behind : app.Behind app.stage

variable {jsoncons truncate app} {mask : Finset Signal}

theorem orderly_initial (processPending : PendingSignals) (service : AppServiceImpl)
    {world : World sdk} (reachable : world.Reachable) :
    (initial mask processPending service world).Orderly mask where
  held := CliUi.held_initial {}
  serial := CliUi.serial_initial {}
  saved := SignalHandler.saved_initial mask processPending
  staffed := SignalHandler.staffed_initial mask processPending
  reachable := reachable
  behind := rfl

/-- Neither of the two termination signals gets the loop of `stop` stuck. -/
theorem drainable (processPending : PendingSignals) :
    SignalHandler.Drainable terminationSignals processPending where
  known := by decide
  once signal member _ := by
    have each : ∀ listed ∈ terminationSignals,
        listed.Settable ∧ terminationSignals.count listed = 1 := by decide
    exact each signal member

/-- What is behind the main thread stays so. -/
theorem Behind.of_moved {moved : AppImpl sdk} {stage : AppStage} (behind : app.Behind stage)
    (ui : app.UiStopped → moved.UiStopped ∧
      moved.served.ui.controller.executeThread = app.served.ui.controller.executeThread ∧
      ∀ index, moved.served.ui.controller.Unfinished index →
        app.served.ui.controller.Unfinished index)
    (outside : app.signalHandler.stopPhase = .outside → moved.signalHandler.stopPhase = .outside)
    (stopping : app.SignalsStopping → moved.SignalsStopping)
    (stopped : app.SignalsStopped → moved.SignalsStopped)
    (world : stage = .managerDestroyed → moved.served.world = app.served.world) :
    moved.Behind stage := by
  cases stage with
  | configured | handlingSignals => exact outside behind
  | stoppingSignals | destroyingSignals => exact ⟨(ui behind.1).1, stopping behind.2⟩
  | returned | destroyingUi => exact ⟨(ui behind.1).1, stopped behind.2⟩
  | joiningExecution worker =>
    obtain ⟨uiStopped, signalsStopped, rfl⟩ := behind
    obtain ⟨still, thread, _⟩ := ui uiStopped
    exact ⟨still, stopped signalsStopped, thread⟩
  | uiDestroyed =>
    obtain ⟨uiStopped, signalsStopped, none⟩ := behind
    obtain ⟨still, _, older⟩ := ui uiStopped
    exact ⟨still, stopped signalsStopped,
      fun index unfinished => none index (older index unfinished)⟩
  | managerDestroyed =>
    obtain ⟨uiStopped, signalsStopped, none, empty⟩ := behind
    obtain ⟨still, _, older⟩ := ui uiStopped
    refine ⟨still, stopped signalsStopped,
      fun index unfinished => none index (older index unfinished), ?_⟩
    rwa [world rfl]

/-! ### The events -/

/-- The thread in `sigwait` and `stop` leave what is behind the main thread. -/
theorem signal_next {event : SignalHandler.Event} (inside : ¬event.BeginsCall)
    (enabled : app.signalHandler.Enabled terminationSignals event) :
    (app.signalHandler.stopPhase = .outside →
        (app.moveSignal event).signalHandler.stopPhase = .outside) ∧
      (app.SignalsStopping → (app.moveSignal event).SignalsStopping) ∧
      (app.SignalsStopped → (app.moveSignal event).SignalsStopped) := by
  have moved : (app.moveSignal event).signalHandler =
      app.signalHandler.next terminationSignals event := by
    rw [moveSignal]
    split_ifs <;> rfl
  simp only [SignalsStopping, SignalsStopped, moved]
  rcases SignalHandler.keeps_or_restore event enabled inside with keeps | ⟨rfl, inStop⟩
  · refine ⟨keeps.outside.mpr, fun stopping started outside => ?_, fun stopped => ?_⟩
    · exact stopping (keeps.started ▸ started) (keeps.outside.mp outside)
    · exact ⟨keeps.outside.mpr stopped.1, keeps.started.trans stopped.2⟩
  · exact ⟨fun _ => rfl, fun _ => nofun, fun stopped => absurd stopped.1 inStop⟩

theorem Orderly.signal (orderly : app.Orderly mask) {event : SignalHandler.Event}
    (inside : ¬event.BeginsCall) (enabled : app.signalHandler.Enabled terminationSignals event) :
    (app.moveSignal event).Orderly mask := by
  have saved := SignalHandler.saved_next event orderly.saved enabled
  have staffed := orderly.staffed.next event (drainable _) enabled
  obtain ⟨outside, stopping, stopped⟩ := signal_next inside enabled
  rw [moveSignal] at *
  split_ifs at *
  · have held := orderly.held
    refine ⟨⟨⟨held.ordered.absent, held.ordered.running, held.ordered.ended⟩, held.stopped,
      held.atStage, held.holds, held.idle, held.waits, held.past⟩, ⟨orderly.serial.atStage,
      orderly.serial.sourced⟩, saved, staffed, orderly.reachable, ?_⟩
    exact orderly.behind.of_moved (fun returned => ⟨returned, rfl, fun _ => id⟩) outside stopping
      stopped fun _ => rfl
  · refine ⟨orderly.held, orderly.serial, saved, staffed, orderly.reachable, ?_⟩
    exact orderly.behind.of_moved (fun returned => ⟨returned, rfl, fun _ => id⟩) outside stopping
      stopped fun _ => rfl

/-- The UI and the manager go on. -/
theorem Orderly.served (orderly : app.Orderly mask) {event : ServedUi.Event sdk}
    (calm : app.served.ui.racing = false) (alive : app.stage ≠ .managerDestroyed)
    (enabled : app.served.Enabled jsoncons event) :
    { app with served := app.served.next jsoncons truncate event }.Orderly mask := by
  cases event with
  | operate operation =>
    exact ⟨orderly.held, orderly.serial, orderly.saved, orderly.staffed,
      orderly.reachable.perform operation, orderly.behind.of_moved
        (fun returned => ⟨returned, rfl, fun _ => id⟩) id id id
        fun destroyed => absurd destroyed alive⟩
  | ui event inputs =>
    rw [ServedUi.next_ui orderly.serial enabled]
    exact ⟨orderly.held.next calm enabled.1, orderly.serial.next enabled.1, orderly.saved,
      orderly.staffed, orderly.reachable, orderly.behind.of_moved
        (orderly.held.returned_next enabled.1) id id id fun _ => rfl⟩

theorem Orderly.startUi (orderly : app.Orderly mask) (stage : app.stage = .handlingSignals)
    (inputs : AppServiceCommand → CallInputs) (order : VisitingOrder)
    (enabled : app.served.ui.Enabled (.handler .start)) :
    (app.startUi jsoncons truncate inputs order).Orderly mask := by
  have held : (app.served.ui.next jsoncons truncate (.handler .start)).Held :=
    orderly.held.handler enabled
  obtain ⟨current, atStage⟩ := orderly.held.atStage
  have unchanged := ServedUi.updateOverviewData_state jsoncons truncate inputs order
    app.served.ui.controller.tables app.served.service app.served.world
  have refreshed (tables : OverviewTables) :
      { app.served.ui.controller with tables }.AtStage current :=
    atStage.of_uiCall rfl rfl rfl rfl atStage.held atStage.joined
  rw [AppImpl.startUi]
  simp only [unchanged]
  refine ⟨⟨held.ordered, held.stopped, ⟨current, refreshed _⟩, held.holds, held.idle, held.waits,
    held.past⟩, ⟨⟨current, refreshed _⟩, ?_⟩, orderly.saved, orderly.staffed, orderly.reachable, ?_⟩
  · exact orderly.serial.sourced.of_silent rfl (.inl rfl) (.inl rfl) (.inl rfl)
  · have behind := orderly.behind
    rw [stage] at behind
    show Behind _ app.stage
    rw [stage]
    exact behind

/-- Where `stop` of the signal handler is entered. -/
theorem Orderly.enterStop (orderly : app.Orderly mask)
    (enabled : app.signalHandler.Enabled terminationSignals .enterStop) :
    (app.signalHandler.next terminationSignals .enterStop).Saved terminationSignals mask ∧
      (app.signalHandler.next terminationSignals .enterStop).Staffed ∧
      ((app.signalHandler.next terminationSignals .enterStop).started = true →
        (app.signalHandler.next terminationSignals .enterStop).stopPhase ≠ .outside) :=
  ⟨SignalHandler.saved_next .enterStop orderly.saved enabled,
    orderly.staffed.next .enterStop (drainable _) enabled, SignalHandler.enterStop_inStop⟩

theorem Orderly.joined (orderly : app.Orderly mask) {worker : Option Nat}
    (stage : app.stage = .joiningExecution worker) (finished : app.served.ui.Ended worker) :
    (app.next jsoncons truncate (.joined worker)).Orderly mask := by
  have behind := orderly.behind
  rw [stage] at behind
  obtain ⟨uiStopped, signalsStopped, rfl⟩ := behind
  have ended := orderly.held.all_ended finished
  have passed : app.served.ui.commandWait = .passed := by
    by_contra before
    exact (orderly.held.past before).2.2 uiStopped
  have held := orderly.held.release ended passed
  exact ⟨held, ⟨held.atStage,
      orderly.serial.sourced.of_silent rfl (.inl rfl) (.inl rfl) (.inl rfl)⟩,
    orderly.saved, orderly.staffed, orderly.reachable, uiStopped, signalsStopped, ended⟩

/-- Every event of the application keeps it in order, but for a race. -/
theorem Orderly.next (orderly : app.Orderly mask) {event : Event sdk}
    (calm : app.served.ui.racing = false) (enabled : app.Enabled jsoncons event) :
    (app.next jsoncons truncate event).Orderly mask := by
  have behind := orderly.behind
  cases event with
  | startSignals =>
    exact ⟨orderly.held, orderly.serial, SignalHandler.saved_next _ orderly.saved enabled.2,
      orderly.staffed.next _ (drainable _) enabled.2, orderly.reachable,
      (SignalHandler.start_stopPhase .started).trans enabled.2⟩
  | startUi inputs order => exact orderly.startUi enabled.1 inputs order enabled.2
  | signal event => exact orderly.signal enabled.1 enabled.2
  | served event => exact orderly.served calm enabled.2.1 enabled.2.2
  | stopSignals =>
    obtain ⟨_, returned, possible⟩ := enabled
    obtain ⟨saved, staffed, stopping⟩ := orderly.enterStop possible
    exact ⟨orderly.held, orderly.serial, saved, staffed, orderly.reachable, returned, stopping⟩
  | returnFromRun =>
    obtain ⟨stage, outside⟩ := enabled
    rw [stage] at behind
    obtain ⟨uiStopped, stopping⟩ := behind
    exact ⟨orderly.held, orderly.serial, orderly.saved, orderly.staffed, orderly.reachable,
      uiStopped, outside, Bool.eq_false_iff.mpr fun started => stopping started outside⟩
  | destroySignalHandler =>
    obtain ⟨stage, possible⟩ := enabled
    rw [stage] at behind
    obtain ⟨saved, staffed, stopping⟩ := orderly.enterStop possible
    exact ⟨orderly.held, orderly.serial, saved, staffed, orderly.reachable, behind.1, stopping⟩
  | destroyUiHandler =>
    obtain ⟨stage, outside, _⟩ := enabled
    rw [stage] at behind
    obtain ⟨uiStopped, stopping⟩ := behind
    have idle : app.served.ui.handler.running = false := orderly.held.stopped uiStopped
    rw [AppImpl.next, AppImpl.destroyUiHandler, idle]
    exact ⟨orderly.held, orderly.serial, orderly.saved, orderly.staffed, orderly.reachable,
      uiStopped, outside, Bool.eq_false_iff.mpr fun started => stopping started outside⟩
  | joinExecution =>
    rw [show app.stage = .destroyingUi from enabled] at behind
    exact ⟨orderly.held, orderly.serial, orderly.saved, orderly.staffed, orderly.reachable,
      behind.1, behind.2, rfl⟩
  | joined worker => exact orderly.joined enabled.1 enabled.2
  | destroyManager order =>
    rw [show app.stage = .uiDestroyed from enabled] at behind
    obtain ⟨uiStopped, signalsStopped, ended⟩ := behind
    obtain ⟨⟨removals, destroyed, _⟩, empty⟩ := destroy_run order orderly.reachable
    exact ⟨orderly.held, orderly.serial, orderly.saved, orderly.staffed,
      orderly.reachable.run destroyed, uiStopped, signalsStopped, ended, empty⟩

theorem orderly_run {first : AppImpl sdk} {events : List (Event sdk)}
    (run : (machine jsoncons truncate).Runs (RaceFree jsoncons truncate) first events app)
    (calm : first.served.ui.racing = false) (orderly : first.Orderly mask) :
    app.served.ui.racing = false ∧ app.Orderly mask := by
  refine run.invariant (fun app => app.served.ui.racing = false ∧ app.Orderly mask) ?_
    ⟨calm, orderly⟩
  rintro app event ⟨calm, orderly⟩ enabled raceFree
  exact ⟨raceFree, orderly.next calm enabled⟩

end AppImpl

/-- Nothing that `App::run` started outlives the application. If the UI thread and the main thread
never use the execute thread at the same time, then whatever the user does, whatever signals arrive
and however all threads interleave: when the manager is about to be destroyed and afterwards, no
thread of the UI, no worker and no signal thread is left that could call anything, the signal mask
is the one from before, and the manager leaves neither agents nor endpoints. -/
theorem app_endsClean {sdk : Sdk} {jsoncons : Jsoncons} {truncate : String → Int}
    {mask : Finset Signal} {processPending : PendingSignals} {service : AppServiceImpl}
    {world : World sdk} {events : List (AppImpl.Event sdk)} {app : AppImpl sdk}
    (reachable : world.Reachable)
    (run : (AppImpl.machine jsoncons truncate).Runs (AppImpl.RaceFree jsoncons truncate)
      (.initial mask processPending service world) events app) :
    (app.stage = .uiDestroyed ∨ app.stage = .managerDestroyed →
        (app.served.ui.handler.uiThread = .ended ∧
            ∀ event, ¬app.served.ui.Enabled (.controller event)) ∧
          app.signalHandler.sigwaitThread = .none ∧ app.signalHandler.mask = mask) ∧
      (app.stage = .managerDestroyed →
        app.served.world.agents = ∅ ∧ app.served.world.endpointDb = ∅) := by
  obtain ⟨_, orderly⟩ := AppImpl.orderly_run run rfl
    (AppImpl.orderly_initial processPending service reachable)
  have behind := orderly.behind
  refine ⟨fun late => ?_, fun destroyed => ?_⟩
  · have gone : app.UiStopped ∧ app.SignalsStopped ∧
        ∀ index, ¬app.served.ui.controller.Unfinished index := by
      rcases late with stage | stage <;> rw [stage] at behind
      · exact behind
      · exact ⟨behind.1, behind.2.1, behind.2.2.1⟩
    obtain ⟨uiStopped, ⟨_, stopped⟩, ended⟩ := gone
    exact ⟨⟨orderly.held.ordered.ended uiStopped, orderly.held.unmoved uiStopped ended⟩,
      (orderly.staffed.absent stopped).1, orderly.saved.mask_of_stopped stopped⟩
  · rw [destroyed] at behind
    exact behind.2.2.2

/-! ### The sample -/

/-- A termination signal ends the application. The user gets a command in behind the look of
`stop`, and only the destructor of the controller waits for it. -/
noncomputable def commandAtTheEnd : List (AppImpl.Event sampleSdk) :=
  let cmd : AppServiceCommand := ⟨.getAgentStatus, ""⟩
  let failure : CommandResult :=
    ⟨false, ["[AppService]: Agent status is not retrieved because the agent name is missing"], ""⟩
  let ui event : AppImpl.Event sampleSdk := .served (.ui event someInputs)
  [.startSignals, .startUi (fun _ => someInputs) someInputs.order, ui (.handler .build),
    ui (.handler .built), ui (.handler .install), ui (.controller (.commitCommand 4)),
    .signal (.deliver 15), .signal (.takeProcess 15), .signal .finishRequest,
    ui (.handler .enterStop), ui .readExecuting, ui (.controller .executeCurrentCommand),
    ui (.controller (.joined (some cmd))), ui (.controller (.startThread cmd)),
    ui (.controller (.call 0 cmd)), ui (.handler .checkActive), ui (.handler .exit),
    ui (.handler .leave), ui (.handler .endRoutine), ui (.handler .join), .stopSignals,
    .signal .join, .signal .snapshot, .signal .drain, .signal .drain, .signal .restore,
    .returnFromRun, .destroySignalHandler, .destroyUiHandler, .joinExecution,
    ui (.controller (.answer 0 cmd failure)), ui (.controller (.store 0 cmd failure)),
    ui (.controller (.finish 0 cmd)), .joined (some 0), .destroyManager someInputs.order]

theorem app_endsClean_sample :
    let app := commandAtTheEnd.foldl (AppImpl.next (.reading []) fun _ => 0)
      (.initial {17} ∅ {} sampleWorld)
    app.stage = .managerDestroyed ∧ app.signalHandler.mask = {17} ∧
      app.served.world.agents = ∅ := by
  intro app
  have run : (AppImpl.machine (.reading []) fun _ => 0).Runs
      (AppImpl.RaceFree (.reading []) fun _ => 0) (.initial {17} ∅ {} sampleWorld)
      commandAtTheEnd app := Machine.runs_of_play rfl
  obtain ⟨clean, gone⟩ := app_endsClean (World.reachable_initial _ _ _) run
  exact ⟨rfl, (clean (.inr rfl)).2.2, (gone rfl).1⟩

end MavlinkHub
