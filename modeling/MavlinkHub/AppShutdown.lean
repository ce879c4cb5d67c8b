/-
This file proves that the application comes to its end. Two things stand against it: `stop`
may look for the loop of the UI too early, and then wait for it for ever; and the user may
begin one command after the other. In the runs in which the look comes in time nothing else
does. Once a shutdown is requested, somebody can always make the next move, with nobody
outside having to do anything. And all moves together are few: each leaves less to do, and
only a command, a refresh or a redraw that is begun adds some.
-/

import MavlinkHub.AppRun

namespace MavlinkHub

open Transition

/-! ### What is left to do -/

/-- How many moves are left at most to the main thread in the handler of the UI. -/
def MainThread.work : MainThread → Nat
  | .beforeStart => 5
  | .waitingForShutdown => 4
  | .stopping => 3
  | .exiting => 2
  | .joining => 1
  | .returned => 0

def UiThread.work : UiThread → Nat
  | .absent => 6
  | .spawned => 5
  | .building => 4
  | .entering => 3
  | .looping => 2
  | .left => 1
  | .ended => 0

def CommandWait.work : CommandWait → Nat
  | .unlooked => 3
  | .waiting => 2
  | .joining _ => 1
  | .passed => 0

def WorkerPhase.work : WorkerPhase → Nat
  | .spawned => 4
  | .inService => 3
  | .returned _ => 2
  | .stored => 1
  | .done => 0

/-- The moves of a worker that is yet to be created are counted here. -/
def UiCall.work : UiCall → Nat
  | .idle => 0
  | .joining none => 1
  | .joining (some _) => 6
  | .starting _ => 5
  | .fetchingAgents => 2
  | .fetchingEndpoints => 1
  | .rendering _ => 1

/-- The moves of `stop` that a stage leads to are counted in it. -/
def AppStage.work : AppStage → Nat
  | .configured => 20
  | .handlingSignals => 17
  | .stoppingSignals => 11
  | .returned => 10
  | .destroyingSignals => 4
  | .destroyingUi => 3
  | .joiningExecution _ => 2
  | .uiDestroyed => 1
  | .managerDestroyed => 0

namespace CliUiController

def workersWork : List Worker → Nat
  | [] => 0
  | worker :: rest => worker.phase.work + workersWork rest

/-- How many moves are left to a controller and its workers. -/
def work (controller : CliUiController) : Nat :=
  controller.uiCall.work + workersWork controller.workers

/-- The event begins a command, a `join`, a refresh or a redraw. -/
def Event.adds : Event → Bool
  | .executeCurrentCommand | .joinExecution | .updateOverviewData | .render => true
  | _ => false

/-- The event goes on with something that was begun. -/
def Event.own : Event → Bool
  | .joined _ | .startThread _ | .agentsReturn _ | .endpointsReturn _ | .renderName _ | .call _ _
  | .answer _ _ _ | .store _ _ _ | .finish _ _ => true
  | _ => false

variable {controller : CliUiController} {event : Event}

/-- A new worker comes last. -/
theorem workersWork_append (workers : List Worker) (worker : Worker) :
    workersWork (workers ++ [worker]) = workersWork workers + worker.phase.work := by
  induction workers with
  | nil => exact (Nat.zero_add _).symm
  | cons first rest inductionHypothesis =>
    rw [List.cons_append, workersWork, inductionHypothesis, workersWork, Nat.add_assoc]

/-- A worker that moves. -/
theorem workersWork_set {workers : List Worker} {index : Nat} {before after : Worker}
    (found : workers[index]? = some before) :
    workersWork (workers.set index after) + before.phase.work =
      workersWork workers + after.phase.work := by
  induction workers generalizing index with
  | nil => cases found
  | cons worker rest inductionHypothesis =>
    cases index with
    | zero =>
      cases found
      rw [List.set_cons_zero, workersWork, workersWork]
      omega
    | succ index =>
      have tail := inductionHypothesis found
      rw [List.set_cons_succ, workersWork, workersWork]
      omega

theorem work_worker {index : Nat} {cmd : AppServiceCommand} {before after : WorkerPhase}
    {moved : CliUiController} (found : controller.workers[index]? = some ⟨cmd, before⟩)
    (less : after.work + 1 = before.work) (uiCall : moved.uiCall = controller.uiCall)
    (workers : moved.workers = controller.workers.set index ⟨cmd, after⟩) :
    moved.work + 1 = controller.work := by
  have sum : workersWork (controller.workers.set index ⟨cmd, after⟩) + before.work =
      workersWork controller.workers + after.work := workersWork_set found
  rw [work, work, uiCall, workers]
  omega

/-- What is begun adds at most six moves, and every move that goes on leaves one less. -/
theorem work_next (jsoncons : Jsoncons) (truncate : String → Int)
    (enabled : controller.Enabled event) :
    (controller.next jsoncons truncate event).work + (if event.own then 1 else 0) ≤
      controller.work + (if event.adds then 6 else 0) := by
  cases event with
  | commitCommand | setPayload | clearPayload | clearResult => exact le_refl _
  | executeCurrentCommand =>
    rw [next]
    rcases controller.executeCurrentCommand_cases with same | ⟨descriptor, _, _, same⟩
    · rw [same]
      exact Nat.le_add_right _ _
    · rw [same]
      simp only [work, UiCall.work, Event.own, Event.adds, Bool.false_eq_true, if_true, if_false]
      omega
  | joinExecution | updateOverviewData =>
    simp only [next, work, UiCall.work, Event.own, Event.adds, Bool.false_eq_true, if_true,
      if_false]
    omega
  | render =>
    rw [next, render]
    split
    · exact Nat.le_add_right _ _
    · simp only [work, UiCall.work, Event.own, Event.adds, Bool.false_eq_true, if_true, if_false]
      omega
  | joined cmd =>
    cases cmd with
    | none =>
      simp only [next, Option.elim, work, UiCall.work, Event.own, Event.adds, enabled.1,
        Bool.false_eq_true, if_true, if_false]
      omega
    | some cmd =>
      simp only [next, Option.elim, work, UiCall.work, Event.own, Event.adds, enabled.1,
        Bool.false_eq_true, if_true, if_false]
      omega
  | startThread cmd =>
    have starting : controller.uiCall = .starting cmd := enabled
    simp only [next, startThread, work, workersWork_append, UiCall.work,
      WorkerPhase.work, Event.own, Event.adds, starting, Bool.false_eq_true, if_true, if_false]
    omega
  | agentsReturn result =>
    have fetching : controller.uiCall = .fetchingAgents := enabled
    rw [next, agentsReturn]
    split
    all_goals
      simp only [work, UiCall.work, Event.own, Event.adds, fetching, Bool.false_eq_true, if_true,
        if_false]
      omega
  | endpointsReturn result =>
    have fetching : controller.uiCall = .fetchingEndpoints := enabled
    rw [next, endpointsReturn]
    split
    all_goals
      simp only [work, UiCall.work, Event.own, Event.adds, fetching, Bool.false_eq_true, if_true,
        if_false]
      omega
  | renderName result =>
    have rendering : controller.uiCall = .rendering result := enabled
    simp only [next, work, UiCall.work, Event.own, Event.adds, rendering, Bool.false_eq_true,
      if_true, if_false]
    omega
  | call worker cmd => exact le_of_eq (work_worker enabled rfl rfl rfl)
  | answer worker cmd result => exact le_of_eq (work_worker enabled rfl rfl rfl)
  | store worker cmd result => exact le_of_eq (work_worker enabled rfl rfl rfl)
  | finish worker cmd => exact le_of_eq (work_worker enabled rfl rfl rfl)

end CliUiController

/-- How many moves are left to the main thread and the UI thread in the handler. -/
def CliUiHandler.work (handler : CliUiHandler) : Nat :=
  handler.mainThread.work + handler.uiThread.work

/-- All events but a request, which leaves as much to do, leave less. -/
theorem CliUiHandler.work_next {handler : CliUiHandler} {event : CliUiHandler.Event}
    (ordered : handler.Ordered) (enabled : handler.Enabled event) :
    (handler.next event).work + (if event = .requestShutdown then 0 else 1) ≤ handler.work := by
  cases event with
  | start =>
    have before : handler.mainThread = .beforeStart := enabled
    simp [next, work, MainThread.work, UiThread.work, before, ordered.absent before]
  | requestShutdown => exact le_refl _
  | enterStop =>
    rw [next]
    split
    all_goals
      simp only [work, MainThread.work, enabled.1, reduceCtorEq, if_false]
      omega
  | checkActive =>
    have stopping : handler.mainThread = .stopping := enabled
    rw [next]
    split
    all_goals
      simp only [work, MainThread.work, stopping, reduceCtorEq, if_false]
      omega
  | exit =>
    have exiting : handler.mainThread = .exiting := enabled
    simp only [next, work, MainThread.work, exiting, reduceCtorEq, if_false]
    omega
  | join =>
    simp only [next, work, MainThread.work, enabled.1, reduceCtorEq, if_false]
    omega
  | build | built | install | leave | endRoutine =>
    have there : handler.uiThread = _ := enabled
    simp [next, work, UiThread.work, there]
  | fail => rcases enabled with there | there <;> simp [next, work, UiThread.work, there]

namespace CliUi

/-- How many moves are left to the UI. -/
def work (ui : CliUi) : Nat :=
  ui.handler.work + ui.commandWait.work + ui.controller.work

def Event.adds : Event → Bool
  | .controller event => event.adds
  | _ => false

/-- The event goes on with something that was begun, or with `stop`. -/
def Event.own : Event → Bool
  | .controller event => event.own
  | .handler event => event ≠ .requestShutdown
  | _ => true

theorem work_next {ui : CliUi} {event : Event} (jsoncons : Jsoncons) (truncate : String → Int)
    (ordered : ui.handler.Ordered) (enabled : ui.Enabled event) :
    (ui.next jsoncons truncate event).work + (if event.own then 1 else 0) ≤
      ui.work + (if event.adds then 6 else 0) := by
  cases event with
  | handler event =>
    have less := CliUiHandler.work_next ordered enabled.1
    have counted : (if (Event.handler event).own then 1 else 0) =
        if event = .requestShutdown then 0 else 1 := by
      simp [Event.own]
    rw [counted]
    show (ui.handler.next event).work + ui.commandWait.work + ui.controller.work + _ ≤
      ui.handler.work + ui.commandWait.work + ui.controller.work + 0
    omega
  | controller event =>
    have less := CliUiController.work_next jsoncons truncate enabled.1
    show ui.handler.work + ui.commandWait.work +
        (ui.controller.next jsoncons truncate event).work + (if event.own then 1 else 0) ≤
      ui.handler.work + ui.commandWait.work + ui.controller.work + (if event.adds then 6 else 0)
    omega
  | readExecuting =>
    rw [next, work, work, enabled.2]
    split
    all_goals
      simp only [CommandWait.work, Event.own, Event.adds, Bool.false_eq_true, if_true, if_false]
      omega
  | joinExecution =>
    simp only [next, work, enabled.2, CommandWait.work, Event.own, Event.adds,
      Bool.false_eq_true, if_true, if_false]
    omega
  | joined worker =>
    cases worker with
    | none | some =>
      simp only [next, work, CliUiController.work, CommandWait.work, enabled.1,
        Event.own, Event.adds, Bool.false_eq_true, if_true, if_false]
      omega

end CliUi

/-! ### Going on with the UI -/

/-- A UI thread exists once it has been started. -/
def CliUiHandler.Present (handler : CliUiHandler) : Prop :=
  handler.mainThread ≠ .beforeStart → handler.uiThread ≠ .absent

theorem CliUiHandler.Present.next {handler : CliUiHandler} {event : CliUiHandler.Event}
    (present : handler.Present) (enabled : handler.Enabled event) :
    (handler.next event).Present := by
  cases event with
  | start | build | built | install | leave | fail | endRoutine => rintro _ ⟨⟩
  | requestShutdown => exact present
  | enterStop =>
    have there := present (by rw [enabled.1]; rintro ⟨⟩)
    rw [CliUiHandler.next]
    split <;> exact fun _ => there
  | checkActive =>
    have there := present (by rw [show handler.mainThread = .stopping from enabled]; rintro ⟨⟩)
    rw [CliUiHandler.next]
    split <;> exact fun _ => there
  | exit =>
    exact fun _ => present (by rw [show handler.mainThread = .exiting from enabled]; rintro ⟨⟩)
  | join => exact fun _ => present (by rw [enabled.1]; rintro ⟨⟩)

namespace CliUi

variable {ui : CliUi}

/-- A move that waits for nobody outside: the loop ends because an exit was posted, and nothing
fails. -/
def Drives (ui : CliUi) : Event → Prop
  | .handler .leave => ui.handler.exitPosted = true
  | .handler .start | .handler .requestShutdown | .handler .fail => False
  | event => event.own = true

/-- `stop` does not look for the loop while the UI thread is on its way to it. -/
def ChecksInTime (ui : CliUi) : Event → Prop
  | .handler event => ui.handler.ChecksInTime event
  | _ => True

instance : DecidablePred ui.ChecksInTime
  | .handler event => inferInstanceAs (Decidable (ui.handler.ChecksInTime event))
  | .controller _ | .readExecuting | .joinExecution | .joined _ => isTrue trivial

theorem racing_of_quiet (joining : ∀ cmd, ui.controller.uiCall ≠ .joining cmd)
    (starting : ∀ cmd, ui.controller.uiCall ≠ .starting cmd) : ui.racing = false := by
  rw [racing]
  split
  · next call => exact absurd call (joining _)
  · next call => exact absurd call (starting _)
  · rfl

theorem racing_of_wait (wait : ∀ worker, ui.commandWait ≠ .joining worker) :
    ui.racing = false := by
  rw [racing]
  split
  · next joins _ => exact absurd joins (wait _)
  · next joins _ => exact absurd joins (wait _)
  · rfl

/-- While the UI thread joins or assigns the execute thread, the main thread is in no `join`. -/
theorem wait_of_calm (calm : ui.racing = false)
    (busy : (∃ cmd, ui.controller.uiCall = .joining cmd) ∨
      ∃ cmd, ui.controller.uiCall = .starting cmd) (worker : Option Nat) :
    ui.commandWait ≠ .joining worker := by
  intro joins
  rcases busy with ⟨cmd, call⟩ | ⟨cmd, call⟩ <;> rw [racing, joins, call] at calm <;> cases calm

end CliUi

namespace ServedUi

variable {sdk : Sdk} {jsoncons : Jsoncons} {truncate : String → Int} {served : ServedUi sdk}

/-- An event of the UI can happen now, waits for nobody outside, and is one of the runs without a
race in which `stop` looks in time. -/
structure Moves (jsoncons : Jsoncons) (truncate : String → Int) (served : ServedUi sdk)
    (event : CliUi.Event) (inputs : CallInputs) : Prop where
  enabled : served.Enabled jsoncons (.ui event inputs)
  drives : served.ui.Drives event
  calm : (served.ui.next jsoncons truncate event).racing = false
  inTime : served.ui.ChecksInTime event

/-- Some event of the UI is such a move. -/
def GoesOn (jsoncons : Jsoncons) (truncate : String → Int) (served : ServedUi sdk) : Prop :=
  ∃ event inputs, served.Moves jsoncons truncate event inputs

/-- An event that is no return of a service call needs no answer. -/
theorem goesOn_of_silent (event : CliUi.Event) (silent : event.returned = none)
    (enabled : served.ui.Enabled event) (drives : served.ui.Drives event)
    (calm : (served.ui.next jsoncons truncate event).racing = false)
    (inTime : served.ui.ChecksInTime event) : served.GoesOn jsoncons truncate := by
  refine ⟨event, ⟨none, false, .discard, Classical.arbitrary VisitingOrder⟩, ⟨enabled, ?_⟩, drives,
    calm, inTime⟩
  rw [silent]
  exact nofun

/-- A return of a service call gets the answer of the service. -/
theorem goesOn_of_answered {cmd : AppServiceCommand} (event : CommandResult → CliUi.Event)
    (returned : ∀ result, (event result).returned = some (cmd, result))
    (enabled : ∀ result, served.ui.Enabled (event result))
    (drives : ∀ result, served.ui.Drives (event result))
    (calm : ∀ result, (served.ui.next jsoncons truncate (event result)).racing = false)
    (inTime : ∀ result, served.ui.ChecksInTime (event result)) :
    served.GoesOn jsoncons truncate := by
  let inputs : CallInputs := ⟨none, false, .discard, Classical.arbitrary VisitingOrder⟩
  let result := (served.serve jsoncons inputs cmd).1
  refine ⟨event result, inputs, ⟨enabled result, ?_⟩, drives result, calm result, inTime result⟩
  rw [returned]
  rintro call ⟨⟩
  rfl

/-- A worker that has not ended can go on. -/
theorem goesOn_of_unfinished {index : Nat} (unfinished : served.ui.controller.Unfinished index)
    (calm : served.ui.racing = false) : served.GoesOn jsoncons truncate := by
  obtain ⟨⟨cmd, phase⟩, found, alive⟩ := unfinished
  cases phase with
  | spawned =>
    exact goesOn_of_silent (.controller (.call index cmd)) rfl ⟨found, .inl trivial⟩ rfl
      calm trivial
  | inService =>
    exact goesOn_of_answered (fun result => .controller (.answer index cmd result))
      (fun _ => rfl) (fun _ => ⟨found, .inl trivial⟩) (fun _ => rfl) (fun _ => calm)
      fun _ => trivial
  | returned result =>
    exact goesOn_of_silent (.controller (.store index cmd result)) rfl
      ⟨found, .inl trivial⟩ rfl calm trivial
  | stored =>
    exact goesOn_of_silent (.controller (.finish index cmd)) rfl ⟨found, .inl trivial⟩ rfl
      calm trivial
  | done => exact absurd rfl alive

/-- Where the execute thread has not ended, its worker can go on. -/
theorem goesOn_of_not_ended (held : served.ui.Held) (calm : served.ui.racing = false)
    (waits : ¬served.ui.Ended served.ui.controller.executeThread) :
    served.GoesOn jsoncons truncate := by
  obtain ⟨stage, atStage⟩ := held.atStage
  simp only [CliUi.Ended, not_forall] at waits
  obtain ⟨index, member, alive⟩ := waits
  have bound := atStage.held index member
  refine goesOn_of_unfinished ⟨_, List.getElem?_eq_getElem bound, fun done => alive ?_⟩ calm
  rw [List.getElem?_eq_getElem bound, Option.map_some, done]

/-- A call that the UI thread is in can go on. -/
theorem goesOn_of_uiCall (held : served.ui.Held) (calm : served.ui.racing = false)
    (busy : served.ui.controller.uiCall ≠ .idle) : served.GoesOn jsoncons truncate := by
  have looping : served.ui.handler.uiThread = .looping := by
    by_contra outside
    exact busy (held.idle outside)
  cases call : served.ui.controller.uiCall with
  | idle => exact absurd call busy
  | joining cmd =>
    have wait := CliUi.wait_of_calm calm (.inl ⟨cmd, call⟩)
    by_cases joinable : served.ui.controller.Joinable
    · exact goesOn_of_silent (.controller (.joined cmd)) rfl
        ⟨⟨call, joinable⟩, .inr looping⟩ rfl (CliUi.racing_of_wait wait) trivial
    · exact goesOn_of_not_ended held calm joinable
  | starting cmd =>
    have wait := CliUi.wait_of_calm calm (.inr ⟨cmd, call⟩)
    exact goesOn_of_silent (.controller (.startThread cmd)) rfl ⟨call, .inr looping⟩ rfl
      (CliUi.racing_of_wait wait) trivial
  | fetchingAgents =>
    refine goesOn_of_answered (fun result => .controller (.agentsReturn result))
      (fun _ => rfl) (fun _ => ⟨call, .inr looping⟩) (fun _ => rfl) (fun result => ?_)
      fun _ => trivial
    obtain ⟨uiCall, tables, free, same⟩ :=
      @CliUiController.agentsReturn_cases served.ui.controller jsoncons truncate result
    rw [CliUi.next, CliUiController.next, same]
    refine CliUi.racing_of_quiet (fun cmd => ?_) fun cmd => ?_ <;> rcases free with rfl | rfl <;>
      rintro ⟨⟩
  | fetchingEndpoints =>
    refine goesOn_of_answered (fun result => .controller (.endpointsReturn result))
      (fun _ => rfl) (fun _ => ⟨call, .inr looping⟩) (fun _ => rfl) (fun result => ?_)
      fun _ => trivial
    obtain ⟨uiCall, tables, free, same⟩ :=
      @CliUiController.endpointsReturn_cases served.ui.controller jsoncons truncate result
    rw [CliUi.next, CliUiController.next, same]
    refine CliUi.racing_of_quiet (fun cmd => ?_) fun cmd => ?_ <;> rcases free with rfl | rfl <;>
      rintro ⟨⟩
  | rendering result =>
    refine goesOn_of_silent (.controller (.renderName result)) rfl ⟨call, .inr looping⟩ rfl
      (CliUi.racing_of_quiet (fun cmd => ?_) fun cmd => ?_) trivial <;> rintro ⟨⟩

/-- A UI thread that is on its way to its loop can go on. -/
theorem goesOn_of_onItsWay (calm : served.ui.racing = false)
    (onItsWay : served.ui.handler.OnItsWay) : served.GoesOn jsoncons truncate := by
  rcases onItsWay with spawned | building | entering
  · exact goesOn_of_silent (.handler .build) rfl ⟨spawned, trivial⟩ rfl calm trivial
  · exact goesOn_of_silent (.handler .built) rfl ⟨building, trivial⟩ rfl calm trivial
  · exact goesOn_of_silent (.handler .install) rfl ⟨entering, trivial⟩ rfl calm trivial

/-- `stop` can go on with the command that it waits for, or to the loop. -/
theorem goesOn_of_stopping (held : served.ui.Held) (calm : served.ui.racing = false)
    (stopping : served.ui.handler.mainThread = .stopping) : served.GoesOn jsoncons truncate := by
  cases wait : served.ui.commandWait with
  | unlooked =>
    refine goesOn_of_silent .readExecuting rfl ⟨stopping, wait⟩ rfl
      (CliUi.racing_of_wait fun worker => ?_) trivial
    rw [CliUi.next]
    split <;> rintro ⟨⟩
  | waiting =>
    by_cases idle : served.ui.controller.uiCall = .idle
    · refine goesOn_of_silent .joinExecution rfl ⟨stopping, wait⟩ rfl
        (CliUi.racing_of_quiet (fun cmd call => ?_) fun cmd call => ?_) trivial
      · cases idle.symm.trans call
      · cases idle.symm.trans call
    · exact goesOn_of_uiCall held calm idle
  | joining worker =>
    obtain rfl := held.waits worker wait
    by_cases ended : served.ui.Ended served.ui.controller.executeThread
    · refine goesOn_of_silent (.joined _) rfl ⟨wait, ended⟩ rfl
        (CliUi.racing_of_wait fun worker => ?_) trivial
      cases served.ui.controller.executeThread <;> rintro ⟨⟩
    · exact goesOn_of_not_ended held calm ended
  | passed =>
    by_cases onItsWay : served.ui.handler.OnItsWay
    · exact goesOn_of_onItsWay calm onItsWay
    · refine goesOn_of_silent (.handler .checkActive) rfl ⟨stopping, wait⟩ rfl
        (CliUi.racing_of_wait fun worker => ?_) onItsWay
      rw [CliUi.next, wait]
      rintro ⟨⟩

/-- Between its entry and its return `stop` can go on, or somebody it waits for. -/
theorem goesOn_of_requested (held : served.ui.Held) (calm : served.ui.racing = false)
    (informed : served.ui.handler.Informed) (present : served.ui.handler.Present)
    (requested : served.ui.handler.shutdownRequested = true)
    (started : served.ui.handler.mainThread ≠ .beforeStart)
    (running : served.ui.handler.mainThread ≠ .returned) : served.GoesOn jsoncons truncate := by
  cases main : served.ui.handler.mainThread with
  | beforeStart => exact absurd main started
  | waitingForShutdown =>
    exact goesOn_of_silent (.handler .enterStop) rfl ⟨⟨main, requested⟩, trivial⟩ rfl calm
      trivial
  | stopping => exact goesOn_of_stopping held calm main
  | exiting =>
    exact goesOn_of_silent (.handler .exit) rfl ⟨main, trivial⟩ rfl calm trivial
  | joining =>
    have seen := informed.seen (.inr main)
    cases thread : served.ui.handler.uiThread with
    | absent => exact absurd thread (present started)
    | spawned => exact absurd (.inl thread) seen
    | building => exact absurd (.inr (.inl thread)) seen
    | entering => exact absurd (.inr (.inr thread)) seen
    | looping =>
      by_cases idle : served.ui.controller.uiCall = .idle
      · exact goesOn_of_silent (.handler .leave) rfl ⟨thread, idle⟩
          (informed.posted main thread) calm trivial
      · exact goesOn_of_uiCall held calm idle
    | left =>
      exact goesOn_of_silent (.handler .endRoutine) rfl ⟨thread, trivial⟩ rfl calm trivial
    | ended =>
      exact goesOn_of_silent (.handler .join) rfl ⟨⟨main, thread⟩, trivial⟩ rfl calm trivial
  | returned => exact absurd main running

end ServedUi

namespace AppImpl

variable {sdk : Sdk} {jsoncons : Jsoncons} {truncate : String → Int} {mask : Finset Signal}

/-- How many moves are left to the application. -/
def work (app : AppImpl sdk) : Nat :=
  app.stage.work + app.signalHandler.work terminationSignals + app.served.ui.work

/-- The user or the loop begins something. -/
def Event.adds : Event sdk → Bool
  | .served (.ui event _) => event.adds
  | _ => false

/-- A move of the application's own: no signal that arrives, nothing that the user does, no step
that the manager takes by itself. -/
def Event.own : Event sdk → Bool
  | .signal event => event.own
  | .served (.ui event _) => event.own
  | .served (.operate _) => false
  | _ => true

variable {app : AppImpl sdk}

theorem start_work_le (handler : SignalHandler) :
    (handler.next terminationSignals (.start .started)).work terminationSignals ≤
      handler.work terminationSignals + 2 := by
  rw [SignalHandler.next, SignalHandler.start]
  split <;> simp only [SignalHandler.work, SigwaitThread.work] <;> omega

theorem enterStop_work_le {handler : SignalHandler} (outside : handler.stopPhase = .outside) :
    (handler.next terminationSignals .enterStop).work terminationSignals ≤
      handler.work terminationSignals + 5 := by
  have joining : StopPhase.joining.work terminationSignals = 5 := rfl
  rw [SignalHandler.next]
  split_ifs <;> simp only [SignalHandler.work, outside, joining] <;> omega

/-- A move of the main thread from one stage to another. -/
theorem work_stage {moved : AppImpl sdk} {before after : AppStage} {added : Nat}
    (was : app.stage = before) (now : moved.stage = after)
    (signals : moved.signalHandler.work terminationSignals ≤
      app.signalHandler.work terminationSignals + added)
    (ui : moved.served.ui.work = app.served.ui.work) (less : after.work + added + 1 = before.work) :
    moved.work + 1 ≤ app.work + 0 := by
  rw [work, work, was, now, ui]
  omega

/-- Every event of the application leaves less to do, or was begun outside. -/
theorem Orderly.work_next (orderly : app.Orderly mask) {event : Event sdk}
    (enabled : app.Enabled jsoncons event) :
    (app.next jsoncons truncate event).work + (if event.own then 1 else 0) ≤
      app.work + (if event.adds then 6 else 0) := by
  cases event with
  | startSignals =>
    exact work_stage enabled.1 rfl (start_work_le app.signalHandler) rfl rfl
  | startUi inputs order =>
    have less := CliUiHandler.work_next orderly.held.ordered enabled.2.1
    show app.stage.work + app.signalHandler.work terminationSignals +
        ((app.served.ui.handler.next .start).work + app.served.ui.commandWait.work +
          app.served.ui.controller.work) + 1 ≤ app.work + 0
    rw [work, CliUi.work]
    simp only [reduceCtorEq, if_false] at less
    omega
  | signal event =>
    have less := SignalHandler.work_next event enabled.2 enabled.1
    have moved : (app.moveSignal event).work = app.stage.work +
        (app.signalHandler.next terminationSignals event).work terminationSignals +
          app.served.ui.work := by
      rw [moveSignal]
      split_ifs <;> rfl
    show (app.moveSignal event).work + (if event.own then 1 else 0) ≤ app.work + 0
    rw [moved, work]
    omega
  | served event =>
    cases event with
    | operate operation => exact le_refl _
    | ui event inputs =>
      have less := CliUi.work_next jsoncons truncate orderly.held.ordered enabled.2.2.1
      rw [AppImpl.next, ServedUi.next_ui orderly.serial enabled.2.2]
      show app.stage.work + app.signalHandler.work terminationSignals +
          (app.served.ui.next jsoncons truncate event).work + (if event.own then 1 else 0) ≤
        app.stage.work + app.signalHandler.work terminationSignals + app.served.ui.work +
          (if event.adds then 6 else 0)
      omega
  | stopSignals => exact work_stage enabled.1 rfl (enterStop_work_le enabled.2.2) rfl rfl
  | returnFromRun => exact work_stage enabled.1 rfl (Nat.le_add_right _ 0) rfl rfl
  | destroySignalHandler =>
    exact work_stage enabled.1 rfl (enterStop_work_le enabled.2) rfl rfl
  | destroyUiHandler =>
    have idle : app.served.ui.handler.running = false := orderly.held.stopped enabled.2.2
    rw [AppImpl.next, destroyUiHandler, idle]
    exact work_stage enabled.1 rfl (Nat.le_add_right _ 0) rfl rfl
  | joinExecution => exact work_stage enabled rfl (Nat.le_add_right _ 0) rfl rfl
  | joined worker => exact work_stage enabled.1 rfl (Nat.le_add_right _ 0) rfl rfl
  | destroyManager order => exact work_stage enabled rfl (Nat.le_add_right _ 0) rfl rfl

/-! ### Going on with the application -/

/-- A move that waits for nobody outside. -/
def Drives (app : AppImpl sdk) : Event sdk → Prop
  | .served (.ui event _) => app.served.ui.Drives event
  | event => event.own = true

/-- `stop` does not look for the loop while the UI thread is on its way to it. -/
def ChecksInTime (app : AppImpl sdk) : Event sdk → Prop
  | .served (.ui event _) => app.served.ui.ChecksInTime event
  | _ => True

/-- The runs without a race in which `stop` looks in time. -/
def Timely (jsoncons : Jsoncons) (truncate : String → Int) (app : AppImpl sdk)
    (event : Event sdk) : Prop :=
  app.RaceFree jsoncons truncate event ∧ app.ChecksInTime event

instance (app : AppImpl sdk) : DecidablePred app.ChecksInTime
  | .served (.ui event _) => inferInstanceAs (Decidable (app.served.ui.ChecksInTime event))
  | .served (.operate _) | .startSignals | .startUi _ _ | .signal _ | .stopSignals
  | .returnFromRun | .destroySignalHandler | .destroyUiHandler | .joinExecution | .joined _
  | .destroyManager _ => isTrue trivial

instance (app : AppImpl sdk) (event : Event sdk) :
    Decidable (app.Timely jsoncons truncate event) :=
  inferInstanceAs (Decidable (_ ∧ _))

/-- Such a run can go on without anybody outside. -/
def GoesOn (jsoncons : Jsoncons) (truncate : String → Int) (app : AppImpl sdk) : Prop :=
  ∃ event, app.Drives event ∧ app.Enabled jsoncons event ∧ app.Timely jsoncons truncate event

/-- What these runs keep. -/
structure Advancing (mask : Finset Signal) (app : AppImpl sdk) : Prop where
  orderly : app.Orderly mask
  calm : app.served.ui.racing = false
  informed : app.served.ui.handler.Informed
  present : app.served.ui.handler.Present

/-- The handler of the UI moves by its own events, or only the request is noted. -/
theorem handler_next (orderly : app.Orderly mask) {event : Event sdk}
    (enabled : app.Enabled jsoncons event) (inTime : app.ChecksInTime event) :
    (∃ move, app.served.ui.handler.Enabled move ∧ app.served.ui.handler.ChecksInTime move ∧
        (app.next jsoncons truncate event).served.ui.handler = app.served.ui.handler.next move) ∨
      (app.next jsoncons truncate event).served.ui.handler = app.served.ui.handler ∨
      (app.next jsoncons truncate event).served.ui.handler =
        { app.served.ui.handler with shutdownRequested := true } := by
  cases event with
  | startUi inputs order => exact .inl ⟨.start, enabled.2.1, trivial, rfl⟩
  | signal event =>
    rw [AppImpl.next, moveSignal]
    split_ifs
    · exact .inr (.inr rfl)
    · exact .inr (.inl rfl)
  | served event =>
    cases event with
    | operate operation => exact .inr (.inl rfl)
    | ui event inputs =>
      rw [AppImpl.next, ServedUi.next_ui orderly.serial enabled.2.2]
      cases event with
      | handler move => exact .inl ⟨move, enabled.2.2.1.1, inTime, rfl⟩
      | joined worker => cases worker <;> exact .inr (.inl rfl)
      | _ => exact .inr (.inl rfl)
  | destroyUiHandler =>
    have idle : app.served.ui.handler.running = false := orderly.held.stopped enabled.2.2
    rw [AppImpl.next, destroyUiHandler, idle]
    exact .inr (.inl rfl)
  | _ => exact .inr (.inl rfl)

theorem Advancing.next (advancing : app.Advancing mask) {event : Event sdk}
    (enabled : app.Enabled jsoncons event) (timely : app.Timely jsoncons truncate event) :
    (app.next jsoncons truncate event).Advancing mask := by
  obtain ⟨orderly, calm, informed, present⟩ := advancing
  refine ⟨orderly.next calm enabled, timely.1, ?_, ?_⟩
  · rcases @handler_next _ _ truncate _ _ orderly _ enabled timely.2 with
      ⟨move, possible, inTime, moved⟩ | same | noted
    · rw [moved]
      exact CliUiHandler.informed_next move informed possible inTime
    · rwa [same]
    · rw [noted]
      exact ⟨informed.unposted, informed.seen, informed.posted⟩
  · rcases @handler_next _ _ truncate _ _ orderly _ enabled timely.2 with
      ⟨move, possible, _, moved⟩ | same | noted
    · rw [moved]
      exact present.next possible
    · rwa [same]
    · rw [noted]
      exact present

/-- The application goes on with its UI. -/
theorem goesOn_of_served (advancing : app.Advancing mask) (alive : app.stage ≠ .managerDestroyed)
    (goesOn : app.served.GoesOn jsoncons truncate) : app.GoesOn jsoncons truncate := by
  obtain ⟨event, inputs, moves⟩ := goesOn
  have called : ¬IsCall (.ui event inputs : ServedUi.Event sdk) := by
    intro isCall
    have drives := moves.drives
    cases event with
    | handler event => cases event <;> first | exact isCall | exact drives
    | _ => exact isCall
  refine ⟨.served (.ui event inputs), moves.drives, ⟨called, alive, moves.enabled⟩, ?_,
    moves.inTime⟩
  rw [RaceFree, AppImpl.next, ServedUi.next_ui advancing.orderly.serial moves.enabled]
  exact moves.calm

/-- The application goes on with `stop` of the signal handler. -/
theorem goesOn_of_signals (advancing : app.Advancing mask)
    (inStop : app.signalHandler.stopPhase ≠ .outside) : app.GoesOn jsoncons truncate := by
  have goesOn : app.signalHandler.GoesOn terminationSignals :=
    advancing.orderly.staffed.goesOn inStop
  obtain ⟨event, own, enabled⟩ := goesOn
  have inside : ¬event.BeginsCall := by
    cases event <;> first | exact id | cases own
  refine ⟨.signal event, own, ⟨inside, enabled⟩, ?_, trivial⟩
  rw [RaceFree, AppImpl.next, moveSignal]
  split_ifs <;> exact advancing.calm

/-- Short of the end some move is possible, once a shutdown is requested. -/
theorem Advancing.goesOn (advancing : app.Advancing mask)
    (requested : app.served.ui.handler.shutdownRequested = true)
    (alive : app.stage ≠ .managerDestroyed) : app.GoesOn jsoncons truncate := by
  have behind := advancing.orderly.behind
  have calm := advancing.calm
  cases stage : app.stage with
  | configured =>
    rw [stage] at behind
    exact ⟨.startSignals, rfl, ⟨stage, behind⟩, calm, trivial⟩
  | handlingSignals =>
    rw [stage] at behind
    by_cases unstarted : app.served.ui.handler.mainThread = .beforeStart
    · obtain ⟨inputs⟩ : Nonempty CallInputs :=
        ⟨⟨none, false, .discard, Classical.arbitrary VisitingOrder⟩⟩
      exact ⟨.startUi (fun _ => inputs) inputs.order, rfl, ⟨stage, unstarted, trivial⟩, calm,
        trivial⟩
    · by_cases returned : app.served.ui.handler.mainThread = .returned
      · exact ⟨.stopSignals, rfl, ⟨stage, returned, behind⟩, calm, trivial⟩
      · exact goesOn_of_served advancing alive (ServedUi.goesOn_of_requested advancing.orderly.held
          calm advancing.informed advancing.present requested unstarted returned)
  | stoppingSignals =>
    by_cases outside : app.signalHandler.stopPhase = .outside
    · exact ⟨.returnFromRun, rfl, ⟨stage, outside⟩, calm, trivial⟩
    · exact goesOn_of_signals advancing outside
  | returned =>
    rw [stage] at behind
    exact ⟨.destroySignalHandler, rfl, ⟨stage, behind.2.1⟩, calm, trivial⟩
  | destroyingSignals =>
    rw [stage] at behind
    by_cases outside : app.signalHandler.stopPhase = .outside
    · refine ⟨.destroyUiHandler, rfl, ⟨stage, outside, behind.1⟩, ?_, trivial⟩
      rw [RaceFree, AppImpl.next, destroyUiHandler, advancing.orderly.held.stopped behind.1]
      exact calm
    · exact goesOn_of_signals advancing outside
  | destroyingUi => exact ⟨.joinExecution, rfl, stage, calm, trivial⟩
  | joiningExecution worker =>
    rw [stage] at behind
    obtain ⟨_, _, rfl⟩ := behind
    by_cases ended : app.served.ui.Ended app.served.ui.controller.executeThread
    · exact ⟨.joined _, rfl, ⟨stage, ended⟩, calm, trivial⟩
    · exact goesOn_of_served advancing alive
        (ServedUi.goesOn_of_not_ended advancing.orderly.held calm ended)
  | uiDestroyed => exact ⟨.destroyManager (Classical.arbitrary _), rfl, stage, calm, trivial⟩
  | managerDestroyed => exact absurd stage alive

end AppImpl

end MavlinkHub
