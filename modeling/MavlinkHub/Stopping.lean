/-
This file puts the UI handler and its controller together and follows `stop` through all
its steps. It looks once whether a command is being executed, and if there is one it waits
for the worker that the controller holds at that time. Only then does it ask the loop to
exit, and until the loop has ended the user may start another command. Nobody waits for
that one.

An execute thread is overwritten only behind a `join`, so a worker that has not ended is
the one the controller holds. If no command comes in behind the look of `stop`, and none is
between its acceptance and the creation of its worker when `stop` waits, the worker that
`stop` waits for is the only one there can be.
-/

import MavlinkHub.CliUiHandler
import MavlinkHub.CliUiController

namespace MavlinkHub

/-! ### Workers that have not ended -/

namespace CliUiController

variable (controller : CliUiController)

/-- The worker thread has not ended. -/
def Unfinished (worker : Nat) : Prop :=
  ∃ running, controller.workers[worker]? = some running ∧ running.phase ≠ .done

/-- The execute thread holds every worker that has not ended. -/
def HoldsUnfinished : Prop :=
  ∀ worker, controller.Unfinished worker → controller.executeThread = some worker

variable {controller} {jsoncons : Jsoncons} {truncate : String → Int} {event : Event}
  {stage : Option CommandStage} {worker : Nat}

/-- The execute thread changes where it is joined and where it is assigned. -/
theorem executeThread_next (jsoncons : Jsoncons) (truncate : String → Int)
    (controller : CliUiController) (event : Event) :
    (controller.next jsoncons truncate event).executeThread = controller.executeThread ∨
      (∃ cmd, event = .joined cmd) ∨
      ∃ cmd, event = .startThread cmd ∧
        (controller.next jsoncons truncate event).executeThread =
          some controller.workers.length := by
  cases event with
  | joined cmd => exact .inr (.inl ⟨cmd, rfl⟩)
  | startThread cmd => exact .inr (.inr ⟨cmd, rfl, rfl⟩)
  | call | answer | store | finish => exact .inl rfl
  | _ => exact .inl (threads_next jsoncons truncate id).2.1

/-- Only a created worker is unfinished that was not so before. -/
theorem unfinished_next (enabled : controller.Enabled event)
    (unfinished : (controller.next jsoncons truncate event).Unfinished worker) :
    controller.Unfinished worker ∨
      ∃ cmd, event = .startThread cmd ∧ worker = controller.workers.length := by
  obtain ⟨running, found, alive⟩ := unfinished
  rcases workers_next jsoncons truncate enabled with
    same | ⟨moved, before, other, present, active, same⟩ | ⟨cmd, rfl, same⟩
  · rw [same] at found
    exact .inl ⟨running, found, alive⟩
  · rw [same] at found
    by_cases this : moved = worker
    · exact .inl ⟨before, this ▸ present, active⟩
    · rw [List.getElem?_set_ne this] at found
      exact .inl ⟨running, found, alive⟩
  · rw [same] at found
    rcases Nat.lt_or_ge worker controller.workers.length with earlier | later
    · rw [List.getElem?_append_left earlier] at found
      exact .inl ⟨running, found, alive⟩
    · obtain ⟨bound, _⟩ := List.getElem?_eq_some_iff.mp found
      rw [List.length_append, List.length_singleton] at bound
      exact .inr ⟨cmd, rfl, by omega⟩

/-- A `join` returns only if the worker it waits for has ended. -/
theorem Joinable.not_unfinished (joinable : controller.Joinable)
    (holds : controller.HoldsUnfinished) : ¬controller.Unfinished worker := by
  intro unfinished
  have ended := joinable worker (holds worker unfinished)
  obtain ⟨running, found, alive⟩ := unfinished
  rw [found] at ended
  exact alive (Option.some.inj ended)

/-- No event takes the execute thread away from a worker that has not ended. -/
theorem HoldsUnfinished.next (holds : controller.HoldsUnfinished)
    (atStage : controller.AtStage stage) (enabled : controller.Enabled event) :
    (controller.next jsoncons truncate event).HoldsUnfinished := by
  intro worker unfinished
  have before := unfinished_next enabled unfinished
  rcases executeThread_next jsoncons truncate controller event with
    same | ⟨cmd, rfl⟩ | ⟨cmd, rfl, assigned⟩
  · rcases before with was | ⟨cmd, rfl, rfl⟩
    · rw [same]
      exact holds worker was
    · rfl
  · rcases before with was | ⟨_, contrary, _⟩
    · exact absurd was (enabled.2.not_unfinished holds)
    · cases contrary
  · rcases before with was | ⟨_, _, rfl⟩
    · have held := holds worker was
      rw [atStage.joined cmd enabled] at held
      cases held
    · exact assigned

/-- When the worker that is held ends, all have ended. -/
theorem HoldsUnfinished.ended_of_finish (jsoncons : Jsoncons) (truncate : String → Int)
    (holds : controller.HoldsUnfinished) (held : controller.executeThread = some worker)
    {cmd : AppServiceCommand} (enabled : controller.Enabled (.finish worker cmd)) (other : Nat) :
    ¬(controller.next jsoncons truncate (.finish worker cmd)).Unfinished other := by
  intro unfinished
  rcases unfinished_next enabled unfinished with was | ⟨_, contrary, _⟩
  · obtain rfl : worker = other := Option.some.inj (held.symm.trans (holds other was))
    obtain ⟨running, found, alive⟩ := unfinished
    obtain ⟨bound, _⟩ := List.getElem?_eq_some_iff.mp enabled
    have same : (controller.workers.set worker ⟨cmd, .done⟩)[worker]? = some running := found
    rw [List.getElem?_set_self bound] at same
    exact alive (congrArg Worker.phase (Option.some.inj same)).symm
  · cases contrary

theorem length_workers_le_next (jsoncons : Jsoncons) (truncate : String → Int)
    (enabled : controller.Enabled event) :
    controller.workers.length ≤ (controller.next jsoncons truncate event).workers.length := by
  rcases workers_next jsoncons truncate enabled with
    same | ⟨_, _, _, _, _, same⟩ | ⟨_, _, same⟩ <;> rw [same]
  · rw [List.length_set]
  · rw [List.length_append]
    exact Nat.le_add_right _ _

/-- A controller with no command keeps having none without an acceptance. -/
theorem AtStage.next_of_none (atStage : controller.AtStage none)
    (enabled : controller.Enabled event) (refused : ¬controller.AcceptedBy event) :
    (controller.next jsoncons truncate event).AtStage none := by
  obtain ⟨after, reached⟩ :
      ∃ after, (controller.next jsoncons truncate event).AtStage after := atStage.next event enabled
  have free : (controller.next jsoncons truncate event).executing = false :=
    executing_next refused atStage.executing
  rw [reached.executing] at free
  obtain rfl : after = none := by
    rw [← Option.not_isSome_iff_eq_none, free]
    exact Bool.false_ne_true
  exact reached

/-- Nobody has a command if the UI thread has none and all workers have ended. -/
theorem AtStage.none_of_ended (atStage : controller.AtStage stage)
    (idle : controller.uiCall.stage = none) (ended : ∀ worker, ¬controller.Unfinished worker) :
    controller.AtStage none := by
  cases stage with
  | none => exact atStage
  | some current =>
    obtain ⟨worker, found⟩ := atStage.exists_worker idle
    refine absurd ⟨_, found, fun done => ?_⟩ (ended worker)
    cases current <;> cases done

end CliUiController

/-! ### The handler with its controller -/

/-- Where `stop` is with the command that may be executed: it has not looked for one; it has seen
one and is about to call `joinExecution`; it is in the `join` of the worker that it has found
there, if any; it is past all that. -/
inductive CommandWait
  | unlooked
  | waiting
  | joining (worker : Option Nat)
  | passed
  deriving DecidableEq

/-- A UI handler, its controller, and what `stop` knows of a command. -/
structure CliUi where
  handler : CliUiHandler := {}
  controller : CliUiController := {}
  commandWait : CommandWait := .unlooked

namespace CliUi

/-- What happens in a UI. The calls of the UI thread into the controller are made by its loop. -/
inductive Event
  | handler (event : CliUiHandler.Event)
  | controller (event : CliUiController.Event)
  /-- `stop` reads `executing`. -/
  | readExecuting
  /-- `stop` calls `joinExecution`, which finds a worker in the execute thread or none. -/
  | joinExecution
  /-- That `join` returns. -/
  | joined (worker : Option Nat)

/-- An event of a worker; the other events of a controller are those of the UI thread. -/
def OfWorker : CliUiController.Event → Prop
  | .call _ _ | .answer _ _ _ | .store _ _ _ | .finish _ _ => True
  | _ => False

variable (ui : CliUi)

/-- When `stop` goes on to the loop, and when the loop can end. -/
def Admits : CliUiHandler.Event → Prop
  | .checkActive => ui.commandWait = .passed
  | .leave => ui.controller.uiCall = .idle
  | _ => True

/-- The worker that `stop` waits for has ended. -/
def Ended (worker : Option Nat) : Prop :=
  ∀ index ∈ worker, (ui.controller.workers[index]?).map Worker.phase = some .done

/-- When an event can happen. -/
def Enabled : Event → Prop
  | .handler event => ui.handler.Enabled event ∧ ui.Admits event
  | .controller event =>
    ui.controller.Enabled event ∧ (OfWorker event ∨ ui.handler.uiThread = .looping)
  | .readExecuting => ui.handler.mainThread = .stopping ∧ ui.commandWait = .unlooked
  | .joinExecution => ui.handler.mainThread = .stopping ∧ ui.commandWait = .waiting
  | .joined worker => ui.commandWait = .joining worker ∧ ui.Ended worker

/-- What an event leads to. -/
def next (jsoncons : Jsoncons) (truncate : String → Int) : Event → CliUi
  | .handler event => { ui with handler := ui.handler.next event }
  | .controller event => { ui with controller := ui.controller.next jsoncons truncate event }
  | .readExecuting =>
    { ui with commandWait := if ui.controller.executing then .waiting else .passed }
  | .joinExecution => { ui with commandWait := .joining ui.controller.executeThread }
  | .joined none => { ui with commandWait := .passed }
  | .joined (some _) =>
    { ui with
      controller := { ui.controller with executeThread := none }
      commandWait := .passed }

/-- A UI, with a way to read the answers of the service. -/
def machine (jsoncons : Jsoncons) (truncate : String → Int) : Machine CliUi Event where
  enabled := Enabled
  next ui event := ui.next jsoncons truncate event

/-- No command is accepted once `stop` has looked and seen none, or waits; and when it begins to
wait, no accepted command is without a worker. -/
def InTime : Event → Prop
  | .controller event => ui.controller.AcceptedBy event →
    ui.commandWait = .unlooked ∨ ui.commandWait = .waiting
  | .joinExecution => ui.controller.uiCall.stage = none
  | _ => True

instance : DecidablePred OfWorker
  | .call _ _ | .answer _ _ _ | .store _ _ _ | .finish _ _ => isTrue trivial
  | .commitCommand _ | .setPayload _ | .clearPayload | .clearResult | .executeCurrentCommand
  | .joinExecution | .updateOverviewData | .render | .joined _ | .startThread _
  | .agentsReturn _ | .endpointsReturn _ | .renderName _ => isFalse id

instance : DecidablePred ui.Admits
  | .checkActive | .leave => inferInstanceAs (Decidable (_ = _))
  | .start | .requestShutdown | .enterStop | .exit | .join | .build | .built | .install | .fail
  | .endRoutine => isTrue trivial

instance (worker : Option Nat) : Decidable (ui.Ended worker) :=
  inferInstanceAs (Decidable (∀ index ∈ worker, _))

instance : DecidablePred ui.Enabled
  | .handler _ | .readExecuting | .joinExecution | .joined _ =>
    inferInstanceAs (Decidable (_ ∧ _))
  | .controller _ => inferInstanceAs (Decidable (_ ∧ (_ ∨ _)))

instance (jsoncons : Jsoncons) (truncate : String → Int) (event : Event) :
    Decidable ((machine jsoncons truncate).enabled ui event) :=
  inferInstanceAs (Decidable (ui.Enabled event))

instance : DecidablePred ui.InTime
  | .controller event => inferInstanceAs (Decidable (ui.controller.AcceptedBy event → _ ∨ _))
  | .joinExecution => inferInstanceAs (Decidable (_ = _))
  | .handler _ | .readExecuting | .joined _ => isTrue trivial

end CliUi

/-! ### The order of the shutdown -/

/-- The UI thread comes with the start and has ended when `stop` returns. -/
structure CliUiHandler.Ordered (handler : CliUiHandler) : Prop where
  absent : handler.mainThread = .beforeStart → handler.uiThread = .absent
  running : handler.mainThread = .waitingForShutdown → handler.running = true
  ended : handler.mainThread = .returned → handler.uiThread = .ended

/-- Inside `stop` that requires nothing. -/
theorem CliUiHandler.ordered_of_inside {handler : CliUiHandler}
    (inside : handler.mainThread = .stopping ∨ handler.mainThread = .exiting ∨
      handler.mainThread = .joining) : handler.Ordered := by
  constructor <;> intro main <;> rw [main] at inside <;> simp at inside

theorem CliUiHandler.Ordered.next {handler : CliUiHandler} (ordered : handler.Ordered)
    {event : CliUiHandler.Event} (enabled : handler.Enabled event) :
    (handler.next event).Ordered := by
  obtain ⟨absent, running, ended⟩ := ordered
  cases event with
  | start => exact ⟨fun main => (by cases main), fun _ => rfl, fun main => (by cases main)⟩
  | requestShutdown => exact ⟨absent, running, ended⟩
  | enterStop =>
    have started : (!handler.running) = false := by rw [running enabled.1, Bool.not_true]
    rw [CliUiHandler.next, started]
    exact ordered_of_inside (.inl rfl)
  | checkActive =>
    rw [CliUiHandler.next]
    split
    · exact ordered_of_inside (.inr (.inl rfl))
    · exact ordered_of_inside (.inr (.inr rfl))
  | exit => exact ordered_of_inside (.inr (.inr rfl))
  | join =>
    exact ⟨fun main => (by cases main), fun main => (by cases main), fun _ => enabled.2⟩
  | build | built | install | leave | endRoutine =>
    have there : handler.uiThread = _ := enabled
    refine ⟨fun main => ?_, running, fun main => ?_⟩
    · rw [absent main] at there
      cases there
    · rw [ended main] at there
      cases there
  | fail =>
    refine ⟨fun main => ?_, running, fun main => ?_⟩
    · rcases enabled with there | there <;> rw [absent main] at there <;> cases there
    · rcases enabled with there | there <;> rw [ended main] at there <;> cases there

/-- The UI thread is outside its loop only if it was before, or leaves it. -/
theorem CliUiHandler.uiThread_next {handler : CliUiHandler} (ordered : handler.Ordered)
    {event : CliUiHandler.Event} (enabled : handler.Enabled event)
    (outside : (handler.next event).uiThread ≠ .looping) :
    handler.uiThread ≠ .looping ∨ event = .leave := by
  cases event with
  | start =>
    rw [ordered.absent enabled]
    exact .inl fun contrary => (by cases contrary)
  | requestShutdown | exit | join => exact .inl outside
  | enterStop | checkActive =>
    rw [CliUiHandler.next] at outside
    split at outside <;> exact .inl outside
  | build | built | endRoutine =>
    rw [show handler.uiThread = _ from enabled]
    exact .inl fun contrary => (by cases contrary)
  | install => exact absurd rfl outside
  | leave => exact .inr rfl
  | fail =>
    refine .inl fun looping => ?_
    rcases enabled with there | there <;> rw [looping] at there <;> cases there

/-- How far `stop` is before and after an event of the handler. -/
theorem CliUiHandler.mainThread_next {handler : CliUiHandler} (ordered : handler.Ordered)
    {event : CliUiHandler.Event} (enabled : handler.Enabled event) :
    (handler.next event).mainThread = handler.mainThread ∨
      (handler.mainThread = .beforeStart ∧
        (handler.next event).mainThread = .waitingForShutdown) ∨
      (handler.mainThread = .waitingForShutdown ∧ (handler.next event).mainThread = .stopping) ∨
      (event = .checkActive ∧ ((handler.next event).mainThread = .exiting ∨
        (handler.next event).mainThread = .joining)) ∨
      (handler.mainThread = .exiting ∧ (handler.next event).mainThread = .joining) ∨
      (handler.mainThread = .joining ∧ (handler.next event).mainThread = .returned) := by
  cases event with
  | start => exact .inr (.inl ⟨enabled, rfl⟩)
  | enterStop =>
    have started : (!handler.running) = false := by
      rw [ordered.running enabled.1, Bool.not_true]
    rw [CliUiHandler.next, started]
    exact .inr (.inr (.inl ⟨enabled.1, rfl⟩))
  | checkActive =>
    rw [CliUiHandler.next]
    refine .inr (.inr (.inr (.inl ⟨rfl, ?_⟩)))
    split
    · exact .inl rfl
    · exact .inr rfl
  | exit => exact .inr (.inr (.inr (.inr (.inl ⟨enabled, rfl⟩))))
  | join => exact .inr (.inr (.inr (.inr (.inr ⟨enabled.1, rfl⟩))))
  | requestShutdown | build | built | install | leave | fail | endRoutine => exact .inl rfl

/-! ### What stop waits for -/

namespace CliUi

/-- What the runs that are in time keep. -/
structure Tracked (ui : CliUi) : Prop where
  ordered : ui.handler.Ordered
  atStage : ∃ stage, ui.controller.AtStage stage
  holds : ui.controller.HoldsUnfinished
  idle : ui.handler.uiThread ≠ .looping → ui.controller.uiCall = .idle
  /-- `stop` has to be entered to look, and goes on to the loop once it is past the command. -/
  entered : ui.commandWait ≠ .unlooked →
    ui.handler.mainThread ≠ .beforeStart ∧ ui.handler.mainThread ≠ .waitingForShutdown
  past : ui.commandWait ≠ .passed → ui.handler.mainThread ≠ .exiting ∧
    ui.handler.mainThread ≠ .joining ∧ ui.handler.mainThread ≠ .returned
  /-- The worker that `stop` waits for is the only one that may not have ended. -/
  waits : ∀ worker, ui.commandWait = .joining worker → ui.controller.uiCall.stage = none ∧
    (∀ index, ui.controller.Unfinished index → worker = some index) ∧
      ∀ index ∈ worker, index < ui.controller.workers.length
  /-- Past that, nobody has a command. -/
  free : ui.commandWait = .passed → ui.controller.AtStage none

variable {ui : CliUi} {jsoncons : Jsoncons} {truncate : String → Int}

/-- A UI that has not been started, with the tables of its first refresh. -/
def initial (tables : OverviewTables) : CliUi :=
  { controller := { tables } }

theorem tracked_initial (tables : OverviewTables) : (initial tables).Tracked := by
  have atStage : (initial tables).controller.AtStage none :=
    CliUiController.atStage_initial.of_uiCall rfl rfl rfl rfl (fun _ held => by cases held)
      fun _ _ => rfl
  constructor
  · exact ⟨fun _ => rfl, fun main => (by cases main), fun main => (by cases main)⟩
  · exact ⟨none, atStage⟩
  · rintro worker ⟨running, found, _⟩
    simp [initial] at found
  · exact fun _ => rfl
  · exact fun looked => absurd rfl looked
  · exact fun _ => (by decide : MainThread.beforeStart ≠ .exiting ∧
      MainThread.beforeStart ≠ .joining ∧ MainThread.beforeStart ≠ .returned)
  · exact fun _ waiting => by cases waiting
  · exact fun _ => atStage

/-- An event of the handler. -/
theorem Tracked.handler (tracked : ui.Tracked) {event : CliUiHandler.Event}
    (enabled : ui.Enabled (.handler event)) :
    (ui.next jsoncons truncate (.handler event)).Tracked := by
  obtain ⟨possible, admits⟩ := enabled
  have moves := CliUiHandler.mainThread_next tracked.ordered possible
  refine ⟨tracked.ordered.next possible, tracked.atStage, tracked.holds, fun outside => ?_,
    fun looked => ?_, fun before => ?_, tracked.waits, tracked.free⟩
  · rcases CliUiHandler.uiThread_next tracked.ordered possible outside with was | rfl
    · exact tracked.idle was
    · exact admits
  · have entered := tracked.entered looked
    show (ui.handler.next event).mainThread ≠ _ ∧ (ui.handler.next event).mainThread ≠ _
    rcases moves with same | ⟨was, _⟩ | ⟨was, _⟩ | ⟨_, now | now⟩ | ⟨_, now⟩ | ⟨_, now⟩
    · rwa [same]
    · exact absurd was entered.1
    · exact absurd was entered.2
    all_goals
      rw [now]
      decide
  · have past := tracked.past before
    show (ui.handler.next event).mainThread ≠ _ ∧ (ui.handler.next event).mainThread ≠ _ ∧
      (ui.handler.next event).mainThread ≠ _
    rcases moves with same | ⟨_, now⟩ | ⟨_, now⟩ | ⟨rfl, _⟩ | ⟨was, _⟩ | ⟨was, _⟩
    · rwa [same]
    · rw [now]
      decide
    · rw [now]
      decide
    · exact absurd admits before
    · exact absurd was past.1
    · exact absurd was past.2.1

theorem uiCall_of_worker {controller : CliUiController} {event : CliUiController.Event}
    (ofWorker : OfWorker event) :
    (controller.next jsoncons truncate event).uiCall = controller.uiCall := by
  cases event with
  | call | answer | store | finish => rfl
  | _ => exact ofWorker.elim

/-- Past the look of `stop` an event that is in time accepts no command. -/
theorem InTime.refused {event : CliUiController.Event} (inTime : ui.InTime (.controller event))
    (looked : ui.commandWait ≠ .unlooked ∧ ui.commandWait ≠ .waiting) :
    ¬ui.controller.AcceptedBy event :=
  fun accepted => (inTime accepted).elim looked.1 looked.2

/-- An event of the controller that is in time. -/
theorem Tracked.controller (tracked : ui.Tracked) {event : CliUiController.Event}
    (enabled : ui.Enabled (.controller event)) (inTime : ui.InTime (.controller event)) :
    (ui.next jsoncons truncate (.controller event)).Tracked := by
  obtain ⟨possible, thread⟩ := enabled
  obtain ⟨stage, atStage⟩ := tracked.atStage
  refine ⟨tracked.ordered, atStage.next event possible, tracked.holds.next atStage possible,
    fun outside => ?_, tracked.entered, tracked.past, fun worker joining => ?_, fun passed => ?_⟩
  · have ofWorker := thread.resolve_right outside
    exact (uiCall_of_worker ofWorker).trans (tracked.idle outside)
  · have joins : ui.commandWait = .joining worker := joining
    obtain ⟨none, only, there⟩ := tracked.waits worker joins
    have refused : ¬ui.controller.AcceptedBy event := by
      refine inTime.refused ?_
      rw [joins]
      exact ⟨fun contrary => (by cases contrary), fun contrary => (by cases contrary)⟩
    refine ⟨CliUiController.uiCall_stage_next none possible refused, fun index unfinished => ?_,
      fun index member => ?_⟩
    · rcases CliUiController.unfinished_next possible unfinished with was | ⟨cmd, rfl, _⟩
      · exact only index was
      · rw [show ui.controller.uiCall = .starting cmd from possible] at none
        cases none
    · exact lt_of_lt_of_le (there index member)
        (CliUiController.length_workers_le_next jsoncons truncate possible)
  · have isPassed : ui.commandWait = .passed := passed
    refine (tracked.free isPassed).next_of_none possible (inTime.refused ?_)
    rw [isPassed]
    decide

/-- `stop` has been entered and not come to the loop. -/
theorem Tracked.of_stopping (tracked : ui.Tracked) (stopping : ui.handler.mainThread = .stopping)
    {controller : CliUiController} {commandWait : CommandWait}
    (atStage : ∃ stage, controller.AtStage stage) (holds : controller.HoldsUnfinished)
    (uiCall : controller.uiCall = ui.controller.uiCall)
    (waits : ∀ worker, commandWait = .joining worker → controller.uiCall.stage = none ∧
      (∀ index, controller.Unfinished index → worker = some index) ∧
        ∀ index ∈ worker, index < controller.workers.length)
    (free : commandWait = .passed → controller.AtStage none) :
    { ui with controller, commandWait }.Tracked := by
  refine ⟨tracked.ordered, atStage, holds, fun outside => ?_, fun _ => ?_, fun _ => ?_, waits, free⟩
  · exact uiCall.trans (tracked.idle outside)
  · rw [stopping]
    decide
  · rw [stopping]
    decide

theorem Tracked.readExecuting (tracked : ui.Tracked) (enabled : ui.Enabled .readExecuting) :
    (ui.next jsoncons truncate .readExecuting).Tracked := by
  obtain ⟨stage, atStage⟩ := tracked.atStage
  rw [next]
  cases executing : ui.controller.executing with
  | true =>
    exact tracked.of_stopping enabled.1 ⟨stage, atStage⟩ tracked.holds rfl
      (fun _ joining => by cases joining) fun passed => by cases passed
  | false =>
    have free : stage = none := by
      rw [← Option.not_isSome_iff_eq_none, ← atStage.executing, executing]
      exact Bool.false_ne_true
    exact tracked.of_stopping enabled.1 ⟨stage, atStage⟩ tracked.holds rfl
      (fun _ joining => by cases joining) fun _ => free ▸ atStage

/-- `stop` waits for the worker that the execute thread holds, and that is the only one. -/
theorem Tracked.joinExecution (tracked : ui.Tracked) (enabled : ui.Enabled .joinExecution)
    (inTime : ui.InTime .joinExecution) :
    (ui.next jsoncons truncate .joinExecution).Tracked := by
  obtain ⟨stage, atStage⟩ := tracked.atStage
  refine tracked.of_stopping enabled.1 ⟨stage, atStage⟩ tracked.holds rfl ?_
    fun passed => by cases passed
  rintro _ ⟨⟩
  exact ⟨inTime, tracked.holds, atStage.held⟩

/-- Between its look and the loop `stop` is stopping. -/
theorem Tracked.stopping (tracked : ui.Tracked) (looked : ui.commandWait ≠ .unlooked)
    (unpassed : ui.commandWait ≠ .passed) : ui.handler.mainThread = .stopping := by
  have entered := tracked.entered looked
  have past := tracked.past unpassed
  cases main : ui.handler.mainThread with
  | stopping => rfl
  | beforeStart => exact absurd main entered.1
  | waitingForShutdown => exact absurd main entered.2
  | exiting => exact absurd main past.1
  | joining => exact absurd main past.2.1
  | returned => exact absurd main past.2.2

/-- Past the `join` of a worker that was waited for, none is unfinished. -/
theorem Tracked.ended (tracked : ui.Tracked) {worker : Option Nat}
    (enabled : ui.Enabled (.joined worker)) :
    ui.handler.mainThread = .stopping ∧ ui.controller.AtStage none ∧
      ∀ index, ¬ui.controller.Unfinished index := by
  obtain ⟨joining, ended⟩ := enabled
  obtain ⟨none, only, _⟩ := tracked.waits worker joining
  obtain ⟨stage, atStage⟩ := tracked.atStage
  have nobody : ∀ index, ¬ui.controller.Unfinished index := by
    intro index unfinished
    obtain rfl := only index unfinished
    have done := ended index rfl
    obtain ⟨running, found, alive⟩ := unfinished
    rw [found] at done
    exact alive (Option.some.inj done)
  refine ⟨tracked.stopping ?_ ?_, atStage.none_of_ended none nobody, nobody⟩
  · rw [joining]
    exact fun contrary => by cases contrary
  · rw [joining]
    exact fun contrary => by cases contrary

theorem Tracked.joined (tracked : ui.Tracked) {worker : Option Nat}
    (enabled : ui.Enabled (.joined worker)) :
    (ui.next jsoncons truncate (.joined worker)).Tracked := by
  obtain ⟨stopping, free, nobody⟩ := tracked.ended enabled
  cases worker with
  | none =>
    exact tracked.of_stopping stopping tracked.atStage tracked.holds rfl
      (fun _ joining => by cases joining) fun _ => free
  | some index =>
    have released : { ui.controller with executeThread := none }.AtStage none :=
      free.of_uiCall rfl rfl rfl rfl (fun _ held => by cases held) fun _ _ => rfl
    exact tracked.of_stopping stopping ⟨none, released⟩
      (fun other unfinished => absurd unfinished (nobody other)) rfl
      (fun _ joining => by cases joining) fun _ => released

/-- Every event that is in time keeps track of what `stop` waits for. -/
theorem Tracked.next (tracked : ui.Tracked) (event : Event) (enabled : ui.Enabled event)
    (inTime : ui.InTime event) : (ui.next jsoncons truncate event).Tracked := by
  cases event with
  | handler event => exact tracked.handler enabled
  | controller event => exact tracked.controller enabled inTime
  | readExecuting => exact tracked.readExecuting enabled
  | joinExecution => exact tracked.joinExecution enabled inTime
  | joined worker => exact tracked.joined enabled

theorem tracked_run {events : List Event} {tables : OverviewTables}
    (run : (machine jsoncons truncate).Runs InTime (initial tables) events ui) : ui.Tracked :=
  run.invariant Tracked
    (fun _ event tracked enabled inTime => tracked.next event enabled inTime)
    (tracked_initial tables)

end CliUi

/-- No call of the service is running that the controller has started, and none is to come. -/
structure CliUiController.NothingInFlight (controller : CliUiController) : Prop where
  fetching : ¬controller.Fetching
  inService : ∀ worker, ¬controller.InService worker
  stored : ∀ worker ∈ controller.workers, worker.stage = none

theorem CliUiController.AtStage.nothingInFlight {controller : CliUiController}
    (atStage : controller.AtStage none) (idle : controller.uiCall = .idle) :
    controller.NothingInFlight := by
  have stages := atStage.stages
  rw [CliUiController.stages, Option.toList_none, List.append_eq_nil_iff] at stages
  have stored := List.filterMap_eq_nil_iff.mp stages.2
  refine ⟨?_, fun worker inService => ?_, stored⟩
  · rintro (fetching | fetching) <;> rw [idle] at fetching <;> cases fetching
  · obtain ⟨running, found, phase⟩ := Option.map_eq_some_iff.mp inService
    have none := stored running (List.mem_of_getElem? found)
    rw [Worker.stage, phase] at none
    cases none

/-! ### A command that comes too late -/

namespace CliUi

variable (jsoncons : Jsoncons) (truncate : String → Int) (ui : CliUi)

/-- The threads can go on so that `stop` returns while a worker is in the service. -/
def MayReturnInFlight : Prop :=
  ∃ events last, (machine jsoncons truncate).Runs (fun _ _ => True) ui events last ∧
    last.handler.mainThread = .returned ∧ ∃ worker, last.controller.InService worker

/-- `stop` is past its look, and on its way to the end of the loop. -/
def PastLook : Prop :=
  ui.handler.mainThread = .stopping ∧ (∃ worker, ui.commandWait = .joining worker) ∨
    ui.commandWait = .passed ∧ (ui.handler.mainThread = .stopping ∨
      ui.handler.mainThread = .exiting ∨ ui.handler.mainThread = .joining)

/-- The worker that `stop` waits for, if it does, has ended. -/
def WaitOver : Prop :=
  ∀ worker, ui.commandWait = .joining worker → ui.Ended worker

variable {jsoncons truncate ui} {cmd : AppServiceCommand} {worker : Nat}

theorem MayReturnInFlight.of_next (event : Event) (enabled : ui.Enabled event)
    (rest : (ui.next jsoncons truncate event).MayReturnInFlight jsoncons truncate) :
    ui.MayReturnInFlight jsoncons truncate := by
  obtain ⟨events, last, run, returned, inService⟩ := rest
  exact ⟨event :: events, last, .next ⟨enabled, trivial, rfl⟩ run, returned, inService⟩

section InService

variable (looping : ui.handler.uiThread = .looping) (idle : ui.controller.uiCall = .idle)
  (inService : ui.controller.InService worker)

include looping idle inService

/-- The loop and its thread end, and `stop` returns. -/
theorem mayReturn_of_joining (joining : ui.handler.mainThread = .joining) :
    ui.MayReturnInFlight jsoncons truncate :=
  .of_next (.handler .leave) ⟨looping, idle⟩ <|
    .of_next (.handler .endRoutine) ⟨rfl, trivial⟩ <|
      .of_next (.handler .join) ⟨⟨joining, rfl⟩, trivial⟩
        ⟨[], _, .done _, rfl, worker, inService⟩

theorem mayReturn_of_exiting (exiting : ui.handler.mainThread = .exiting) :
    ui.MayReturnInFlight jsoncons truncate :=
  .of_next (.handler .exit) ⟨exiting, trivial⟩ (mayReturn_of_joining looping idle inService rfl)

theorem mayReturn_of_stopping (stopping : ui.handler.mainThread = .stopping)
    (passed : ui.commandWait = .passed) : ui.MayReturnInFlight jsoncons truncate := by
  have active : ui.handler.active = true := decide_eq_true looping
  refine .of_next (.handler .checkActive) ⟨stopping, passed⟩ ?_
  rw [next, CliUiHandler.next, if_pos active]
  exact mayReturn_of_exiting looping idle inService rfl

/-- With a worker in the service everything can go on without it. -/
theorem mayReturn_of_inService (past : ui.PastLook) (waitOver : ui.WaitOver) :
    ui.MayReturnInFlight jsoncons truncate := by
  rcases past with ⟨stopping, waited, joining⟩ | ⟨passed, stopping | exiting | joining⟩
  · refine .of_next (.joined waited) ⟨joining, waitOver waited joining⟩ ?_
    cases waited with
    | none => exact mayReturn_of_stopping looping idle inService stopping rfl
    | some index => exact mayReturn_of_stopping looping idle inService stopping rfl
  · exact mayReturn_of_stopping looping idle inService stopping passed
  · exact mayReturn_of_exiting looping idle inService exiting
  · exact mayReturn_of_joining looping idle inService joining

end InService

/-- A worker that has ended stays so when another one is created and calls the service. -/
theorem ended_of_appended {workers : List Worker} {created : Worker} {index : Nat}
    (ended : (workers[index]?).map Worker.phase = some .done) :
    (((workers ++ [Worker.mk cmd .spawned]).set workers.length created)[index]?).map
      Worker.phase = some .done := by
  obtain ⟨running, found, _⟩ := Option.map_eq_some_iff.mp ended
  obtain ⟨bound, _⟩ := List.getElem?_eq_some_iff.mp found
  rw [List.getElem?_set_ne (Nat.ne_of_gt bound), List.getElem?_append_left bound]
  exact ended

/-- The UI thread creates the worker, and the worker calls the service. -/
theorem mayReturn_of_starting (looping : ui.handler.uiThread = .looping)
    (starting : ui.controller.uiCall = .starting cmd) (past : ui.PastLook)
    (waitOver : ui.WaitOver) : ui.MayReturnInFlight jsoncons truncate := by
  have created : (ui.controller.workers ++ [Worker.mk cmd .spawned])[
      ui.controller.workers.length]? = some ⟨cmd, .spawned⟩ := List.getElem?_concat_length
  refine .of_next (.controller (.startThread cmd)) ⟨starting, .inr looping⟩ ?_
  refine .of_next (.controller (.call ui.controller.workers.length cmd))
    ⟨created, .inl trivial⟩ ?_
  have called : (((ui.controller.workers ++ [Worker.mk cmd .spawned]).set
      ui.controller.workers.length ⟨cmd, .inService⟩)[ui.controller.workers.length]?).map
        Worker.phase = some .inService := by
    rw [List.getElem?_set_self (by simp)]
    rfl
  refine mayReturn_of_inService looping rfl called past ?_
  intro waited joining index member
  exact ended_of_appended (waitOver waited joining index member)

theorem mayReturn_of_joinable (looping : ui.handler.uiThread = .looping)
    (joining : ui.controller.uiCall = .joining (some cmd)) (joinable : ui.controller.Joinable)
    (past : ui.PastLook) (waitOver : ui.WaitOver) : ui.MayReturnInFlight jsoncons truncate :=
  .of_next (.controller (.joined (some cmd))) ⟨⟨joining, joinable⟩, .inr looping⟩
    (mayReturn_of_starting looping rfl past waitOver)

/-- A worker that exists and is not unfinished has ended. -/
theorem ended_of_not_unfinished {controller : CliUiController}
    (bound : worker < controller.workers.length) (ended : ¬controller.Unfinished worker) :
    (controller.workers[worker]?).map Worker.phase = some .done := by
  rw [List.getElem?_eq_getElem bound, Option.map_some]
  refine congrArg some ?_
  by_contra alive
  exact ended ⟨_, List.getElem?_eq_getElem bound, alive⟩

/-- The UI thread has accepted a command that `stop` does not see any more. -/
structure Late (ui : CliUi) : Prop where
  looping : ui.handler.uiThread = .looping
  past : ui.PastLook
  command : ∃ cmd, ui.controller.uiCall = .joining (some cmd) ∨ ui.controller.uiCall = .starting cmd
  atStage : ∃ stage, ui.controller.AtStage stage
  holds : ui.controller.HoldsUnfinished
  waited : ∀ worker, ui.commandWait = .joining worker →
    ∀ index ∈ worker, index < ui.controller.workers.length

theorem Late.mayReturn_of_ended (late : ui.Late)
    (ended : ∀ worker, ¬ui.controller.Unfinished worker) :
    ui.MayReturnInFlight jsoncons truncate := by
  have waitOver : ui.WaitOver := fun waited joining index member =>
    ended_of_not_unfinished (late.waited waited joining index member) (ended index)
  obtain ⟨stage, atStage⟩ := late.atStage
  obtain ⟨cmd, joining | starting⟩ := late.command
  · have joinable : ui.controller.Joinable := fun index held =>
      ended_of_not_unfinished (atStage.held index held) (ended index)
    exact mayReturn_of_joinable late.looping joining joinable late.past waitOver
  · exact mayReturn_of_starting late.looping starting late.past waitOver

/-- The one worker that may not have ended has stored its result, and ends. -/
theorem Late.mayReturn (late : ui.Late) : ui.MayReturnInFlight jsoncons truncate := by
  by_cases ended : ∀ worker, ¬ui.controller.Unfinished worker
  · exact late.mayReturn_of_ended ended
  · simp only [not_forall, not_not] at ended
    obtain ⟨worker, unfinished⟩ := ended
    have held := late.holds worker unfinished
    obtain ⟨running, found, alive⟩ := unfinished
    obtain ⟨stage, atStage⟩ := late.atStage
    have inactive : running.stage = none := by
      rw [Option.eq_none_iff_forall_ne_some]
      intro current active
      have none := (atStage.of_worker found active).2.1
      obtain ⟨cmd, joining | starting⟩ := late.command
      · rw [joining] at none
        cases none
      · rw [starting] at none
        cases none
    obtain ⟨own, rfl⟩ : ∃ own, running = ⟨own, .stored⟩ := by
      rcases running with ⟨own, _ | _ | result | _ | _⟩
      · cases inactive
      · cases inactive
      · cases inactive
      · exact ⟨own, rfl⟩
      · exact absurd rfl alive
    have enabled : ui.controller.Enabled (.finish worker own) := found
    refine .of_next (.controller (.finish worker own)) ⟨enabled, .inl trivial⟩ ?_
    have finished : Late (ui.next jsoncons truncate (.controller (.finish worker own))) := by
      refine ⟨late.looping, late.past, late.command, ⟨stage, atStage.finish found⟩,
        late.holds.next atStage enabled, fun waited joining index member => ?_⟩
      exact lt_of_lt_of_le (late.waited waited joining index member)
        (CliUiController.length_workers_le_next jsoncons truncate enabled)
    exact finished.mayReturn_of_ended
      (late.holds.ended_of_finish jsoncons truncate held enabled)

/-- Where `stop` is past its look while the loop runs. -/
theorem Tracked.pastLook (tracked : ui.Tracked) (looping : ui.handler.uiThread = .looping)
    (looked : ui.commandWait ≠ .unlooked ∧ ui.commandWait ≠ .waiting) : ui.PastLook := by
  cases wait : ui.commandWait with
  | unlooked => exact absurd wait looked.1
  | waiting => exact absurd wait looked.2
  | joining worker =>
    refine .inl ⟨tracked.stopping looked.1 ?_, worker, wait⟩
    rw [wait]
    exact fun contrary => by cases contrary
  | passed =>
    have entered := tracked.entered looked.1
    refine .inr ⟨wait, ?_⟩
    cases main : ui.handler.mainThread with
    | stopping => exact .inl rfl
    | exiting => exact .inr (.inl rfl)
    | joining => exact .inr (.inr rfl)
    | beforeStart => exact absurd main entered.1
    | waitingForShutdown => exact absurd main entered.2
    | returned =>
      have ended := tracked.ordered.ended main
      rw [looping] at ended
      cases ended

/-- An event that is not in time is one after which a call may outlive `stop`. -/
theorem Tracked.mayReturn_of_not_inTime (tracked : ui.Tracked) {event : Event}
    (enabled : ui.Enabled event) (tooLate : ¬ui.InTime event) :
    (ui.next jsoncons truncate event).MayReturnInFlight jsoncons truncate := by
  obtain ⟨stage, atStage⟩ := tracked.atStage
  cases event with
  | handler event => exact absurd trivial tooLate
  | readExecuting => exact absurd trivial tooLate
  | joined worker => exact absurd trivial tooLate
  | controller event =>
    obtain ⟨⟨rfl, accepts⟩, late⟩ := Classical.not_imp.mp tooLate
    rw [not_or] at late
    have looping : ui.handler.uiThread = .looping := enabled.2.resolve_left id
    obtain ⟨descriptor, committed⟩ := Option.ne_none_iff_exists'.mp accepts.1
    have accepted := CliUiController.executeCurrentCommand_of_accepted committed accepts.2
    have reached : ∃ after, (ui.controller.next jsoncons truncate .executeCurrentCommand).AtStage
        after := atStage.next _ enabled.1
    have holds : (ui.controller.next jsoncons truncate .executeCurrentCommand).HoldsUnfinished :=
      tracked.holds.next atStage enabled.1
    have past : (ui.next jsoncons truncate (.controller .executeCurrentCommand)).PastLook :=
      tracked.pastLook looping late
    refine Late.mayReturn ⟨looping, past, ⟨⟨descriptor.type, ui.controller.payload⟩, .inl ?_⟩,
      reached, holds, fun worker joining => ?_⟩
    · exact congrArg CliUiController.uiCall accepted
    · intro index member
      exact lt_of_lt_of_le ((tracked.waits worker joining).2.2 index member)
        (CliUiController.length_workers_le_next jsoncons truncate enabled.1)
  | joinExecution =>
    have looping : ui.handler.uiThread = .looping := by
      by_contra outside
      refine tooLate ?_
      rw [InTime, tracked.idle outside]
      rfl
    refine Late.mayReturn ⟨looping, .inl ⟨enabled.1, _, rfl⟩, ?_, ⟨stage, atStage⟩, tracked.holds,
      ?_⟩
    · cases call : ui.controller.uiCall with
      | joining cmd =>
        cases cmd with
        | none => exact absurd (by rw [InTime, call]; rfl) tooLate
        | some cmd => exact ⟨cmd, .inl call⟩
      | starting cmd => exact ⟨cmd, .inr call⟩
      | _ => exact absurd (by rw [InTime, call]; rfl) tooLate
    · rintro _ ⟨⟩
      exact atStage.held

end CliUi

/-- In a run in which no command is accepted too late for `stop`, nothing is in flight when `stop`
returns; and wherever one is accepted too late, `stop` may return while it is executed. -/
theorem stop_nothingInFlight {jsoncons : Jsoncons} {truncate : String → Int}
    {events : List CliUi.Event} {tables : OverviewTables} {ui : CliUi}
    (run : (CliUi.machine jsoncons truncate).Runs CliUi.InTime (.initial tables) events ui) :
    (ui.handler.mainThread = .returned → ui.controller.NothingInFlight) ∧
      ∀ event, ui.Enabled event → ¬ui.InTime event →
        (ui.next jsoncons truncate event).MayReturnInFlight jsoncons truncate := by
  have tracked := CliUi.tracked_run run
  refine ⟨fun returned => ?_, fun event enabled tooLate => ?_⟩
  · have passed : ui.commandWait = .passed := by
      by_contra before
      exact (tracked.past before).2.2 returned
    have idle : ui.controller.uiCall = .idle := by
      refine tracked.idle ?_
      rw [tracked.ordered.ended returned]
      exact fun contrary => by cases contrary
    exact (tracked.free passed).nothingInFlight idle
  · exact tracked.mayReturn_of_not_inTime enabled tooLate

/-- A UI that is started and asked to shut down. -/
def stopEntered : List CliUi.Event :=
  [.handler .start, .handler .build, .handler .built, .handler .install,
    .controller (.commitCommand 0), .handler .requestShutdown, .handler .enterStop]

/-- The end of the loop, of its thread and of `stop`. -/
def stopReturns : List CliUi.Event :=
  [.handler .checkActive, .handler .exit, .handler .leave, .handler .endRoutine, .handler .join]

/-- A command comes in before the look of `stop`, which waits for its worker. -/
def timelyCommand : List CliUi.Event :=
  stopEntered ++
    [.controller .executeCurrentCommand, .readExecuting,
      .controller (.joined (some ⟨.getEndpointList, ""⟩)),
      .controller (.startThread ⟨.getEndpointList, ""⟩), .joinExecution,
      .controller (.call 0 ⟨.getEndpointList, ""⟩),
      .controller (.answer 0 ⟨.getEndpointList, ""⟩ ⟨true, [], "[]"⟩),
      .controller (.store 0 ⟨.getEndpointList, ""⟩ ⟨true, [], "[]"⟩),
      .controller (.finish 0 ⟨.getEndpointList, ""⟩), .joined (some 0)] ++ stopReturns

theorem stop_nothingInFlight_sample :
    let ui := timelyCommand.foldl (CliUi.machine (.reading []) fun _ => 0).next (.initial {})
    ui.handler.mainThread = .returned ∧ ui.controller.NothingInFlight := by
  intro ui
  have run : (CliUi.machine (.reading []) fun _ => 0).Runs CliUi.InTime (.initial {})
      timelyCommand ui := Machine.runs_of_play rfl
  exact ⟨rfl, (stop_nothingInFlight run).1 rfl⟩

/-- The command comes in right after the look of `stop`, and outlives it. -/
theorem stop_whileInFlight :
    ∃ ui, (CliUi.machine (.reading []) fun _ => 0).Runs (fun _ _ => True) (.initial {})
        (stopEntered ++ [.readExecuting, .controller .executeCurrentCommand,
          .controller (.joined (some ⟨.getEndpointList, ""⟩)),
          .controller (.startThread ⟨.getEndpointList, ""⟩),
          .controller (.call 0 ⟨.getEndpointList, ""⟩)] ++ stopReturns) ui ∧
      ui.handler.mainThread = .returned ∧ ui.controller.InService 0 ∧
      ¬ui.controller.NothingInFlight := by
  refine ⟨_, Machine.runs_of_play rfl, rfl, ?_, fun nothing => nothing.inService 0 ?_⟩
  · rfl
  · rfl

end MavlinkHub
