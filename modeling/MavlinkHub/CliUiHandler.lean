/-
This file transcribes the shutdown of the UI as a machine of three threads: the main
thread, which starts the UI, waits for a shutdown request and stops the UI; the UI
thread, which builds its components and runs an event loop; and the signal thread, which
may request the shutdown at any time.

`stop` looks once whether a loop is active, and if there is one it posts an exit to it. A
UI thread that is still on its way to the loop is not seen, and its loop never ends.
-/

import MavlinkHub.Library.Machine

namespace MavlinkHub

/-- Where the main thread is in `App::run`. It is stopping from the entry of `stop`, which may
have a command to wait for; it is exiting once it has seen an active loop. -/
inductive MainThread
  | beforeStart
  | waitingForShutdown
  | stopping
  | exiting
  | joining
  | returned
  deriving DecidableEq

/-- Where the UI thread is in its `CliRoutine`. -/
inductive UiThread
  | absent
  | spawned
  | building
  | entering
  | looping
  | left
  | ended
  deriving DecidableEq

/-- `CliUiHandlerImpl` and the threads around it. -/
structure CliUiHandler where
  running : Bool := false
  mainThread : MainThread := .beforeStart
  uiThread : UiThread := .absent
  /-- An exit has been posted to the loop. -/
  exitPosted : Bool := false
  shutdownRequested : Bool := false
  deriving DecidableEq

namespace CliUiHandler

/-- What happens around a UI handler. -/
inductive Event
  /-- `CliUiHandler::start`. -/
  | start
  /-- The signal thread calls `requestShutdown`. -/
  | requestShutdown
  /-- `waitForShutdownSignal` returns, and `stop` is entered. -/
  | enterStop
  /-- `stop` reads `App::Active`. -/
  | checkActive
  /-- `stop` calls `Exit` on the loop it has seen. -/
  | exit
  /-- The `join` of the UI thread returns, and so does `stop`. -/
  | join
  /-- `generateUserInterface` begins, has built its components, and installs its loop. -/
  | build
  | built
  | install
  /-- The loop ends: the user quits, a posted exit is carried out, or an exception is thrown. -/
  | leave
  /-- An exception is thrown on the way to the loop. -/
  | fail
  /-- The destructor of `CliRoutine` requests the shutdown, and the thread ends. -/
  | endRoutine
  deriving DecidableEq

variable (handler : CliUiHandler)

/-- `App::Active() != nullptr`. -/
def active : Bool :=
  handler.uiThread = .looping

/-- When an event can happen. -/
def Enabled : Event → Prop
  | .start => handler.mainThread = .beforeStart
  | .requestShutdown => handler.mainThread ≠ .beforeStart
  | .enterStop => handler.mainThread = .waitingForShutdown ∧ handler.shutdownRequested = true
  | .checkActive => handler.mainThread = .stopping
  | .exit => handler.mainThread = .exiting
  | .join => handler.mainThread = .joining ∧ handler.uiThread = .ended
  | .build => handler.uiThread = .spawned
  | .built => handler.uiThread = .building
  | .install => handler.uiThread = .entering
  | .leave => handler.uiThread = .looping
  | .fail => handler.uiThread = .building ∨ handler.uiThread = .entering
  | .endRoutine => handler.uiThread = .left

/-- What an event leads to. `App::Active` is read a second time to call `Exit` on it. If the loop
is gone by then that is a null pointer; the UI thread has left its loop, and nothing is posted. -/
def next : Event → CliUiHandler
  | .start =>
    { handler with running := true, mainThread := .waitingForShutdown, uiThread := .spawned }
  | .requestShutdown => { handler with shutdownRequested := true }
  | .enterStop =>
    if !handler.running then { handler with mainThread := .returned }
    else { handler with mainThread := .stopping }
  | .checkActive =>
    if handler.active then { handler with mainThread := .exiting }
    else { handler with mainThread := .joining }
  | .exit =>
    { handler with mainThread := .joining, exitPosted := handler.exitPosted || handler.active }
  | .join => { handler with mainThread := .returned, running := false }
  | .build => { handler with uiThread := .building }
  | .built => { handler with uiThread := .entering }
  | .install => { handler with uiThread := .looping }
  | .leave => { handler with uiThread := .left }
  | .fail => { handler with uiThread := .left }
  | .endRoutine => { handler with uiThread := .ended, shutdownRequested := true }

instance : ∀ event, Decidable (handler.Enabled event)
  | .start | .checkActive | .exit | .build | .built | .install | .leave | .endRoutine =>
    inferInstanceAs (Decidable (_ = _))
  | .requestShutdown => inferInstanceAs (Decidable (_ ≠ _))
  | .enterStop | .join => inferInstanceAs (Decidable (_ ∧ _))
  | .fail => inferInstanceAs (Decidable (_ ∨ _))

/-- A UI handler and the threads around it. -/
def machine : Machine CliUiHandler Event where
  enabled := Enabled
  next := next

instance (event : Event) : Decidable (machine.enabled handler event) :=
  inferInstanceAs (Decidable (handler.Enabled event))

/-! ### Shutdown -/

/-- The UI thread exists and is on its way to its loop. -/
def OnItsWay : Prop :=
  handler.uiThread = .spawned ∨ handler.uiThread = .building ∨ handler.uiThread = .entering

/-- `stop` is blocked in the `join` of a UI thread that is about to enter its loop or inside it,
and no exit has been posted to that loop. -/
def Stuck : Prop :=
  handler.mainThread = .joining ∧ (handler.OnItsWay ∨ handler.uiThread = .looping) ∧
    handler.exitPosted = false

/-- `stop` does not look for the loop while the UI thread is on its way to it. -/
def ChecksInTime : Event → Prop
  | .checkActive => ¬handler.OnItsWay
  | _ => True

instance : Decidable handler.OnItsWay :=
  inferInstanceAs (Decidable (_ ∨ _ ∨ _))

instance : ∀ event, Decidable (handler.ChecksInTime event)
  | .checkActive => inferInstanceAs (Decidable ¬_)
  | .start | .requestShutdown | .enterStop | .exit | .join | .build | .built | .install | .leave
  | .fail | .endRoutine => inferInstanceAs (Decidable True)

/-- What the checks of the runs in which they come in time achieve: `stop` gets past its check
only with a UI thread that has been in its loop, and reaches the `join` of a thread that is in
its loop only after posting an exit. Nobody else posts one. -/
structure Informed : Prop where
  unposted : handler.exitPosted = true →
    handler.mainThread = .joining ∨ handler.mainThread = .returned
  seen : handler.mainThread = .exiting ∨ handler.mainThread = .joining → ¬handler.OnItsWay
  posted : handler.mainThread = .joining → handler.uiThread = .looping → handler.exitPosted = true

variable {handler}

theorem informed_initial : ({} : CliUiHandler).Informed := by
  refine ⟨nofun, ?_, nofun⟩
  rintro (⟨⟨⟩⟩ | ⟨⟨⟩⟩)

/-- While `stop` has not come to its check, the UI thread is free. -/
theorem informed_of_main (early : handler.mainThread ≠ .exiting ∧ handler.mainThread ≠ .joining)
    (unposted : handler.exitPosted = true → handler.mainThread = .returned) :
    handler.Informed := by
  refine ⟨fun isPosted => .inr (unposted isPosted), fun late => ?_, fun joining => ?_⟩
  · exact absurd late (not_or.mpr early)
  · exact absurd joining early.2

/-- Behind its loop the UI thread is free. -/
theorem informed_of_ui (unposted : handler.exitPosted = true →
      handler.mainThread = .joining ∨ handler.mainThread = .returned)
    (behind : handler.uiThread = .left ∨ handler.uiThread = .ended) : handler.Informed := by
  refine ⟨unposted, fun _ onItsWay => ?_, fun _ looping => ?_⟩
  · rcases behind with behind | behind <;> simp [OnItsWay, behind] at onItsWay
  · rcases behind with behind | behind <;> simp [behind] at looping

/-- A thread that is on its way moves on: `stop` has not come past its check. -/
theorem Informed.early (informed : handler.Informed) (onItsWay : handler.OnItsWay) :
    handler.mainThread ≠ .exiting ∧ handler.mainThread ≠ .joining := by
  rw [← not_or]
  exact fun late => informed.seen late onItsWay

theorem Informed.unposted_of_early (informed : handler.Informed)
    (early : handler.mainThread ≠ .exiting ∧ handler.mainThread ≠ .joining)
    (isPosted : handler.exitPosted = true) : handler.mainThread = .returned :=
  (informed.unposted isPosted).resolve_left early.2

theorem informed_checkActive (informed : handler.Informed)
    (stopping : handler.mainThread = .stopping) (inTime : ¬handler.OnItsWay) :
    (handler.next .checkActive).Informed := by
  have unposted : handler.exitPosted = false := by
    rw [Bool.eq_false_iff]
    intro isPosted
    have late := informed.unposted isPosted
    simp [stopping] at late
  rw [next]
  split_ifs with isActive
  · refine ⟨fun isPosted => ?_, fun _ => inTime, nofun⟩
    simp [unposted] at isPosted
  · refine ⟨fun _ => .inl rfl, fun _ => inTime, fun _ looping => ?_⟩
    simp [active, show handler.uiThread = .looping from looping] at isActive

/-- Every event keeps the invariant if the check comes in time. -/
theorem informed_next (event : Event) (informed : handler.Informed)
    (enabled : handler.Enabled event) (inTime : handler.ChecksInTime event) :
    (handler.next event).Informed := by
  cases event with
  | start =>
    refine informed_of_main ⟨nofun, nofun⟩ fun isPosted => ?_
    have late := informed.unposted isPosted
    rw [Enabled] at enabled
    simp [enabled] at late
  | requestShutdown => exact ⟨informed.unposted, informed.seen, informed.posted⟩
  | enterStop =>
    have none : ¬handler.exitPosted = true := by
      intro isPosted
      have late := informed.unposted isPosted
      simp [enabled.1] at late
    rw [next]
    split_ifs with idle
    · exact informed_of_main ⟨nofun, nofun⟩ fun _ => rfl
    · exact informed_of_main ⟨nofun, nofun⟩ fun isPosted => absurd isPosted none
  | checkActive => exact informed_checkActive informed enabled inTime
  | exit =>
    refine ⟨fun _ => .inl rfl, fun _ => informed.seen (.inl enabled), fun _ looping => ?_⟩
    simp [next, active, show handler.uiThread = .looping from looping]
  | join => exact informed_of_main ⟨nofun, nofun⟩ fun _ => rfl
  | build =>
    have early := informed.early (.inl enabled)
    exact informed_of_main early (informed.unposted_of_early early)
  | built =>
    have early := informed.early (.inr (.inl enabled))
    exact informed_of_main early (informed.unposted_of_early early)
  | install =>
    have early := informed.early (.inr (.inr enabled))
    exact informed_of_main early (informed.unposted_of_early early)
  | leave => exact informed_of_ui informed.unposted (.inl rfl)
  | fail => exact informed_of_ui informed.unposted (.inl rfl)
  | endRoutine => exact informed_of_ui informed.unposted (.inr rfl)

theorem informed_run {events : List Event}
    (run : machine.Runs ChecksInTime {} events handler) : handler.Informed :=
  run.invariant Informed
    (fun _ event informed enabled inTime => informed_next event informed enabled inTime)
    informed_initial

theorem Informed.not_stuck (informed : handler.Informed) : ¬handler.Stuck := by
  rintro ⟨joining, onItsWay | looping, unposted⟩
  · exact informed.seen (.inr joining) onItsWay
  · have isPosted := informed.posted joining looping
    rw [unposted] at isPosted
    cases isPosted

/-- A check that is made too early is the last thing before `stop` is stuck. -/
theorem Informed.stuck (informed : handler.Informed)
    (enabled : handler.Enabled .checkActive) (tooEarly : handler.OnItsWay) :
    (handler.next .checkActive).Stuck := by
  have inactive : handler.active = false := by
    rcases tooEarly with spawned | building | entering
    · simp [active, spawned]
    · simp [active, building]
    · simp [active, entering]
  have unposted : handler.exitPosted = false := by
    rw [Bool.eq_false_iff]
    intro isPosted
    have late := informed.unposted isPosted
    rw [Enabled] at enabled
    simp [enabled] at late
  have unseen : handler.next .checkActive = { handler with mainThread := .joining } := by
    simp [next, inactive]
  rw [unseen]
  exact ⟨rfl, .inl tooEarly, unposted⟩

end CliUiHandler

/-- In the runs in which `stop` looks for the loop in time, it is never blocked in the `join` of
a UI thread that is about to enter its loop or inside it without a posted exit. After such a run
a check that is made too early gets `stop` there. -/
theorem cooperativeShutdown_reaches {events : List CliUiHandler.Event} {handler : CliUiHandler}
    (run : CliUiHandler.machine.Runs CliUiHandler.ChecksInTime {} events handler) :
    ¬handler.Stuck ∧
      (handler.Enabled .checkActive → ¬handler.ChecksInTime .checkActive →
        (handler.next .checkActive).Stuck) := by
  have informed := CliUiHandler.informed_run run
  exact ⟨informed.not_stuck, fun enabled tooEarly => informed.stuck enabled (not_not.mp tooEarly)⟩

/-- A shutdown that is requested while the UI runs. -/
def timelyShutdown : List CliUiHandler.Event :=
  [.start, .build, .built, .install, .requestShutdown, .enterStop, .checkActive, .exit]

theorem cooperativeShutdown_reaches_sample :
    ¬(timelyShutdown.foldl CliUiHandler.next {}).Stuck := by
  have run : CliUiHandler.machine.Runs CliUiHandler.ChecksInTime {} timelyShutdown
      (timelyShutdown.foldl CliUiHandler.next {}) :=
    Machine.runs_of_play rfl
  exact (cooperativeShutdown_reaches run).1

/-- A shutdown is requested before the UI thread has come to its loop. The loop runs, `stop`
waits for it to end, and no exit is posted. -/
theorem cooperativeShutdown_missed :
    ∃ handler, CliUiHandler.machine.Runs (fun _ _ => True) {}
        [.start, .requestShutdown, .enterStop, .checkActive, .build, .built, .install] handler ∧
      handler.mainThread = .joining ∧ handler.uiThread = .looping ∧ handler.Stuck :=
  ⟨_, Machine.runs_of_play rfl, rfl, rfl, rfl, .inr rfl, rfl⟩

end MavlinkHub
