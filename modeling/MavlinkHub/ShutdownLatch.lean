/-
This file says what the shutdown controller is for: it is an atomic latch. A request sets
the latch in one step, and a wait goes through in one step once it is set; the mutex, the
condition variable and the wake-ups for no reason are not seen from outside. So wherever the
controller is part of something larger, a flag stands for it.

And the latch serves its callers. Before a shutdown is requested the controller is stuck
only while all that are in it wait for the request. Afterwards it is never stuck, and every
thread is out of it after a few moves of its own, whatever the other threads do.
-/

import MavlinkHub.Library.AtomicObject
import MavlinkHub.ShutdownController

namespace MavlinkHub

namespace ShutdownController

open Monitor (Event Settled WaitsOnly)

/-- A latch that is set in one step and passed in one step. -/
abbrev Latch (Thread : Type) := AtomicObject Thread Member Bool

namespace Latch

variable {Thread : Type} [DecidableEq Thread]

/-- A request sets the latch, and a wait takes effect only once it is set. -/
abbrev machine (Thread : Type) [DecidableEq Thread] :
    Machine (Latch Thread) (AtomicObject.Event Thread Member) := AtomicObject.machine body

/-- The latch is open, and no thread is at it. -/
def initial (Thread : Type) : Latch Thread := { value := false }

end Latch

variable {Thread : Type} {controller : ShutdownController Thread}

/-- Once the flag is set, no wait is refused. -/
theorem settled_true : Settled body true := by
  intro member condition awaits
  cases member with
  | requestShutdown => cases awaits
  | waitForShutdownSignal =>
    cases awaits
    rfl

theorem settled_of_change (member : Member) (update : Bool → Bool) (flag : Bool)
    (changes : body member = .change update) (_ : Settled body flag) :
    Settled body (update flag) := by
  rw [eq_requestShutdown_of_change changes] at changes
  cases changes
  exact settled_true

/-- Only a wait whose flag is not set keeps a thread in the condition variable for good. -/
theorem not_requested_of_waiting {thread : Thread}
    (waiting : Monitor.Waiting body controller thread) :
    controller.phase thread = .blocked .waitForShutdownSignal ∧
      controller.shutdownRequested = false := by
  obtain ⟨member, condition, blocked, awaits, fails⟩ := waiting
  cases member with
  | requestShutdown => cases awaits
  | waitForShutdownSignal =>
    cases awaits
    exact ⟨blocked, fails⟩

variable [DecidableEq Thread] {events others : List (Event Thread Member)}
  {later : ShutdownController Thread}

theorem waitsOnly_of_run
    (run : (machine Thread).Runs (fun _ _ => True) (initial Thread) events controller) :
    controller.WaitsOnly body :=
  run.invariant (WaitsOnly body) (fun _ event waits enabled _ => waits.next event enabled)
    (Monitor.waitsOnly_initial false)

end ShutdownController

open ShutdownController Monitor

/-- Whatever any number of threads do at the shutdown controller, they could have done it at a
latch that a request sets in one step and that a wait passes in one step, with the same calls and
returns in the same order. -/
theorem shutdownController_refinesLatch {Thread : Type} [DecidableEq Thread]
    {events : List (Event Thread Member)} {controller : ShutdownController Thread}
    (run : (ShutdownController.machine Thread).Runs (fun _ _ => True)
      (ShutdownController.initial Thread) events controller) :
    ∃ moves, (Latch.machine Thread).Runs (fun _ _ => True) (Latch.initial Thread) moves
        controller.atomic ∧
      moves.filterMap shownBy = events.filterMap Event.shows :=
  atomic_run run

theorem shutdownController_refinesLatch_sample :
    let controller : ShutdownController Nat :=
      sleptThrough.foldl (ShutdownController.machine Nat).next (ShutdownController.initial Nat)
    ∃ moves, (Latch.machine Nat).Runs (fun _ _ => True) (Latch.initial Nat) moves
        controller.atomic ∧
      moves.filterMap shownBy = [.called 0 .waitForShutdownSignal, .called 1 .requestShutdown,
        .returned 1 .requestShutdown] := by
  intro controller
  have run : (ShutdownController.machine Nat).Runs (fun _ _ => True)
      (ShutdownController.initial Nat) sleptThrough controller := Machine.runs_of_play rfl
  exact shutdownController_refinesLatch run

/-- In every interleaving, some move other than a call or a wake-up for no reason is possible while
a thread is in the shutdown controller, unless all that are in it are blocked and no shutdown has
been requested. Once it has been, each thread makes six moves at most, and four more for each of
its later calls. -/
theorem shutdownController_serves {Thread : Type} [DecidableEq Thread]
    {events : List (Event Thread Member)} {controller : ShutdownController Thread}
    (run : (ShutdownController.machine Thread).Runs (fun _ _ => True)
      (ShutdownController.initial Thread) events controller) :
    (∀ thread, controller.phase thread ≠ .outside →
      (controller.phase thread = .blocked .waitForShutdownSignal →
        controller.shutdownRequested = true) →
      ∃ event, event.goesOn ∧ controller.Enabled event) ∧
    (controller.shutdownRequested = true → ∀ others (later : ShutdownController Thread),
      (ShutdownController.machine Thread).Runs (fun _ _ => True) controller others later →
        ∀ thread, others.countP (Event.ofThread thread) ≤
          6 + 4 * others.countP (Event.callOf thread)) := by
  refine ⟨fun thread inside free => ?_, fun requested others later rest thread => ?_⟩
  · refine (sound_of_run run).goesOn (waitsOnly_of_run run) inside fun waiting => ?_
    obtain ⟨blocked, unset⟩ := not_requested_of_waiting waiting
    rw [free blocked] at unset
    cases unset
  · have settled : Settled ShutdownController.body controller.value := by
      rw [show controller.value = true from requested]
      exact settled_true
    have bounded := countP_ofThread_le settled_of_change rest settled thread
    have ahead := (controller.phase thread).ahead_le
    omega

theorem shutdownController_serves_sample :
    let controller : ShutdownController Nat :=
      sleptThrough.foldl (ShutdownController.machine Nat).next (ShutdownController.initial Nat)
    ∃ event, event.goesOn ∧ controller.Enabled event := by
  intro controller
  have run : (ShutdownController.machine Nat).Runs (fun _ _ => True)
      (ShutdownController.initial Nat) sleptThrough controller := Machine.runs_of_play rfl
  exact (shutdownController_serves run).1 0 (fun outside => (by cases outside))
    fun blocked => (by cases blocked)

end MavlinkHub
