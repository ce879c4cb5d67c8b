/-
This file transcribes the shutdown controller as a monitor of one flag. A request sets the
flag under the mutex, and notifies all waiters once the mutex is unlocked. A waiter sleeps
in the condition variable until it has seen the flag set.

The flag is a latch, as it is only ever set. A waiter that sleeps while the flag is set
went to sleep before that, and the notification of some request is still to come.
-/

import MavlinkHub.Library.Monitor

namespace MavlinkHub

namespace ShutdownController

/-- The member functions that threads call. -/
inductive Member
  | requestShutdown
  | waitForShutdownSignal
  deriving DecidableEq

/-- What they do with `shutdown_requested`. -/
def body : Member → Monitor.Procedure Bool
  | .requestShutdown => .change fun _ => true
  | .waitForShutdownSignal => .await fun shutdownRequested => shutdownRequested

end ShutdownController

/-- `ShutdownControllerImpl`, with the threads that use it. -/
abbrev ShutdownController (Thread : Type) := Monitor Thread ShutdownController.Member Bool

namespace ShutdownController

variable {Thread : Type} (controller : ShutdownController Thread)

/-- `shutdown_requested`. -/
abbrev shutdownRequested : Bool := controller.value

/-- The controller, with the threads that call its member functions. -/
abbrev machine (Thread : Type) [DecidableEq Thread] :
    Machine (ShutdownController Thread) (Monitor.Event Thread Member) :=
  Monitor.machine body

/-- A controller as its constructor leaves it. -/
def initial (Thread : Type) : ShutdownController Thread := { value := false }

/-- A requester is between setting the flag and notifying. -/
def Notifying : Prop :=
  ∃ requester, controller.phase requester = .changed .requestShutdown ∨
    controller.phase requester = .notifying .requestShutdown

/-- A waiter is blocked in the condition variable, and has not been woken. -/
def WaiterBlocked : Prop :=
  ∃ waiter, controller.phase waiter = .blocked .waitForShutdownSignal

variable {controller}

theorem eq_requestShutdown_of_change {member : Member} {update : Bool → Bool}
    (changes : body member = .change update) : member = .requestShutdown := by
  cases member with
  | requestShutdown => rfl
  | waitForShutdownSignal => cases changes

/-- Only a requester is ever about to notify. -/
theorem notifying_of_pending (sound : controller.Sound body) (pending : controller.Pending) :
    controller.Notifying := by
  obtain ⟨requester, unnotified⟩ := pending
  have fits := sound.fits requester
  refine ⟨requester, ?_⟩
  cases phase : controller.phase requester with
  | changed member =>
    rw [phase] at fits
    obtain ⟨update, changes⟩ := fits
    rw [eq_requestShutdown_of_change changes]
    exact .inl rfl
  | notifying member =>
    rw [phase] at fits
    obtain ⟨update, changes⟩ := fits
    rw [eq_requestShutdown_of_change changes]
    exact .inr rfl
  | _ =>
    rw [phase] at unnotified
    exact unnotified.elim

variable [DecidableEq Thread] {events others : List (Monitor.Event Thread Member)}
  {later : ShutdownController Thread}

theorem sound_of_run
    (run : (machine Thread).Runs (fun _ _ => True) (initial Thread) events controller) :
    controller.Sound body := (Monitor.sound_initial false).run run

/-- If the flag is set, a requester has set it. -/
theorem exists_request_of_requested
    (run : (machine Thread).Runs (fun _ _ => True) (initial Thread) events controller)
    (requested : controller.shutdownRequested = true) :
    ∃ requester, .access requester .requestShutdown ∈ events := by
  have changed : controller.value ≠ (initial Thread).value := by
    rw [show controller.value = true from requested]
    exact Bool.false_ne_true.symm
  obtain ⟨requester, member, update, accessed, changes⟩ :=
    Monitor.exists_access_of_value_ne run changed
  rw [eq_requestShutdown_of_change changes] at accessed
  exact ⟨requester, accessed⟩

/-- The flag stays set. -/
theorem latched (run : (machine Thread).Runs (fun _ _ => True) controller others later)
    (requested : controller.shutdownRequested = true) : later.shutdownRequested = true := by
  refine Monitor.holds_value_of_run (fun flag => flag = true) ?_ run requested
  intro member update flag changes _
  rw [eq_requestShutdown_of_change changes] at changes
  cases changes
  rfl

end ShutdownController

/-- In every interleaving of any number of requests and waits, a wait returns only after a request
has set the flag, the flag stays set, and no waiter is blocked with the flag set unless a requester
is yet to notify. -/
theorem shutdownLatch_wakes {Thread : Type} [DecidableEq Thread]
    {events : List (Monitor.Event Thread ShutdownController.Member)}
    {controller : ShutdownController Thread}
    (run : (ShutdownController.machine Thread).Runs (fun _ _ => True)
      (ShutdownController.initial Thread) events controller) :
    (∀ front waiter back, events = front ++ .leave waiter .waitForShutdownSignal :: back →
      ∃ requester, .access requester .requestShutdown ∈ front) ∧
    (controller.shutdownRequested = true → ∀ others (later : ShutdownController Thread),
      (ShutdownController.machine Thread).Runs (fun _ _ => True) controller others later →
        later.shutdownRequested = true) ∧
    ¬(controller.shutdownRequested = true ∧ ¬controller.Notifying ∧
      controller.WaiterBlocked) := by
  refine ⟨?_, fun requested _ _ rest => ShutdownController.latched rest requested, ?_⟩
  · rintro front waiter back rfl
    obtain ⟨middle, before, after⟩ := Transition.Run.append_iff.mp run
    obtain ⟨_, ⟨leaves, _, _⟩, _⟩ := Transition.Run.cons_iff.mp after
    have sound := ShutdownController.sound_of_run before
    exact ShutdownController.exists_request_of_requested before (sound.fulfilled rfl leaves)
  · rintro ⟨requested, notified, waiter, blocked⟩
    have sound := ShutdownController.sound_of_run run
    exact notified (ShutdownController.notifying_of_pending sound
      (sound.pending_of_blocked rfl blocked requested))

/-- A waiter goes to sleep, is woken for no reason and goes to sleep again; then a shutdown is
requested. -/
def sleptThrough : List (Monitor.Event Nat ShutdownController.Member) :=
  [.call 0 .waitForShutdownSignal, .lock 0 .waitForShutdownSignal,
    .access 0 .waitForShutdownSignal, .wait 0 .waitForShutdownSignal,
    .wake 0 .waitForShutdownSignal, .lock 0 .waitForShutdownSignal, .call 1 .requestShutdown,
    .access 0 .waitForShutdownSignal, .wait 0 .waitForShutdownSignal, .lock 1 .requestShutdown,
    .access 1 .requestShutdown, .unlock 1 .requestShutdown, .notifyAll 1 .requestShutdown,
    .lock 0 .waitForShutdownSignal, .access 0 .waitForShutdownSignal]

theorem shutdownLatch_wakes_sample :
    let controller : ShutdownController Nat :=
      sleptThrough.foldl (ShutdownController.machine Nat).next (ShutdownController.initial Nat)
    controller.phase 0 = .admitted .waitForShutdownSignal ∧
      ¬(controller.shutdownRequested = true ∧ ¬controller.Notifying ∧
        controller.WaiterBlocked) := by
  intro controller
  have run : (ShutdownController.machine Nat).Runs (fun _ _ => True)
      (ShutdownController.initial Nat) sleptThrough controller := Machine.runs_of_play rfl
  exact ⟨rfl, (shutdownLatch_wakes run).2.2⟩

end MavlinkHub
