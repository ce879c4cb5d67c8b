/-
This file proves what a signal handler does to the signal mask of the thread that calls it.
A call of `start`, `stop` or the destructor begins with one event of that thread and has
returned when the thread is outside of `stop` again; signals and the thread in `sigwait` move
in the meantime. The mask is changed by `start`, which saves the one from before, and by what
sets the saved one again. The saved mask is never an extended one, because a handler that is
started does not start again.

`SIGKILL` and `SIGSTOP` can stand in the list of termination signals, but no thread blocks
them.
-/

import MavlinkHub.SignalHandler

namespace MavlinkHub

namespace SignalHandler

variable (terminationSignals : List Signal) (handler : SignalHandler)

/-! ### The mask -/

/-- `pthread_sigmask` in `start`: the awaited signals are blocked and the old mask is saved. -/
def blockAwaitSet : SignalHandler :=
  { handler with
    mask := sigBlock handler.mask (awaitSet terminationSignals)
    originalMask := handler.mask }

/-- `pthread_sigmask` in `start` where the thread cannot be created: the saved mask is set. -/
def restoreMask : SignalHandler :=
  { handler with mask := handler.originalMask }

/-- A call that the owner of the handler makes. -/
inductive Call
  | start (outcome : StartOutcome)
  | stop
  | destroy
  deriving DecidableEq

/-- The event that a call begins with. The destructor calls `stop`. -/
def Call.event : Call → Event
  | .start outcome => .start outcome
  | .stop | .destroy => .enterStop

/-- Whether the handler is started after a call. -/
def Call.leavesStarted (started : Bool) : Call → Bool
  | .start .started => true
  | .start _ => started
  | .stop | .destroy => false

/-- The event begins a call. -/
def Event.BeginsCall : Event → Prop
  | .start _ | .enterStop => True
  | _ => False

instance : ∀ event : Event, Decidable event.BeginsCall
  | .start _ | .enterStop => inferInstanceAs (Decidable True)
  | .deliver _ | .takeProcess _ | .takeThread _ | .finishRequest | .join | .snapshot | .drain
  | .restore => inferInstanceAs (Decidable False)

/-- A call from its beginning to some moment after it returned and before the next call. -/
def Called (before : SignalHandler) (call : Call) (after : SignalHandler) : Prop :=
  before.Enabled terminationSignals call.event ∧
    (∃ events, (machine terminationSignals).Runs (fun _ event => ¬event.BeginsCall)
      (before.next terminationSignals call.event) events after) ∧
    after.stopPhase = .outside

/-- What the owner of the handler can rely on after some calls, if the mask of the thread was
`mask` before them and the calls leave the handler `started` or not. -/
structure Neutral (mask : Finset Signal) (started : Bool) : Prop where
  flag : handler.started = started
  live : handler.mask = if started then sigBlock mask (awaitSet terminationSignals) else mask
  failedStart : ∀ outcome, outcome ≠ .started → ∀ after,
    handler.Called terminationSignals (.start outcome) after →
      after.mask = handler.mask ∧ after.started = handler.started
  secondStart : started = true → ∀ outcome,
    handler.next terminationSignals (.start outcome) = handler
  stopWithoutStart : started = false → handler.next terminationSignals .enterStop = handler
  startAgain : started = false →
    (∃ after, handler.Called terminationSignals (.start .started) after) ∧
      ∀ after, handler.Called terminationSignals (.start .started) after →
        after.started = true ∧ after.mask = sigBlock mask (awaitSet terminationSignals)

/-- The invariant of all events: the live mask follows from the one before the calls, and while
the handler is started that is the saved mask. -/
structure Saved (mask : Finset Signal) : Prop where
  live : handler.mask =
    if handler.started then sigBlock mask (awaitSet terminationSignals) else mask
  saved : handler.started = true → handler.originalMask = mask
  inStop : handler.stopPhase ≠ .outside → handler.started = true

/-- Afterwards the masks and the flag are the same, and the thread is in `stop` if it was. -/
structure Keeps (after : SignalHandler) : Prop where
  mask : after.mask = handler.mask
  originalMask : after.originalMask = handler.originalMask
  started : after.started = handler.started
  outside : after.stopPhase = .outside ↔ handler.stopPhase = .outside

variable {terminationSignals} {handler} {mask : Finset Signal}

/-- Where the thread cannot be created, `start` blocks the signals and sets the saved mask. -/
theorem start_threadFailed (stopped : handler.started = false) :
    handler.start terminationSignals .threadFailed =
      (handler.blockAwaitSet terminationSignals).restoreMask := by
  simp [start, stopped, blockAwaitSet, restoreMask]

theorem start_started (stopped : handler.started = false) :
    handler.start terminationSignals .started =
      { handler.blockAwaitSet terminationSignals with
        started := true, sigwaitThread := .waiting, threadPending := ∅, arrived := ∅,
        requested := false } := by
  simp [start, stopped, blockAwaitSet]

theorem start_stopPhase (outcome : StartOutcome) :
    (handler.start terminationSignals outcome).stopPhase = handler.stopPhase := by
  cases outcome <;> simp only [start] <;> split_ifs <;> rfl

theorem start_of_failed (terminationSignals : List Signal) (handler : SignalHandler)
    {outcome : StartOutcome} (failed : outcome ≠ .started) :
    (handler.start terminationSignals outcome).mask = handler.mask ∧
      (handler.start terminationSignals outcome).started = handler.started := by
  cases already : handler.started with
  | true =>
    rw [start_of_started already]
    exact ⟨rfl, already⟩
  | false =>
    cases outcome with
    | started => exact absurd rfl failed
    | maskFailed => exact ⟨rfl, already⟩
    | threadFailed =>
      rw [start_threadFailed already]
      exact ⟨rfl, already⟩

theorem Saved.keeps (saved : handler.Saved terminationSignals mask) {after : SignalHandler}
    (keeps : handler.Keeps after) : after.Saved terminationSignals mask := by
  refine ⟨?_, ?_, ?_⟩
  · rw [keeps.mask, keeps.started]
    exact saved.live
  · rw [keeps.started, keeps.originalMask]
    exact saved.saved
  · rw [keeps.started, ne_eq, keeps.outside]
    exact saved.inStop

theorem saved_initial (mask : Finset Signal) (processPending : PendingSignals) :
    (initial mask processPending).Saved terminationSignals mask where
  live := rfl
  saved := by
    rintro ⟨⟩
  inStop := fun inStop => absurd rfl inStop

theorem Saved.mask_of_stopped (saved : handler.Saved terminationSignals mask)
    (stopped : handler.started = false) : handler.mask = mask := by
  rw [saved.live, stopped]
  rfl

theorem saved_start (saved : handler.Saved terminationSignals mask) (outcome : StartOutcome) :
    (handler.start terminationSignals outcome).Saved terminationSignals mask := by
  cases already : handler.started with
  | true =>
    rw [start_of_started already]
    exact saved
  | false =>
    have live := saved.mask_of_stopped already
    cases outcome with
    | maskFailed => exact saved
    | threadFailed =>
      rw [start_threadFailed already]
      refine ⟨?_, fun started => ?_, saved.inStop⟩
      · exact saved.live
      · rw [show handler.started = true from started] at already
        cases already
    | started =>
      rw [start_started already]
      exact ⟨congrArg (sigBlock · (awaitSet terminationSignals)) live, fun _ => live, fun _ => rfl⟩

theorem keeps_receive (signal : Signal) (processPending : PendingSignals)
    (threadPending : Finset Signal) :
    handler.Keeps ({ handler with processPending, threadPending }.receive signal) := by
  rw [receive]
  split_ifs
  · exact ⟨rfl, rfl, rfl, Iff.rfl⟩
  · exact ⟨rfl, rfl, rfl, Iff.rfl⟩

/-- Of the events that begin no call only `restore` changes the mask or leaves `stop`. -/
theorem keeps_or_restore (event : Event) (enabled : handler.Enabled terminationSignals event)
    (other : ¬event.BeginsCall) :
    handler.Keeps (handler.next terminationSignals event) ∨
      event = .restore ∧ handler.stopPhase ≠ .outside := by
  cases event with
  | start outcome => exact absurd trivial other
  | enterStop => exact absurd trivial other
  | deliver signal => exact .inl ⟨rfl, rfl, rfl, Iff.rfl⟩
  | takeProcess signal => exact .inl (keeps_receive _ _ _)
  | takeThread signal => exact .inl (keeps_receive _ _ _)
  | finishRequest => exact .inl ⟨rfl, rfl, rfl, Iff.rfl⟩
  | join =>
    refine .inl ⟨rfl, rfl, rfl, iff_of_false nofun ?_⟩
    rw [enabled.1]
    exact nofun
  | snapshot =>
    refine .inl ⟨rfl, rfl, rfl, iff_of_false nofun ?_⟩
    rw [show handler.stopPhase = .joined from enabled]
    exact nofun
  | drain =>
    obtain ⟨pending, signal, rest, phase, _, same⟩ := drain_cases enabled
    rw [same]
    refine .inl ⟨rfl, rfl, rfl, iff_of_false nofun ?_⟩
    rw [phase]
    exact nofun
  | restore =>
    obtain ⟨pending, phase⟩ := restore_cases enabled
    refine .inr ⟨rfl, ?_⟩
    rw [phase]
    exact nofun

theorem saved_enterStop (saved : handler.Saved terminationSignals mask) :
    (handler.next terminationSignals .enterStop).Saved terminationSignals mask := by
  cases started : handler.started with
  | false =>
    rw [next_enterStop_of_not_started started]
    exact saved
  | true =>
    obtain ⟨threadPending, same⟩ := next_enterStop_of_started terminationSignals started
    rw [same]
    exact ⟨saved.live, saved.saved, fun _ => started⟩

/-- Every event keeps the live mask and the saved one in step. -/
theorem saved_next (event : Event) (saved : handler.Saved terminationSignals mask)
    (enabled : handler.Enabled terminationSignals event) :
    (handler.next terminationSignals event).Saved terminationSignals mask := by
  by_cases begins : event.BeginsCall
  · cases event with
    | start outcome => exact saved_start saved outcome
    | enterStop => exact saved_enterStop saved
    | _ => exact begins.elim
  · rcases keeps_or_restore event enabled begins with keeps | ⟨rfl, inStop⟩
    · exact saved.keeps keeps
    · refine ⟨saved.saved (saved.inStop inStop), ?_, fun inStop => absurd rfl inStop⟩
      rintro ⟨⟩

theorem Saved.run {allowed : SignalHandler → Event → Prop} {first : SignalHandler}
    {events : List Event} (saved : first.Saved terminationSignals mask)
    (run : (machine terminationSignals).Runs allowed first events handler) :
    handler.Saved terminationSignals mask :=
  Machine.Runs.invariant (Saved terminationSignals · mask)
    (fun _ event saved enabled _ => saved_next event saved enabled) run saved

/-- When the mask is about to be restored, the saved one is the one from before. -/
theorem Saved.originalMask_of_restore (saved : handler.Saved terminationSignals mask)
    (enabled : handler.Enabled terminationSignals .restore) : handler.originalMask = mask := by
  obtain ⟨pending, phase⟩ := restore_cases enabled
  refine saved.saved (saved.inStop ?_)
  rw [phase]
  exact nofun

/-! ### Calls -/

theorem enterStop_inStop (started : (handler.next terminationSignals .enterStop).started = true) :
    (handler.next terminationSignals .enterStop).stopPhase ≠ .outside := by
  cases already : handler.started with
  | false =>
    rw [next_enterStop_of_not_started already, already] at started
    cases started
  | true =>
    obtain ⟨threadPending, same⟩ := next_enterStop_of_started terminationSignals already
    rw [same]
    exact nofun

variable {after : SignalHandler}

/-- Until the next call a call of `start` leaves the flag and the mask as it sets them. -/
theorem Called.start {outcome : StartOutcome}
    (called : handler.Called terminationSignals (.start outcome) after) :
    after.started = (handler.start terminationSignals outcome).started ∧
      after.mask = (handler.start terminationSignals outcome).mask := by
  obtain ⟨enabled, ⟨events, run⟩, _⟩ := called
  have outside : (handler.start terminationSignals outcome).stopPhase = .outside :=
    (start_stopPhase outcome).trans enabled
  refine (run.invariant (fun state => state.stopPhase = .outside ∧
    state.started = (handler.start terminationSignals outcome).started ∧
    state.mask = (handler.start terminationSignals outcome).mask) ?_ ⟨outside, rfl, rfl⟩).2
  rintro state event ⟨outside, started, live⟩ enabled other
  rcases keeps_or_restore event enabled other with keeps | ⟨_, inStop⟩
  · exact ⟨keeps.outside.mpr outside, keeps.started.trans started, keeps.mask.trans live⟩
  · exact absurd outside inStop

/-- A call that begins with `enterStop` leaves the handler stopped. -/
theorem Called.stopped {call : Call} (called : handler.Called terminationSignals call after)
    (stops : call.event = .enterStop) : after.started = false := by
  obtain ⟨_, ⟨events, run⟩, outside⟩ := called
  rw [stops] at run
  have inStop : after.started = true → after.stopPhase ≠ .outside := by
    refine run.invariant (fun state => state.started = true → state.stopPhase ≠ .outside) ?_
      enterStop_inStop
    intro state event inStop enabled other started
    rcases keeps_or_restore event enabled other with keeps | ⟨rfl, _⟩
    · have before : state.started = true := keeps.started.symm.trans started
      exact fun left => inStop before (keeps.outside.mp left)
    · cases started
  exact Bool.eq_false_iff.mpr fun started => inStop started outside

theorem Called.started {call : Call} (called : handler.Called terminationSignals call after) :
    after.started = call.leavesStarted handler.started := by
  cases call with
  | stop => exact called.stopped rfl
  | destroy => exact called.stopped rfl
  | start outcome =>
    rw [called.start.1]
    cases outcome with
    | started =>
      cases already : handler.started with
      | true => rwa [start_of_started already]
      | false => rw [start_started already, Call.leavesStarted]
    | maskFailed => exact (start_of_failed _ _ (by decide)).2
    | threadFailed => exact (start_of_failed _ _ (by decide)).2

theorem Called.saved {call : Call} (called : handler.Called terminationSignals call after)
    (saved : handler.Saved terminationSignals mask) : after.Saved terminationSignals mask := by
  obtain ⟨enabled, ⟨events, run⟩, _⟩ := called
  exact (saved_next call.event saved enabled).run run

/-- After any calls: the flag is what the calls leave, and the masks are in step. -/
theorem saved_run {calls : List Call} {first : SignalHandler}
    (run : Transition.Run (Called terminationSignals) first calls handler)
    (outside : first.stopPhase = .outside) (saved : first.Saved terminationSignals mask) :
    handler.stopPhase = .outside ∧ handler.Saved terminationSignals mask ∧
      handler.started = calls.foldl Call.leavesStarted first.started := by
  induction run with
  | done state => exact ⟨outside, saved, rfl⟩
  | next head tail inductionHypothesis =>
    rw [List.foldl_cons, ← head.started]
    exact inductionHypothesis head.2.2 (head.saved saved)

theorem Saved.neutral (saved : handler.Saved terminationSignals mask)
    (outside : handler.stopPhase = .outside) :
    handler.Neutral terminationSignals mask handler.started where
  flag := rfl
  live := saved.live
  failedStart outcome failed after called := by
    obtain ⟨sameMask, sameStarted⟩ := start_of_failed terminationSignals handler failed
    exact ⟨called.start.2.trans sameMask, called.start.1.trans sameStarted⟩
  secondStart started outcome := start_of_started started outcome
  stopWithoutStart := next_enterStop_of_not_started
  startAgain stopped := by
    refine ⟨⟨_, outside, ⟨[], .done _⟩, (start_stopPhase _).trans outside⟩, fun after called => ?_⟩
    rw [called.start.1, called.start.2, start_started stopped]
    exact ⟨rfl, congrArg (sigBlock · (awaitSet terminationSignals)) (saved.mask_of_stopped stopped)⟩

end SignalHandler

/-- After any calls of `start`, `stop` and the destructor, whether the starts succeed or fail, the
mask of the calling thread is the one from before, with those of the awaited signals that can be
blocked if and only if the handler is started. -/
theorem signalMask_neutral {terminationSignals : List Signal} {mask : Finset Signal}
    {processPending : PendingSignals} {calls : List SignalHandler.Call} {handler : SignalHandler}
    (run : Transition.Run (SignalHandler.Called terminationSignals) (.initial mask processPending)
      calls handler) :
    handler.Neutral terminationSignals mask
      (calls.foldl SignalHandler.Call.leavesStarted false) := by
  obtain ⟨outside, saved, started⟩ :=
    SignalHandler.saved_run run rfl (SignalHandler.saved_initial mask processPending)
  have neutral := saved.neutral outside
  rwa [started] at neutral

/-- A `start` that fails, two that do not, and the destructor. -/
def startedTwice : List SignalHandler.Call :=
  [.start .threadFailed, .start .started, .start .started, .destroy]

theorem signalMask_neutral_sample : ∃ handler : SignalHandler,
    Transition.Run (SignalHandler.Called [2, 15]) (.initial {17} ∅) startedTwice handler ∧
      handler.mask = {17} ∧ handler.Neutral [2, 15] {17} false := by
  -- What the two threads do until the destructor has returned.
  let returned : List SignalHandler.Event :=
    [.takeThread kWakeSignal, .join, .snapshot, .drain, .drain, .restore]
  let failed := (SignalHandler.initial {17} ∅).next [2, 15] (.start .threadFailed)
  let started := failed.next [2, 15] (.start .started)
  let handler := returned.foldl (SignalHandler.next [2, 15]) (started.next [2, 15] .enterStop)
  have fails : SignalHandler.Called [2, 15] (.initial {17} ∅) (.start .threadFailed) failed :=
    ⟨rfl, ⟨[], .done _⟩, rfl⟩
  have starts : SignalHandler.Called [2, 15] failed (.start .started) started :=
    ⟨rfl, ⟨[], .done _⟩, rfl⟩
  have startsAgain : SignalHandler.Called [2, 15] started (.start .started) started :=
    ⟨rfl, ⟨[], .done _⟩, rfl⟩
  have destroys : SignalHandler.Called [2, 15] started .destroy handler :=
    ⟨rfl, ⟨returned, Machine.runs_of_play rfl⟩, rfl⟩
  have run : Transition.Run (SignalHandler.Called [2, 15]) (.initial {17} ∅) startedTwice handler :=
    .next fails (.next starts (.next startsAgain (.next destroys (.done _))))
  exact ⟨handler, run, rfl, signalMask_neutral run⟩

/-- A handler that awaits `SIGKILL` does not get it blocked. -/
theorem startedMask_lacks_awaited : ∃ handler : SignalHandler,
    Transition.Run (SignalHandler.Called [9, 15]) (.initial {17} ∅) [.start .started] handler ∧
      handler.started = true ∧ 9 ∈ SignalHandler.awaitSet [9, 15] ∧
      handler.mask ≠ {17} ∪ SignalHandler.awaitSet [9, 15] := by
  let started := (SignalHandler.initial {17} ∅).next [9, 15] (.start .started)
  have starts : SignalHandler.Called [9, 15] (.initial {17} ∅) (.start .started) started :=
    ⟨rfl, ⟨[], .done _⟩, rfl⟩
  exact ⟨started, .single starts, rfl, by decide, by decide⟩

end MavlinkHub
