/-
This file transcribes the signal handler as a machine of two threads: the one that calls
`start` and `stop`, and the one that waits in `sigwait`. Signals come from outside at any
time. A signal that every thread blocks is pending until `sigwait` takes it.

The thread waits once, for the termination signals and for the wake signal by which `stop`
gets it to end. It cannot tell who sent the wake signal. If another process sends it, the
thread ends, and there is nobody left to take a termination signal.
-/

import MavlinkHub.Library.Machine
import MavlinkHub.Signals

namespace MavlinkHub

/-- `kWakeSignal`, which is `SIGUSR1`. -/
def kWakeSignal : Signal := 10

/-- Where the thread in `sigwait` is. It is requesting from the moment it calls
`requestShutdown` until that returns. -/
inductive SigwaitThread
  | none
  | waiting
  | requesting
  | exited
  deriving DecidableEq

/-- Where the calling thread is in `stop`. While it drains it has the snapshot that
`sigpending` took, and the termination signals it has yet to look at. -/
inductive StopPhase
  | outside
  | joining
  | joined
  | draining (pending : Finset Signal) (remaining : List Signal)
  deriving DecidableEq

/-- A round of the loop can end: if it waits for a signal, by a set with that signal alone, the
signal has to be pending. -/
def StopPhase.roundEnds (processPending : PendingSignals) : StopPhase → Bool
  | .draining pending (signal :: _) =>
    !sigismember pending signal || (signal ∈ sigaddset ∅ signal && signal ∈ processPending)
  | _ => false

/-- The loop is over. -/
def StopPhase.loopEnds : StopPhase → Bool
  | .draining _ [] => true
  | _ => false

/-- How a call of `start` goes. -/
inductive StartOutcome
  | started
  | maskFailed
  | threadFailed
  deriving DecidableEq

/-- `SignalHandlerImpl`, with the signal masks and the pending signals it works on. -/
structure SignalHandler where
  /-- The signal mask of the calling thread. -/
  mask : Finset Signal
  originalMask : Finset Signal := ∅
  started : Bool := false
  sigwaitThread : SigwaitThread := .none
  stopPhase : StopPhase := .outside
  /-- Signals pending for the process, and for the thread in `sigwait` alone. -/
  processPending : PendingSignals := ∅
  threadPending : Finset Signal := ∅
  /-- Since the last `start`: the termination signals that arrived, and whether the thread's
  `requestShutdown` has returned. -/
  arrived : Finset Signal := ∅
  requested : Bool := false

namespace SignalHandler

/-- What happens to a signal handler. -/
inductive Event
  | start (outcome : StartOutcome)
  /-- A signal is sent to the process. -/
  | deliver (signal : Signal)
  /-- `sigwait` takes a signal that is pending for the process, or for its own thread. -/
  | takeProcess (signal : Signal)
  | takeThread (signal : Signal)
  /-- `requestShutdown` returns, and the thread ends. -/
  | finishRequest
  /-- The parts of `stop`: up to the `join`, the `join`, the snapshot, one round of the loop and
  what comes after the loop. -/
  | enterStop
  | join
  | snapshot
  | drain
  | restore
  deriving DecidableEq

variable (terminationSignals : List Signal)

/-- `buildAwaitSet`. -/
def awaitSet : Finset Signal :=
  sigaddset (terminationSignals.foldl sigaddset ∅) kWakeSignal

variable (handler : SignalHandler)

/-- `SignalHandler::start`. If the thread cannot be created the mask is put back. -/
def start : StartOutcome → SignalHandler
  | .maskFailed => handler
  | .threadFailed =>
    if handler.started then handler else { handler with originalMask := handler.mask }
  | .started =>
    if handler.started then handler
    else
      { handler with
        mask := sigBlock handler.mask (awaitSet terminationSignals)
        originalMask := handler.mask
        started := true
        sigwaitThread := .waiting
        threadPending := ∅
        arrived := ∅
        requested := false }

/-- `sigwait` has returned a signal: the body of the thread. -/
def receive (signal : Signal) : SignalHandler :=
  if signal ≠ kWakeSignal then { handler with sigwaitThread := .requesting }
  else { handler with sigwaitThread := .exited }

/-- When an event can happen. A signal that is not blocked is not the handler's business. -/
def Enabled : Event → Prop
  | .start _ => handler.stopPhase = .outside
  | .deliver signal => signal.Blockable ∧ signal ∈ handler.mask
  | .takeProcess signal => handler.sigwaitThread = .waiting ∧
      signal ∈ awaitSet terminationSignals ∧ signal ∈ handler.processPending
  | .takeThread signal => handler.sigwaitThread = .waiting ∧
      signal ∈ awaitSet terminationSignals ∧ signal ∈ handler.threadPending
  | .finishRequest => handler.sigwaitThread = .requesting
  | .enterStop => handler.stopPhase = .outside
  | .join => handler.stopPhase = .joining ∧ handler.sigwaitThread = .exited
  | .snapshot => handler.stopPhase = .joined
  | .drain => handler.stopPhase.roundEnds handler.processPending = true
  | .restore => handler.stopPhase.loopEnds = true

/-- What an event leads to. -/
def next : Event → SignalHandler
  | .start outcome => handler.start terminationSignals outcome
  | .deliver signal =>
    { handler with
      processPending := handler.processPending.send signal
      arrived :=
        if signal ∈ terminationSignals then insert signal handler.arrived else handler.arrived }
  | .takeProcess signal =>
    { handler with processPending := handler.processPending.take signal }.receive signal
  | .takeThread signal =>
    { handler with threadPending := handler.threadPending.erase signal }.receive signal
  | .finishRequest => { handler with sigwaitThread := .exited, requested := true }
  | .enterStop =>
    if !handler.started then handler
    else if handler.sigwaitThread = .exited then { handler with stopPhase := .joining }
    else
      { handler with
        stopPhase := .joining
        threadPending := insert kWakeSignal handler.threadPending }
  | .join => { handler with stopPhase := .joined, sigwaitThread := .none, threadPending := ∅ }
  | .snapshot =>
    { handler with stopPhase := .draining handler.processPending.sigpending terminationSignals }
  | .drain =>
    match handler.stopPhase with
    | .draining pending (signal :: rest) =>
      if sigismember pending signal then
        { handler with
          stopPhase := .draining pending rest
          processPending := handler.processPending.take signal }
      else { handler with stopPhase := .draining pending rest }
    | _ => handler
  | .restore =>
    { handler with
      mask := handler.originalMask
      started := false
      stopPhase := .outside
      processPending := handler.processPending.within handler.originalMask }

instance decidableEnabled : ∀ event, Decidable (handler.Enabled terminationSignals event)
  | .start _ => inferInstanceAs (Decidable (_ = _))
  | .deliver _ => inferInstanceAs (Decidable (_ ∧ _))
  | .takeProcess _ => inferInstanceAs (Decidable (_ ∧ _ ∧ _))
  | .takeThread _ => inferInstanceAs (Decidable (_ ∧ _ ∧ _))
  | .finishRequest => inferInstanceAs (Decidable (_ = _))
  | .enterStop => inferInstanceAs (Decidable (_ = _))
  | .join => inferInstanceAs (Decidable (_ ∧ _))
  | .snapshot => inferInstanceAs (Decidable (_ = _))
  | .drain => inferInstanceAs (Decidable (_ = _))
  | .restore => inferInstanceAs (Decidable (_ = _))

/-- The signal handler of a list of termination signals. -/
def machine : Machine SignalHandler Event where
  enabled := Enabled terminationSignals
  next := next terminationSignals

instance (event : Event) : Decidable ((machine terminationSignals).enabled handler event) :=
  decidableEnabled terminationSignals handler event

/-- A signal handler as its constructor leaves it, in a thread with some mask and a process with
some pending signals. -/
def initial (mask : Finset Signal) (processPending : PendingSignals) : SignalHandler :=
  { mask, processPending }

/-! ### What the events do -/

variable {terminationSignals} {handler}

theorem start_of_started (started : handler.started = true) (outcome : StartOutcome) :
    handler.start terminationSignals outcome = handler := by
  cases outcome <;> simp [start, started]

theorem next_enterStop_of_not_started (stopped : handler.started = false) :
    handler.next terminationSignals .enterStop = handler := by
  simp [next, stopped]

theorem next_enterStop_of_started (terminationSignals : List Signal)
    (started : handler.started = true) :
    ∃ threadPending, handler.next terminationSignals .enterStop =
      { handler with stopPhase := .joining, threadPending } := by
  simp only [next, started, Bool.not_true, Bool.false_eq_true, if_false]
  split_ifs
  · exact ⟨handler.threadPending, rfl⟩
  · exact ⟨_, rfl⟩

theorem mem_awaitSet {signal : Signal} : signal ∈ awaitSet terminationSignals ↔
    signal = kWakeSignal ∨ signal ∈ terminationSignals ∧ signal.Settable := by
  have settable : kWakeSignal.Settable := by decide
  rw [awaitSet, mem_sigaddset, mem_foldl_sigaddset, and_iff_left settable]
  simp only [Finset.notMem_empty, false_or]

theorem kWakeSignal_mem_awaitSet (terminationSignals : List Signal) :
    kWakeSignal ∈ awaitSet terminationSignals := mem_awaitSet.mpr (.inl rfl)

/-- A round of the loop is about the first signal that is left. -/
theorem drain_cases (enabled : handler.Enabled terminationSignals .drain) :
    ∃ pending signal rest, handler.stopPhase = .draining pending (signal :: rest) ∧
      (sigismember pending signal = true → signal.Settable ∧ signal ∈ handler.processPending) ∧
      handler.next terminationSignals .drain =
        { handler with
          stopPhase := .draining pending rest
          processPending :=
            if sigismember pending signal then handler.processPending.take signal
            else handler.processPending } := by
  cases phase : handler.stopPhase with
  | draining pending remaining =>
    rw [Enabled, phase] at enabled
    cases remaining with
    | nil => cases enabled
    | cons signal rest =>
      refine ⟨pending, signal, rest, rfl, fun member => ?_, ?_⟩
      · simpa [StopPhase.roundEnds, member, mem_sigaddset] using enabled
      · simp only [next, phase]
        split_ifs <;> rfl
  | _ =>
    rw [Enabled, phase] at enabled
    cases enabled

/-- After the loop nothing is left to look at. -/
theorem restore_cases (enabled : handler.Enabled terminationSignals .restore) :
    ∃ pending, handler.stopPhase = .draining pending [] := by
  cases phase : handler.stopPhase with
  | draining pending remaining =>
    cases remaining with
    | nil => exact ⟨pending, rfl⟩
    | cons signal rest =>
      rw [Enabled, phase] at enabled
      cases enabled
  | _ =>
    rw [Enabled, phase] at enabled
    cases enabled

variable (terminationSignals) (handler)

/-! ### Termination signals -/

/-- The wake signal is left to `stop`: nobody sends it to the process while the thread waits,
and `start` does not find it pending. -/
def WakeLeftAlone : Event → Prop
  | .start outcome =>
    outcome = .started → handler.started = false → kWakeSignal ∉ handler.processPending
  | .deliver signal =>
    signal = kWakeSignal → handler.stopPhase = .outside → handler.sigwaitThread ≠ .waiting
  | _ => True

instance decidableWakeLeftAlone : ∀ event, Decidable (handler.WakeLeftAlone event)
  | .start _ => inferInstanceAs (Decidable (_ → _ → _))
  | .deliver _ => inferInstanceAs (Decidable (_ → _ → _))
  | .takeProcess _ | .takeThread _ | .finishRequest | .enterStop | .join | .snapshot | .drain
  | .restore => inferInstanceAs (Decidable True)

variable {terminationSignals} {handler}

end SignalHandler

end MavlinkHub
