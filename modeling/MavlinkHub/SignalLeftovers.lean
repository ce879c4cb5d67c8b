/-
This file is about the signals that are still pending when `stop` restores the mask, and which
are delivered by that. The loop before that goes through the termination signals, but `start`
has blocked the wake signal as well, so a wake signal that somebody else sent is left. The
order in which signals arrive and are taken decides whether there is one, and the events up
to the snapshot are followed for that.

The loop takes a signal as often as it stands in the list. Of a standard signal nothing is
left by that, but real-time signals queue, and one that is pending more often is left.
-/

import MavlinkHub.SignalMask

namespace MavlinkHub

namespace SignalHandler

variable (terminationSignals : List Signal) (handler : SignalHandler)

/-- The signals that setting the saved mask delivers to a handler or to the default action. -/
def leftovers : Finset Signal :=
  handler.processPending.sigpending \ handler.originalMask

/-- After the snapshot and before the mask is restored, in runs in which no signal arrives. -/
def Event.InLoop : Event → Prop
  | .deliver _ | .restore => False
  | _ => True

instance : ∀ event : Event, Decidable event.InLoop
  | .deliver _ | .restore => inferInstanceAs (Decidable False)
  | .start _ | .takeProcess _ | .takeThread _ | .finishRequest | .enterStop | .join | .snapshot
  | .drain => inferInstanceAs (Decidable True)

/-- The invariant of the loop: of the signals that were pending at the snapshot, those are gone
that it has looked at, each as often as it did. -/
structure Drained (pending : PendingSignals) (looked remaining : List Signal) : Prop where
  phase : handler.stopPhase = .draining pending.sigpending remaining
  joined : handler.sigwaitThread = .none
  signals : looked ++ remaining = terminationSignals
  left : ∀ signal,
    handler.processPending.count signal = pending.count signal - looked.count signal

/-- Whether a wake signal that was sent to the process is left after an event. It comes from
outside, as `stop` sends its own to the thread. -/
def Event.leavesWake (left : Bool) : Event → Bool
  | .deliver signal => left || signal = kWakeSignal
  | .takeProcess signal => left && signal ≠ kWakeSignal
  -- Restoring the mask delivers it, so that it does not stay pending.
  | .restore => false
  | _ => left

/-- What the loop has yet to look at is the end of the list. -/
def LoopsOver : Prop :=
  ∀ pending remaining, handler.stopPhase = .draining pending remaining →
    remaining <:+ terminationSignals

variable {terminationSignals} {handler} {pending : PendingSignals} {looked remaining : List Signal}
  {mask : Finset Signal}

theorem receive_stopPhase (signal : Signal) :
    (handler.receive signal).stopPhase = handler.stopPhase := by
  rw [receive]
  split_ifs <;> rfl

theorem receive_processPending (signal : Signal) :
    (handler.receive signal).processPending = handler.processPending := by
  rw [receive]
  split_ifs <;> rfl

theorem start_processPending (outcome : StartOutcome) :
    (handler.start terminationSignals outcome).processPending = handler.processPending := by
  cases outcome <;> simp only [start] <;> split_ifs <;> rfl

theorem loopsOver_of_stopPhase (loops : handler.LoopsOver terminationSignals)
    {after : SignalHandler} (same : after.stopPhase = handler.stopPhase) :
    after.LoopsOver terminationSignals := by
  rw [LoopsOver, same]
  exact loops

theorem loopsOver_next (event : Event) (loops : handler.LoopsOver terminationSignals)
    (enabled : handler.Enabled terminationSignals event) :
    (handler.next terminationSignals event).LoopsOver terminationSignals := by
  cases event with
  | start outcome => exact loopsOver_of_stopPhase loops (start_stopPhase outcome)
  | deliver signal => exact loopsOver_of_stopPhase loops rfl
  | takeProcess signal => exact loopsOver_of_stopPhase loops (receive_stopPhase signal)
  | takeThread signal => exact loopsOver_of_stopPhase loops (receive_stopPhase signal)
  | finishRequest => exact loopsOver_of_stopPhase loops rfl
  | enterStop =>
    cases started : handler.started with
    | false =>
      rw [next_enterStop_of_not_started started]
      exact loops
    | true =>
      obtain ⟨threadPending, same⟩ := next_enterStop_of_started terminationSignals started
      rw [same]
      exact nofun
  | join => exact nofun
  | snapshot =>
    rintro pending remaining ⟨⟩
    exact List.suffix_rfl
  | drain =>
    obtain ⟨pending, signal, rest, phase, _, same⟩ := drain_cases enabled
    rw [same]
    rintro pending remaining ⟨⟩
    exact (List.suffix_cons signal rest).trans (loops _ _ phase)
  | restore => exact nofun

/-- If the wake signal is no termination signal and the mask from before does not block it, it is
pending for the process exactly if it is left. -/
theorem wake_next (foreign : kWakeSignal ∉ terminationSignals) (unblocked : kWakeSignal ∉ mask)
    (event : Event) (saved : handler.Saved terminationSignals mask)
    (loops : handler.LoopsOver terminationSignals)
    (enabled : handler.Enabled terminationSignals event) {left : Bool}
    (wake : kWakeSignal ∈ handler.processPending ↔ left = true) :
    kWakeSignal ∈ (handler.next terminationSignals event).processPending ↔
      event.leavesWake left = true := by
  cases event with
  | start outcome => rwa [next, start_processPending]
  | deliver signal =>
    show kWakeSignal ∈ handler.processPending.send signal ↔
      (left || signal = kWakeSignal) = true
    rw [PendingSignals.mem_send, wake, Bool.or_eq_true, decide_eq_true_eq, or_comm]
    exact or_congr_right eq_comm
  | takeProcess signal =>
    rw [next, receive_processPending]
    show kWakeSignal ∈ handler.processPending.take signal ↔
      (left && signal ≠ kWakeSignal) = true
    rw [PendingSignals.mem_take_of_standard (by decide), wake, Bool.and_eq_true, decide_eq_true_eq,
      ne_comm]
  | takeThread signal => rwa [next, receive_processPending]
  | finishRequest => exact wake
  | enterStop =>
    cases started : handler.started with
    | false => rwa [next_enterStop_of_not_started started]
    | true =>
      obtain ⟨threadPending, same⟩ := next_enterStop_of_started terminationSignals started
      rwa [same]
  | join => exact wake
  | snapshot => exact wake
  | drain =>
    obtain ⟨pending, signal, rest, phase, _, same⟩ := drain_cases enabled
    have other : kWakeSignal ≠ signal := by
      rintro rfl
      exact foreign ((loops _ _ phase).subset List.mem_cons_self)
    rw [same]
    show (kWakeSignal ∈ if sigismember pending signal then handler.processPending.take signal
      else handler.processPending) ↔ left = true
    split_ifs
    · exact (PendingSignals.mem_take_of_ne other).trans wake
    · exact wake
  | restore =>
    refine iff_of_false (fun member => unblocked ?_) Bool.false_ne_true
    rw [← saved.originalMask_of_restore enabled]
    exact (PendingSignals.mem_within.mp member).2

/-- After a run the wake signal is pending for the process exactly if the events have left it. -/
theorem wake_run (foreign : kWakeSignal ∉ terminationSignals) (unblocked : kWakeSignal ∉ mask)
    {first : SignalHandler} {events : List Event} {left : Bool}
    (run : (machine terminationSignals).Runs (fun _ _ => True) first events handler)
    (saved : first.Saved terminationSignals mask) (loops : first.LoopsOver terminationSignals)
    (wake : kWakeSignal ∈ first.processPending ↔ left = true) :
    kWakeSignal ∈ handler.processPending ↔ events.foldl Event.leavesWake left = true := by
  induction run generalizing left with
  | done state => exact wake
  | next head tail inductionHypothesis =>
    obtain ⟨enabled, _, rfl⟩ := head
    exact inductionHypothesis (saved_next _ saved enabled) (loopsOver_next _ loops enabled)
      (wake_next foreign unblocked _ saved loops enabled wake)

/-- After the `join` the thread is gone. -/
theorem joined_next (event : Event)
    (joined : handler.stopPhase = .joined → handler.sigwaitThread = .none)
    (enabled : handler.Enabled terminationSignals event)
    (phase : (handler.next terminationSignals event).stopPhase = .joined) :
    (handler.next terminationSignals event).sigwaitThread = .none := by
  cases event with
  | start outcome =>
    rw [next, start_stopPhase, show handler.stopPhase = .outside from enabled] at phase
    cases phase
  | deliver signal => exact joined phase
  | takeProcess signal =>
    rw [next, receive_stopPhase] at phase
    have gone := joined phase
    rw [enabled.1] at gone
    cases gone
  | takeThread signal =>
    rw [next, receive_stopPhase] at phase
    have gone := joined phase
    rw [enabled.1] at gone
    cases gone
  | finishRequest =>
    have gone := joined phase
    rw [show handler.sigwaitThread = .requesting from enabled] at gone
    cases gone
  | enterStop =>
    cases started : handler.started with
    | false =>
      rw [next_enterStop_of_not_started started] at phase ⊢
      exact joined phase
    | true =>
      obtain ⟨threadPending, same⟩ := next_enterStop_of_started terminationSignals started
      rw [same] at phase
      cases phase
  | join => rfl
  | snapshot => cases phase
  | drain =>
    obtain ⟨pending, signal, rest, _, _, same⟩ := drain_cases enabled
    rw [same] at phase
    cases phase
  | restore => cases phase

theorem joined_run {mask : Finset Signal} {processPending : PendingSignals} {events : List Event}
    (run : (machine terminationSignals).Runs (fun _ _ => True) (initial mask processPending) events
      handler) : handler.stopPhase = .joined → handler.sigwaitThread = .none :=
  run.invariant (fun state => state.stopPhase = .joined → state.sigwaitThread = .none)
    (fun _ event joined enabled _ => joined_next event joined enabled) nofun

theorem drained_snapshot (joined : handler.sigwaitThread = .none) :
    (handler.next terminationSignals .snapshot).Drained terminationSignals handler.processPending
      [] terminationSignals :=
  ⟨rfl, joined, rfl, fun _ => rfl⟩

/-- A round takes the signal it is about if that was pending at the snapshot. -/
theorem Drained.round {signal : Signal}
    (drained : handler.Drained terminationSignals pending looked (signal :: remaining)) :
    { handler with
      stopPhase := .draining pending.sigpending remaining
      processPending :=
        if sigismember pending.sigpending signal then handler.processPending.take signal
        else handler.processPending }.Drained terminationSignals pending (looked ++ [signal])
      remaining := by
  refine ⟨rfl, drained.joined, ?_, fun other => ?_⟩
  · rw [List.append_assoc]
    exact drained.signals
  · have left := drained.left other
    rw [List.count_append, List.count_singleton]
    show (if sigismember pending.sigpending signal then handler.processPending.take signal
      else handler.processPending).count other = _
    by_cases same : other = signal
    · subst same
      rw [beq_self_eq_true, if_pos rfl]
      split_ifs with member
      · rw [PendingSignals.count_take_self, left, Nat.sub_sub]
      · have absent : ¬0 < pending.count other := by
          rw [← PendingSignals.mem_iff_count, ← PendingSignals.mem_sigpending]
          exact fun present => member (sigismember_iff.mpr (.inr present))
        omega
    · rw [beq_false_of_ne (Ne.symm same), if_neg Bool.false_ne_true, Nat.add_zero, ← left]
      split_ifs
      · exact PendingSignals.count_take_of_ne same
      · rfl

theorem Drained.next
    (drained : handler.Drained terminationSignals pending looked remaining) (event : Event)
    (enabled : handler.Enabled terminationSignals event) (inLoop : event.InLoop) :
    ∃ looked remaining, (handler.next terminationSignals event).Drained terminationSignals pending
      looked remaining := by
  have phase := drained.phase
  have joined := drained.joined
  cases event with
  | deliver _ => exact inLoop.elim
  | restore => exact inLoop.elim
  | start outcome =>
    rw [Enabled, phase] at enabled
    cases enabled
  | enterStop =>
    rw [Enabled, phase] at enabled
    cases enabled
  | join =>
    rw [Enabled, phase] at enabled
    cases enabled.1
  | snapshot =>
    rw [Enabled, phase] at enabled
    cases enabled
  | takeProcess signal =>
    rw [Enabled, joined] at enabled
    cases enabled.1
  | takeThread signal =>
    rw [Enabled, joined] at enabled
    cases enabled.1
  | finishRequest =>
    rw [Enabled, joined] at enabled
    cases enabled
  | drain =>
    obtain ⟨snapshot, signal, rest, first, _, same⟩ := drain_cases enabled
    rw [phase] at first
    cases first
    rw [same]
    exact ⟨_, _, drained.round⟩

theorem drained_run {first : SignalHandler} {events : List Event}
    (run : (machine terminationSignals).Runs (fun _ event => event.InLoop) first events handler)
    (drained : ∃ looked remaining, first.Drained terminationSignals pending looked remaining) :
    ∃ looked remaining, handler.Drained terminationSignals pending looked remaining := by
  refine run.invariant
    (fun state => ∃ looked remaining, state.Drained terminationSignals pending looked remaining)
    ?_ drained
  rintro state event ⟨looked, remaining, drained⟩ enabled inLoop
  exact drained.next event enabled inLoop

/-- After the loop of each signal as many are left as were pending beyond those in the list. -/
theorem Drained.finished (drained : handler.Drained terminationSignals pending looked remaining)
    (ends : handler.Enabled terminationSignals .restore) (signal : Signal) :
    handler.processPending.count signal =
      pending.count signal - terminationSignals.count signal := by
  obtain ⟨snapshot, phase⟩ := restore_cases ends
  rw [drained.phase] at phase
  cases phase
  rw [drained.left, ← drained.signals, List.append_nil]

theorem left_of_loop {joined : SignalHandler} {rounds : List Event}
    (gone : joined.sigwaitThread = .none)
    (loop : (machine terminationSignals).Runs (fun _ event => event.InLoop)
      (joined.next terminationSignals .snapshot) rounds handler)
    (ends : handler.Enabled terminationSignals .restore) (signal : Signal) :
    handler.processPending.count signal =
      joined.processPending.count signal - terminationSignals.count signal := by
  obtain ⟨looked, remaining, drained⟩ := drained_run loop ⟨_, _, drained_snapshot gone⟩
  exact drained.finished ends signal

/-- An awaited signal is left if it was pending more often than it stands in the list. -/
theorem leftover_iff
    (left : ∀ signal, handler.processPending.count signal =
      pending.count signal - terminationSignals.count signal)
    (unblocked : ∀ signal ∈ awaitSet terminationSignals, signal ∉ handler.originalMask) :
    (∀ signal ∈ awaitSet terminationSignals, signal ∈ pending → signal ∉ handler.leftovers) ↔
      ∀ signal ∈ awaitSet terminationSignals,
        pending.count signal ≤ terminationSignals.count signal := by
  refine forall₂_congr fun signal awaited => ?_
  have leftover : signal ∈ handler.leftovers ↔ 0 < handler.processPending.count signal := by
    rw [leftovers, Finset.mem_sdiff, and_iff_left (unblocked signal awaited),
      PendingSignals.mem_sigpending, PendingSignals.mem_iff_count]
  rw [leftover, PendingSignals.mem_iff_count, left signal]
  omega

/-- For standard signals it is enough to stand in the list, which only the wake signal may not. -/
theorem count_le_iff :
    (∀ signal ∈ awaitSet terminationSignals,
        pending.count signal ≤ terminationSignals.count signal) ↔
      (kWakeSignal ∉ pending ∨ kWakeSignal ∈ terminationSignals) ∧
        ∀ signal ∈ awaitSet terminationSignals, signal.Queues →
          pending.count signal ≤ terminationSignals.count signal := by
  constructor
  · intro enough
    refine ⟨or_iff_not_imp_left.mpr fun waits => ?_, fun signal awaited _ => enough signal awaited⟩
    have some := PendingSignals.mem_iff_count.mp (not_not.mp waits)
    exact List.count_pos_iff.mp (some.trans_le (enough _ (kWakeSignal_mem_awaitSet _)))
  · rintro ⟨wake, queued⟩ signal awaited
    by_cases queues : signal.Queues
    · exact queued signal awaited queues
    · have once : pending.count signal ≤ 1 := pending.once signal queues
      by_cases waits : signal ∈ pending
      · have own : signal ∈ terminationSignals := by
          rcases mem_awaitSet.mp awaited with rfl | ⟨own, _⟩
          · exact wake.resolve_left (not_not.mpr waits)
          · exact own
        exact once.trans (List.count_pos_iff.mpr own)
      · rw [PendingSignals.mem_iff_count] at waits
        omega

end SignalHandler

/-- If no signal arrives after the snapshot, and the saved mask blocks none of the awaited signals,
then restoring it delivers no awaited signal that was pending at the snapshot if and only if
the events before have left no wake signal, or it is a termination signal as well, and no
real-time signal is pending more often than it stands in the list. -/
theorem leftover_avoided_iff {terminationSignals : List Signal}
    {mask : Finset Signal} {processPending : PendingSignals}
    {events rounds : List SignalHandler.Event} {joined handler : SignalHandler}
    (run : (SignalHandler.machine terminationSignals).Runs (fun _ _ => True)
      (.initial mask processPending) events joined)
    (phase : joined.stopPhase = .joined)
    (loop : (SignalHandler.machine terminationSignals).Runs (fun _ event => event.InLoop)
      (joined.next terminationSignals .snapshot) rounds handler)
    (ends : handler.Enabled terminationSignals .restore)
    (unblocked : ∀ signal ∈ SignalHandler.awaitSet terminationSignals,
      signal ∉ handler.originalMask) :
    (∀ signal ∈ SignalHandler.awaitSet terminationSignals,
        signal ∈ joined.processPending → signal ∉ handler.leftovers) ↔
      (events.foldl SignalHandler.Event.leavesWake (kWakeSignal ∈ processPending) = false ∨
          kWakeSignal ∈ terminationSignals) ∧
        ∀ signal ∈ SignalHandler.awaitSet terminationSignals, signal.Queues →
          joined.processPending.count signal ≤ terminationSignals.count signal := by
  have begun : (SignalHandler.initial mask processPending).Saved terminationSignals mask :=
    SignalHandler.saved_initial mask processPending
  have left := SignalHandler.left_of_loop (SignalHandler.joined_run run phase) loop ends
  rw [SignalHandler.leftover_iff left unblocked, SignalHandler.count_le_iff]
  refine and_congr_left' ?_
  by_cases own : kWakeSignal ∈ terminationSignals
  · exact iff_of_true (.inr own) (.inr own)
  · have joinedSaved := begun.run run
    have saved := (SignalHandler.saved_next .snapshot joinedSaved phase).run loop
    have unmasked : kWakeSignal ∉ mask := by
      rw [← saved.originalMask_of_restore ends]
      exact unblocked _ (SignalHandler.kWakeSignal_mem_awaitSet _)
    have wake := SignalHandler.wake_run own unmasked run begun nofun decide_eq_true_iff.symm
    exact or_congr_left ((not_congr wake).trans Bool.eq_false_iff.symm)

/-- A termination signal, which the thread takes, and a real-time one, which nobody takes. -/
def secondSignal : List SignalHandler.Event :=
  [.start .started, .deliver 15, .takeProcess 15, .finishRequest, .deliver 34, .enterStop, .join]

theorem leftover_avoided_iff_sample :
    let joined := secondSignal.foldl (SignalHandler.next [15, 34]) (.initial ∅ ∅)
    let handler := [SignalHandler.Event.drain, .drain].foldl (SignalHandler.next [15, 34])
      (joined.next [15, 34] .snapshot)
    34 ∈ joined.processPending ∧ 34 ∉ handler.leftovers := by
  intro joined handler
  have run : (SignalHandler.machine [15, 34]).Runs (fun _ _ => True) (.initial ∅ ∅) secondSignal
      joined := Machine.runs_of_play rfl
  have loop : (SignalHandler.machine [15, 34]).Runs (fun _ event => event.InLoop)
      (joined.next [15, 34] .snapshot) [.drain, .drain] handler := Machine.runs_of_play rfl
  have pending : 34 ∈ joined.processPending := by decide
  have avoided := (leftover_avoided_iff run rfl loop rfl (by decide)).mpr
    ⟨.inl (by decide), by decide⟩
  exact ⟨pending, avoided 34 (by decide) pending⟩

/-- Of two instances of a real-time signal the loop takes one. -/
example :
    let joined := [SignalHandler.Event.start .started, .deliver 15, .takeProcess 15,
      .finishRequest, .deliver 34, .deliver 34, .enterStop, .join].foldl
        (SignalHandler.next [15, 34]) (.initial ∅ ∅)
    34 ∈ ([SignalHandler.Event.drain, .drain].foldl (SignalHandler.next [15, 34])
      (joined.next [15, 34] .snapshot)).leftovers := by
  decide

/-- A termination signal ends the thread, and then somebody sends the wake signal. -/
def wakeAfterwards : List SignalHandler.Event :=
  [.start .started, .deliver 15, .takeProcess 15, .finishRequest, .deliver kWakeSignal, .enterStop,
    .join]

/-- The loop leaves a wake signal pending that came after the thread had ended, and restoring the
mask delivers it. -/
theorem leftover_delivered :
    ∃ joined handler : SignalHandler,
      (SignalHandler.machine [2, 15]).Runs (fun _ _ => True) (.initial ∅ ∅) wakeAfterwards
        joined ∧
      joined.stopPhase = .joined ∧
      (SignalHandler.machine [2, 15]).Runs (fun _ event => event.InLoop)
        (joined.next [2, 15] .snapshot) [.drain, .drain] handler ∧
      handler.Enabled [2, 15] .restore ∧ handler.originalMask = ∅ ∧
      kWakeSignal ∈ SignalHandler.awaitSet [2, 15] ∧ kWakeSignal ∈ joined.processPending ∧
      kWakeSignal ∈ handler.leftovers := by
  let joined := wakeAfterwards.foldl (SignalHandler.next [2, 15]) (.initial ∅ ∅)
  let handler := [SignalHandler.Event.drain, .drain].foldl (SignalHandler.next [2, 15])
    (joined.next [2, 15] .snapshot)
  exact ⟨joined, handler, Machine.runs_of_play rfl, rfl, Machine.runs_of_play rfl, rfl, rfl,
    by decide, by decide, by decide⟩

end MavlinkHub
