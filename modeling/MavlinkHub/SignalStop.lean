/-
This file proves that `SignalHandler::stop` returns. The thread in `sigwait` exists from
`start` to the `join`, and when `stop` waits for it the wake signal is there for it to
take. The loop that drains the pending signals waits for signals that the snapshot found,
and nobody else takes them. So inside `stop` something can always go on, and each move
leaves less to do, whatever signals arrive in between.

The loop looks at each termination signal of the list. If a signal stands in the list
twice, the second round finds it in the snapshot and waits for it in vain. If a number is
that of no signal, `sigismember` says so by a value that counts as true, and the loop waits
for a signal of an empty set.
-/

import MavlinkHub.SignalLeftovers
import Mathlib.Data.List.Duplicate

namespace MavlinkHub

/-- How many moves are left at most to the thread in `sigwait`. -/
def SigwaitThread.work : SigwaitThread → Nat
  | .waiting => 2
  | .requesting => 1
  | .none | .exited => 0

/-- How many moves are left to `stop`. -/
def StopPhase.work (terminationSignals : List Signal) : StopPhase → Nat
  | .outside => 0
  | .joining => terminationSignals.length + 3
  | .joined => terminationSignals.length + 2
  | .draining _ remaining => remaining.length + 1

namespace SignalHandler

variable (terminationSignals : List Signal) (handler : SignalHandler)

/-! ### The thread in sigwait -/

/-- What the loop waits for, if the snapshot were taken now, can be taken once, and stands in the
list once. -/
structure Drainable (processPending : PendingSignals) : Prop where
  known : ∀ signal ∈ terminationSignals, signal.Known
  once : ∀ signal ∈ terminationSignals, signal ∈ processPending →
    signal.Settable ∧ terminationSignals.count signal = 1

/-- Who is where: there is a thread from `start` to the `join`, and in `stop` it can be woken; what
the loop has yet to take is pending. -/
structure Staffed : Prop where
  absent : handler.started = false →
    handler.sigwaitThread = .none ∧ handler.stopPhase = .outside
  present : handler.started = true →
    handler.stopPhase = .outside ∨ handler.stopPhase = .joining → handler.sigwaitThread ≠ .none
  woken : handler.stopPhase = .joining → handler.sigwaitThread = .waiting →
    kWakeSignal ∈ handler.threadPending
  joined : handler.stopPhase = .joined → handler.sigwaitThread = .none
  draining : ∀ pending remaining, handler.stopPhase = .draining pending remaining →
    handler.sigwaitThread = .none ∧ ∀ signal ∈ remaining, sigismember pending signal = true →
      signal.Settable ∧ signal ∈ handler.processPending ∧ remaining.count signal = 1

variable {terminationSignals} {handler}

theorem drainable_of_standing {processPending : PendingSignals}
    (known : ∀ signal ∈ terminationSignals, signal.Known)
    (distinct : (terminationSignals.filter (·.Blockable)).Nodup)
    (blockable : ∀ signal ∈ processPending, signal.Blockable) :
    Drainable terminationSignals processPending := by
  refine ⟨known, fun signal member waits => ⟨(blockable signal waits).settable, ?_⟩⟩
  have listed : signal ∈ terminationSignals.filter (·.Blockable) :=
    List.mem_filter.mpr ⟨member, decide_eq_true (blockable signal waits)⟩
  have once := List.count_eq_one_of_mem distinct listed
  refine (List.count_filter ?_).symm.trans once
  exact decide_eq_true (blockable signal waits)

theorem staffed_initial (mask : Finset Signal) (processPending : PendingSignals) :
    (initial mask processPending).Staffed :=
  ⟨fun _ => ⟨rfl, rfl⟩, fun started => (by cases started), fun joining => (by cases joining),
    fun joined => (by cases joined), fun _ _ draining => (by cases draining)⟩

theorem Staffed.start (staffed : handler.Staffed) (outcome : StartOutcome)
    (outside : handler.stopPhase = .outside) :
    (handler.start terminationSignals outcome).Staffed := by
  cases already : handler.started with
  | true =>
    rw [start_of_started already]
    exact staffed
  | false =>
    obtain ⟨none, _⟩ := staffed.absent already
    have unstarted : ∀ {moved : SignalHandler}, moved.started = false →
        moved.sigwaitThread = .none → moved.stopPhase = .outside → moved.Staffed := by
      intro moved stopped gone out
      refine ⟨fun _ => ⟨gone, out⟩, ?_, ?_, ?_, ?_⟩ <;> simp [stopped, out]
    cases outcome with
    | maskFailed => exact staffed
    | threadFailed =>
      rw [SignalHandler.start, if_neg (by simp [already])]
      exact unstarted already none outside
    | started =>
      rw [SignalHandler.start, if_neg (by simp [already])]
      refine ⟨?_, fun _ _ none => (by cases none), ?_, ?_, ?_⟩ <;> simp [outside]

theorem Staffed.of_sigwait (staffed : handler.Staffed) (waiting : handler.sigwaitThread ≠ .none)
    {moved : SignalHandler} (stopPhase : moved.stopPhase = handler.stopPhase)
    (started : moved.started = handler.started) (there : moved.sigwaitThread ≠ .none)
    (gone : moved.sigwaitThread ≠ .waiting) : moved.Staffed := by
  refine ⟨fun stopped => ?_, fun _ _ => there, fun _ waits => absurd waits gone, fun joined => ?_,
    fun pending remaining draining => ?_⟩
  · exact absurd (staffed.absent (started.symm.trans stopped)).1 waiting
  · exact absurd (staffed.joined (stopPhase.symm.trans joined)) waiting
  · exact absurd (staffed.draining _ _ (stopPhase.symm.trans draining)).1 waiting

/-- What `sigwait` returns ends the wait. -/
theorem Staffed.receive (staffed : handler.Staffed) (waiting : handler.sigwaitThread = .waiting)
    (signal : Signal) (processPending : PendingSignals) (threadPending : Finset Signal) :
    ({ handler with processPending, threadPending }.receive signal).Staffed := by
  have there : handler.sigwaitThread ≠ .none := by
    rw [waiting]
    rintro ⟨⟩
  rw [SignalHandler.receive]
  split_ifs
  · refine staffed.of_sigwait there rfl rfl ?_ ?_ <;> rintro ⟨⟩
  · refine staffed.of_sigwait there rfl rfl ?_ ?_ <;> rintro ⟨⟩

theorem Staffed.enterStop (staffed : handler.Staffed) (outside : handler.stopPhase = .outside) :
    (handler.next terminationSignals .enterStop).Staffed := by
  cases already : handler.started with
  | false =>
    rw [next_enterStop_of_not_started already]
    exact staffed
  | true =>
    have there := staffed.present already (.inl outside)
    rw [next, already]
    split_ifs with never exited
    · cases never
    · refine ⟨?_, fun _ _ => there, fun _ waits => ?_, ?_, ?_⟩
      · rintro ⟨⟩
      · rw [show handler.sigwaitThread = .waiting from waits] at exited
        cases exited
      · rintro ⟨⟩
      · rintro _ _ ⟨⟩
    · refine ⟨?_, fun _ _ => there, fun _ _ => Finset.mem_insert_self _ _, ?_, ?_⟩
      · rintro ⟨⟩
      · rintro ⟨⟩
      · rintro _ _ ⟨⟩

/-- A round of the loop leaves pending what the later ones wait for, as its signal is not among
them. -/
theorem Staffed.drain (staffed : handler.Staffed)
    (enabled : handler.Enabled terminationSignals .drain) :
    (handler.next terminationSignals .drain).Staffed := by
  obtain ⟨pending, signal, rest, phase, _, same⟩ := drain_cases enabled
  obtain ⟨none, waits⟩ := staffed.draining _ _ phase
  rw [same]
  refine ⟨fun stopped => ?_, ?_, ?_, ?_, ?_⟩
  · rw [(staffed.absent stopped).2] at phase
    cases phase
  · rintro _ (⟨⟨⟩⟩ | ⟨⟨⟩⟩)
  · rintro ⟨⟩
  · rintro ⟨⟩
  · rintro _ _ ⟨⟩
    refine ⟨none, fun later member found => ?_⟩
    obtain ⟨settable, still, once⟩ := waits later (List.mem_cons_of_mem signal member) found
    have again : 0 < rest.count later := List.count_pos_iff.mpr member
    have other : later ≠ signal := by
      rintro rfl
      rw [List.count_cons_self] at once
      omega
    rw [List.count_cons_of_ne other.symm] at once
    refine ⟨settable, ?_, once⟩
    show later ∈ if sigismember pending signal then handler.processPending.take signal
      else handler.processPending
    split_ifs
    · exact (PendingSignals.mem_take_of_ne other).mpr still
    · exact still

/-- The snapshot finds what the loop can take. -/
theorem Staffed.snapshot (staffed : handler.Staffed)
    (drainable : Drainable terminationSignals handler.processPending)
    (joined : handler.stopPhase = .joined) :
    (handler.next terminationSignals .snapshot).Staffed := by
  refine ⟨fun stopped => ?_, ?_, ?_, ?_, ?_⟩
  · rw [(staffed.absent stopped).2] at joined
    cases joined
  · rintro _ (⟨⟨⟩⟩ | ⟨⟨⟩⟩)
  · rintro ⟨⟩
  · rintro ⟨⟩
  · rintro _ _ ⟨⟩
    refine ⟨staffed.joined joined, fun signal member found => ?_⟩
    have waits : signal ∈ handler.processPending :=
      PendingSignals.mem_sigpending.mp
        ((sigismember_iff.mp found).resolve_left (not_not.mpr (drainable.known signal member)))
    obtain ⟨settable, once⟩ := drainable.once signal member waits
    exact ⟨settable, waits, once⟩

/-- Every event keeps the thread where it is needed, if the loop can take what is pending. -/
theorem Staffed.next (event : Event) (staffed : handler.Staffed)
    (drainable : Drainable terminationSignals handler.processPending)
    (enabled : handler.Enabled terminationSignals event) :
    (handler.next terminationSignals event).Staffed := by
  cases event with
  | start outcome => exact staffed.start outcome enabled
  | deliver signal =>
    refine ⟨staffed.absent, staffed.present, staffed.woken, staffed.joined,
      fun pending remaining draining => ?_⟩
    obtain ⟨none, waits⟩ := staffed.draining pending remaining draining
    exact ⟨none, fun later member found =>
      (waits later member found).imp_right (And.imp_left PendingSignals.mem_send_of_mem)⟩
  | takeProcess signal => exact staffed.receive enabled.1 signal _ _
  | takeThread signal => exact staffed.receive enabled.1 signal _ _
  | finishRequest =>
    have there : handler.sigwaitThread ≠ .none := by
      rw [show handler.sigwaitThread = .requesting from enabled]
      rintro ⟨⟩
    refine staffed.of_sigwait there rfl rfl ?_ ?_ <;> rintro ⟨⟩
  | enterStop => exact staffed.enterStop enabled
  | join =>
    refine ⟨fun stopped => ?_, ?_, ?_, fun _ => rfl, ?_⟩
    · have contrary := enabled.1
      rw [(staffed.absent stopped).2] at contrary
      cases contrary
    · rintro _ (⟨⟨⟩⟩ | ⟨⟨⟩⟩)
    · rintro ⟨⟩
    · rintro _ _ ⟨⟩
  | snapshot => exact staffed.snapshot drainable enabled
  | drain => exact staffed.drain enabled
  | restore =>
    obtain ⟨pending, phase⟩ := restore_cases enabled
    refine ⟨fun _ => ⟨(staffed.draining _ _ phase).1, rfl⟩, ?_, ?_, ?_, ?_⟩
    · rintro ⟨⟩
    · rintro ⟨⟩
    · rintro ⟨⟩
    · rintro _ _ ⟨⟩

/-- Only signals that can be blocked come to be pending. -/
theorem blockable_next (event : Event) (blockable : ∀ signal ∈ handler.processPending,
    signal.Blockable) (enabled : handler.Enabled terminationSignals event) :
    ∀ signal ∈ (handler.next terminationSignals event).processPending, signal.Blockable := by
  cases event with
  | start outcome => rwa [SignalHandler.next, start_processPending]
  | deliver sent =>
    intro signal waits
    rcases PendingSignals.mem_send.mp waits with rfl | before
    · exact enabled.1
    · exact blockable signal before
  | takeProcess taken =>
    rw [SignalHandler.next, receive_processPending]
    exact fun signal waits => blockable signal (PendingSignals.mem_of_mem_take waits)
  | takeThread taken => rwa [SignalHandler.next, receive_processPending]
  | finishRequest => exact blockable
  | enterStop =>
    cases started : handler.started with
    | false => rwa [next_enterStop_of_not_started started]
    | true =>
      obtain ⟨threadPending, same⟩ := next_enterStop_of_started terminationSignals started
      rwa [same]
  | join => exact blockable
  | snapshot => exact blockable
  | drain =>
    obtain ⟨pending, taken, rest, _, _, same⟩ := drain_cases enabled
    rw [same]
    intro signal waits
    have left : signal ∈ if sigismember pending taken then handler.processPending.take taken
      else handler.processPending := waits
    split_ifs at left
    · exact blockable signal (PendingSignals.mem_of_mem_take left)
    · exact blockable signal left
  | restore => exact fun signal waits => blockable signal (PendingSignals.mem_within.mp waits).1

theorem Staffed.run {allowed : SignalHandler → Event → Prop} {first : SignalHandler}
    {events : List Event} (known : ∀ signal ∈ terminationSignals, signal.Known)
    (distinct : (terminationSignals.filter (·.Blockable)).Nodup) (staffed : first.Staffed)
    (blockable : ∀ signal ∈ first.processPending, signal.Blockable)
    (run : (machine terminationSignals).Runs allowed first events handler) : handler.Staffed := by
  refine (Machine.Runs.invariant
    (fun state => state.Staffed ∧ ∀ signal ∈ state.processPending, signal.Blockable) ?_ run
    ⟨staffed, blockable⟩).1
  rintro state event ⟨staffed, blockable⟩ enabled _
  exact ⟨staffed.next event (drainable_of_standing known distinct blockable) enabled,
    blockable_next event blockable enabled⟩

/-! ### Going on -/

/-- A move of the thread in `sigwait`, or of `stop` behind its entry. -/
def Event.own : Event → Bool
  | .takeProcess _ | .takeThread _ | .finishRequest | .join | .snapshot | .drain | .restore => true
  | .start _ | .deliver _ | .enterStop => false

/-- Some move is possible that waits for nobody outside. -/
def GoesOn (terminationSignals : List Signal) (handler : SignalHandler) : Prop :=
  ∃ event, event.own = true ∧ handler.Enabled terminationSignals event

/-- Inside of `stop` there is always a next move. -/
theorem Staffed.goesOn (staffed : handler.Staffed) (inStop : handler.stopPhase ≠ .outside) :
    handler.GoesOn terminationSignals := by
  have started : handler.started = true := by
    by_contra stopped
    exact inStop (staffed.absent (Bool.eq_false_iff.mpr stopped)).2
  cases phase : handler.stopPhase with
  | outside => exact absurd phase inStop
  | joining =>
    cases thread : handler.sigwaitThread with
    | none => exact absurd thread (staffed.present started (.inr phase))
    | waiting =>
      exact ⟨.takeThread kWakeSignal, rfl, thread, Finset.mem_insert_self _ _,
        staffed.woken phase thread⟩
    | requesting => exact ⟨.finishRequest, rfl, thread⟩
    | exited => exact ⟨.join, rfl, phase, thread⟩
  | joined => exact ⟨.snapshot, rfl, phase⟩
  | draining pending remaining =>
    cases remaining with
    | nil => exact ⟨.restore, rfl, by rw [Enabled, phase]; rfl⟩
    | cons signal rest =>
      refine ⟨.drain, rfl, ?_⟩
      have waits := (staffed.draining _ _ phase).2 signal List.mem_cons_self
      rw [Enabled, phase]
      cases found : sigismember pending signal with
      | false => simp only [StopPhase.roundEnds, found, Bool.not_false, Bool.true_or]
      | true =>
        obtain ⟨settable, still, _⟩ := waits found
        have added : signal ∈ sigaddset ∅ signal := mem_sigaddset.mpr (.inl ⟨rfl, settable⟩)
        simp only [StopPhase.roundEnds, added, still, decide_true, Bool.and_true, Bool.or_true]

/-- How many moves are left. -/
def work (terminationSignals : List Signal) (handler : SignalHandler) : Nat :=
  handler.sigwaitThread.work + handler.stopPhase.work terminationSignals

theorem receive_work (waiting : handler.sigwaitThread = .waiting) (signal : Signal)
    (processPending : PendingSignals) (threadPending : Finset Signal) :
    ({ handler with processPending, threadPending }.receive signal).work terminationSignals + 1 ≤
      handler.work terminationSignals := by
  rw [receive]
  split_ifs <;> simp only [work, SigwaitThread.work, waiting] <;> omega

/-- Each move leaves less to do, and the signals that arrive leave as much. -/
theorem work_next (event : Event) (enabled : handler.Enabled terminationSignals event)
    (inside : ¬event.BeginsCall) :
    (handler.next terminationSignals event).work terminationSignals +
        (if event.own then 1 else 0) ≤ handler.work terminationSignals := by
  cases event with
  | start outcome => exact absurd trivial inside
  | enterStop => exact absurd trivial inside
  | deliver signal => exact le_refl _
  | takeProcess signal => exact receive_work enabled.1 signal _ _
  | takeThread signal => exact receive_work enabled.1 signal _ _
  | finishRequest =>
    have requesting : handler.sigwaitThread = .requesting := enabled
    simp only [next, work, SigwaitThread.work, requesting, Event.own, if_true]
    omega
  | join =>
    obtain ⟨joining, exited⟩ := enabled
    simp only [next, work, SigwaitThread.work, StopPhase.work, joining, exited, Event.own, if_true]
    omega
  | snapshot =>
    have joined : handler.stopPhase = .joined := enabled
    simp only [next, work, StopPhase.work, joined, Event.own, if_true]
    omega
  | drain =>
    obtain ⟨pending, signal, rest, phase, _, same⟩ := drain_cases enabled
    rw [same]
    simp only [work, StopPhase.work, phase, List.length_cons, Event.own, if_true]
    omega
  | restore =>
    obtain ⟨pending, phase⟩ := restore_cases enabled
    simp only [next, work, StopPhase.work, phase, List.length_nil, Event.own, if_true]
    omega

/-! ### Lists for which the loop gets stuck -/

/-- The calling thread is in the loop after a run, where it stays. -/
def GetsStuck (terminationSignals : List Signal) (handler : SignalHandler) : Prop :=
  ∃ events last, (machine terminationSignals).Runs (fun _ _ => True) handler events last ∧
    last.stopPhase ≠ .outside ∧ ¬last.GoesOn terminationSignals

theorem GetsStuck.of_next (event : Event) (enabled : handler.Enabled terminationSignals event)
    (rest : (handler.next terminationSignals event).GetsStuck terminationSignals) :
    handler.GetsStuck terminationSignals := by
  obtain ⟨events, last, run, inStop, halted⟩ := rest
  exact ⟨event :: events, last, .next ⟨enabled, trivial, rfl⟩ run, inStop, halted⟩

end SignalHandler

end MavlinkHub
