/-
This file puts the signal handler into its process, with all of its threads. A signal that
is sent to the process is delivered to a thread that does not block it, if there is one;
there a handler of some library runs, or the process dies. Only if all threads block it, it
stays pending for the thread in `sigwait`.

A new thread has the mask of the thread that creates it. So `start` shields the threads
that are created afterwards by the calling thread, and all that descend from them. It does
not shield the ones that are there already: the libraries of the config are loaded, and the
agents of the startup plan are started, before `start` is called.

A thread of a library can change its own mask. Nothing in the hub prevents that, and the
results are about the runs in which it does not happen, and about the signals that can be
blocked at all.
-/

import MavlinkHub.Library.Lineage
import MavlinkHub.SignalMask

namespace MavlinkHub

/-- What is known of a thread that the calling thread of the handler has created. -/
inductive Creation
  | unguarded
  /-- Between `start` and the end of `stop`. -/
  | guarded
  deriving DecidableEq

/-- The signal handler and its calling thread, and the masks of the threads of other code. -/
structure SignalReach (Thread : Type) where
  handler : SignalHandler
  threads : Lineage Thread Creation (Finset Signal)

namespace SignalReach

variable {Thread : Type}

/-- What happens in the process. No thread but the calling one is a party without a name. -/
inductive Event (Thread : Type)
  | handler (event : SignalHandler.Event)
  /-- The calling thread, or another one, creates a thread. -/
  | create (child : Thread)
  | createFrom (parent child : Thread)
  | exit (thread : Thread)
  /-- Another thread sets its own mask. -/
  | changeMask (thread : Thread) (mask : Finset Signal)
  /-- A signal that is sent to the process is delivered to a thread that does not block it, the
  calling thread or another one. -/
  | strikeCaller (signal : Signal)
  | strike (thread : Thread) (signal : Signal)
  deriving DecidableEq

variable (terminationSignals : List Signal) (process : SignalReach Thread)

/-- Every other thread blocks a signal. -/
def Blocked (signal : Signal) : Prop :=
  ∀ thread mask, process.threads.trait thread = some mask → signal ∈ mask

/-- When an event can happen. -/
def Enabled : Event Thread → Prop
  | .handler (.deliver signal) =>
    process.handler.Enabled terminationSignals (.deliver signal) ∧ process.Blocked signal
  | .handler event => process.handler.Enabled terminationSignals event
  | .create child => process.handler.stopPhase = .outside ∧ process.threads.trait child = none
  | .createFrom parent child =>
    (process.threads.trait parent).isSome ∧ process.threads.trait child = none
  | .exit thread | .changeMask thread _ => (process.threads.trait thread).isSome
  | .strikeCaller signal => signal ∉ process.handler.mask
  | .strike thread signal => ∃ mask, process.threads.trait thread = some mask ∧ signal ∉ mask

variable [DecidableEq Thread]

/-- How the calling thread creates a thread. -/
def creation : Creation := if process.handler.started then .guarded else .unguarded

/-- What an event leads to. -/
def next : Event Thread → SignalReach Thread
  | .handler event => { process with handler := process.handler.next terminationSignals event }
  | .create child =>
    { process with threads := process.threads.found process.creation process.handler.mask child }
  | .createFrom parent child => { process with threads := process.threads.bear parent child }
  | .exit thread => { process with threads := process.threads.die thread }
  | .changeMask thread mask => { process with threads := process.threads.alter thread mask }
  -- What the struck thread does is its own business.
  | .strikeCaller _ | .strike _ _ => process

/-- The process with the signal handler of a list of termination signals. -/
def machine : Machine (SignalReach Thread) (Event Thread) where
  enabled := Enabled terminationSignals
  next process event := process.next terminationSignals event

/-- A process before its handler is started, with the masks of the threads that are there. -/
def initial (mask : Finset Signal) (processPending : PendingSignals)
    (older : Thread → Option (Finset Signal)) : SignalReach Thread where
  handler := .initial mask processPending
  threads := { trait := older }

/-- No thread changes its mask by the event, but for what the handler does to the mask of the
calling thread. -/
def Event.KeepsMasks : Event Thread → Prop
  | .changeMask _ _ => False
  | _ => True

/-! ### What the masks are -/

/-- The mask that a thread gets from the calling thread. -/
def maskGiven (mask : Finset Signal) : Creation → Finset Signal
  | .unguarded => mask
  | .guarded => sigBlock mask (SignalHandler.awaitSet terminationSignals)

/-- The masks are those of the beginnings of all threads. -/
structure Masked (mask : Finset Signal) (older : Thread → Option (Finset Signal))
    (process : SignalReach Thread) : Prop where
  handler : process.handler.Saved terminationSignals mask
  threads : process.threads.Inherits older (maskGiven terminationSignals mask)

variable {terminationSignals} {process} {mask : Finset Signal} {processPending : PendingSignals}
  {older : Thread → Option (Finset Signal)} {events : List (Event Thread)} {signal : Signal}

omit [DecidableEq Thread] in
theorem Masked.mask_eq (masked : process.Masked terminationSignals mask older) :
    process.handler.mask = maskGiven terminationSignals mask process.creation := by
  rw [masked.handler.live, creation]
  cases process.handler.started <;> rfl

omit [DecidableEq Thread] in
theorem handlerEnabled_of_enabled {event : SignalHandler.Event}
    (enabled : process.Enabled terminationSignals (.handler event)) :
    process.handler.Enabled terminationSignals event := by
  cases event with
  | deliver signal => exact enabled.1
  | _ => exact enabled

theorem masked_next (event : Event Thread) (masked : process.Masked terminationSignals mask older)
    (enabled : process.Enabled terminationSignals event) (keeps : event.KeepsMasks) :
    (process.next terminationSignals event).Masked terminationSignals mask older := by
  cases event with
  | handler event =>
    exact ⟨SignalHandler.saved_next event masked.handler (handlerEnabled_of_enabled enabled),
      masked.threads⟩
  | create child =>
    refine ⟨masked.handler, ?_⟩
    rw [next, masked.mask_eq]
    exact masked.threads.found process.creation child
  | createFrom parent child => exact ⟨masked.handler, masked.threads.bear parent child⟩
  | exit thread => exact ⟨masked.handler, masked.threads.die thread⟩
  | changeMask thread changed => exact keeps.elim
  | strikeCaller signal => exact masked
  | strike thread signal => exact masked

theorem masked_run
    (run : (machine terminationSignals).Runs (fun _ event => event.KeepsMasks)
      (initial mask processPending older) events process) :
    process.Masked terminationSignals mask older :=
  run.invariant (Masked terminationSignals mask older)
    (fun _ event masked enabled keeps => masked_next event masked enabled keeps)
    ⟨SignalHandler.saved_initial mask processPending, Lineage.inherits_first older _⟩

/-! ### Which threads are struck -/

/-- The threads of a line do not block a signal. -/
def Unshielded (mask : Finset Signal) (older : Thread → Option (Finset Signal))
    (signal : Signal) : Beginning Thread Creation → Prop
  | .first thread => ∃ blocked, older thread = some blocked ∧ signal ∉ blocked
  | .founder creation => creation = .unguarded ∧ signal ∉ mask

omit [DecidableEq Thread] in
theorem unshielded_iff (awaited : signal ∈ SignalHandler.awaitSet terminationSignals)
    (blockable : signal.Blockable) {beginning : Beginning Thread Creation} {blocked : Finset Signal}
    (begins : Lineage.traitAt older (maskGiven terminationSignals mask) beginning =
      some blocked) : Unshielded mask older signal beginning ↔ signal ∉ blocked := by
  cases beginning with
  | first thread =>
    constructor
    · rintro ⟨other, found, unblocked⟩
      rwa [← Option.some.inj (found.symm.trans begins)]
    · exact fun unblocked => ⟨blocked, begins, unblocked⟩
  | founder creation =>
    have given := Option.some.inj begins
    cases creation with
    | unguarded =>
      rw [← show mask = blocked from given]
      exact ⟨And.right, And.intro rfl⟩
    | guarded =>
      rw [← show sigBlock mask (SignalHandler.awaitSet terminationSignals) = blocked from given]
      refine iff_of_false (fun unshielded => ?_) fun unblocked => ?_
      · cases unshielded.1
      · exact unblocked (mem_sigBlock_of_mem awaited blockable)

/-- All threads block a signal, and the handler is started. -/
structure Shielded (terminationSignals : List Signal) (signal : Signal)
    (process : SignalReach Thread) : Prop where
  handler : ∃ mask, process.handler.Saved terminationSignals mask
  started : process.handler.started = true
  blocked : process.Blocked signal

/-- An event by which a signal strikes a thread. -/
def Event.Strikes (signal : Signal) : Event Thread → Prop
  | .strikeCaller other | .strike _ other => other = signal
  | _ => False

omit [DecidableEq Thread] in
theorem Shielded.caller (shielded : process.Shielded terminationSignals signal)
    (awaited : signal ∈ SignalHandler.awaitSet terminationSignals)
    (blockable : signal.Blockable) : signal ∈ process.handler.mask := by
  obtain ⟨mask, saved⟩ := shielded.handler
  rw [saved.live, shielded.started, if_pos rfl]
  exact mem_sigBlock_of_mem awaited blockable

theorem Blocked.settle {threads : Lineage Thread Creation (Finset Signal)}
    {handler : SignalHandler} (blocked : ({ handler, threads } : SignalReach Thread).Blocked signal)
    {child : Thread} {trait : Option (Finset Signal)} {beginning : Beginning Thread Creation}
    (blocks : ∀ mask, trait = some mask → signal ∈ mask) :
    ({ handler, threads := threads.settle child trait beginning } : SignalReach Thread).Blocked
      signal := by
  intro thread mask living
  by_cases same : thread = child
  · subst same
    exact blocks mask (Lineage.trait_settle_self.symm.trans living)
  · exact blocked thread mask ((Lineage.trait_settle_of_ne same).symm.trans living)

/-- As long as the mask is not restored, the handler stays started. -/
theorem started_next {handler : SignalHandler} (started : handler.started = true)
    {event : SignalHandler.Event} (enabled : handler.Enabled terminationSignals event)
    (other : event ≠ .restore) :
    (handler.next terminationSignals event).started = true := by
  by_cases begins : event.BeginsCall
  · cases event with
    | start outcome =>
      rw [show handler.next terminationSignals (.start outcome) =
        handler.start terminationSignals outcome from rfl,
        SignalHandler.start_of_started started]
      exact started
    | enterStop =>
      obtain ⟨_, same⟩ := SignalHandler.next_enterStop_of_started terminationSignals started
      rw [same]
      exact started
    | _ => exact begins.elim
  · rcases SignalHandler.keeps_or_restore event enabled begins with keeps | ⟨restores, _⟩
    · exact keeps.started.trans started
    · exact absurd restores other

/-- Where all threads block a signal, it strikes none, and all threads go on to block it. -/
theorem Shielded.next (shielded : process.Shielded terminationSignals signal)
    (awaited : signal ∈ SignalHandler.awaitSet terminationSignals) (blockable : signal.Blockable)
    (event : Event Thread) (enabled : process.Enabled terminationSignals event)
    (other : event ≠ .handler .restore) (keeps : event.KeepsMasks) :
    (process.next terminationSignals event).Shielded terminationSignals signal ∧
      ¬event.Strikes signal := by
  obtain ⟨mask, saved⟩ := shielded.handler
  have caller := shielded.caller awaited blockable
  have blocked := shielded.blocked
  cases event with
  | handler event =>
    have enabledHandler := handlerEnabled_of_enabled enabled
    exact ⟨⟨⟨mask, SignalHandler.saved_next event saved enabledHandler⟩,
      started_next shielded.started enabledHandler fun same => other (congrArg Event.handler same),
      blocked⟩, id⟩
  | create child =>
    refine ⟨⟨⟨mask, saved⟩, shielded.started, blocked.settle fun given same => ?_⟩, id⟩
    rwa [← Option.some.inj same]
  | createFrom parent child =>
    exact ⟨⟨⟨mask, saved⟩, shielded.started, blocked.settle (blocked parent)⟩, id⟩
  | exit thread =>
    exact ⟨⟨⟨mask, saved⟩, shielded.started, blocked.settle fun _ living => (by cases living)⟩, id⟩
  | changeMask thread changed => exact keeps.elim
  | strikeCaller struck =>
    refine ⟨shielded, ?_⟩
    rintro rfl
    exact enabled caller
  | strike thread struck =>
    refine ⟨shielded, ?_⟩
    rintro rfl
    obtain ⟨threadMask, living, unblocked⟩ := enabled
    exact unblocked (blocked thread threadMask living)

theorem Shielded.run (shielded : process.Shielded terminationSignals signal)
    (awaited : signal ∈ SignalHandler.awaitSet terminationSignals) (blockable : signal.Blockable)
    {later : SignalReach Thread}
    (run : (machine terminationSignals).Runs
      (fun _ event => event ≠ .handler .restore ∧ event.KeepsMasks) process events later) :
    ∀ event ∈ events, ¬event.Strikes signal := by
  induction run with
  | done state => exact fun _ member => absurd member List.not_mem_nil
  | @next first middle last event rest head _ inductionHypothesis =>
    obtain ⟨enabled, ⟨other, keeps⟩, rfl⟩ := head
    obtain ⟨still, spared⟩ := shielded.next awaited blockable event enabled other keeps
    rw [List.forall_mem_cons]
    exact ⟨spared, inductionHypothesis still⟩

end SignalReach

/-- As long as the other threads keep their masks, an awaited signal that can be blocked can strike
the calling thread only while the handler is not started, and another thread exactly if the
thread's line begins with one that was there before and does not block the signal, or with one
that the calling thread created while the handler was not started. While the handler is started,
until the mask is restored, the signal strikes somebody in some run if and only if a thread that
does not block it lives already. -/
theorem awaitedSignal_strikes_iff {Thread : Type} [DecidableEq Thread]
    {terminationSignals : List Signal} {mask : Finset Signal} {processPending : PendingSignals}
    {older : Thread → Option (Finset Signal)} {events : List (SignalReach.Event Thread)}
    {process : SignalReach Thread} {signal : Signal}
    (run : (SignalReach.machine terminationSignals).Runs (fun _ event => event.KeepsMasks)
      (SignalReach.initial mask processPending older) events process)
    (awaited : signal ∈ SignalHandler.awaitSet terminationSignals)
    (blockable : signal.Blockable) :
    (process.Enabled terminationSignals (.strikeCaller signal) ↔
      process.handler.started = false ∧ signal ∉ mask) ∧
    (∀ thread, process.Enabled terminationSignals (.strike thread signal) ↔
      (process.threads.trait thread).isSome ∧
        SignalReach.Unshielded mask older signal (process.threads.beginning thread)) ∧
    (process.handler.started = true →
      ((∃ others later, (SignalReach.machine terminationSignals).Runs
          (fun _ event => event ≠ .handler .restore ∧ event.KeepsMasks) process others later ∧
          ∃ event ∈ others, event.Strikes signal) ↔
        ∃ thread, process.Enabled terminationSignals (.strike thread signal))) := by
  have masked := SignalReach.masked_run run
  refine ⟨?_, fun thread => ?_, fun started => ?_⟩
  · rw [SignalReach.Enabled, masked.handler.live]
    cases process.handler.started with
    | false => exact ⟨And.intro rfl, And.right⟩
    | true =>
      refine iff_of_false (not_not.mpr (mem_sigBlock_of_mem awaited blockable)) fun stopped => ?_
      cases stopped.1
  · cases living : process.threads.trait thread with
    | none =>
      refine iff_of_false ?_ fun lives => by cases lives.1
      rintro ⟨blocked, found, _⟩
      rw [living] at found
      cases found
    | some blocked =>
      have begins := masked.threads thread blocked living
      rw [SignalReach.unshielded_iff awaited blockable begins]
      constructor
      · rintro ⟨other, found, unblocked⟩
        rw [living] at found
        cases found
        exact ⟨rfl, unblocked⟩
      · exact fun unblocked => ⟨blocked, living, unblocked.2⟩
  · constructor
    · rintro ⟨others, later, rest, event, member, strikes⟩
      by_contra spared
      refine SignalReach.Shielded.run ⟨⟨mask, masked.handler⟩, started, ?_⟩ awaited blockable rest
        event member strikes
      intro thread blocked living
      by_contra unblocked
      exact spared ⟨thread, blocked, living, unblocked⟩
    · rintro ⟨thread, enabled⟩
      exact ⟨[.strike thread signal], process, .single ⟨enabled, ⟨nofun, trivial⟩, rfl⟩, _,
        List.mem_singleton_self _, rfl⟩

/-- An agent of the startup plan has a thread of its own, and then the handler is started. -/
theorem awaitedSignal_strikes_iff_sample :
    let process : SignalReach Nat :=
      ((SignalReach.initial ∅ ∅ fun _ => none).next [2, 15] (.create 0)).next [2, 15]
        (.handler (.start .started))
    process.Enabled [2, 15] (.strike 0 2) := by
  intro process
  have run : (SignalReach.machine [2, 15]).Runs (fun _ event => event.KeepsMasks)
      (SignalReach.initial ∅ ∅ fun _ : Nat => none) [.create 0, .handler (.start .started)]
      process :=
    .next ⟨⟨rfl, rfl⟩, trivial, rfl⟩ (.single ⟨rfl, trivial, rfl⟩)
  exact ((awaitedSignal_strikes_iff run (by decide) (by decide)).2.1 0).mpr ⟨rfl, rfl, by decide⟩

end MavlinkHub
