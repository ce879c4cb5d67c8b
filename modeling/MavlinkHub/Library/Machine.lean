/-
This file is a library of machines: systems of threads whose next move is one of finitely
or infinitely many events. An event is enabled in some states and then leads to one state,
so the freedom of a machine lies in which enabled event comes next. A run may in addition
be restricted to events that are allowed in the state in which they happen, which is how
a statement speaks about the runs in which something does not occur.
-/

import MavlinkHub.Library.Transition

/-- A system that moves by events: which are enabled in a state, and what they lead to. -/
structure Machine (State Event : Type*) where
  enabled : State → Event → Prop
  next : State → Event → State

namespace Machine

open Transition

variable {State Event : Type*} (machine : Machine State Event)
  {allowed : State → Event → Prop} {first middle last : State} {events others : List Event}

/-- One move of the machine, by an event that is allowed where it happens. -/
def Step (allowed : State → Event → Prop) (state : State) (event : Event) (after : State) : Prop :=
  machine.enabled state event ∧ allowed state event ∧ after = machine.next state event

/-- A run of allowed moves. -/
abbrev Runs (allowed : State → Event → Prop) (first : State) (events : List Event)
    (last : State) : Prop :=
  Run (machine.Step allowed) first events last

variable {machine}

/-- An invariant that every allowed move keeps holds after every run of allowed moves. -/
theorem Runs.invariant (holds : State → Prop)
    (kept : ∀ state event, holds state → machine.enabled state event → allowed state event →
      holds (machine.next state event))
    (run : machine.Runs allowed first events last) (start : holds first) : holds last := by
  refine Run.invariant holds (fun before event after held step => ?_) run start
  obtain ⟨enabled, permitted, rfl⟩ := step
  exact kept before event held enabled permitted

/-- Where each of some kind of moves does some work, and the moves of another kind add at most a
fixed amount each, the moves of the first kind are bounded by the work at the start and by what the
others have added. -/
theorem Runs.countP_add_work_le_gain (holds : State → Prop) (work : State → Nat)
    (works adds : Event → Bool) (gain : Nat)
    (kept : ∀ state event, holds state → machine.enabled state event → allowed state event →
      holds (machine.next state event) ∧
        work (machine.next state event) + (if works event then 1 else 0) ≤
          work state + (if adds event then gain else 0))
    (run : machine.Runs allowed first events last) (start : holds first) :
    events.countP works + work last ≤ work first + gain * events.countP adds := by
  induction run with
  | done state => simp only [List.countP_nil, Nat.zero_add, Nat.mul_zero, Nat.add_zero, Nat.le_refl]
  | @next first middle last event rest head _ inductionHypothesis =>
    obtain ⟨enabled, permitted, rfl⟩ := head
    obtain ⟨held, less⟩ := kept first event start enabled permitted
    have behind := inductionHypothesis held
    rw [List.countP_cons, List.countP_cons, Nat.mul_add]
    split_ifs at less ⊢ <;> omega

variable (machine)

variable [∀ state event, Decidable (machine.enabled state event)]

/-- Play a list of events; `none` if one of them is not enabled or not allowed. -/
def play (allowed : State → Event → Prop) [∀ state event, Decidable (allowed state event)] :
    State → List Event → Option State
  | state, [] => some state
  | state, event :: rest =>
    if machine.enabled state event ∧ allowed state event then
      play allowed (machine.next state event) rest
    else none

variable {machine}

theorem runs_of_play [∀ state event, Decidable (allowed state event)]
    (played : machine.play allowed first events = some last) :
    machine.Runs allowed first events last := by
  induction events generalizing first with
  | nil =>
    cases played
    exact .done _
  | cons event rest inductionHypothesis =>
    rw [play] at played
    split_ifs at played with possible
    exact .next ⟨possible.1, possible.2, rfl⟩ (inductionHypothesis played)

end Machine
