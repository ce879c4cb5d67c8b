/-
This file models the signals of the operating system: which numbers the functions on signal
sets accept, which signals a thread can block, and how signals are pending. A standard
signal that is already pending is not noted twice. The real-time signals queue, so that
each of them is pending as often as it was sent.
-/

import Mathlib.Data.Finset.Basic
import Mathlib.Data.Finset.Insert
import Mathlib.Data.Multiset.Count
import Mathlib.Data.Multiset.Filter
import Mathlib.Data.Multiset.FinsetOps

namespace MavlinkHub

/-- A signal number. -/
abbrev Signal := Int

namespace Signal

variable (signal : Signal)

/-- The signals are numbered from 1 to 64. -/
def Known : Prop := 1 ≤ signal ∧ signal ≤ 64

/-- `sigaddset` accepts the signal. It refuses 32 and 33, which the thread library keeps for
itself. -/
def Settable : Prop := signal.Known ∧ signal ≠ 32 ∧ signal ≠ 33

/-- A thread can block the signal. `SIGKILL` and `SIGSTOP` are never blocked. -/
def Blockable : Prop := signal.Settable ∧ signal ≠ 9 ∧ signal ≠ 19

/-- The signal is a real-time signal. -/
def Queues : Prop := 34 ≤ signal

instance : Decidable signal.Known := inferInstanceAs (Decidable (_ ∧ _))

instance : Decidable signal.Settable := inferInstanceAs (Decidable (_ ∧ _))

instance : Decidable signal.Blockable := inferInstanceAs (Decidable (_ ∧ _))

instance : Decidable signal.Queues := inferInstanceAs (Decidable (_ ≤ _))

variable {signal}

theorem Blockable.settable (blockable : signal.Blockable) : signal.Settable := blockable.1

end Signal

/-! ### Signal sets -/

/-- `sigaddset`, which leaves the set as it is if it does not accept the signal. -/
def sigaddset (set : Finset Signal) (signal : Signal) : Finset Signal :=
  if signal.Settable then insert signal set else set

/-- `sigismember` as a condition. It returns -1 for what is no signal, and that counts as true. -/
def sigismember (set : Finset Signal) (signal : Signal) : Bool :=
  ¬signal.Known ∨ signal ∈ set

/-- The mask that `pthread_sigmask(SIG_BLOCK)` sets. -/
def sigBlock (mask set : Finset Signal) : Finset Signal :=
  mask ∪ set.filter Signal.Blockable

variable {mask set : Finset Signal} {signal other : Signal}

theorem mem_sigaddset : other ∈ sigaddset set signal ↔
    (other = signal ∧ signal.Settable) ∨ other ∈ set := by
  rw [sigaddset]
  split_ifs with settable
  · rw [Finset.mem_insert, and_iff_left settable]
  · rw [or_iff_right fun same => settable same.2]

theorem mem_foldl_sigaddset {signals : List Signal} : other ∈ signals.foldl sigaddset set ↔
    other ∈ set ∨ other ∈ signals ∧ other.Settable := by
  induction signals generalizing set with
  | nil => simp only [List.foldl_nil, List.not_mem_nil, false_and, or_false]
  | cons signal rest inductionHypothesis =>
    rw [List.foldl_cons, inductionHypothesis, mem_sigaddset, List.mem_cons]
    constructor
    · rintro ((⟨rfl, settable⟩ | before) | ⟨later, settable⟩)
      · exact .inr ⟨.inl rfl, settable⟩
      · exact .inl before
      · exact .inr ⟨.inr later, settable⟩
    · rintro (before | ⟨rfl | later, settable⟩)
      · exact .inl (.inr before)
      · exact .inl (.inl ⟨rfl, settable⟩)
      · exact .inr ⟨later, settable⟩

theorem sigismember_iff : sigismember set signal = true ↔ ¬signal.Known ∨ signal ∈ set :=
  decide_eq_true_iff

theorem mem_sigBlock : signal ∈ sigBlock mask set ↔
    signal ∈ mask ∨ signal ∈ set ∧ signal.Blockable := by
  rw [sigBlock, Finset.mem_union, Finset.mem_filter]

theorem mem_sigBlock_of_mem (member : signal ∈ set) (blockable : signal.Blockable) :
    signal ∈ sigBlock mask set :=
  mem_sigBlock.mpr (.inr ⟨member, blockable⟩)

/-! ### Pending signals -/

/-- Signals that are pending. Of a signal that does not queue there is one at most. -/
@[ext]
structure PendingSignals where
  signals : Multiset Signal
  once : ∀ signal : Signal, ¬signal.Queues → signals.count signal ≤ 1

namespace PendingSignals

instance : EmptyCollection PendingSignals where
  emptyCollection := ⟨∅, fun _ _ => Nat.zero_le 1⟩

instance : Membership Signal PendingSignals where
  mem pending signal := signal ∈ pending.signals

variable (pending : PendingSignals)

/-- How often a signal is pending. -/
def count (signal : Signal) : Nat := pending.signals.count signal

/-- `sigpending`. -/
def sigpending : Finset Signal := pending.signals.toFinset

/-- A signal is sent. -/
def send (signal : Signal) : PendingSignals where
  signals :=
    if signal.Queues then signal ::ₘ pending.signals else pending.signals.ndinsert signal
  once other standard := by
    split_ifs with queues
    · have different : other ≠ signal := by
        rintro rfl
        exact standard queues
      rw [Multiset.count_cons_of_ne different]
      exact pending.once other standard
    · by_cases present : signal ∈ pending.signals
      · rw [Multiset.ndinsert_of_mem present]
        exact pending.once other standard
      · rw [Multiset.ndinsert_of_notMem present, Multiset.count_cons]
        split_ifs with same
        · rw [same, Multiset.count_eq_zero.mpr present]
        · exact pending.once other standard

/-- One instance of a signal is taken. -/
def take (signal : Signal) : PendingSignals where
  signals := pending.signals.erase signal
  once other standard :=
    (Multiset.count_le_of_le other (Multiset.erase_le ..)).trans (pending.once other standard)

/-- Those that a mask blocks. -/
def within (mask : Finset Signal) : PendingSignals where
  signals := pending.signals.filter (· ∈ mask)
  once other standard :=
    (Multiset.count_le_of_le other (Multiset.filter_le ..)).trans (pending.once other standard)

instance : Decidable (signal ∈ pending) :=
  inferInstanceAs (Decidable (signal ∈ pending.signals))

variable {pending}

theorem mem_sigpending : signal ∈ pending.sigpending ↔ signal ∈ pending :=
  Multiset.mem_toFinset

theorem mem_iff_count : signal ∈ pending ↔ 0 < pending.count signal :=
  Multiset.count_pos.symm

theorem mem_send : other ∈ pending.send signal ↔ other = signal ∨ other ∈ pending := by
  show other ∈ (if signal.Queues then signal ::ₘ pending.signals
    else pending.signals.ndinsert signal) ↔ _
  split_ifs
  · exact Multiset.mem_cons
  · exact Multiset.mem_ndinsert

theorem notMem_empty (signal : Signal) : signal ∉ (∅ : PendingSignals) :=
  Multiset.notMem_zero signal

theorem mem_send_of_mem (member : other ∈ pending) : other ∈ pending.send signal :=
  mem_send.mpr (.inr member)

theorem mem_of_mem_take (member : other ∈ pending.take signal) : other ∈ pending :=
  Multiset.mem_of_mem_erase member

theorem mem_take_of_ne (different : other ≠ signal) :
    other ∈ pending.take signal ↔ other ∈ pending :=
  Multiset.mem_erase_of_ne different

theorem count_take_self : (pending.take signal).count signal = pending.count signal - 1 :=
  Multiset.count_erase_self ..

theorem count_take_of_ne (different : other ≠ signal) :
    (pending.take signal).count other = pending.count other :=
  Multiset.count_erase_of_ne different _

/-- A signal that does not queue is gone when it is taken. -/
theorem mem_take_of_standard (standard : ¬other.Queues) :
    other ∈ pending.take signal ↔ other ∈ pending ∧ other ≠ signal := by
  by_cases same : other = signal
  · subst same
    have once : pending.count other ≤ 1 := pending.once other standard
    refine iff_of_false ?_ fun present => present.2 rfl
    rw [mem_iff_count, count_take_self]
    omega
  · rw [mem_take_of_ne same, and_iff_left same]

theorem mem_within : signal ∈ pending.within mask ↔ signal ∈ pending ∧ signal ∈ mask :=
  Multiset.mem_filter

end PendingSignals

end MavlinkHub
