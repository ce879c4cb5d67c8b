/-
This file is a library of registers: a value that some events of a history overwrite
and all others leave alone. After any history the register holds what the last event
that wrote to it wrote.
-/

import Mathlib.Data.List.Induction

namespace Register

variable {Event Value State : Type*}

/-- What the last event that writes has written. -/
def lastWrite (writes : Event → Option Value) (history : List Event) : Option Value :=
  history.reverse.findSome? writes

variable {writes : Event → Option Value} {history : List Event}

theorem lastWrite_concat (event : Event) :
    lastWrite writes (history ++ [event]) = (writes event).or (lastWrite writes history) := by
  rw [lastWrite, List.reverse_append, List.findSome?_append, lastWrite]
  cases written : writes event <;> simp [written]

/-- The last write is the write of some event after which no event writes. -/
theorem lastWrite_eq_some_iff {value : Value} :
    lastWrite writes history = some value ↔
      ∃ front event back, history = front ++ event :: back ∧ writes event = some value ∧
        ∀ later ∈ back, writes later = none := by
  rw [lastWrite, List.findSome?_eq_some_iff]
  constructor
  · rintro ⟨back, event, front, split, written, silent⟩
    refine ⟨front.reverse, event, back.reverse, ?_, written, fun later member =>
      silent later (List.mem_reverse.mp member)⟩
    rw [← List.reverse_reverse history, split]
    simp
  · rintro ⟨front, event, back, rfl, written, silent⟩
    exact ⟨back.reverse, event, front.reverse, by simp, written, fun later member =>
      silent later (List.mem_reverse.mp member)⟩

/-- A register that each step overwrites or leaves alone holds the last write of the history. -/
theorem read_foldl (step : State → Event → State) (read : State → Value)
    (stepped : ∀ state event, read (step state event) = (writes event).getD (read state))
    (start : State) (history : List Event) :
    read (history.foldl step start) = (lastWrite writes history).getD (read start) := by
  induction history using List.reverseRecOn with
  | nil => rfl
  | append_singleton earlier event inductionHypothesis =>
    rw [List.foldl_append, List.foldl_cons, List.foldl_nil, stepped, inductionHypothesis,
      lastWrite_concat]
    cases writes event <;> rfl

end Register
