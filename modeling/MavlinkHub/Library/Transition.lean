/-
This file is the run calculus that every system of the development shares. A
system is a labelled step relation; a run is a finite sequence of its steps
together with the labels it took. Two rules carry all later inductions: an
invariant that every step keeps holds after a run, and a reflexive and transitive
relation that contains every step relates the two ends of a run.

Nothing here mentions a particular system.
-/

import Mathlib.Order.Basic
import Mathlib.Data.List.Basic

namespace Transition

variable {State Label : Type*}

/-- A finite run of a labelled step relation, with the labels in the order they were taken. -/
inductive Run (step : State → Label → State → Prop) : State → List Label → State → Prop
  | done (state : State) : Run step state [] state
  | next {first middle last : State} {label : Label} {labels : List Label}
      (head : step first label middle) (tail : Run step middle labels last) :
      Run step first (label :: labels) last

namespace Run

variable {step : State → Label → State → Prop} {first middle last : State}
  {labels others : List Label}

/-! ### Composition -/

theorem single {label : Label} (taken : step first label last) : Run step first [label] last :=
  .next taken (.done last)

theorem append (front : Run step first labels middle) (back : Run step middle others last) :
    Run step first (labels ++ others) last := by
  induction front with
  | done state => exact back
  | next head _ inductionHypothesis => exact .next head (inductionHypothesis back)

theorem nil_iff : Run step first [] last ↔ first = last := by
  constructor
  · rintro ⟨⟩
    rfl
  · rintro rfl
    exact .done first

theorem cons_iff {label : Label} : Run step first (label :: labels) last ↔
    ∃ middle, step first label middle ∧ Run step middle labels last := by
  constructor
  · rintro (_ | ⟨head, tail⟩)
    exact ⟨_, head, tail⟩
  · rintro ⟨middle, head, tail⟩
    exact .next head tail

/-- A run over a concatenation stops at a state between the two halves. -/
theorem append_iff : Run step first (labels ++ others) last ↔
    ∃ middle, Run step first labels middle ∧ Run step middle others last := by
  induction labels generalizing first with
  | nil => simp only [List.nil_append, nil_iff, exists_eq_left']
  | cons label rest inductionHypothesis =>
    simp only [List.cons_append, cons_iff, inductionHypothesis]
    constructor
    · rintro ⟨second, head, middle, front, back⟩
      exact ⟨middle, ⟨second, head, front⟩, back⟩
    · rintro ⟨middle, ⟨second, head, front⟩, back⟩
      exact ⟨second, head, middle, front, back⟩

/-! ### Invariants -/

/-- An invariant that every step carrying an allowed label keeps holds after a run whose
labels are all allowed. -/
theorem invariantOn (allowed : Label → Prop) (holds : State → Prop)
    (kept : ∀ before label after, allowed label → holds before → step before label after →
      holds after)
    (run : Run step first labels last) (labelsAllowed : ∀ label ∈ labels, allowed label)
    (start : holds first) : holds last := by
  induction run with
  | done state => exact start
  | next head _ inductionHypothesis =>
    exact inductionHypothesis
      (fun label member => labelsAllowed label (List.mem_cons_of_mem _ member))
      (kept _ _ _ (labelsAllowed _ List.mem_cons_self) start head)

/-- An invariant that every step keeps holds after every run. -/
theorem invariant (holds : State → Prop)
    (kept : ∀ before label after, holds before → step before label after → holds after)
    (run : Run step first labels last) (start : holds first) : holds last :=
  run.invariantOn (fun _ => True) holds (fun before label after _ => kept before label after)
    (fun _ _ => trivial) start

/-- A reflexive and transitive relation that contains every step relates the ends of a run. -/
theorem relates (related : State → State → Prop) (reflexive : ∀ state, related state state)
    (transitive : ∀ {one two three}, related one two → related two three → related one three)
    (stepped : ∀ before label after, step before label after → related before after)
    (run : Run step first labels last) : related first last := by
  induction run with
  | done state => exact reflexive state
  | next head _ inductionHypothesis => exact transitive (stepped _ _ _ head) inductionHypothesis

/-- An invariant of the state together with the labels of the run that has led to it. -/
theorem traceInvariant (holds : List Label → State → Prop)
    (kept : ∀ trace before label after, Run step first trace before → holds trace before →
      step before label after → holds (trace ++ [label]) after)
    (run : Run step first labels last) (start : holds [] first) : holds labels last := by
  suffices extended : ∀ {middle rest}, Run step middle rest last → ∀ trace,
      Run step first trace middle → holds trace middle → holds (trace ++ rest) last from
    extended run [] (.done first) start
  intro middle rest behind
  induction behind with
  | done state =>
    intro trace _ held
    rwa [List.append_nil]
  | @next middle second last label rest head _ inductionHypothesis =>
    intro trace before held
    rw [List.append_cons]
    exact inductionHypothesis run (trace ++ [label]) (before.append (.single head))
      (kept trace middle label second before held head)

/-! ### Simulation -/

/-- Where every step is matched by a run of another system that shows the same, so is every run. -/
theorem simulated {Spec Move Shown : Type*} {specStep : Spec → Move → Spec → Prop}
    (view : State → Spec) (shows : Label → Option Shown) (shown : Move → Option Shown)
    (holds : State → Prop)
    (kept : ∀ before label after, holds before → step before label after → holds after)
    (matched : ∀ before label after, holds before → step before label after →
      ∃ moves, Run specStep (view before) moves (view after) ∧
        moves.filterMap shown = (shows label).toList)
    (run : Run step first labels last) (start : holds first) :
    ∃ moves, Run specStep (view first) moves (view last) ∧
      moves.filterMap shown = labels.filterMap shows := by
  induction run with
  | done state => exact ⟨[], .done _, rfl⟩
  | @next first middle last label labels head _ inductionHypothesis =>
    obtain ⟨front, former, fronts⟩ := matched first label middle start head
    obtain ⟨back, latter, backs⟩ := inductionHypothesis (kept first label middle start head)
    refine ⟨front ++ back, former.append latter, ?_⟩
    rw [List.filterMap_append, fronts, backs]
    cases shows : shows label with
    | none => rw [List.filterMap_cons_none shows, Option.toList_none, List.nil_append]
    | some seen => rw [List.filterMap_cons_some shows, Option.toList_some, List.singleton_append]

end Run

end Transition
