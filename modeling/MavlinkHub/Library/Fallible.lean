/-
This file is a library of loops that convert the elements of a list one after the other
and end at the first that fails. Such a loop succeeds with the results of all elements,
or fails as its first failing element does.
-/

import Mathlib.Data.List.Forall2
import Mathlib.Tactic.Common

namespace Fallible

variable {Element Result Failure : Type} {convert : Element → Except Failure Result}
  {element : Element} {elements : List Element} {result : Result} {results : List Result}
  {failure : Failure}

theorem mapM_cons_of_error (failed : convert element = .error failure) :
    (element :: elements).mapM convert = .error failure := by
  rw [List.mapM_cons, failed]
  rfl

theorem mapM_cons_of_ok (converted : convert element = .ok result) :
    (element :: elements).mapM convert = (elements.mapM convert).map (result :: ·) := by
  rw [List.mapM_cons, converted]
  cases elements.mapM convert <;> rfl

/-- A loop succeeds if every element does, with their results in order. -/
theorem mapM_eq_ok_iff :
    elements.mapM convert = .ok results ↔
      List.Forall₂ (fun element result => convert element = .ok result) elements results := by
  induction elements generalizing results with
  | nil =>
    rw [List.forall₂_nil_left_iff]
    exact ⟨fun done => (Except.ok.inj done).symm, fun none => by rw [none]; rfl⟩
  | cons element rest inductionHypothesis =>
    rw [List.forall₂_cons_left_iff]
    cases converted : convert element with
    | error failure =>
      rw [mapM_cons_of_error converted]
      refine iff_of_false (fun contrary => by cases contrary) ?_
      rintro ⟨_, _, contrary, _⟩
      cases contrary
    | ok result =>
      rw [mapM_cons_of_ok converted]
      constructor
      · intro done
        cases later : rest.mapM convert with
        | error failure =>
          rw [later] at done
          cases done
        | ok laterResults =>
          rw [later] at done
          exact ⟨result, laterResults, rfl, inductionHypothesis.mp later,
            (Except.ok.inj done).symm⟩
      · rintro ⟨_, laterResults, ⟨⟩, later, rfl⟩
        rw [inductionHypothesis.mpr later]
        rfl

/-- A loop fails as the first element does that fails. -/
theorem mapM_eq_error_iff :
    elements.mapM convert = .error failure ↔
      ∃ front element back, elements = front ++ element :: back ∧
        (∀ earlier ∈ front, ∃ result, convert earlier = .ok result) ∧
          convert element = .error failure := by
  induction elements with
  | nil =>
    refine iff_of_false (fun contrary => by cases contrary) ?_
    rintro ⟨front, element, back, contrary, _⟩
    exact List.append_ne_nil_of_right_ne_nil front (List.cons_ne_nil element back) contrary.symm
  | cons head rest inductionHypothesis =>
    cases converted : convert head with
    | error own =>
      rw [mapM_cons_of_error converted]
      constructor
      · intro same
        obtain rfl := Except.error.inj same
        exact ⟨[], head, rest, rfl, List.forall_mem_nil _, converted⟩
      · rintro ⟨_ | ⟨first, front⟩, element, back, same, earlier, failed⟩
        · obtain ⟨rfl, rfl⟩ := List.cons.inj same
          obtain rfl := Except.error.inj (converted.symm.trans failed)
          rfl
        · obtain ⟨rfl, rfl⟩ := List.cons.inj same
          obtain ⟨result, contrary⟩ := earlier head List.mem_cons_self
          rw [converted] at contrary
          cases contrary
    | ok result =>
      have mapped : (rest.mapM convert).map (result :: ·) = .error failure ↔
          rest.mapM convert = .error failure := by
        cases rest.mapM convert with
        | error own => exact Iff.rfl
        | ok results =>
          refine iff_of_false (fun contrary => ?_) (fun contrary => ?_)
          · cases contrary
          · cases contrary
      rw [mapM_cons_of_ok converted, mapped, inductionHypothesis]
      constructor
      · rintro ⟨front, element, back, rfl, earlier, failed⟩
        refine ⟨head :: front, element, back, rfl, ?_, failed⟩
        exact List.forall_mem_cons.mpr ⟨⟨result, converted⟩, earlier⟩
      · rintro ⟨_ | ⟨first, front⟩, element, back, same, earlier, failed⟩
        · obtain ⟨rfl, rfl⟩ := List.cons.inj same
          rw [converted] at failed
          cases failed
        · obtain ⟨rfl, rfl⟩ := List.cons.inj same
          exact ⟨front, element, back, rfl, (List.forall_mem_cons.mp earlier).2, failed⟩

/-- Of two lists that are related element by element, each element of the first has its result
in the second. -/
theorem exists_of_mem {Related : Element → Result → Prop}
    (related : List.Forall₂ Related elements results) (member : element ∈ elements) :
    ∃ result ∈ results, Related element result := by
  induction related with
  | nil => cases member
  | cons head _ inductionHypothesis =>
    rcases List.mem_cons.mp member with rfl | later
    · exact ⟨_, List.mem_cons_self, head⟩
    · obtain ⟨result, present, same⟩ := inductionHypothesis later
      exact ⟨result, List.mem_cons_of_mem _ present, same⟩

end Fallible
