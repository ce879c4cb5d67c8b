/-
This file is a library of counters keyed by an arbitrary type, stored as a finite
map that holds no entry for a key whose count is zero. The two operations are the
ones reference counting needs: `bump` adds one, `drop` takes one away and erases
the entry that reaches zero. A tally all of whose entries are positive is
determined by its counts, and `drop` then never goes below zero.
-/

import Mathlib.Data.Finmap
import Mathlib.Data.Multiset.Count
import Mathlib.Tactic.Common

/-- Counters keyed by `Key`; a key without an entry counts zero. -/
abbrev Tally (Key : Type*) := Finmap fun _ : Key => Int

namespace Tally

variable {Key : Type*} [DecidableEq Key]

/-- Add one to the counter of a key, creating it at one. -/
def bump (key : Key) (tally : Tally Key) : Tally Key :=
  match tally.lookup key with
  | none => tally.insert key 1
  | some count => tally.insert key (count + 1)

/-- Take one from the counter of a key and erase it when it reaches zero. A key without a
counter is left alone. -/
def drop (key : Key) (tally : Tally Key) : Tally Key :=
  match tally.lookup key with
  | none => tally
  | some count => if count - 1 = 0 then tally.erase key else tally.insert key (count - 1)

/-- The count of a key. -/
def count (tally : Tally Key) (key : Key) : Int :=
  (tally.lookup key).getD 0

/-- Every stored counter is at least one. -/
def Positive (tally : Tally Key) : Prop :=
  ∀ key count, tally.lookup key = some count → 1 ≤ count

/-! ### One operation, one key -/

theorem lookup_bump_self (key : Key) (tally : Tally Key) :
    (tally.bump key).lookup key = some (tally.count key + 1) := by
  unfold bump count
  cases tally.lookup key with
  | none => simp only [Finmap.lookup_insert, Option.getD_none, zero_add]
  | some stored => simp only [Finmap.lookup_insert, Option.getD_some]

theorem lookup_bump_of_ne {key other : Key} (different : other ≠ key) (tally : Tally Key) :
    (tally.bump key).lookup other = tally.lookup other := by
  unfold bump
  cases tally.lookup key <;> exact Finmap.lookup_insert_of_ne _ different

theorem lookup_drop_of_ne {key other : Key} (different : other ≠ key) (tally : Tally Key) :
    (tally.drop key).lookup other = tally.lookup other := by
  unfold drop
  cases tally.lookup key with
  | none => rfl
  | some stored =>
    dsimp only
    split
    · exact Finmap.lookup_erase_ne different
    · exact Finmap.lookup_insert_of_ne _ different

theorem lookup_drop_self (key : Key) (tally : Tally Key) :
    (tally.drop key).lookup key =
      (tally.lookup key).bind fun count => if count - 1 = 0 then none else some (count - 1) := by
  unfold drop
  cases stored : tally.lookup key with
  | none => exact stored
  | some count =>
    dsimp only [Option.bind_some]
    split
    · exact Finmap.lookup_erase key tally
    · exact Finmap.lookup_insert tally

@[simp] theorem count_empty (key : Key) : count (∅ : Tally Key) key = 0 := rfl

theorem count_bump_self (key : Key) (tally : Tally Key) :
    (tally.bump key).count key = tally.count key + 1 := by
  rw [count, lookup_bump_self, Option.getD_some]

theorem count_bump_of_ne {key other : Key} (different : other ≠ key) (tally : Tally Key) :
    (tally.bump key).count other = tally.count other := by
  rw [count, lookup_bump_of_ne different, count]

theorem count_drop_of_ne {key other : Key} (different : other ≠ key) (tally : Tally Key) :
    (tally.drop key).count other = tally.count other := by
  rw [count, lookup_drop_of_ne different, count]

/-! ### Positive tallies -/

theorem positive_empty : Positive (∅ : Tally Key) := by
  intro key count stored
  exact absurd stored (by rw [Finmap.lookup_empty]; exact Option.some_ne_none count ∘ Eq.symm)

namespace Positive

variable {tally other : Tally Key}

theorem count_nonneg (positive : tally.Positive) (key : Key) : 0 ≤ tally.count key := by
  unfold Tally.count
  cases stored : tally.lookup key with
  | none => exact le_refl 0
  | some value =>
    have atLeastOne := positive key value stored
    rw [Option.getD_some]
    omega

/-- In a positive tally the entry of a key is absent exactly when the key counts zero. -/
theorem lookup_eq (positive : tally.Positive) (key : Key) :
    tally.lookup key = if tally.count key = 0 then none else some (tally.count key) := by
  unfold Tally.count
  cases stored : tally.lookup key with
  | none => rw [Option.getD_none, if_pos rfl]
  | some value =>
    have atLeastOne := positive key value stored
    rw [Option.getD_some, if_neg (by omega)]

/-- Positive tallies with the same counts are equal. -/
theorem ext (positive : tally.Positive) (otherPositive : other.Positive)
    (same : ∀ key, tally.count key = other.count key) : tally = other := by
  refine Finmap.ext_lookup fun key => ?_
  rw [positive.lookup_eq, otherPositive.lookup_eq, same]

theorem bump (positive : tally.Positive) (key : Key) : (tally.bump key).Positive := by
  intro target value stored
  by_cases same : target = key
  · rw [same, lookup_bump_self, Option.some_inj] at stored
    have nonneg := positive.count_nonneg key
    omega
  · rw [lookup_bump_of_ne same] at stored
    exact positive target value stored

theorem drop (positive : tally.Positive) (key : Key) : (tally.drop key).Positive := by
  intro target value stored
  by_cases same : target = key
  · subst same
    unfold Tally.drop at stored
    cases held : tally.lookup target with
    | none =>
      rw [held] at stored
      exact positive target value stored
    | some count =>
      have atLeastOne := positive target count held
      rw [held] at stored
      dsimp only at stored
      split at stored
      · rw [Finmap.lookup_erase] at stored
        exact absurd stored (Option.some_ne_none value).symm
      · rw [Finmap.lookup_insert, Option.some_inj] at stored
        omega
  · rw [lookup_drop_of_ne same] at stored
    exact positive target value stored

/-- Dropping from a positive tally takes one away and stops at zero. -/
theorem count_drop_self (positive : tally.Positive) (key : Key) :
    (tally.drop key).count key = max (tally.count key - 1) 0 := by
  unfold Tally.drop Tally.count
  cases held : tally.lookup key with
  | none => simp only [held, Option.getD_none, zero_sub]; rfl
  | some value =>
    have atLeastOne := positive key value held
    dsimp only
    split
    · rw [Finmap.lookup_erase, Option.getD_none, Option.getD_some]
      omega
    · rw [Finmap.lookup_insert, Option.getD_some, Option.getD_some]
      omega

end Positive

end Tally
