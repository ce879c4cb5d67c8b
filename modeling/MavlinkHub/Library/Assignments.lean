/-
This file is a library of maps that are filled by a sequence of assignments, one key
after the other, where a later assignment replaces an earlier one of the same key. The
question is what such a map still says about the sequence: a key reads as its last
assignment, and the map has as many entries as there were assignments exactly if no
key was assigned twice. A sequence that refuses a second assignment of a key goes through
exactly if there is none.
-/

import Mathlib.Data.Finmap
import Mathlib.Data.Finset.Card
import Mathlib.Tactic.Common

namespace Assignments

variable {Key Value : Type*} [DecidableEq Key]

/-- The map after the assignments, made in order to a given map. -/
def assign (entries : List (Key × Value)) (map : Finmap fun _ : Key => Value) :
    Finmap fun _ : Key => Value :=
  entries.foldl (fun map entry => map.insert entry.1 entry.2) map

variable {entries rest : List (Key × Value)} {map : Finmap fun _ : Key => Value}
  {key : Key} {value : Value}

@[simp] theorem assign_nil : assign [] map = map := rfl

@[simp] theorem assign_cons {entry : Key × Value} :
    assign (entry :: rest) map = assign rest (map.insert entry.1 entry.2) := rfl

theorem lookup_assign_of_notMem (absent : key ∉ entries.map Prod.fst) :
    (assign entries map).lookup key = map.lookup key := by
  induction entries generalizing map with
  | nil => rfl
  | cons entry rest inductionHypothesis =>
    rw [List.map_cons, List.mem_cons, not_or] at absent
    rw [assign_cons, inductionHypothesis absent.2, Finmap.lookup_insert_of_ne _ absent.1]

/-- If no key is assigned twice, every assignment is still there in the end. -/
theorem lookup_assign_of_nodup (distinct : (entries.map Prod.fst).Nodup)
    (member : (key, value) ∈ entries) : (assign entries map).lookup key = some value := by
  induction entries generalizing map with
  | nil => cases member
  | cons entry rest inductionHypothesis =>
    rw [List.map_cons, List.nodup_cons] at distinct
    rw [assign_cons]
    rcases List.mem_cons.mp member with rfl | later
    · rw [lookup_assign_of_notMem distinct.1, Finmap.lookup_insert]
    · exact inductionHypothesis distinct.2 later

/-- If no key is assigned twice, the map consists of the assignments. -/
theorem lookup_assign_eq_some_iff (distinct : (entries.map Prod.fst).Nodup) :
    (assign entries (∅ : Finmap fun _ : Key => Value)).lookup key = some value ↔
      (key, value) ∈ entries := by
  refine ⟨fun found => ?_, lookup_assign_of_nodup distinct⟩
  by_cases assigned : key ∈ entries.map Prod.fst
  · obtain ⟨⟨same, other⟩, member, rfl⟩ := List.mem_map.mp assigned
    rw [lookup_assign_of_nodup distinct member] at found
    cases found
    exact member
  · rw [lookup_assign_of_notMem assigned, Finmap.lookup_empty] at found
    cases found

theorem keys_assign : (assign entries map).keys = map.keys ∪ (entries.map Prod.fst).toFinset := by
  induction entries generalizing map with
  | nil => rw [assign_nil, List.map_nil, List.toFinset_nil, Finset.union_empty]
  | cons entry rest inductionHypothesis =>
    ext key
    rw [assign_cons, inductionHypothesis, List.map_cons, List.toFinset_cons, Finset.mem_union,
      Finset.mem_union, Finset.mem_insert, Finmap.mem_keys, Finmap.mem_keys, Finmap.mem_insert,
      or_assoc, or_left_comm]

/-- No assignment is lost from the count exactly if no key is assigned twice. -/
theorem card_keys_assign_eq_length_iff :
    (assign entries (∅ : Finmap fun _ : Key => Value)).keys.card = entries.length ↔
      (entries.map Prod.fst).Nodup := by
  have sameLength : (entries.map Prod.fst).length = entries.length := List.length_map Prod.fst
  rw [keys_assign, Finmap.keys_empty, Finset.empty_union, ← sameLength]
  exact Multiset.toFinset_card_eq_card_iff_nodup

/-! ### Refusing a key that is assigned -/

/-- The map after the assignments, or `none` if one of them is to a key that the map has. -/
def assignNew : List (Key × Value) → (Finmap fun _ : Key => Value) →
    Option (Finmap fun _ : Key => Value)
  | [], map => some map
  | entry :: rest, map =>
    if entry.1 ∈ map then none else assignNew rest (map.insert entry.1 entry.2)

/-- The keys may neither be in the map before nor be assigned twice. -/
theorem assignNew_eq_some_iff {result : Finmap fun _ : Key => Value} :
    assignNew entries map = some result ↔
      (entries.map Prod.fst).Nodup ∧ (∀ key ∈ entries.map Prod.fst, key ∉ map) ∧
        result = assign entries map := by
  induction entries generalizing map with
  | nil =>
    simp only [assignNew, List.map_nil, List.nodup_nil, List.not_mem_nil, assign_nil, true_and,
      false_implies, implies_true, Option.some.injEq, eq_comm]
  | cons entry rest inductionHypothesis =>
    rw [assignNew, List.map_cons, List.nodup_cons, assign_cons]
    split_ifs with present
    · refine iff_of_false nofun fun ⟨_, absent, _⟩ => ?_
      exact absent entry.1 List.mem_cons_self present
    · rw [inductionHypothesis]
      constructor
      · rintro ⟨distinct, absent, same⟩
        refine ⟨⟨fun twice => ?_, distinct⟩, fun key assigned => ?_, same⟩
        · exact absent entry.1 twice (Finmap.mem_insert.mpr (.inl rfl))
        · rcases List.mem_cons.mp assigned with rfl | later
          · exact present
          · exact fun old => absent key later (Finmap.mem_insert.mpr (.inr old))
      · rintro ⟨⟨once, distinct⟩, absent, same⟩
        refine ⟨distinct, fun key later present => ?_, same⟩
        rcases Finmap.mem_insert.mp present with rfl | old
        · exact once later
        · exact absent key (List.mem_cons_of_mem _ later) old

theorem assignNew_empty_eq_some_iff {result : Finmap fun _ : Key => Value} :
    assignNew entries ∅ = some result ↔
      (entries.map Prod.fst).Nodup ∧ result = assign entries ∅ := by
  rw [assignNew_eq_some_iff]
  exact and_congr_right fun _ => and_iff_right fun _ _ => Finmap.notMem_empty

/-! ### The last assignment of a key -/

/-- The value that a sequence assigns to a key last. -/
def lastAssigned (key : Key) (entries : List (Key × Value)) : Option Value :=
  ((entries.filter fun entry => entry.1 = key).getLast?).map Prod.snd

theorem lastAssigned_cons_self :
    lastAssigned key ((key, value) :: rest) = some ((lastAssigned key rest).getD value) := by
  rw [lastAssigned, lastAssigned, List.filter_cons, if_pos (by simp), List.getLast?_cons]
  cases (rest.filter fun entry => decide (entry.1 = key)).getLast? <;> rfl

theorem lastAssigned_cons_of_ne {other : Key} (different : other ≠ key) :
    lastAssigned key ((other, value) :: rest) = lastAssigned key rest := by
  rw [lastAssigned, lastAssigned, List.filter_cons, if_neg (by simpa using different)]

theorem lastAssigned_eq_none_iff :
    lastAssigned key entries = none ↔ key ∉ entries.map Prod.fst := by
  rw [lastAssigned, Option.map_eq_none_iff, List.getLast?_eq_none_iff, List.filter_eq_nil_iff]
  constructor
  · intro none assigned
    obtain ⟨entry, member, same⟩ := List.mem_map.mp assigned
    exact none entry member (decide_eq_true same)
  · intro none entry member same
    exact none (List.mem_map.mpr ⟨entry, member, of_decide_eq_true same⟩)

/-- A map reads as the last assignment of a key, and as before where there is none. -/
theorem lookup_assign :
    (assign entries map).lookup key = (lastAssigned key entries).or (map.lookup key) := by
  induction entries generalizing map with
  | nil => rfl
  | cons entry rest inductionHypothesis =>
    obtain ⟨assigned, value⟩ := entry
    rw [assign_cons, inductionHypothesis]
    by_cases same : assigned = key
    · rw [same, Finmap.lookup_insert, lastAssigned_cons_self, Option.some_or]
      cases lastAssigned key rest <;> rfl
    · rw [Finmap.lookup_insert_of_ne _ (Ne.symm same), lastAssigned_cons_of_ne same]

theorem assign_append {front back : List (Key × Value)} :
    assign (front ++ back) map = assign back (assign front map) := List.foldl_append

/-- An assignment can be left out exactly if its key is assigned again later, or has the value
already. -/
theorem assign_insert_eq_iff :
    assign entries (map.insert key value) = assign entries map ↔
      key ∈ entries.map Prod.fst ∨ map.lookup key = some value := by
  constructor
  · intro same
    by_cases later : key ∈ entries.map Prod.fst
    · exact .inl later
    · have read := congrArg (Finmap.lookup key) same
      rw [lookup_assign_of_notMem later, lookup_assign_of_notMem later,
        Finmap.lookup_insert] at read
      exact .inr read.symm
  · intro redundant
    refine Finmap.ext_lookup fun other => ?_
    rw [lookup_assign, lookup_assign]
    by_cases same : other = key
    · subst same
      rcases redundant with later | already
      · obtain ⟨last, assigned⟩ := Option.ne_none_iff_exists'.mp
          (mt lastAssigned_eq_none_iff.mp (not_not.mpr later))
        rw [assigned, Option.some_or, Option.some_or]
      · rw [Finmap.lookup_insert, already]
    · rw [Finmap.lookup_insert_of_ne _ same]

end Assignments
