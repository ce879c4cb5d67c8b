/-
This file is a library about what an association list holds: the multiset of its
values, whatever keys they sit under, and the number of its entries that satisfy a
predicate. Both change by exactly one value when a key is inserted or erased.
-/

import Mathlib.Data.List.AList
import Mathlib.Data.Multiset.Count
import Mathlib.Tactic.Common

namespace Holdings

variable {Key Value : Type*} [DecidableEq Key]

/-- The values an association list holds, with multiplicity. -/
def values (map : AList fun _ : Key => Value) : Multiset Value :=
  ↑(map.entries.map Sigma.snd)

/-- The number of entries that satisfy a predicate. -/
def countWhere (selected : Key → Value → Bool) (map : AList fun _ : Key => Value) : Nat :=
  map.entries.countP fun entry => selected entry.1 entry.2

variable {map : AList fun _ : Key => Value} {key : Key} {value : Value}

/-- Taking a held entry out and putting it in front permutes the entries. -/
theorem entries_perm (held : map.lookup key = some value) :
    map.entries.Perm (⟨key, value⟩ :: (map.erase key).entries) := by
  have present : key ∈ map.entries.keys := by
    rw [← AList.keys, ← AList.mem_keys, ← AList.lookup_isSome, held, Option.isSome_some]
  obtain ⟨stored, front, back, absent, entries, erased⟩ := List.exists_of_kerase present
  have member : (⟨key, stored⟩ : Σ _ : Key, Value) ∈ map.entries := by
    rw [entries]
    exact List.mem_append_right _ List.mem_cons_self
  have same : stored = value := by
    have found := (List.mem_dlookup_iff map.nodupKeys).mpr member
    rw [AList.lookup] at held
    rw [held] at found
    exact (Option.mem_some_iff.mp found).symm
  subst same
  have shape : (map.erase key).entries = front ++ back := erased
  rw [shape, entries]
  exact List.perm_middle

theorem values_eq_cons_erase (held : map.lookup key = some value) :
    values map = value ::ₘ values (map.erase key) :=
  Multiset.coe_eq_coe.mpr ((entries_perm held).map Sigma.snd)

theorem values_insert : values (map.insert key value) = value ::ₘ values (map.erase key) := rfl

theorem erase_eq_self (absent : map.lookup key = none) : map.erase key = map := by
  refine AList.ext (List.kerase_of_notMem_keys ?_)
  exact AList.lookup_eq_none.mp absent

variable (selected : Key → Value → Bool)

theorem countWhere_eq_erase (held : map.lookup key = some value) :
    countWhere selected map =
      countWhere selected (map.erase key) + if selected key value then 1 else 0 := by
  rw [countWhere, (entries_perm held).countP_eq, List.countP_cons]
  rfl

theorem countWhere_insert :
    countWhere selected (map.insert key value) =
      countWhere selected (map.erase key) + if selected key value then 1 else 0 := by
  rw [countWhere, AList.entries_insert, List.countP_cons]
  rfl

omit [DecidableEq Key] in
/-- Counting entries by their values is counting in the multiset of the values. -/
theorem countWhere_values (chosen : Value → Prop) [DecidablePred chosen] :
    countWhere (fun _ value => chosen value) map = (values map).countP chosen := by
  rw [countWhere, values, Multiset.coe_countP, List.countP_map]
  rfl

theorem countWhere_eq_zero :
    countWhere selected map = 0 ↔
      ∀ key value, map.lookup key = some value → selected key value = false := by
  rw [countWhere, List.countP_eq_zero]
  constructor
  · intro none key value held
    have notSelected := none ⟨key, value⟩ ((List.mem_dlookup_iff map.nodupKeys).mp held)
    exact Bool.eq_false_iff.mpr notSelected
  · rintro none ⟨key, value⟩ member
    rw [none key value ((List.mem_dlookup_iff map.nodupKeys).mpr member)]
    exact Bool.false_ne_true

end Holdings
