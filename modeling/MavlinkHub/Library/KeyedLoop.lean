/-
This file is a library of loops over the entries of a map. Such a loop visits the
entries one after the other, threads a state through their bodies, and files one
result under the key of each entry. The entries come in an arbitrary order, so the
questions are what the loop does whatever the order is, and when the order does
not matter at all.

The answer to the second question is `forEach_perm`: if the body of an entry only
depends on what its own key can see of the state, and changes nothing another key
can see, then two traversals of the same entries agree on every result and on
everything any key can see of the final state.
-/

import Mathlib.Data.Finmap
import Mathlib.Tactic.Common

namespace KeyedLoop

variable {Key Value Result State : Type*} [DecidableEq Key]

/-- File the verdict on each entry under its key. -/
def collect (verdict : Key → Value → Result) (entries : List (Σ _ : Key, Value)) :
    Finmap fun _ : Key => Result :=
  entries.foldl (fun results entry => results.insert entry.1 (verdict entry.1 entry.2)) ∅

/-- Visit the entries in order, threading a state and filing the result of each body under
the key of its entry. -/
def forEach (body : Key → Value → State → Result × State) :
    List (Σ _ : Key, Value) → (Finmap fun _ : Key => Result) → State →
      (Finmap fun _ : Key => Result) × State
  | [], results, state => (results, state)
  | entry :: rest, results, state =>
    let outcome := body entry.1 entry.2 state
    forEach body rest (results.insert entry.1 outcome.1) outcome.2

variable {body : Key → Value → State → Result × State}
  {entries front back : List (Σ _ : Key, Value)} {results : Finmap fun _ : Key => Result}
  {state : State}

theorem forEach_cons (entry : Σ _ : Key, Value) :
    forEach body (entry :: entries) results state =
      forEach body entries (results.insert entry.1 (body entry.1 entry.2 state).1)
        (body entry.1 entry.2 state).2 := rfl

theorem forEach_append :
    forEach body (front ++ back) results state =
      forEach body back (forEach body front results state).1
        (forEach body front results state).2 := by
  induction front generalizing results state with
  | nil => rfl
  | cons entry rest inductionHypothesis =>
    rw [List.cons_append, forEach_cons, inductionHypothesis, forEach_cons]

/-! ### Loop rules -/

/-- The loop rule: an assertion about the entries still to visit, the results so far and the
state, kept by each body, holds when no entry is left. -/
theorem forEach_rule
    (holds : List (Σ _ : Key, Value) → (Finmap fun _ : Key => Result) → State → Prop)
    (kept : ∀ entry rest results state, holds (entry :: rest) results state →
      holds rest (results.insert entry.1 (body entry.1 entry.2 state).1)
        (body entry.1 entry.2 state).2)
    (start : holds entries results state) :
    holds [] (forEach body entries results state).1 (forEach body entries results state).2 := by
  induction entries generalizing results state with
  | nil => exact start
  | cons entry rest inductionHypothesis =>
    rw [forEach_cons]
    exact inductionHypothesis (kept entry rest results state start)

/-- A reflexive and transitive relation that contains the effect of every body relates the
states before and after the loop. -/
theorem forEach_relates (related : State → State → Prop) (reflexive : ∀ state, related state state)
    (transitive : ∀ {one two three}, related one two → related two three → related one three)
    (stepped : ∀ entry ∈ entries, ∀ state, related state (body entry.1 entry.2 state).2) :
    related state (forEach body entries results state).2 := by
  induction entries generalizing results state with
  | nil => exact reflexive state
  | cons entry rest inductionHypothesis =>
    rw [forEach_cons]
    exact transitive (stepped entry List.mem_cons_self state)
      (inductionHypothesis fun other member => stepped other (List.mem_cons_of_mem _ member))

/-- A property of the state that every body keeps survives the loop. -/
theorem forEach_invariant (holds : State → Prop)
    (kept : ∀ entry ∈ entries, ∀ state, holds state → holds (body entry.1 entry.2 state).2)
    (start : holds state) : holds (forEach body entries results state).2 :=
  forEach_relates (fun before after => holds before → holds after) (fun _ => id)
    (fun first second => second ∘ first) (fun entry member state => kept entry member state) start

/-! ### What is filed -/

/-- A key the loop does not visit keeps what was filed under it. -/
theorem lookup_forEach_of_notMem {key : Key} (absent : key ∉ entries.keys) :
    (forEach body entries results state).1.lookup key = results.lookup key := by
  induction entries generalizing results state with
  | nil => rfl
  | cons entry rest inductionHypothesis =>
    rw [List.keys_cons, List.mem_cons, not_or] at absent
    rw [forEach_cons, inductionHypothesis absent.2, Finmap.lookup_insert_of_ne _ absent.1]

/-- What is filed under a visited key is the result of its body in the state the entries
before it left behind. -/
theorem lookup_forEach_of_split {key : Key} {value : Value} (absent : key ∉ back.keys) :
    (forEach body (front ++ ⟨key, value⟩ :: back) results state).1.lookup key =
      some (body key value (forEach body front results state).2).1 := by
  rw [forEach_append, forEach_cons, lookup_forEach_of_notMem absent, Finmap.lookup_insert]

theorem keys_forEach :
    (forEach body entries results state).1.keys = results.keys ∪ entries.keys.toFinset := by
  induction entries generalizing results state with
  | nil => exact (Finset.union_empty _).symm
  | cons entry rest inductionHypothesis =>
    rw [forEach_cons, inductionHypothesis]
    ext key
    simp only [Finset.mem_union, Finmap.mem_keys, Finmap.mem_insert, List.mem_toFinset,
      List.keys_cons, List.mem_cons]
    tauto

/-- Bodies that leave the state alone file the verdicts they compute from it. -/
theorem forEach_still (verdict : Key → Value → Result)
    (still : ∀ entry ∈ entries, body entry.1 entry.2 state = (verdict entry.1 entry.2, state)) :
    forEach body entries results state =
      (entries.foldl (fun results entry => results.insert entry.1 (verdict entry.1 entry.2))
        results, state) := by
  induction entries generalizing results with
  | nil => rfl
  | cons entry rest inductionHypothesis =>
    rw [forEach_cons, still entry List.mem_cons_self, List.foldl_cons]
    exact inductionHypothesis fun other member => still other (List.mem_cons_of_mem _ member)

/-- What a loop does to the state does not depend on the results filed before it. -/
theorem forEach_state (others : Finmap fun _ : Key => Result) :
    (forEach body entries results state).2 = (forEach body entries others state).2 := by
  induction entries generalizing results others state with
  | nil => rfl
  | cons entry rest inductionHypothesis =>
    rw [forEach_cons, forEach_cons]
    exact inductionHypothesis _

theorem forEach_congr {other : Key → Value → State → Result × State}
    (same : ∀ entry ∈ entries, ∀ state, body entry.1 entry.2 state = other entry.1 entry.2 state) :
    forEach body entries results state = forEach other entries results state := by
  induction entries generalizing results state with
  | nil => rfl
  | cons entry rest inductionHypothesis =>
    rw [forEach_cons, forEach_cons, same entry List.mem_cons_self]
    exact inductionHypothesis fun other member => same other (List.mem_cons_of_mem _ member)

/-- A loop whose bodies do the same to the state and report a function of the results files that
function of what the other loop files. -/
theorem forEach_map {Report : Type*} {reported : Key → Value → State → Report × State}
    (view : Result → Report) {reports : Finmap fun _ : Key => Report}
    (same : ∀ entry ∈ entries, ∀ state, reported entry.1 entry.2 state =
      (view (body entry.1 entry.2 state).1, (body entry.1 entry.2 state).2))
    (start : ∀ key, reports.lookup key = (results.lookup key).map view) :
    (forEach reported entries reports state).2 = (forEach body entries results state).2 ∧
      ∀ key, (forEach reported entries reports state).1.lookup key =
        ((forEach body entries results state).1.lookup key).map view := by
  induction entries generalizing results reports state with
  | nil => exact ⟨rfl, start⟩
  | cons entry rest inductionHypothesis =>
    rw [forEach_cons, forEach_cons, same entry List.mem_cons_self]
    refine inductionHypothesis (fun other member => same other (List.mem_cons_of_mem _ member))
      fun key => ?_
    by_cases isEntry : key = entry.1
    · rw [isEntry, Finmap.lookup_insert, Finmap.lookup_insert, Option.map_some]
    · rw [Finmap.lookup_insert_of_ne _ isEntry, Finmap.lookup_insert_of_ne _ isEntry, start]

/-- `collect` files exactly the verdicts on the entries of the map. -/
theorem lookup_collect (verdict : Key → Value → Result) (map : AList fun _ : Key => Value)
    (key : Key) :
    (collect verdict map.entries).lookup key = (map.lookup key).map (verdict key) := by
  obtain ⟨entries, nodup⟩ := map
  have general : ∀ results : Finmap fun _ : Key => Result,
      (entries.foldl (fun results entry => results.insert entry.1 (verdict entry.1 entry.2))
        results).lookup key =
      ((entries.dlookup key).map (verdict key)).or (results.lookup key) := by
    induction entries with
    | nil => exact fun results => rfl
    | cons entry rest inductionHypothesis =>
      intro results
      obtain ⟨entryKey, value⟩ := entry
      rw [List.nodupKeys_cons] at nodup
      rw [List.foldl_cons, inductionHypothesis nodup.2]
      by_cases same : key = entryKey
      · subst same
        rw [List.dlookup_cons_eq, List.dlookup_eq_none.mpr nodup.1, Finmap.lookup_insert]
        rfl
      · rw [List.dlookup_cons_ne _ _ same, Finmap.lookup_insert_of_ne _ same]
  rw [collect, general, Finmap.lookup_empty, Option.or_none]
  rfl

/-- An entry of a map is found under its key, which no other entry has. -/
theorem lookup_of_split {map : AList fun _ : Key => Value} {key : Key} {value : Value}
    (split : map.entries = front ++ ⟨key, value⟩ :: back) :
    map.lookup key = some value ∧ key ∉ front.keys ∧ key ∉ back.keys := by
  have nodup := map.nodupKeys
  have member : (⟨key, value⟩ : Σ _ : Key, Value) ∈ map.entries := by
    rw [split]
    exact List.mem_append_right _ List.mem_cons_self
  refine ⟨(List.mem_dlookup_iff nodup).mpr member, ?_⟩
  rw [split] at nodup
  have keysNodup : (front.keys ++ key :: back.keys).Nodup := by
    have keys : (front ++ ⟨key, value⟩ :: back).keys = front.keys ++ key :: back.keys :=
      List.map_append
    rw [← keys]
    exact nodup
  obtain ⟨_, backNodup, apart⟩ := List.nodup_append.mp keysNodup
  exact ⟨fun inFront => apart key inFront key List.mem_cons_self rfl,
    (List.nodup_cons.mp backNodup).1⟩

/-! ### Independent entries -/

/-- The bodies of the entries are independent: relative to what each key sees of the state,
the body of an entry is determined by what its own key sees and is invisible to every other
key. `good` is an invariant of the states the loop passes through. -/
structure Independent (body : Key → Value → State → Result × State)
    (entries : List (Σ _ : Key, Value)) (good : State → Prop)
    (sees : Key → State → State → Prop) : Prop where
  equivalence : ∀ key, Equivalence (sees key)
  kept : ∀ entry ∈ entries, ∀ state, good state → good (body entry.1 entry.2 state).2
  determined : ∀ entry ∈ entries, ∀ state other, good state → good other →
    sees entry.1 state other →
      (body entry.1 entry.2 state).1 = (body entry.1 entry.2 other).1 ∧
        sees entry.1 (body entry.1 entry.2 state).2 (body entry.1 entry.2 other).2
  apart : ∀ entry ∈ entries, ∀ key, key ≠ entry.1 → ∀ state, good state →
    sees key state (body entry.1 entry.2 state).2

namespace Independent

variable {good : State → Prop} {sees : Key → State → State → Prop}

omit [DecidableEq Key] in
theorem tail {entry : Σ _ : Key, Value}
    (independent : Independent body (entry :: entries) good sees) :
    Independent body entries good sees where
  equivalence := independent.equivalence
  kept other member := independent.kept other (List.mem_cons_of_mem _ member)
  determined other member := independent.determined other (List.mem_cons_of_mem _ member)
  apart other member := independent.apart other (List.mem_cons_of_mem _ member)

/-- A key the loop does not visit sees the same state before and after it. -/
theorem unvisited (independent : Independent body entries good sees) (start : good state)
    {key : Key} (absent : key ∉ entries.keys) :
    sees key state (forEach body entries results state).2 := by
  induction entries generalizing results state with
  | nil => exact (independent.equivalence key).refl state
  | cons entry rest inductionHypothesis =>
    rw [List.keys_cons, List.mem_cons, not_or] at absent
    rw [forEach_cons]
    exact (independent.equivalence key).trans
      (independent.apart entry List.mem_cons_self key absent.1 state start)
      (inductionHypothesis independent.tail (independent.kept entry List.mem_cons_self state start)
        absent.2)

/-- A visited key sees, and gets filed, what its body does in the state before the loop. -/
theorem visited (independent : Independent body entries good sees) (nodup : entries.NodupKeys)
    (results : Finmap fun _ : Key => Result) (start : good state) {entry : Σ _ : Key, Value}
    (member : entry ∈ entries) :
    (forEach body entries results state).1.lookup entry.1 =
        some (body entry.1 entry.2 state).1 ∧
      sees entry.1 (body entry.1 entry.2 state).2 (forEach body entries results state).2 := by
  induction entries generalizing results state with
  | nil => exact absurd member List.not_mem_nil
  | cons head rest inductionHypothesis =>
    obtain ⟨absent, restNodup⟩ := List.nodupKeys_cons.mp nodup
    have afterGood := independent.kept head List.mem_cons_self state start
    rw [forEach_cons]
    rcases List.mem_cons.mp member with rfl | inRest
    · rw [lookup_forEach_of_notMem absent, Finmap.lookup_insert]
      exact ⟨rfl, independent.tail.unvisited afterGood absent⟩
    · have different : entry.1 ≠ head.1 := fun same =>
        absent (same ▸ List.mem_map_of_mem inRest)
      have unchanged := independent.apart head List.mem_cons_self entry.1 different state start
      obtain ⟨sameResult, sameView⟩ :=
        independent.determined entry member state _ start afterGood unchanged
      obtain ⟨filed, seen⟩ := inductionHypothesis independent.tail restNodup
        (results.insert head.1 (body head.1 head.2 state).1) afterGood inRest
      rw [sameResult]
      exact ⟨filed, (independent.equivalence entry.1).trans sameView seen⟩

/-- Two traversals of the same entries, from states no key can tell apart, file the same
results and end in states no key can tell apart. -/
theorem forEach_perm {others : List (Σ _ : Key, Value)} {other : State}
    (independent : Independent body entries good sees) (nodup : entries.NodupKeys)
    (results : Finmap fun _ : Key => Result) (permuted : entries.Perm others) (start : good state)
    (otherStart : good other)
    (same : ∀ key, sees key state other) :
    (forEach body entries results state).1 = (forEach body others results other).1 ∧
      ∀ key, sees key (forEach body entries results state).2
        (forEach body others results other).2 := by
  have otherIndependent : Independent body others good sees :=
    ⟨independent.equivalence,
      fun entry member => independent.kept entry (permuted.mem_iff.mpr member),
      fun entry member => independent.determined entry (permuted.mem_iff.mpr member),
      fun entry member => independent.apart entry (permuted.mem_iff.mpr member)⟩
  have otherNodup : others.NodupKeys := (List.perm_nodupKeys permuted).mp nodup
  have sameKeys (key : Key) : key ∈ others.keys ↔ key ∈ entries.keys :=
    (permuted.map Sigma.fst).mem_iff.symm
  constructor
  · refine Finmap.ext_lookup fun key => ?_
    by_cases isVisited : key ∈ entries.keys
    · obtain ⟨entry, member, rfl⟩ := List.mem_map.mp isVisited
      rw [(independent.visited nodup results start member).1,
        (otherIndependent.visited otherNodup results otherStart (permuted.mem_iff.mp member)).1,
        (independent.determined entry member state other start otherStart (same _)).1]
    · rw [lookup_forEach_of_notMem isVisited,
        lookup_forEach_of_notMem (isVisited ∘ (sameKeys key).mp)]
  · intro key
    have equivalence := independent.equivalence key
    by_cases isVisited : key ∈ entries.keys
    · obtain ⟨entry, member, rfl⟩ := List.mem_map.mp isVisited
      have here := (independent.visited nodup results start member).2
      have there := (otherIndependent.visited otherNodup results otherStart
        (permuted.mem_iff.mp member)).2
      have between :=
        (independent.determined entry member state other start otherStart (same _)).2
      exact equivalence.trans (equivalence.symm here) (equivalence.trans between there)
    · exact equivalence.trans (equivalence.symm (independent.unvisited start isVisited))
        (equivalence.trans (same key)
          (otherIndependent.unvisited otherStart (isVisited ∘ (sameKeys key).mp)))

end Independent

end KeyedLoop
