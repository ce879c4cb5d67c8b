/-
This file is about reading a map one entry at a time while its state goes on. A scan is
given the keys to read; the state proceeds before each read, and what the reads answer is
filed under their keys.

A scan is no snapshot: its answers need not have held together at any moment. Each of
them was the answer at some moment of the scan.
-/

import Mathlib.Data.Finmap

namespace Scan

variable {State Key Answer : Type*} [DecidableEq Key] {proceed : State → State}
  {read : Key → State → Option Answer} {keys : List Key} {answers : Finmap fun _ : Key => Answer}
  {state : State} {key : Key} {answer : Answer}

/-- Read the keys in order. The state proceeds before each read, and an answer is filed under its
key. -/
def scan (proceed : State → State) (read : Key → State → Option Answer) :
    List Key → (Finmap fun _ : Key => Answer) → State → (Finmap fun _ : Key => Answer) × State
  | [], answers, state => (answers, state)
  | key :: rest, answers, state =>
    let reached := proceed state
    match read key reached with
    | some answer => scan proceed read rest (answers.insert key answer) reached
    | none => scan proceed read rest answers reached

theorem scan_cons_of_some (found : read key (proceed state) = some answer) :
    scan proceed read (key :: keys) answers state =
      scan proceed read keys (answers.insert key answer) (proceed state) := by
  rw [scan]
  simp only [found]

theorem scan_cons_of_none (missing : read key (proceed state) = none) :
    scan proceed read (key :: keys) answers state =
      scan proceed read keys answers (proceed state) := by
  rw [scan]
  simp only [missing]

section Relates

variable (related : State → State → Prop) (reflexive : ∀ state, related state state)
  (transitive : ∀ {one two three}, related one two → related two three → related one three)
  (proceeds : ∀ state, related state (proceed state))

include reflexive transitive proceeds

/-- A reflexive and transitive relation that contains every move of the state contains a scan. -/
theorem scan_relates (keys : List Key) (answers : Finmap fun _ : Key => Answer) (state : State) :
    related state (scan proceed read keys answers state).2 := by
  induction keys generalizing answers state with
  | nil => exact reflexive state
  | cons key rest inductionHypothesis =>
    refine transitive (proceeds state) ?_
    cases found : read key (proceed state) with
    | some answer =>
      rw [scan_cons_of_some found]
      exact inductionHypothesis _ _
    | none =>
      rw [scan_cons_of_none found]
      exact inductionHypothesis _ _

/-- What a scan files was filed before, or was the answer at some moment of the scan. -/
theorem lookup_scan (filed : (scan proceed read keys answers state).1.lookup key = some answer) :
    answers.lookup key = some answer ∨ key ∈ keys ∧ ∃ middle, related state middle ∧
      related middle (scan proceed read keys answers state).2 ∧
      read key middle = some answer := by
  induction keys generalizing answers state with
  | nil => exact .inl filed
  | cons visited rest inductionHypothesis =>
    have later {middle : State} (reached : related (proceed state) middle) :
        related state middle := transitive (proceeds state) reached
    cases found : read visited (proceed state) with
    | none =>
      rw [scan_cons_of_none found] at filed ⊢
      rcases inductionHypothesis filed with before | ⟨member, middle, reached, left, answered⟩
      · exact .inl before
      · exact .inr ⟨List.mem_cons_of_mem _ member, middle, later reached, left, answered⟩
    | some given =>
      rw [scan_cons_of_some found] at filed ⊢
      rcases inductionHypothesis filed with before | ⟨member, middle, reached, left, answered⟩
      · by_cases same : key = visited
        · subst same
          rw [Finmap.lookup_insert, Option.some.injEq] at before
          subst before
          exact .inr ⟨List.mem_cons_self, proceed state, proceeds state,
            scan_relates related reflexive transitive proceeds _ _ _, found⟩
        · rw [Finmap.lookup_insert_of_ne _ same] at before
          exact .inl before
      · exact .inr ⟨List.mem_cons_of_mem _ member, middle, later reached, left, answered⟩

omit reflexive in
/-- If every read answers whatever has happened before, there is an answer for each key. -/
theorem keys_scan (answering : ∀ key ∈ keys, ∀ middle, related state middle →
      (read key middle).isSome = true) :
    (scan proceed read keys answers state).1.keys = answers.keys ∪ keys.toFinset := by
  induction keys generalizing answers state with
  | nil => exact (Finset.union_empty _).symm
  | cons visited rest inductionHypothesis =>
    obtain ⟨given, found⟩ := Option.isSome_iff_exists.mp
      (answering visited List.mem_cons_self (proceed state) (proceeds state))
    rw [scan_cons_of_some found, inductionHypothesis fun key member middle reached =>
      answering key (List.mem_cons_of_mem _ member) middle (transitive (proceeds state) reached)]
    ext key
    simp only [Finset.mem_union, Finmap.mem_keys, Finmap.mem_insert, List.mem_toFinset,
      List.mem_cons]
    exact or_assoc.trans or_left_comm

end Relates

/-- A scan of a state that does not move leaves it there. -/
theorem scan_of_still (still : proceed state = state) :
    (scan proceed read keys answers state).2 = state := by
  refine scan_relates (fun before after => before = state → after = state) (fun _ => id)
    (fun front back => back ∘ front) ?_ keys answers state rfl
  rintro _ rfl
  exact still

/-- It reads off what is there. -/
theorem lookup_scan_of_still (still : proceed state = state) :
    (scan proceed read keys answers state).1.lookup key =
      if key ∈ keys then (read key state).or (answers.lookup key) else answers.lookup key := by
  induction keys generalizing answers with
  | nil => rfl
  | cons visited rest inductionHypothesis =>
    cases found : read visited (proceed state) with
    | none =>
      rw [scan_cons_of_none found, still, inductionHypothesis]
      rw [still] at found
      by_cases same : key = visited
      · subst same
        rw [found, Option.none_or, ite_self, ite_self]
      · simp only [List.mem_cons, same, false_or]
    | some given =>
      rw [scan_cons_of_some found, still, inductionHypothesis]
      rw [still] at found
      by_cases same : key = visited
      · subst same
        rw [found, Finmap.lookup_insert, if_pos List.mem_cons_self]
        simp only [Option.some_or, ite_self]
      · rw [Finmap.lookup_insert_of_ne _ same]
        simp only [List.mem_cons, same, false_or]

end Scan
