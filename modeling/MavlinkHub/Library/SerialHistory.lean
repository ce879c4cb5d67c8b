/-
This file is a library of serial execution. A serial executor has at most one job. It
accepts a job, calls it, gets an outcome as its answer, stores the outcome and is free
again. Its history is therefore a sequence of whole executions, and then the actions
there have been on the job it still has.

The second part is about parties, each of which may have a stage. If there is at most
one stage among them, a step of the party that has it is a step of all of them.
-/

import MavlinkHub.Library.Transition

/-- What is done to a job. -/
inductive SerialAction (Job Outcome : Type*)
  | accept (job : Job)
  | call (job : Job)
  | answer (job : Job) (outcome : Outcome)
  | store (job : Job) (outcome : Outcome)

/-- How far an accepted job is. -/
inductive SerialStage (Job Outcome : Type*)
  | accepted (job : Job)
  | called (job : Job)
  | answered (job : Job) (outcome : Outcome)
  deriving DecidableEq

namespace SerialStage

open Transition

variable {Job Outcome : Type*}

/-- The job of a stage. -/
def job : SerialStage Job Outcome → Job
  | .accepted job => job
  | .called job => job
  | .answered job _ => job

/-- A serial executor: what an action makes of the stage of its job, if it has one. -/
inductive Advances :
    Option (SerialStage Job Outcome) → SerialAction Job Outcome →
      Option (SerialStage Job Outcome) → Prop
  | accept (job : Job) : Advances none (.accept job) (some (.accepted job))
  | call (job : Job) : Advances (some (.accepted job)) (.call job) (some (.called job))
  | answer (job : Job) (outcome : Outcome) :
      Advances (some (.called job)) (.answer job outcome) (some (.answered job outcome))
  | store (job : Job) (outcome : Outcome) :
      Advances (some (.answered job outcome)) (.store job outcome) none

/-- The actions of a whole execution. -/
def execution (finished : Job × Outcome) : List (SerialAction Job Outcome) :=
  [.accept finished.1, .call finished.1, .answer finished.1 finished.2,
    .store finished.1 finished.2]

/-- The actions that led to a stage. -/
def begun : Option (SerialStage Job Outcome) → List (SerialAction Job Outcome)
  | none => []
  | some (.accepted job) => [.accept job]
  | some (.called job) => [.accept job, .call job]
  | some (.answered job outcome) => [.accept job, .call job, .answer job outcome]

/-- The history that whole executions and a stage make. -/
def serialHistory (finished : List (Job × Outcome)) (stage : Option (SerialStage Job Outcome)) :
    List (SerialAction Job Outcome) :=
  finished.flatMap execution ++ begun stage

variable {first last : Option (SerialStage Job Outcome)}
  {history : List (SerialAction Job Outcome)} {action : SerialAction Job Outcome}

/-- An action either adds to what was begun or completes it. -/
theorem Advances.begun (advances : Advances first action last) :
    SerialStage.begun first ++ [action] = SerialStage.begun last ∨
      ∃ finished, SerialStage.begun first ++ [action] = execution finished ∧ last = none := by
  cases advances with
  | accept job => exact .inl rfl
  | call job => exact .inl rfl
  | answer job outcome => exact .inl rfl
  | store job outcome => exact .inr ⟨(job, outcome), rfl, rfl⟩

/-- The history of a serial executor is one of whole executions and a stage. -/
theorem exists_serialHistory (run : Run Advances first history last) :
    ∃ finished, begun first ++ history = serialHistory finished last := by
  induction run with
  | done stage => exact ⟨[], List.append_nil _⟩
  | @next before middle after action rest head _ inductionHypothesis =>
    obtain ⟨finished, same⟩ := inductionHypothesis
    have regroup : begun before ++ action :: rest = begun before ++ [action] ++ rest := by
      rw [List.append_assoc, List.singleton_append]
    rcases head.begun with more | ⟨completed, whole, rfl⟩
    · exact ⟨finished, by rw [regroup, more, same]⟩
    · refine ⟨completed :: finished, ?_⟩
      have rested : rest = serialHistory finished after := same
      rw [regroup, whole, rested, serialHistory, serialHistory, List.flatMap_cons,
        List.append_assoc]

/-- What is stored was answered before, and what is answered was accepted. -/
theorem mem_of_serial {job : Job} {outcome : Outcome} (run : Run Advances none history last) :
    (.store job outcome ∈ history → .answer job outcome ∈ history) ∧
      (.answer job outcome ∈ history → .accept job ∈ history) := by
  obtain ⟨finished, same⟩ := exists_serialHistory run
  rw [show history = serialHistory finished last from same]
  simp only [serialHistory, List.mem_append, List.mem_flatMap]
  constructor
  · rintro (⟨whole, member, inside⟩ | inside)
    · refine .inl ⟨whole, member, ?_⟩
      simp [execution] at inside ⊢
      exact inside
    · rcases last with _ | _ | _ | _ <;> simp [SerialStage.begun] at inside
  · rintro (⟨whole, member, inside⟩ | inside)
    · refine .inl ⟨whole, member, ?_⟩
      simp [execution] at inside ⊢
      exact inside.1
    · refine .inr ?_
      rcases last with _ | _ | _ | _ <;> simp [SerialStage.begun] at inside ⊢
      exact inside.1

/-! ### What a history tells -/

/-- The accepted jobs, the called jobs and the stored outcomes, in order. -/
def accepts (history : List (SerialAction Job Outcome)) : List Job :=
  history.filterMap fun
    | .accept job => some job
    | _ => none

def calls (history : List (SerialAction Job Outcome)) : List Job :=
  history.filterMap fun
    | .call job => some job
    | _ => none

def stores (history : List (SerialAction Job Outcome)) : List (Job × Outcome) :=
  history.filterMap fun
    | .store job outcome => some (job, outcome)
    | _ => none

/-- Only an acceptance adds to the accepted jobs, and only a storing to the stored outcomes. -/
theorem accepts_append (other : ∀ job, action ≠ .accept job) :
    accepts (history ++ [action]) = accepts history := by
  rw [accepts, accepts, List.filterMap_append]
  cases action with
  | accept job => exact absurd rfl (other job)
  | call job => exact List.append_nil _
  | answer job outcome => exact List.append_nil _
  | store job outcome => exact List.append_nil _

theorem stores_append (other : ∀ job outcome, action ≠ .store job outcome) :
    stores (history ++ [action]) = stores history := by
  rw [stores, stores, List.filterMap_append]
  cases action with
  | accept job => exact List.append_nil _
  | call job => exact List.append_nil _
  | answer job outcome => exact List.append_nil _
  | store job outcome => exact absurd rfl (other job outcome)

/-- The job that is accepted and not called yet. -/
def waiting : Option (SerialStage Job Outcome) → List Job
  | some (.accepted job) => [job]
  | _ => []

variable (finished : List (Job × Outcome)) (stage : Option (SerialStage Job Outcome))

theorem stores_serialHistory : stores (serialHistory finished stage) = finished := by
  rw [serialHistory, stores, List.filterMap_append]
  have front : ((finished.flatMap execution).filterMap fun
      | SerialAction.store job outcome => some (job, outcome)
      | _ => none) = finished := by
    induction finished with
    | nil => rfl
    | cons head rest inductionHypothesis =>
      rw [List.flatMap_cons, List.filterMap_append, inductionHypothesis]
      rfl
  rw [front]
  rcases stage with _ | _ | _ | _ <;> exact List.append_nil finished

theorem accepts_serialHistory :
    accepts (serialHistory finished stage) =
      finished.map Prod.fst ++ (stage.map job).toList := by
  rw [serialHistory, accepts, List.filterMap_append]
  have front : ((finished.flatMap execution).filterMap fun
      | SerialAction.accept job => some job
      | _ => none) = finished.map Prod.fst := by
    induction finished with
    | nil => rfl
    | cons head rest inductionHypothesis =>
      rw [List.flatMap_cons, List.filterMap_append, inductionHypothesis]
      rfl
  rw [front]
  rcases stage with _ | _ | _ | _ <;> rfl

/-- The called jobs are the accepted ones but for one that waits. -/
theorem accepts_eq_calls_append (run : Run Advances none history stage) :
    accepts history = calls history ++ waiting stage := by
  have conserved : ∀ {first last : Option (SerialStage Job Outcome)}
      {history : List (SerialAction Job Outcome)}, Run Advances first history last →
      waiting first ++ accepts history = calls history ++ waiting last := by
    intro first last history run
    induction run with
    | done stage => exact List.append_nil _
    | next head _ inductionHypothesis =>
      cases head with
      | accept job => exact inductionHypothesis
      | call job => exact congrArg (job :: ·) inductionHypothesis
      | answer job outcome => exact inductionHypothesis
      | store job outcome => exact inductionHypothesis
  exact conserved run

/-- A job is unfinished exactly if fewer outcomes are stored than jobs accepted. -/
theorem isSome_iff_unstored (run : Run Advances none history stage) :
    stage.isSome = true ↔ (stores history).length < (accepts history).length := by
  obtain ⟨finished, same⟩ := exists_serialHistory run
  rw [show history = serialHistory finished stage from same, stores_serialHistory,
    accepts_serialHistory, List.length_append, List.length_map]
  cases stage <;> simp

/-- A free executor has called every accepted job and stored its outcome. -/
theorem finished_of_free (run : Run Advances none history none) :
    calls history = accepts history ∧ (stores history).map Prod.fst = accepts history := by
  obtain ⟨finished, same⟩ := exists_serialHistory run
  have whole : history = serialHistory finished none := same
  have nothing : (none : Option (SerialStage Job Outcome)).map job = none := rfl
  constructor
  · rw [accepts_eq_calls_append none run]
    exact (List.append_nil _).symm
  · rw [whole, stores_serialHistory, accepts_serialHistory, nothing, Option.toList_none,
      List.append_nil]

end SerialStage

/-! ### Parties -/

namespace Parties

variable {Party Stage : Type*} (stageOf : Party → Option Stage) {parties : List Party}
  {index : Nat} {party other : Party} {stage sole : Stage}

/-- A list around one of its elements. -/
theorem exists_around (found : parties[index]? = some party) :
    ∃ front back, parties = front ++ party :: back ∧ front.length = index := by
  obtain ⟨bound, rfl⟩ := List.getElem?_eq_some_iff.mp found
  refine ⟨parties.take index, parties.drop (index + 1), ?_,
    List.length_take_of_le (Nat.le_of_lt bound)⟩
  rw [← List.drop_eq_getElem_cons bound, List.take_append_drop]

variable {stageOf}

/-- A step of a party that has no stage before and after changes no stages. -/
theorem stages_set_of_none (found : parties[index]? = some party)
    (before : stageOf party = none) (after : stageOf other = none) :
    (parties.set index other).filterMap stageOf = parties.filterMap stageOf := by
  obtain ⟨front, back, rfl, rfl⟩ := exists_around found
  rw [List.set_append_right _ _ (Nat.le_refl _), Nat.sub_self, List.set_cons_zero,
    List.filterMap_append, List.filterMap_append, List.filterMap_cons_none before,
    List.filterMap_cons_none after]

/-- Around the party that has the only stage nobody has one. -/
theorem exists_around_sole (only : parties.filterMap stageOf = [sole])
    (found : parties[index]? = some party) (active : stageOf party = some stage) :
    stage = sole ∧ ∃ front back, parties = front ++ party :: back ∧ front.length = index ∧
      front.filterMap stageOf = [] ∧ back.filterMap stageOf = [] := by
  obtain ⟨front, back, rfl, rfl⟩ := exists_around found
  rw [List.filterMap_append, List.filterMap_cons_some active] at only
  rcases List.append_eq_singleton_iff.mp only with ⟨front_nil, rest⟩ | ⟨_, absurdity⟩
  · obtain ⟨rfl, back_nil⟩ := List.cons.inj rest
    exact ⟨rfl, front, back, rfl, rfl, front_nil, back_nil⟩
  · exact absurd absurdity (List.cons_ne_nil _ _)

/-- The only stage there is follows the steps of the party that has it. -/
theorem stages_set_of_sole (only : parties.filterMap stageOf = [sole])
    (found : parties[index]? = some party) (active : stageOf party = some stage) :
    (parties.set index other).filterMap stageOf = (stageOf other).toList := by
  obtain ⟨_, front, back, rfl, rfl, front_nil, back_nil⟩ := exists_around_sole only found active
  rw [List.set_append_right _ _ (Nat.le_refl _), Nat.sub_self, List.set_cons_zero,
    List.filterMap_append, front_nil, List.nil_append, List.filterMap_cons, back_nil]
  cases stageOf other <;> rfl

/-- Only one party has the only stage. -/
theorem index_unique (only : parties.filterMap stageOf = [sole])
    (found : parties[index]? = some party) (active : stageOf party = some stage) {second : Nat}
    {secondStage : Stage} (foundSecond : parties[second]? = some other)
    (activeSecond : stageOf other = some secondStage) : second = index := by
  obtain ⟨_, front, back, rfl, rfl, front_nil, back_nil⟩ := exists_around_sole only found active
  have idle : ∀ {side : List Party}, side.filterMap stageOf = [] → other ∉ side := by
    intro side nothing member
    have none := List.filterMap_eq_nil_iff.mp nothing other member
    rw [activeSecond] at none
    cases none
  rcases Nat.lt_trichotomy second front.length with before | same | behind
  · rw [List.getElem?_append_left before] at foundSecond
    exact absurd (List.mem_of_getElem? foundSecond) (idle front_nil)
  · exact same
  · obtain ⟨offset, rfl⟩ := Nat.exists_eq_add_of_lt behind
    rw [List.getElem?_append_right (by omega), show front.length + offset + 1 - front.length =
      offset + 1 by omega, List.getElem?_cons_succ] at foundSecond
    exact absurd (List.mem_of_getElem? foundSecond) (idle back_nil)

end Parties
