/-
This file is a library of objects that come, are used and go. What happens to them is
recorded as a sequence of events, each of which may be the birth, a use or the death of
one object. A life is lawful if the object is born once, is used only between its birth
and its death, and dies at most once.

A census says, beside the record, which objects are not born yet and which are present.
It is sound if every life so far is lawful, nothing has happened to the unborn, and those
present are alive. One rule for each kind of event says when a census continues another,
which keeps it sound and accounts for everybody who leaves by a death.
-/

import Mathlib.Data.List.Basic
import Mathlib.Tactic.Common

/-- What an event can be for an object. -/
inductive Moment
  | birth
  | use
  | death
  deriving DecidableEq

/-- How far the life of an object is. -/
inductive LifeStage
  | unborn
  | living
  | dead
  deriving DecidableEq

namespace LifeStage

/-- How a moment moves a life on; `none` if it must not happen. -/
def step : LifeStage → Moment → Option LifeStage
  | .unborn, .birth => some .living
  | .living, .use => some .living
  | .living, .death => some .dead
  | _, _ => none

variable {moments : List Moment}

/-- Nothing happens to the dead. -/
theorem foldlM_dead {stage : LifeStage} :
    moments.foldlM step .dead = some stage ↔ moments = [] ∧ stage = .dead := by
  cases moments with
  | nil => simp [eq_comm]
  | cons moment rest => simp [step]

theorem foldlM_living_living :
    moments.foldlM step .living = some .living ↔
      moments = List.replicate moments.length .use := by
  induction moments with
  | nil => simp
  | cons moment rest inductionHypothesis =>
    cases moment with
    | birth => simp [step, List.replicate_succ]
    | use => simpa [step, List.replicate_succ] using inductionHypothesis
    | death => simp [step, foldlM_dead, List.replicate_succ]

theorem foldlM_living_dead :
    moments.foldlM step .living = some .dead ↔
      ∃ uses, moments = List.replicate uses .use ++ [.death] := by
  induction moments with
  | nil => simp
  | cons moment rest inductionHypothesis =>
    cases moment with
    | birth =>
      refine iff_of_false (by simp [step]) ?_
      rintro ⟨uses, shape⟩
      cases uses <;> simp [List.replicate_succ] at shape
    | use =>
      have moved : (Moment.use :: rest).foldlM step .living = rest.foldlM step .living := by
        simp [step]
      rw [moved, inductionHypothesis]
      constructor
      · rintro ⟨uses, rfl⟩
        exact ⟨uses + 1, rfl⟩
      · rintro ⟨uses, shape⟩
        cases uses with
        | zero => simp at shape
        | succ before => exact ⟨before, List.cons.inj shape |>.2⟩
    | death =>
      have moved : (Moment.death :: rest).foldlM step .living = rest.foldlM step .dead := by
        simp [step]
      rw [moved, foldlM_dead]
      constructor
      · rintro ⟨rfl, _⟩
        exact ⟨0, rfl⟩
      · rintro ⟨uses, shape⟩
        cases uses with
        | zero => exact ⟨(List.cons.inj shape).2, rfl⟩
        | succ before => simp [List.replicate_succ] at shape

end LifeStage

/-- What an event is about: an object and what the event is for it. -/
abbrev Moments (Event Object : Type*) := Event → Option (Object × Moment)

namespace Moments

variable {Event Object : Type*} [DecidableEq Object] (moments : Moments Event Object)

/-- What an event is for one object. -/
def momentFor (object : Object) (event : Event) : Option Moment :=
  (moments event).bind fun about => if about.1 = object then some about.2 else none

/-- What has happened to an object, in order. -/
def life (object : Object) (log : List Event) : List Moment :=
  log.filterMap (moments.momentFor object)

/-- How far the life of an object is; `none` if it is not lawful. -/
def stageAfter (object : Object) (log : List Event) : Option LifeStage :=
  (moments.life object log).foldlM LifeStage.step .unborn

variable {moments} {object other : Object} {event : Event} {moment : Moment}
  {log events : List Event}

/-! ### The three lawful lives -/

theorem stageAfter_unborn_iff :
    moments.stageAfter object log = some .unborn ↔ moments.life object log = [] := by
  rw [stageAfter]
  cases moments.life object log with
  | nil => simp
  | cons moment rest =>
    refine iff_of_false (fun reached => ?_) (List.cons_ne_nil _ _)
    -- Nobody is unborn again.
    have never : ∀ (stage : LifeStage) (moments : List Moment), stage ≠ .unborn →
        moments.foldlM LifeStage.step stage ≠ some .unborn := by
      intro stage moments
      induction moments generalizing stage with
      | nil => simp
      | cons moment rest inductionHypothesis =>
        intro born
        cases stage <;> cases moment <;>
          simp [LifeStage.step] at born ⊢ <;> exact inductionHypothesis _ (by decide)
    cases moment <;> simp [LifeStage.step] at reached
    exact never _ _ (by decide) reached

theorem stageAfter_living_iff :
    moments.stageAfter object log = some .living ↔
      ∃ uses, moments.life object log = .birth :: List.replicate uses .use := by
  rw [stageAfter]
  cases moments.life object log with
  | nil => simp
  | cons moment rest =>
    cases moment with
    | birth =>
      have born : (Moment.birth :: rest).foldlM LifeStage.step .unborn =
          rest.foldlM LifeStage.step .living := by simp [LifeStage.step]
      rw [born, LifeStage.foldlM_living_living]
      constructor
      · intro shape
        exact ⟨_, congrArg (Moment.birth :: ·) shape⟩
      · rintro ⟨uses, shape⟩
        rw [(List.cons.inj shape).2, List.length_replicate]
    | use => simp [LifeStage.step]
    | death => simp [LifeStage.step]

theorem stageAfter_dead_iff :
    moments.stageAfter object log = some .dead ↔
      ∃ uses, moments.life object log = .birth :: (List.replicate uses .use ++ [.death]) := by
  rw [stageAfter]
  cases moments.life object log with
  | nil => simp
  | cons moment rest =>
    cases moment with
    | birth =>
      have born : (Moment.birth :: rest).foldlM LifeStage.step .unborn =
          rest.foldlM LifeStage.step .living := by simp [LifeStage.step]
      rw [born, LifeStage.foldlM_living_dead]
      simp only [List.cons.injEq, true_and]
    | use => simp [LifeStage.step]
    | death => simp [LifeStage.step]

/-! ### A record goes on -/

theorem life_append :
    moments.life object (log ++ events) =
      moments.life object log ++ moments.life object events := List.filterMap_append

theorem life_of_silent (silent : ∀ event ∈ events, moments.momentFor object event = none) :
    moments.life object events = [] := List.filterMap_eq_nil_iff.mpr silent

theorem momentFor_self (happens : moments event = some (object, moment)) :
    moments.momentFor object event = some moment := by
  rw [momentFor, happens, Option.bind_some, if_pos rfl]

theorem momentFor_of_ne (happens : moments event = some (object, moment))
    (different : other ≠ object) : moments.momentFor other event = none := by
  rw [momentFor, happens, Option.bind_some, if_neg (Ne.symm different)]

theorem momentFor_of_none (silent : moments event = none) :
    moments.momentFor object event = none := by
  rw [momentFor, silent, Option.bind_none]

/-- Events that are not about an object do not move its life. -/
theorem stageAfter_append_of_silent
    (silent : ∀ event ∈ events, moments.momentFor object event = none) :
    moments.stageAfter object (log ++ events) = moments.stageAfter object log := by
  rw [stageAfter, life_append, life_of_silent silent, List.append_nil, stageAfter]

/-- A moment of an object moves its life on, whatever follows that is not about it. -/
theorem stageAfter_append_cons (happens : moments event = some (object, moment))
    (silent : ∀ event ∈ events, moments.momentFor object event = none) :
    moments.stageAfter object (log ++ event :: events) =
      (moments.stageAfter object log).bind fun stage => stage.step moment := by
  have own : moments.life object (event :: events) = [moment] := by
    rw [life, List.filterMap_cons_some (momentFor_self happens)]
    exact congrArg _ (life_of_silent silent)
  rw [stageAfter, life_append, own, List.foldlM_append, stageAfter]
  cases (moments.life object log).foldlM LifeStage.step LifeStage.unborn with
  | none => rfl
  | some stage => simp

/-- The dead stay dead as long as the record is lawful. -/
theorem stageAfter_append_of_dead (dead : moments.stageAfter object log = some .dead)
    (lawful : moments.stageAfter object (log ++ events) ≠ none) :
    moments.stageAfter object (log ++ events) = some .dead := by
  rw [stageAfter] at dead
  obtain ⟨stage, reached⟩ := Option.ne_none_iff_exists'.mp lawful
  rw [stageAfter, life_append, List.foldlM_append, dead] at reached
  have rested := (LifeStage.foldlM_dead.mp reached).1
  rw [stageAfter, life_append, rested, List.append_nil, dead]

end Moments

/-- A record of events, with the objects that are not born yet and those that are present. -/
structure Census (Event Object : Type*) where
  log : List Event
  fresh : Object → Prop
  present : Object → Prop

namespace Census

variable {Event Object : Type*} [DecidableEq Object]

/-- Every life is lawful, nothing has happened to the unborn, and those present live. -/
structure Sound (moments : Moments Event Object) (census : Census Event Object) : Prop where
  lawful : ∀ object, moments.stageAfter object census.log ≠ none
  unborn : ∀ object, census.fresh object →
    moments.stageAfter object census.log = some .unborn
  living : ∀ object, census.present object →
    moments.stageAfter object census.log = some .living

/-- A census continues another: it stays sound, and who has left has died. -/
structure Continues (moments : Moments Event Object) (before after : Census Event Object) :
    Prop where
  log : ∃ events, after.log = before.log ++ events
  sound : before.Sound moments → after.Sound moments
  left : before.Sound moments → ∀ object, before.present object →
    after.present object ∨ moments.stageAfter object after.log = some .dead

variable {moments : Moments Event Object} {before between after : Census Event Object}
  {object : Object} {event : Event} {events : List Event}

/-- An empty record in which nobody is present is sound. -/
theorem sound_of_nil {census : Census Event Object} (log : census.log = [])
    (absent : ∀ object, ¬census.present object) : census.Sound moments := by
  have unborn : ∀ object, moments.stageAfter object census.log = some .unborn := by
    intro object
    rw [log]
    rfl
  refine ⟨fun object => ?_, fun object _ => unborn object, fun object here =>
    absurd here (absent object)⟩
  rw [unborn]
  exact Option.some_ne_none _

/-- Who lives, lives one of the three lawful lives. -/
theorem Sound.lives {census : Census Event Object} (sound : census.Sound moments)
    (object : Object) :
    moments.life object census.log = [] ∨
      (∃ uses, moments.life object census.log = .birth :: List.replicate uses .use) ∨
      ∃ uses, moments.life object census.log =
        .birth :: (List.replicate uses .use ++ [.death]) := by
  obtain ⟨stage, reached⟩ := Option.ne_none_iff_exists'.mp (sound.lawful object)
  cases stage with
  | unborn => exact .inl (Moments.stageAfter_unborn_iff.mp reached)
  | living => exact .inr (.inl (Moments.stageAfter_living_iff.mp reached))
  | dead => exact .inr (.inr (Moments.stageAfter_dead_iff.mp reached))

namespace Continues

theorem refl (census : Census Event Object) : Continues moments census census :=
  ⟨⟨[], (List.append_nil _).symm⟩, id, fun _ _ => .inl⟩

theorem trans (front : Continues moments before between)
    (back : Continues moments between after) : Continues moments before after where
  log := by
    obtain ⟨events, frontLog⟩ := front.log
    obtain ⟨others, backLog⟩ := back.log
    exact ⟨events ++ others, by rw [backLog, frontLog, List.append_assoc]⟩
  sound sound := back.sound (front.sound sound)
  left sound object present := by
    have middle := front.sound sound
    rcases front.left sound object present with stays | dead
    · exact back.left middle object stays
    · obtain ⟨others, backLog⟩ := back.log
      have lawful := (back.sound middle).lawful object
      rw [backLog] at lawful ⊢
      exact .inr (Moments.stageAfter_append_of_dead dead lawful)

/-- Nothing happens to any object. -/
theorem silent (log : after.log = before.log ++ events)
    (none : ∀ event ∈ events, moments event = none)
    (fresh : ∀ object, after.fresh object → before.fresh object)
    (present : ∀ object, after.present object ↔ before.present object) :
    Continues moments before after := by
  have same : ∀ object, moments.stageAfter object after.log =
      moments.stageAfter object before.log := by
    intro object
    rw [log]
    exact Moments.stageAfter_append_of_silent fun event member =>
      Moments.momentFor_of_none (none event member)
  refine ⟨⟨events, log⟩, fun sound => ⟨?_, ?_, ?_⟩, fun _ object here =>
    .inl ((present object).mpr here)⟩
  · intro object
    rw [same]
    exact sound.lawful object
  · intro object isFresh
    rw [same]
    exact sound.unborn object (fresh object isFresh)
  · intro object here
    rw [same]
    exact sound.living object ((present object).mp here)

/-- What an event about one object does to the stages. -/
theorem stages {moment : Moment} {stage : LifeStage}
    (happens : moments event = some (object, moment))
    (none : ∀ event ∈ events, moments event = none)
    (log : after.log = before.log ++ event :: events)
    (reached : (moments.stageAfter object before.log).bind (fun stage => stage.step moment) =
      some stage) (other : Object) :
    moments.stageAfter other after.log =
      if other = object then some stage else moments.stageAfter other before.log := by
  rw [log]
  split_ifs with same
  · rw [same, Moments.stageAfter_append_cons happens
      fun event member => Moments.momentFor_of_none (none event member), reached]
  · refine Moments.stageAfter_append_of_silent fun any member => ?_
    rcases List.mem_cons.mp member with rfl | later
    · exact Moments.momentFor_of_ne happens same
    · exact Moments.momentFor_of_none (none any later)

/-- An object is born; it may be present afterwards. -/
theorem birth (happens : moments event = some (object, .birth))
    (none : ∀ event ∈ events, moments event = none)
    (log : after.log = before.log ++ event :: events) (isFresh : before.fresh object)
    (fresh : ∀ other, after.fresh other → before.fresh other ∧ other ≠ object)
    (present : ∀ other, after.present other → before.present other ∨ other = object)
    (stays : ∀ other, before.present other → after.present other) :
    Continues moments before after := by
  refine ⟨⟨_, log⟩, fun sound => ?_, fun _ other here => .inl (stays other here)⟩
  have reached : (moments.stageAfter object before.log).bind (fun stage => stage.step .birth) =
      some .living := by
    rw [sound.unborn object isFresh]
    rfl
  have now := stages happens none log reached
  refine ⟨fun other => ?_, fun other stillFresh => ?_, fun other here => ?_⟩
  · rw [now]
    split_ifs
    · exact Option.some_ne_none _
    · exact sound.lawful other
  · rw [now, if_neg (fresh other stillFresh).2]
    exact sound.unborn other (fresh other stillFresh).1
  · rw [now]
    split_ifs with same
    · rfl
    · exact sound.living other ((present other here).resolve_right same)

/-- An object that is present is used. -/
theorem use (happens : moments event = some (object, .use))
    (none : ∀ event ∈ events, moments event = none)
    (log : after.log = before.log ++ event :: events) (here : before.present object)
    (fresh : ∀ other, after.fresh other → before.fresh other)
    (present : ∀ other, after.present other ↔ before.present other) :
    Continues moments before after := by
  refine ⟨⟨_, log⟩, fun sound => ?_, fun _ other isPresent =>
    .inl ((present other).mpr isPresent)⟩
  have alive := sound.living object here
  have reached : (moments.stageAfter object before.log).bind (fun stage => stage.step .use) =
      some .living := by
    rw [alive]
    rfl
  have now : ∀ other, moments.stageAfter other after.log =
      moments.stageAfter other before.log := by
    intro other
    rw [stages happens none log reached]
    split_ifs with same
    · rw [same, alive]
    · rfl
  refine ⟨fun other => ?_, fun other isFresh => ?_, fun other isPresent => ?_⟩
  · rw [now]
    exact sound.lawful other
  · rw [now]
    exact sound.unborn other (fresh other isFresh)
  · rw [now]
    exact sound.living other ((present other).mp isPresent)

/-- An object that is present dies. -/
theorem death (happens : moments event = some (object, .death))
    (none : ∀ event ∈ events, moments event = none)
    (log : after.log = before.log ++ event :: events) (here : before.present object)
    (fresh : ∀ other, after.fresh other → before.fresh other)
    (present : ∀ other, after.present other ↔ before.present other ∧ other ≠ object) :
    Continues moments before after := by
  have reached (sound : before.Sound moments) :
      (moments.stageAfter object before.log).bind (fun stage => stage.step .death) =
        some .dead := by
    rw [sound.living object here]
    rfl
  refine ⟨⟨_, log⟩, fun sound => ?_, fun sound other isPresent => ?_⟩
  · have now := stages happens none log (reached sound)
    refine ⟨fun other => ?_, fun other isFresh => ?_, fun other isPresent => ?_⟩
    · rw [now]
      split_ifs
      · exact Option.some_ne_none _
      · exact sound.lawful other
    · have unborn := sound.unborn other (fresh other isFresh)
      have different : other ≠ object := by
        rintro rfl
        rw [sound.living other here] at unborn
        cases unborn
      rw [now, if_neg different, unborn]
    · obtain ⟨wasPresent, different⟩ := (present other).mp isPresent
      rw [now, if_neg different]
      exact sound.living other wasPresent
  · by_cases same : other = object
    · rw [stages happens none log (reached sound), if_pos same]
      exact .inr rfl
    · exact .inl ((present other).mpr ⟨isPresent, same⟩)

end Continues

end Census
