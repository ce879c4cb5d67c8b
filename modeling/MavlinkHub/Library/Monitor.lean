/-
This file is a library of monitors: a value behind a mutex, with a condition variable.
Any number of threads call procedures of two kinds. One kind changes the value under the
mutex, and notifies all threads once it has unlocked it. The other kind waits for a
condition on the value: it tests the condition under the mutex, and as long as the test
fails it unlocks the mutex and blocks, in one step, until it is woken and has locked the
mutex again. A blocked thread may also be woken for no reason.

The invariant says of every thread what its place tells about the value. A blocked thread
has seen its condition fail. If the condition holds meanwhile, somebody has changed the
value since then, and that thread has not notified the others yet: no wake-up is lost,
although the notification comes after the mutex has been unlocked.
-/

import MavlinkHub.Library.Machine
import Mathlib.Logic.Function.Basic

namespace Monitor

/-- What a procedure does to the value it shares. -/
inductive Procedure (Value : Type*)
  | change (update : Value → Value)
  | await (condition : Value → Bool)

/-- Where a thread is in a procedure. -/
inductive Phase (Name : Type*)
  | outside
  /-- About to lock the mutex. -/
  | locking (name : Name)
  /-- With the mutex, about to change or to test the value. -/
  | inside (name : Name)
  /-- With the mutex, the value changed. -/
  | changed (name : Name)
  /-- The mutex unlocked, the others not notified. -/
  | notifying (name : Name)
  /-- With the mutex, the test failed. -/
  | refused (name : Name)
  /-- In the condition variable. -/
  | blocked (name : Name)
  /-- Woken, and about to lock the mutex again. -/
  | woken (name : Name)
  /-- With the mutex, the test passed. -/
  | admitted (name : Name)
  deriving DecidableEq

namespace Phase

variable {Name : Type*}

/-- The thread has the mutex. -/
def HasMutex : Phase Name → Prop
  | .inside _ | .changed _ | .refused _ | .admitted _ => True
  | _ => False

/-- The thread has changed the value and not notified the others. -/
def Unnotified : Phase Name → Prop
  | .changed _ | .notifying _ => True
  | _ => False

/-- A blocked thread is woken; the others do not notice. -/
def wake : Phase Name → Phase Name
  | .blocked name => .woken name
  | phase => phase

/-- The place at which a procedure has accessed the value. -/
def accessed {Value : Type*} (value : Value) (name : Name) : Procedure Value → Phase Name
  | .change _ => .changed name
  | .await condition => if condition value then .admitted name else .refused name

end Phase

/-- What the procedure makes of the value when it accesses it. -/
def Procedure.access {Value : Type*} (value : Value) : Procedure Value → Value
  | .change update => update value
  | .await _ => value

end Monitor

/-- A value, the thread that has its mutex, and where the threads are. -/
structure Monitor (Thread Name Value : Type*) where
  value : Value
  owner : Option Thread := none
  phase : Thread → Monitor.Phase Name := fun _ => .outside

namespace Monitor

open Transition

variable {Thread Name Value : Type*}

/-- What happens in a monitor. -/
inductive Event (Thread Name : Type*)
  /-- A procedure is called. -/
  | call (thread : Thread) (name : Name)
  | lock (thread : Thread) (name : Name)
  /-- The value is changed or tested. -/
  | access (thread : Thread) (name : Name)
  /-- After a change the mutex is unlocked, and then all are notified. -/
  | unlock (thread : Thread) (name : Name)
  | notifyAll (thread : Thread) (name : Name)
  /-- After a failed test the thread unlocks the mutex and blocks. -/
  | wait (thread : Thread) (name : Name)
  /-- It is woken for no reason. -/
  | wake (thread : Thread) (name : Name)
  /-- After a passed test the mutex is unlocked, and the procedure returns. -/
  | leave (thread : Thread) (name : Name)

variable (body : Name → Procedure Value) (monitor : Monitor Thread Name Value)

/-- When an event can happen. -/
def Enabled : Event Thread Name → Prop
  | .call thread _ => monitor.phase thread = .outside
  | .lock thread name => monitor.owner = none ∧
      (monitor.phase thread = .locking name ∨ monitor.phase thread = .woken name)
  | .access thread name => monitor.phase thread = .inside name
  | .unlock thread name => monitor.phase thread = .changed name
  | .notifyAll thread name => monitor.phase thread = .notifying name
  | .wait thread name => monitor.phase thread = .refused name
  | .wake thread name => monitor.phase thread = .blocked name
  | .leave thread name => monitor.phase thread = .admitted name

variable [DecidableEq Thread]

/-- A thread moves to another place. -/
def move (thread : Thread) (place : Phase Name) : Monitor Thread Name Value :=
  { monitor with phase := Function.update monitor.phase thread place }

/-- What an event leads to. -/
def next : Event Thread Name → Monitor Thread Name Value
  | .call thread name => monitor.move thread (.locking name)
  | .lock thread name => { monitor with owner := some thread }.move thread (.inside name)
  | .access thread name =>
    { monitor with value := (body name).access monitor.value }.move thread
      (.accessed monitor.value name (body name))
  | .unlock thread name => { monitor with owner := none }.move thread (.notifying name)
  | .notifyAll thread _ =>
    { monitor with phase := fun other => (monitor.phase other).wake }.move thread .outside
  | .wait thread name => { monitor with owner := none }.move thread (.blocked name)
  | .wake thread name => monitor.move thread (.woken name)
  | .leave thread _ => { monitor with owner := none }.move thread .outside

/-- A monitor with the given procedures. -/
def machine : Machine (Monitor Thread Name Value) (Event Thread Name) where
  enabled := Enabled
  next monitor event := monitor.next body event

instance [DecidableEq Name] : DecidablePred monitor.Enabled
  | .lock _ _ => inferInstanceAs (Decidable (_ = _ ∧ (_ = _ ∨ _ = _)))
  | .call _ _ | .access _ _ | .unlock _ _ | .notifyAll _ _ | .wait _ _ | .wake _ _ | .leave _ _ =>
    inferInstanceAs (Decidable (_ = _))

instance [DecidableEq Name] (event : Event Thread Name) :
    Decidable ((machine body).enabled monitor event) :=
  inferInstanceAs (Decidable (monitor.Enabled event))

/-! ### The invariant -/

variable {body monitor} {thread other : Thread} {name : Name} {place : Phase Name}
  {value : Value} {pending : Prop}

omit [DecidableEq Thread]

/-- The owner of the mutex is the one thread that has it. -/
def Exclusive (monitor : Monitor Thread Name Value) : Prop :=
  ∀ thread, monitor.owner = some thread ↔ (monitor.phase thread).HasMutex

/-- Somebody has changed the value and not notified the others. -/
def Pending (monitor : Monitor Thread Name Value) : Prop :=
  ∃ thread, (monitor.phase thread).Unnotified

/-- What a place tells about the value. -/
def Phase.Fits (body : Name → Procedure Value) (value : Value) (pending : Prop) :
    Phase Name → Prop
  | .changed name | .notifying name => ∃ update, body name = .change update
  | .refused name => ∀ condition, body name = .await condition → condition value = false
  | .admitted name => ∀ condition, body name = .await condition → condition value = true
  | .blocked name => ∀ condition, body name = .await condition → condition value = true → pending
  | _ => True

/-- The invariant of a monitor. -/
structure Sound (body : Name → Procedure Value) (monitor : Monitor Thread Name Value) :
    Prop where
  exclusive : monitor.Exclusive
  fits : ∀ thread, (monitor.phase thread).Fits body monitor.value monitor.Pending

theorem sound_initial (value : Value) : ({ value } : Monitor Thread Name Value).Sound body :=
  ⟨fun _ => ⟨fun owned => (by cases owned), False.elim⟩, fun _ => trivial⟩

theorem Exclusive.eq (exclusive : monitor.Exclusive) (has : (monitor.phase thread).HasMutex)
    (alsoHas : (monitor.phase other).HasMutex) : other = thread := by
  have owned := (exclusive thread).mpr has
  have alsoOwned := (exclusive other).mpr alsoHas
  exact Option.some.inj (alsoOwned.symm.trans owned)

theorem Phase.Fits.mono {former : Prop} (fits : place.Fits body value former)
    (implies : former → pending) : place.Fits body value pending := by
  cases place with
  | blocked name => exact fun condition awaits holds => implies (fits condition awaits holds)
  | _ => exact fits

theorem Phase.fits_accessed (body : Name → Procedure Value) (value : Value) (name : Name)
    (pending : Prop) :
    (Phase.accessed value name (body name)).Fits body ((body name).access value) pending := by
  cases does : body name with
  | change update => exact ⟨update, does⟩
  | await condition =>
    simp only [Phase.accessed, Procedure.access]
    by_cases holds : condition value = true
    · rw [if_pos holds]
      intro other awaits
      rw [does] at awaits
      cases awaits
      exact holds
    · rw [if_neg holds]
      intro other awaits
      rw [does] at awaits
      cases awaits
      exact Bool.eq_false_iff.mpr holds

/-- If all are notified, nobody is blocked any more. -/
theorem Phase.Fits.wake (fits : place.Fits body value pending) {later : Prop} :
    place.wake.Fits body value later := by
  cases place with
  | blocked name => exact trivial
  | _ => exact fits

theorem Phase.hasMutex_wake : place.wake.HasMutex ↔ place.HasMutex := by
  cases place <;> exact Iff.rfl

theorem Phase.hasMutex_accessed (value : Value) (procedure : Procedure Value) :
    (Phase.accessed value name procedure).HasMutex := by
  unfold Phase.accessed
  split
  · exact trivial
  · split <;> exact trivial

/-! ### Steps -/

variable [DecidableEq Thread]

theorem next_access : monitor.next body (.access thread name) =
    { monitor with value := (body name).access monitor.value }.move thread
      (.accessed monitor.value name (body name)) := rfl

theorem next_notifyAll : monitor.next body (.notifyAll thread name) =
    { monitor with phase := fun other => (monitor.phase other).wake }.move thread .outside := rfl

theorem phase_move_self : (monitor.move thread place).phase thread = place :=
  Function.update_self _ _ _

theorem phase_move_of_ne (different : other ≠ thread) :
    (monitor.move thread place).phase other = monitor.phase other :=
  Function.update_of_ne different _ _

/-- A thread moves without the mutex. -/
theorem Exclusive.stay (exclusive : monitor.Exclusive)
    (before : ¬(monitor.phase thread).HasMutex) (after : ¬place.HasMutex) :
    (monitor.move thread place).Exclusive := by
  intro other
  by_cases same : other = thread
  · rw [same, phase_move_self]
    exact (exclusive thread).trans (iff_of_false before after)
  · rw [phase_move_of_ne same]
    exact exclusive other

/-- A thread moves with the mutex. -/
theorem Exclusive.keep (exclusive : monitor.Exclusive)
    (before : (monitor.phase thread).HasMutex) (after : place.HasMutex) :
    (monitor.move thread place).Exclusive := by
  intro other
  by_cases same : other = thread
  · rw [same, phase_move_self]
    exact (exclusive thread).trans (iff_of_true before after)
  · rw [phase_move_of_ne same]
    exact exclusive other

theorem Exclusive.take (exclusive : monitor.Exclusive) (free : monitor.owner = none)
    (after : place.HasMutex) :
    ({ monitor with owner := some thread }.move thread place).Exclusive := by
  intro other
  by_cases same : other = thread
  · rw [same, phase_move_self]
    exact iff_of_true rfl after
  · rw [phase_move_of_ne same]
    refine iff_of_false (fun owned => same (Option.some.inj owned).symm) fun has => ?_
    have owned := (exclusive other).mpr has
    rw [free] at owned
    cases owned

theorem Exclusive.give (exclusive : monitor.Exclusive)
    (before : (monitor.phase thread).HasMutex) (after : ¬place.HasMutex) :
    ({ monitor with owner := none }.move thread place).Exclusive := by
  intro other
  by_cases same : other = thread
  · rw [same, phase_move_self]
    exact iff_of_false (fun owned => by cases owned) after
  · rw [phase_move_of_ne same]
    exact iff_of_false (fun owned => by cases owned) fun has => same (exclusive.eq before has)

/-- A thread moves and leaves the value alone. If it had others to notify, it still has. -/
theorem Sound.move (sound : monitor.Sound body) {owner : Option Thread}
    (exclusive : ({ monitor with owner }.move thread place).Exclusive)
    (kept : (monitor.phase thread).Unnotified → place.Unnotified)
    (fits : ∀ pending, place.Fits body monitor.value pending) :
    ({ monitor with owner }.move thread place).Sound body := by
  refine ⟨exclusive, fun other => ?_⟩
  by_cases same : other = thread
  · rw [same, phase_move_self]
    exact fits _
  · rw [phase_move_of_ne same]
    refine (sound.fits other).mono ?_
    rintro ⟨notifier, unnotified⟩
    by_cases moved : notifier = thread
    · refine ⟨thread, ?_⟩
      rw [phase_move_self]
      exact kept (moved ▸ unnotified)
    · refine ⟨notifier, ?_⟩
      rwa [phase_move_of_ne moved]

/-- The thread that has the mutex accesses the value. No other thread has tested it, and if it is
changed, the others are to be notified. -/
theorem Sound.access (sound : monitor.Sound body)
    (inside : monitor.phase thread = .inside name) :
    (monitor.next body (.access thread name)).Sound body := by
  have has : (monitor.phase thread).HasMutex := by
    rw [inside]
    exact trivial
  have exclusive : (monitor.next body (.access thread name)).Exclusive :=
    sound.exclusive.keep has (Phase.hasMutex_accessed _ _)
  refine ⟨exclusive, fun other => ?_⟩
  rw [next_access]
  by_cases same : other = thread
  · rw [same, phase_move_self]
    exact Phase.fits_accessed body monitor.value name _
  · rw [phase_move_of_ne same]
    have without : ¬(monitor.phase other).HasMutex := fun alsoHas =>
      same (sound.exclusive.eq has alsoHas)
    have fits := sound.fits other
    cases phase : monitor.phase other with
    | refused refusedName =>
      rw [phase] at without
      exact absurd trivial without
    | admitted admittedName =>
      rw [phase] at without
      exact absurd trivial without
    | blocked blockedName =>
      rw [phase] at fits
      intro condition awaits holds
      cases does : body name with
      | change update =>
        refine ⟨thread, ?_⟩
        rw [phase_move_self, Phase.accessed]
        exact trivial
      | await tested =>
        have unchanged : condition monitor.value = true := by
          have later : condition ((body name).access monitor.value) = true := holds
          rw [does] at later
          exact later
        obtain ⟨notifier, unnotified⟩ := fits condition awaits unchanged
        refine ⟨notifier, ?_⟩
        have elsewhere : notifier ≠ thread := by
          rintro rfl
          rw [inside] at unnotified
          exact unnotified
        rwa [phase_move_of_ne elsewhere]
    | changed changedName =>
      rw [phase] at fits
      exact fits
    | notifying notifyingName =>
      rw [phase] at fits
      exact fits
    | _ => exact trivial

theorem Sound.notifyAll (sound : monitor.Sound body)
    (notifying : monitor.phase thread = .notifying name) :
    (monitor.next body (.notifyAll thread name)).Sound body := by
  have woken : { monitor with phase := fun other => (monitor.phase other).wake }.Exclusive :=
    fun other => (sound.exclusive other).trans Phase.hasMutex_wake.symm
  have without : ¬(monitor.phase thread).wake.HasMutex := by
    rw [notifying]
    exact id
  refine ⟨woken.stay without id, fun other => ?_⟩
  rw [next_notifyAll]
  by_cases same : other = thread
  · rw [same, phase_move_self]
    exact trivial
  · rw [phase_move_of_ne same]
    exact (sound.fits other).wake

/-- Every event keeps the invariant. -/
theorem Sound.next (sound : monitor.Sound body) (event : Event Thread Name)
    (enabled : monitor.Enabled event) : (monitor.next body event).Sound body := by
  have exclusive := sound.exclusive
  cases event with
  | call thread name =>
    have outside : monitor.phase thread = .outside := enabled
    refine sound.move (exclusive.stay ?_ id) ?_ fun _ => trivial
    · rw [outside]
      exact id
    · rw [outside]
      exact False.elim
  | lock thread name =>
    obtain ⟨free, there⟩ := enabled
    refine sound.move (exclusive.take free trivial) ?_ fun _ => trivial
    rcases there with there | there <;> rw [there] <;> exact False.elim
  | access thread name => exact sound.access enabled
  | unlock thread name =>
    have changed : monitor.phase thread = .changed name := enabled
    have fits := sound.fits thread
    rw [changed] at fits
    refine sound.move (exclusive.give ?_ id) (fun _ => trivial) fun _ => fits
    rw [changed]
    exact trivial
  | notifyAll thread name => exact sound.notifyAll enabled
  | wait thread name =>
    have refused : monitor.phase thread = .refused name := enabled
    have fits := sound.fits thread
    rw [refused] at fits
    refine sound.move (exclusive.give ?_ id) ?_ fun _ condition awaits holds => ?_
    · rw [refused]
      exact trivial
    · rw [refused]
      exact False.elim
    · rw [fits condition awaits] at holds
      cases holds
  | wake thread name =>
    have blocked : monitor.phase thread = .blocked name := enabled
    refine sound.move (exclusive.stay ?_ id) ?_ fun _ => trivial
    · rw [blocked]
      exact id
    · rw [blocked]
      exact False.elim
  | leave thread name =>
    have admitted : monitor.phase thread = .admitted name := enabled
    refine sound.move (exclusive.give ?_ id) ?_ fun _ => trivial
    · rw [admitted]
      exact trivial
    · rw [admitted]
      exact False.elim

/-! ### What holds after a run -/

variable {first last : Monitor Thread Name Value} {event : Event Thread Name}
  {events : List (Event Thread Name)} {condition : Value → Bool}

theorem Sound.run (sound : first.Sound body)
    (run : (machine body).Runs (fun _ _ => True) first events last) : last.Sound body :=
  run.invariant (Sound body) (fun _ event sound enabled _ => sound.next event enabled) sound

omit [DecidableEq Thread] in
/-- A thread leaves with its condition fulfilled. -/
theorem Sound.fulfilled (sound : monitor.Sound body) (awaits : body name = .await condition)
    (leaves : monitor.Enabled (.leave thread name)) : condition monitor.value = true := by
  have admitted : monitor.phase thread = .admitted name := leaves
  have fits := sound.fits thread
  rw [admitted] at fits
  exact fits condition awaits

omit [DecidableEq Thread] in
/-- A thread that is blocked although its condition holds is to be notified. -/
theorem Sound.pending_of_blocked (sound : monitor.Sound body)
    (awaits : body name = .await condition)
    (blocked : monitor.phase thread = .blocked name) (holds : condition monitor.value = true) :
    monitor.Pending := by
  have fits := sound.fits thread
  rw [blocked] at fits
  exact fits condition awaits holds

/-- Only the access of a procedure that changes the value changes it. -/
theorem value_next (body : Name → Procedure Value) (monitor : Monitor Thread Name Value)
    (event : Event Thread Name) : (monitor.next body event).value = monitor.value ∨
      ∃ thread name update, event = .access thread name ∧ body name = .change update ∧
        (monitor.next body event).value = update monitor.value := by
  cases event with
  | access thread name =>
    rw [next_access]
    cases does : body name with
    | change update => exact .inr ⟨thread, name, update, rfl, does, rfl⟩
    | await condition => exact .inl rfl
  | _ => exact .inl rfl

/-- What every change keeps holds of the value after a run. -/
theorem holds_value_of_run (holds : Value → Prop)
    (kept : ∀ name update value, body name = .change update → holds value →
      holds (update value))
    (run : (machine body).Runs (fun _ _ => True) first events last) (start : holds first.value) :
    holds last.value := by
  refine run.invariant (fun monitor => holds monitor.value)
    (fun monitor event holdsBefore _ _ => ?_) start
  rcases value_next body monitor event with same | ⟨_, name, update, _, does, changed⟩
  · exact same.symm ▸ holdsBefore
  · show holds (monitor.next body event).value
    rw [changed]
    exact kept name update monitor.value does holdsBefore

/-- If the value has changed in a run, some thread has changed it. -/
theorem exists_access_of_value_ne (run : (machine body).Runs (fun _ _ => True) first events last)
    (changed : last.value ≠ first.value) :
    ∃ thread name update, .access thread name ∈ events ∧ body name = .change update := by
  induction run with
  | done state => exact absurd rfl changed
  | @next before middle after event rest head _ inductionHypothesis =>
    obtain ⟨_, _, rfl⟩ := head
    rcases value_next body before event with same | ⟨thread, name, update, rfl, does, _⟩
    · have later : after.value ≠ (before.next body event).value := by
        rw [same]
        exact changed
      obtain ⟨thread, name, update, member, does⟩ := inductionHypothesis later
      exact ⟨thread, name, update, List.mem_cons_of_mem event member, does⟩
    · exact ⟨thread, name, update, List.mem_cons_self, does⟩

end Monitor
