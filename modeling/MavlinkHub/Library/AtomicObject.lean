/-
This file is a library of atomic objects, which say what a monitor is for. A thread calls a
procedure, the procedure takes effect in one step, and it returns; a procedure that waits
takes effect when its condition holds. Nothing is left of the mutex and the condition
variable.

A monitor is an atomic object with the same calls and returns. The effect of a procedure is
its access to the value, unless that is a test that fails. And a monitor serves its callers:
it is stuck only if all that are in it wait for conditions that do not hold, and when what
they wait for holds for good, each comes out after a few moves of its own.
-/

import MavlinkHub.Library.Monitor

/-- Where a thread is in a procedure of an atomic object. -/
inductive AtomicPhase (Name : Type*)
  | outside
  | called (name : Name)
  | performed (name : Name)

/-- A value, and where the threads are. -/
structure AtomicObject (Thread Name Value : Type*) where
  value : Value
  phase : Thread → AtomicPhase Name := fun _ => .outside

namespace AtomicObject

open Monitor (Procedure)

variable {Thread Name Value : Type*}

/-- What happens in an atomic object. -/
inductive Event (Thread Name : Type*)
  | call (thread : Thread) (name : Name)
  | perform (thread : Thread) (name : Name)
  | finish (thread : Thread) (name : Name)

variable (body : Name → Procedure Value) (object : AtomicObject Thread Name Value)

/-- A procedure that waits takes effect only if its condition holds. -/
def Admits (value : Value) : Procedure Value → Prop
  | .change _ => True
  | .await condition => condition value = true

/-- When an event can happen. -/
def Enabled : Event Thread Name → Prop
  | .call thread _ => object.phase thread = .outside
  | .perform thread name => object.phase thread = .called name ∧ Admits object.value (body name)
  | .finish thread name => object.phase thread = .performed name

variable [DecidableEq Thread]

/-- What an event leads to. -/
def next : Event Thread Name → AtomicObject Thread Name Value
  | .call thread name =>
    { object with phase := Function.update object.phase thread (.called name) }
  | .perform thread name =>
    { value := (body name).access object.value
      phase := Function.update object.phase thread (.performed name) }
  | .finish thread _ => { object with phase := Function.update object.phase thread .outside }

/-- An atomic object with the given procedures. -/
def machine : Machine (AtomicObject Thread Name Value) (Event Thread Name) where
  enabled := Enabled body
  next object event := object.next body event

end AtomicObject

namespace Monitor

open Transition

variable {Thread Name Value : Type*}

/-! ### A monitor as an atomic object -/

/-- What a caller sees: a call of a procedure, or the return from it. -/
inductive Shown (Thread Name : Type*)
  | called (thread : Thread) (name : Name)
  | returned (thread : Thread) (name : Name)

/-- A procedure that changes the value returns from the notification. -/
def Event.shows : Event Thread Name → Option (Shown Thread Name)
  | .call thread name => some (.called thread name)
  | .notifyAll thread name | .leave thread name => some (.returned thread name)
  | _ => none

def shownBy : AtomicObject.Event Thread Name → Option (Shown Thread Name)
  | .call thread name => some (.called thread name)
  | .finish thread name => some (.returned thread name)
  | .perform _ _ => none

/-- A procedure has taken effect once it has changed the value or passed its test. -/
def Phase.atomic : Phase Name → AtomicPhase Name
  | .outside => .outside
  | .locking name | .inside name | .refused name | .blocked name | .woken name => .called name
  | .changed name | .notifying name | .admitted name => .performed name

/-- The atomic object that a monitor is. -/
def atomic (monitor : Monitor Thread Name Value) : AtomicObject Thread Name Value where
  value := monitor.value
  phase thread := (monitor.phase thread).atomic

variable {body : Name → Procedure Value} {monitor : Monitor Thread Name Value}
  {thread : Thread} {name : Name} {place : Phase Name}

theorem Phase.atomic_wake : place.wake.atomic = place.atomic := by
  cases place <;> rfl

variable [DecidableEq Thread]

/-- Where a thread moves, the object sees it move. -/
theorem atomic_move (monitor : Monitor Thread Name Value) (thread : Thread)
    (place : Phase Name) : (monitor.move thread place).atomic =
      { monitor.atomic with
        phase := Function.update monitor.atomic.phase thread place.atomic } := by
  refine congrArg (AtomicObject.mk monitor.value) (funext fun other => ?_)
  by_cases same : other = thread
  · subst same
    rw [Function.update_self]
    exact congrArg Phase.atomic phase_move_self
  · rw [Function.update_of_ne same]
    exact congrArg Phase.atomic (phase_move_of_ne same)

/-- A move that the object does not notice. -/
theorem atomic_move_of_eq (same : (monitor.phase thread).atomic = place.atomic)
    (owner : Option Thread) :
    ({ monitor with owner }.move thread place).atomic = monitor.atomic := by
  have stays : Function.update monitor.atomic.phase thread place.atomic = monitor.atomic.phase := by
    rw [← same]
    exact Function.update_eq_self thread monitor.atomic.phase
  exact (atomic_move { monitor with owner } thread place).trans
    (congrArg (AtomicObject.mk monitor.value) stays)

/-- The access of a procedure is its effect, or a test that fails. -/
theorem atomic_access (inside : monitor.phase thread = .inside name) :
    (AtomicObject.Admits monitor.value (body name) →
        (monitor.next body (.access thread name)).atomic =
          monitor.atomic.next body (.perform thread name)) ∧
      (¬AtomicObject.Admits monitor.value (body name) →
        (monitor.next body (.access thread name)).atomic = monitor.atomic) := by
  have moved := atomic_move { monitor with value := (body name).access monitor.value } thread
    (.accessed monitor.value name (body name))
  rw [next_access]
  cases does : body name with
  | change update =>
    rw [does] at moved
    refine ⟨fun _ => moved.trans ?_, fun refused => absurd trivial refused⟩
    rw [AtomicObject.next, does]
    rfl
  | await condition =>
    rw [does] at moved
    refine ⟨fun holds => moved.trans ?_, fun refused => ?_⟩
    · rw [AtomicObject.next, does, Phase.accessed,
        if_pos (show condition monitor.value = true from holds)]
      rfl
    · rw [Phase.accessed, if_neg (show ¬condition monitor.value = true from refused)]
      refine atomic_move_of_eq ?_ monitor.owner
      rw [inside]
      rfl

/-- Every event of a monitor is one of the atomic object, or nothing that it notices. -/
theorem atomic_next (event : Event Thread Name) (enabled : monitor.Enabled event) :
    ∃ moves, (AtomicObject.machine body).Runs (fun _ _ => True) monitor.atomic moves
        (monitor.next body event).atomic ∧
      moves.filterMap shownBy = event.shows.toList := by
  have unnoticed (same : (monitor.next body event).atomic = monitor.atomic)
      (silent : event.shows = none) :
      ∃ moves, (AtomicObject.machine body).Runs (fun _ _ => True) monitor.atomic moves
          (monitor.next body event).atomic ∧
        moves.filterMap shownBy = event.shows.toList := by
    rw [same, silent]
    exact ⟨[], .done _, rfl⟩
  cases event with
  | call thread name =>
    have outside : monitor.phase thread = .outside := enabled
    refine ⟨[.call thread name], .single ⟨?_, trivial, atomic_move monitor thread _⟩, rfl⟩
    show (monitor.phase thread).atomic = .outside
    rw [outside]
    rfl
  | lock thread name =>
    refine unnoticed (atomic_move_of_eq ?_ _) rfl
    rcases enabled.2 with there | there <;> rw [there] <;> rfl
  | access thread name =>
    have inside : monitor.phase thread = .inside name := enabled
    obtain ⟨performs, refuses⟩ := @atomic_access _ _ _ body _ _ _ _ inside
    by_cases admits : AtomicObject.Admits monitor.value (body name)
    · refine ⟨[.perform thread name], .single ⟨⟨?_, admits⟩, trivial, performs admits⟩, rfl⟩
      show (monitor.phase thread).atomic = .called name
      rw [inside]
      rfl
    · exact unnoticed (refuses admits) rfl
  | unlock thread name =>
    refine unnoticed (atomic_move_of_eq ?_ _) rfl
    rw [show monitor.phase thread = .changed name from enabled]
    rfl
  | notifyAll thread name =>
    have notifying : monitor.phase thread = .notifying name := enabled
    have woken : { monitor with phase := fun other => (monitor.phase other).wake }.atomic =
        monitor.atomic :=
      congrArg (AtomicObject.mk monitor.value) (funext fun _ => Phase.atomic_wake)
    have moved := atomic_move { monitor with phase := fun other => (monitor.phase other).wake }
      thread .outside
    rw [woken] at moved
    refine ⟨[.finish thread name], .single ⟨?_, trivial, moved⟩, rfl⟩
    show (monitor.phase thread).atomic = .performed name
    rw [notifying]
    rfl
  | wait thread name =>
    refine unnoticed (atomic_move_of_eq ?_ _) rfl
    rw [show monitor.phase thread = .refused name from enabled]
    rfl
  | wake thread name =>
    refine unnoticed (atomic_move_of_eq ?_ monitor.owner) rfl
    rw [show monitor.phase thread = .blocked name from enabled]
    rfl
  | leave thread name =>
    have admitted : monitor.phase thread = .admitted name := enabled
    refine ⟨[.finish thread name], .single ⟨?_, trivial,
      atomic_move { monitor with owner := none } thread .outside⟩, rfl⟩
    show (monitor.phase thread).atomic = .performed name
    rw [admitted]
    rfl

/-- Every run of a monitor is a run of the atomic object, with the same calls and returns. -/
theorem atomic_run {first last : Monitor Thread Name Value} {events : List (Event Thread Name)}
    (run : (machine body).Runs (fun _ _ => True) first events last) :
    ∃ moves, (AtomicObject.machine body).Runs (fun _ _ => True) first.atomic moves last.atomic ∧
      moves.filterMap shownBy = events.filterMap Event.shows := by
  refine run.simulated atomic Event.shows shownBy (fun _ => True) (fun _ _ _ _ _ => trivial)
    (fun before event after _ step => ?_) trivial
  obtain ⟨enabled, _, rfl⟩ := step
  exact atomic_next event enabled

/-! ### Serving the callers -/

/-- Only a procedure that waits is refused or blocked. -/
def Phase.Waits (body : Name → Procedure Value) : Phase Name → Prop
  | .refused name | .blocked name => ∃ condition, body name = .await condition
  | _ => True

def WaitsOnly (body : Name → Procedure Value) (monitor : Monitor Thread Name Value) : Prop :=
  ∀ thread, (monitor.phase thread).Waits body

/-- The thread is blocked for a condition that does not hold. -/
def Waiting (body : Name → Procedure Value) (monitor : Monitor Thread Name Value)
    (thread : Thread) : Prop :=
  ∃ name condition, monitor.phase thread = .blocked name ∧ body name = .await condition ∧
    condition monitor.value = false

/-- A move that goes on with a call. Nobody counts on a wake-up for no reason. -/
def Event.goesOn : Event Thread Name → Prop
  | .call _ _ | .wake _ _ => False
  | _ => True

omit [DecidableEq Thread] in
theorem waitsOnly_initial (value : Value) :
    ({ value } : Monitor Thread Name Value).WaitsOnly body := fun _ => trivial

theorem WaitsOnly.move (waits : monitor.WaitsOnly body) {value : Value} {owner : Option Thread}
    (fits : place.Waits body) :
    ({ monitor with value, owner }.move thread place).WaitsOnly body := by
  intro other
  by_cases same : other = thread
  · subst same
    rw [phase_move_self]
    exact fits
  · rw [phase_move_of_ne same]
    exact waits other

theorem WaitsOnly.next (waits : monitor.WaitsOnly body) (event : Event Thread Name)
    (enabled : monitor.Enabled event) : (monitor.next body event).WaitsOnly body := by
  cases event with
  | call | lock | unlock | wake | leave => exact waits.move trivial
  | access thread name =>
    refine waits.move ?_
    cases does : body name with
    | change update => exact trivial
    | await condition =>
      rw [Phase.accessed]
      split_ifs
      · exact trivial
      · exact ⟨condition, does⟩
  | notifyAll thread name =>
    have woken :
        { monitor with phase := fun other => (monitor.phase other).wake }.WaitsOnly body := by
      intro other
      have before := waits other
      show (monitor.phase other).wake.Waits body
      cases phase : monitor.phase other with
      | refused refusedName => rwa [phase] at before
      | _ => exact trivial
    exact woken.move trivial
  | wait thread name =>
    have before := waits thread
    rw [show monitor.phase thread = .refused name from enabled] at before
    exact waits.move before

omit [DecidableEq Thread] in
/-- A monitor is stuck only if all that are in it wait for conditions that do not hold. -/
theorem Sound.goesOn (sound : monitor.Sound body) (waits : monitor.WaitsOnly body)
    (inside : monitor.phase thread ≠ .outside) (free : ¬monitor.Waiting body thread) :
    ∃ event, event.goesOn ∧ monitor.Enabled event := by
  cases owned : monitor.owner with
  | some owner =>
    have has := (sound.exclusive owner).mp owned
    cases phase : monitor.phase owner with
    | inside name => exact ⟨.access owner name, trivial, phase⟩
    | changed name => exact ⟨.unlock owner name, trivial, phase⟩
    | refused name => exact ⟨.wait owner name, trivial, phase⟩
    | admitted name => exact ⟨.leave owner name, trivial, phase⟩
    | _ =>
      rw [phase] at has
      exact has.elim
  | none =>
    have without (other : Thread) : ¬(monitor.phase other).HasMutex := by
      intro has
      have contrary := (sound.exclusive other).mpr has
      rw [owned] at contrary
      cases contrary
    cases phase : monitor.phase thread with
    | outside => exact absurd phase inside
    | locking name => exact ⟨.lock thread name, trivial, owned, .inl phase⟩
    | woken name => exact ⟨.lock thread name, trivial, owned, .inr phase⟩
    | notifying name => exact ⟨.notifyAll thread name, trivial, phase⟩
    | blocked name =>
      have blocks := waits thread
      rw [phase] at blocks
      obtain ⟨condition, awaits⟩ := blocks
      have holds : condition monitor.value = true := by
        by_contra fails
        exact free ⟨name, condition, phase, awaits, Bool.eq_false_iff.mpr fails⟩
      -- The condition holds, so that somebody is about to notify.
      obtain ⟨notifier, unnotified⟩ := sound.pending_of_blocked awaits phase holds
      cases notifies : monitor.phase notifier with
      | notifying other => exact ⟨.notifyAll notifier other, trivial, notifies⟩
      | changed other =>
        refine absurd ?_ (without notifier)
        rw [notifies]
        exact trivial
      | _ =>
        rw [notifies] at unnotified
        exact unnotified.elim
    | _ =>
      refine absurd ?_ (without thread)
      rw [phase]
      exact trivial

/-! ### How long a call takes -/

/-- How many moves a thread has before it at most, if no test fails any more. -/
def Phase.ahead : Phase Name → Nat
  | .outside => 0
  | .notifying _ | .admitted _ => 1
  | .changed _ => 2
  | .inside _ => 3
  | .locking _ | .woken _ => 4
  | .blocked _ => 5
  | .refused _ => 6

/-- The thread goes on with a call of its own, also by a wake-up for no reason. -/
def Event.ofThread (thread : Thread) : Event Thread Name → Bool
  | .call _ _ => false
  | .lock other _ | .access other _ | .unlock other _ | .notifyAll other _ | .wait other _
  | .wake other _ | .leave other _ => other = thread

def Event.callOf (thread : Thread) : Event Thread Name → Bool
  | .call other _ => other = thread
  | _ => false

/-- Every condition that a procedure waits for holds. -/
def Settled (body : Name → Procedure Value) (value : Value) : Prop :=
  ∀ name condition, body name = .await condition → condition value = true

theorem Phase.ahead_le (place : Phase Name) : place.ahead ≤ 6 := by
  cases place <;> simp only [Phase.ahead] <;> omega

theorem Phase.ahead_wake_le : place.wake.ahead ≤ place.ahead := by
  cases place <;> simp only [Phase.wake, Phase.ahead] <;> omega

theorem Phase.ahead_accessed_le {value : Value} (settled : Settled body value) :
    (Phase.accessed value name (body name)).ahead ≤ 2 := by
  cases does : body name with
  | change update => exact Nat.le_refl 2
  | await condition =>
    rw [Phase.accessed, if_pos (settled name condition does)]
    exact Nat.le_succ 1

/-- What a move spends of the way before a thread, or adds to it, is the mover's own. -/
theorem ahead_move_le (monitor : Monitor Thread Name Value) {mover : Thread} {place : Phase Name}
    (spent gained : Nat) (less : place.ahead + spent ≤ (monitor.phase mover).ahead + gained)
    (thread : Thread) :
    ((monitor.move mover place).phase thread).ahead +
        (if decide (mover = thread) then spent else 0) ≤
      (monitor.phase thread).ahead + (if decide (mover = thread) then gained else 0) := by
  by_cases same : mover = thread
  · subst same
    rw [phase_move_self, if_pos (decide_eq_true rfl), if_pos (decide_eq_true rfl)]
    exact less
  · refine Nat.le_of_eq ?_
    rw [phase_move_of_ne (Ne.symm same), if_neg (mt of_decide_eq_true same),
      if_neg (mt of_decide_eq_true same)]

/-- While no test fails, each move of a thread shortens the way before it. Only a call of its own
lengthens it. -/
theorem ahead_next_le (settled : Settled body monitor.value) (event : Event Thread Name)
    (enabled : monitor.Enabled event) (thread : Thread) :
    ((monitor.next body event).phase thread).ahead + (if event.ofThread thread then 1 else 0) ≤
      (monitor.phase thread).ahead + (if event.callOf thread then 4 else 0) := by
  have shortens {mover : Thread} {place : Phase Name} (value : Value) (owner : Option Thread)
      (less : place.ahead + 1 ≤ (monitor.phase mover).ahead) :
      (({ monitor with value, owner }.move mover place).phase thread).ahead +
          (if decide (mover = thread) then 1 else 0) ≤ (monitor.phase thread).ahead + 0 := by
    have moved := ahead_move_le { monitor with value, owner } 1 0 less thread
    rwa [ite_self] at moved
  cases event with
  | call mover name =>
    have outside : monitor.phase mover = .outside := enabled
    have starts : (Phase.locking name).ahead + 0 ≤ (monitor.phase mover).ahead + 4 := by
      rw [outside]
      exact Nat.le_refl 4
    have moved := ahead_move_le monitor 0 4 starts thread
    rwa [ite_self] at moved
  | lock mover name =>
    refine shortens _ _ ?_
    rcases enabled.2 with there | there <;> rw [there] <;> exact Nat.le_refl 4
  | access mover name =>
    refine shortens _ monitor.owner ?_
    rw [show monitor.phase mover = .inside name from enabled]
    exact Nat.succ_le_succ (Phase.ahead_accessed_le settled)
  | unlock mover name =>
    refine shortens _ _ ?_
    rw [show monitor.phase mover = .changed name from enabled]
    exact Nat.le_refl 2
  | notifyAll mover name =>
    have notifying : monitor.phase mover = .notifying name := enabled
    have ends : (Phase.outside : Phase Name).ahead + 1 ≤ (monitor.phase mover).wake.ahead + 0 := by
      rw [notifying]
      exact Nat.le_refl 1
    have moved := ahead_move_le { monitor with phase := fun other => (monitor.phase other).wake } 1
      0 ends thread
    rw [ite_self] at moved
    exact Nat.le_trans moved (Nat.add_le_add_right Phase.ahead_wake_le 0)
  | wait mover name =>
    refine shortens _ _ ?_
    rw [show monitor.phase mover = .refused name from enabled]
    exact Nat.le_refl 6
  | wake mover name =>
    refine shortens _ monitor.owner ?_
    rw [show monitor.phase mover = .blocked name from enabled]
    exact Nat.le_refl 5
  | leave mover name =>
    refine shortens _ _ ?_
    rw [show monitor.phase mover = .admitted name from enabled]
    exact Nat.le_refl 1

/-- Where changes keep all conditions fulfilled, a thread makes six moves at most, and four more
for each of its calls. -/
theorem countP_ofThread_le
    (kept : ∀ name update value, body name = .change update → Settled body value →
      Settled body (update value))
    {first last : Monitor Thread Name Value} {events : List (Event Thread Name)}
    (run : (machine body).Runs (fun _ _ => True) first events last)
    (settled : Settled body first.value) (thread : Thread) :
    events.countP (Event.ofThread thread) + (last.phase thread).ahead ≤
      (first.phase thread).ahead + 4 * events.countP (Event.callOf thread) := by
  refine run.countP_add_work_le_gain (fun monitor => Settled body monitor.value)
    (fun monitor => (monitor.phase thread).ahead) (Event.ofThread thread) (Event.callOf thread) 4
    (fun monitor event settledThere enabled _ =>
      ⟨?_, ahead_next_le settledThere event enabled thread⟩) settled
  rcases value_next body monitor event with same | ⟨_, name, update, _, does, changed⟩
  · exact same.symm ▸ settledThere
  · show Settled body (monitor.next body event).value
    rw [changed]
    exact kept name update monitor.value does settledThere

end Monitor
