/-
This file is the abstract account of who uses which endpoint. A ledger keeps the
registered endpoint instances with their counters, the instances that are alive, and
the multiset of the live handles. It moves in five ways: an instance is registered
or unregistered under a name, a handle is issued, a handle is dropped and releases
its reference by name, and a reference is released without a handle.

Two properties are inductive. `Sound` holds along every run: instances are never
reused, a live handle belongs to no name but its own, and the counter of a requester
is positive and at most the number of live handles that carry its name and the
endpoint's. `Exact` says that the counter is the number of live handles of the
instance that is registered now; it survives as long as no handle is dropped while
its name belongs to another instance that counts the same requester.
-/

import Mathlib.Data.Multiset.Count
import MavlinkHub.Library.Transition
import MavlinkHub.UserCount

namespace MavlinkHub

open Transition

/-- A handle is destroyed at an untimely moment when its name belongs to another endpoint
instance, which counts the same requester: the release then hits that instance's counter. -/
def isUntimely (user : MavlinkEndpointUser) (registered : Option EndpointEntry) : Bool :=
  match registered with
  | none => false
  | some entry => entry.endpoint ≠ user.endpoint && (entry.userCount.lookup user.userName).isSome

/-- The account of the endpoint users. -/
structure Ledger where
  endpointDb : StringMap EndpointEntry
  alive : Finset EndpointId
  users : Multiset MavlinkEndpointUser
  nextEndpoint : EndpointId
  untimely : Bool

namespace Ledger

/-- The ways a ledger moves. -/
inductive Move
  | register (name : String)
  | unregister (name : String)
  | issue (user : MavlinkEndpointUser)
  | drop (user : MavlinkEndpointUser)
  | release (name requester : String)

/-- One move of a ledger. -/
inductive Step : Ledger → Move → Ledger → Prop
  | register {ledger : Ledger} (name : String) (absent : ledger.endpointDb.lookup name = none) :
      Step ledger (.register name)
        { ledger with
          endpointDb := ledger.endpointDb.insert name ⟨ledger.nextEndpoint, ∅⟩
          alive := insert ledger.nextEndpoint ledger.alive
          nextEndpoint := ledger.nextEndpoint + 1 }
  | unregister {ledger : Ledger} (name : String) (entry : EndpointEntry)
      (registered : ledger.endpointDb.lookup name = some entry) :
      Step ledger (.unregister name)
        { ledger with
          endpointDb := ledger.endpointDb.erase name
          alive := ledger.alive.erase entry.endpoint }
  | issue {ledger : Ledger} (user : MavlinkEndpointUser)
      (registered : instanceAt ledger.endpointDb user.endpointName = some user.endpoint) :
      Step ledger (.issue user)
        { ledger with
          endpointDb := adjustUsers user.endpointName (Tally.bump user.userName) ledger.endpointDb
          users := user ::ₘ ledger.users }
  | drop {ledger : Ledger} (user : MavlinkEndpointUser) (rest : Multiset MavlinkEndpointUser)
      (held : ledger.users = user ::ₘ rest) :
      Step ledger (.drop user)
        { ledger with
          endpointDb := adjustUsers user.endpointName (Tally.drop user.userName) ledger.endpointDb
          users := rest
          untimely := ledger.untimely ||
            isUntimely user (ledger.endpointDb.lookup user.endpointName) }
  | release {ledger : Ledger} (name requester : String) :
      Step ledger (.release name requester)
        { ledger with
          endpointDb := adjustUsers name (Tally.drop requester) ledger.endpointDb }

/-- The number of live handles that carry an endpoint name and a requester name. -/
def carried (ledger : Ledger) (name requester : String) : Nat :=
  ledger.users.countP fun user => user.endpointName = name ∧ user.userName = requester

/-- The number of live handles a requester obtained from an instance. -/
def obtained (ledger : Ledger) (endpoint : EndpointId) (requester : String) : Nat :=
  ledger.users.countP fun user => user.endpoint = endpoint ∧ user.userName = requester

theorem carried_cons (ledger : Ledger) {user : MavlinkEndpointUser}
    {rest : Multiset MavlinkEndpointUser} (held : ledger.users = user ::ₘ rest)
    (name requester : String) :
    ledger.carried name requester =
      Multiset.countP (fun other => other.endpointName = name ∧ other.userName = requester) rest +
        if user.endpointName = name ∧ user.userName = requester then 1 else 0 := by
  rw [carried, held, Multiset.countP_cons]

/-! ### Soundness -/

/-- What every reachable ledger satisfies. -/
structure Sound (ledger : Ledger) : Prop where
  /-- Registered instances and those that handles refer to have been created. -/
  fresh : ∀ name endpoint, instanceAt ledger.endpointDb name = some endpoint →
    endpoint < ledger.nextEndpoint
  userFresh : ∀ user ∈ ledger.users, user.endpoint < ledger.nextEndpoint
  /-- No instance is registered under two names. -/
  injective : ∀ name other endpoint, instanceAt ledger.endpointDb name = some endpoint →
    instanceAt ledger.endpointDb other = some endpoint → name = other
  /-- The instance of a handle is registered under the handle's endpoint name or not at all. -/
  bound : ∀ user ∈ ledger.users, ∀ name,
    instanceAt ledger.endpointDb name = some user.endpoint → name = user.endpointName
  /-- The instances that are alive are the registered ones. -/
  alive : ∀ endpoint, endpoint ∈ ledger.alive ↔
    ∃ name, instanceAt ledger.endpointDb name = some endpoint
  positive : PositiveCounts ledger.endpointDb
  bounded : ∀ name requester,
    countAt ledger.endpointDb name requester ≤ ledger.carried name requester

/-- Changing counters and handles keeps a ledger sound if the handles that are left were there
before or belong to their name, and the counters stay positive and bounded. -/
theorem Sound.adjust {ledger : Ledger} (sound : ledger.Sound) {name : String}
    {change : Tally String → Tally String} (users : Multiset MavlinkEndpointUser) (untimely : Bool)
    (keepsPositive : ∀ tally : Tally String, tally.Positive → (change tally).Positive)
    (known : ∀ user ∈ users, user ∈ ledger.users ∨
      instanceAt ledger.endpointDb user.endpointName = some user.endpoint)
    (bounded : ∀ target requester,
      countAt (adjustUsers name change ledger.endpointDb) target requester ≤
        Multiset.countP
          (fun user => user.endpointName = target ∧ user.userName = requester) users) :
    Sound { ledger with
      endpointDb := adjustUsers name change ledger.endpointDb
      users := users
      untimely := untimely } where
  fresh target endpoint registered := by
    rw [instanceAt_adjustUsers] at registered
    exact sound.fresh target endpoint registered
  userFresh user member := by
    rcases known user member with before | registered
    · exact sound.userFresh user before
    · exact sound.fresh _ _ registered
  injective target other endpoint := by
    simp only [instanceAt_adjustUsers]
    exact sound.injective target other endpoint
  bound user member target registered := by
    rw [instanceAt_adjustUsers] at registered
    rcases known user member with before | own
    · exact sound.bound user before target registered
    · exact sound.injective _ _ _ registered own
  alive endpoint := by
    simp only [instanceAt_adjustUsers]
    exact sound.alive endpoint
  positive := sound.positive.adjustUsers keepsPositive
  bounded := bounded

theorem Sound.register {ledger : Ledger} (sound : ledger.Sound) {name : String}
    (absent : ledger.endpointDb.lookup name = none) :
    Sound { ledger with
      endpointDb := ledger.endpointDb.insert name ⟨ledger.nextEndpoint, ∅⟩
      alive := insert ledger.nextEndpoint ledger.alive
      nextEndpoint := ledger.nextEndpoint + 1 } := by
  -- Every name but the new one keeps its instance, and the new instance is used by no one.
  have instances : ∀ target endpoint,
      instanceAt (ledger.endpointDb.insert name ⟨ledger.nextEndpoint, ∅⟩) target = some endpoint ↔
        (target = name ∧ endpoint = ledger.nextEndpoint) ∨
          instanceAt ledger.endpointDb target = some endpoint := by
    intro target endpoint
    by_cases same : target = name
    · rw [same, instanceAt_insert_self, instanceAt_eq_none.mpr absent, Option.some_inj]
      simp [eq_comm]
    · rw [instanceAt_insert_of_ne same]
      simp [same]
  refine ⟨?_, ?_, ?_, ?_, ?_, sound.positive.insert_empty _, ?_⟩
  · intro target endpoint registered
    rcases (instances target endpoint).mp registered with ⟨_, rfl⟩ | before
    · exact Nat.lt_succ_self _
    · exact Nat.lt_succ_of_lt (sound.fresh target endpoint before)
  · exact fun user member => Nat.lt_succ_of_lt (sound.userFresh user member)
  · intro target other endpoint registered otherRegistered
    rcases (instances target endpoint).mp registered with ⟨rfl, rfl⟩ | before <;>
      rcases (instances other _).mp otherRegistered with ⟨rfl, created⟩ | otherBefore
    · rfl
    · exact absurd (sound.fresh other _ otherBefore) (Nat.lt_irrefl _)
    · exact absurd (created ▸ sound.fresh target _ before) (Nat.lt_irrefl _)
    · exact sound.injective target other endpoint before otherBefore
  · intro user member target registered
    rcases (instances target _).mp registered with ⟨_, created⟩ | before
    · exact absurd (created ▸ sound.userFresh user member) (Nat.lt_irrefl _)
    · exact sound.bound user member target before
  · intro endpoint
    simp only [Finset.mem_insert, instances, sound.alive endpoint]
    constructor
    · rintro (rfl | ⟨target, registered⟩)
      · exact ⟨name, Or.inl ⟨rfl, rfl⟩⟩
      · exact ⟨target, Or.inr registered⟩
    · rintro ⟨target, ⟨_, rfl⟩ | registered⟩
      · exact Or.inl rfl
      · exact Or.inr ⟨target, registered⟩
  · intro target requester
    by_cases same : target = name
    · rw [same, countAt_insert_self, Tally.count_empty]
      exact Int.natCast_nonneg _
    · rw [countAt_insert_of_ne same]
      exact sound.bounded target requester

theorem Sound.unregister {ledger : Ledger} (sound : ledger.Sound) {name : String}
    {entry : EndpointEntry} (registered : ledger.endpointDb.lookup name = some entry) :
    Sound { ledger with
      endpointDb := ledger.endpointDb.erase name
      alive := ledger.alive.erase entry.endpoint } := by
  have instances : ∀ target endpoint,
      instanceAt (ledger.endpointDb.erase name) target = some endpoint ↔
        target ≠ name ∧ instanceAt ledger.endpointDb target = some endpoint := by
    intro target endpoint
    by_cases same : target = name
    · rw [same, instanceAt_erase_self]
      simp
    · rw [instanceAt_erase_of_ne same]
      simp [same]
  refine ⟨?_, sound.userFresh, ?_, ?_, ?_, sound.positive.erase, ?_⟩
  · intro target endpoint kept
    exact sound.fresh target endpoint ((instances target endpoint).mp kept).2
  · intro target other endpoint kept otherKept
    exact sound.injective target other endpoint ((instances target endpoint).mp kept).2
      ((instances other endpoint).mp otherKept).2
  · intro user member target kept
    exact sound.bound user member target ((instances target _).mp kept).2
  · intro endpoint
    simp only [Finset.mem_erase, instances, sound.alive endpoint]
    constructor
    · rintro ⟨different, target, kept⟩
      refine ⟨target, fun same => different ?_, kept⟩
      rw [same, instanceAt_of_lookup registered, Option.some_inj] at kept
      exact kept.symm
    · rintro ⟨target, different, kept⟩
      refine ⟨fun same => different ?_, target, kept⟩
      exact sound.injective target name endpoint kept
        (same ▸ instanceAt_of_lookup registered)
  · intro target requester
    by_cases same : target = name
    · rw [same, countAt_of_unregistered instanceAt_erase_self]
      exact Int.natCast_nonneg _
    · rw [countAt_erase_of_ne same]
      exact sound.bounded target requester

/-- A tally change that affects one requester at one name by a known amount is bounded by the
handles if that pair is and the others were. -/
theorem countAt_adjust_le {ledger : Ledger} (sound : ledger.Sound) {name requester : String}
    {change : Tally String → Tally String} {users : Multiset MavlinkEndpointUser}
    (spared : ∀ tally : Tally String, ∀ other, other ≠ requester →
      (change tally).count other = tally.count other)
    (changed : countAt (adjustUsers name change ledger.endpointDb) name requester ≤
      Multiset.countP (fun user => user.endpointName = name ∧ user.userName = requester) users)
    (kept : ∀ target other, (target ≠ name ∨ other ≠ requester) →
      ledger.carried target other ≤
        Multiset.countP (fun user => user.endpointName = target ∧ user.userName = other) users)
    (target other : String) :
    countAt (adjustUsers name change ledger.endpointDb) target other ≤
      Multiset.countP (fun user => user.endpointName = target ∧ user.userName = other) users := by
  have before := sound.bounded target other
  by_cases sameName : target = name
  · by_cases sameRequester : other = requester
    · rw [sameName, sameRequester]
      exact changed
    · rw [countAt_adjustUsers_spared change fun tally => spared tally other sameRequester]
      have after := kept target other (Or.inr sameRequester)
      omega
  · rw [countAt_adjustUsers_of_ne sameName]
    have after := kept target other (Or.inl sameName)
    omega

/-- Soundness is kept by every move. -/
theorem Sound.step {ledger after : Ledger} {move : Move} (sound : ledger.Sound)
    (taken : Step ledger move after) : after.Sound := by
  cases taken with
  | register name absent => exact sound.register absent
  | unregister name entry registered => exact sound.unregister registered
  | issue user registered =>
    refine sound.adjust _ ledger.untimely (fun _ positive => positive.bump user.userName) ?_ ?_
    · intro other member
      rcases Multiset.mem_cons.mp member with rfl | before
      · exact Or.inr registered
      · exact Or.inl before
    · refine countAt_adjust_le sound (fun tally other different =>
        Tally.count_bump_of_ne different tally) ?_ fun target other _ => ?_
      · have before := sound.bounded user.endpointName user.userName
        rw [countAt_bump (registered ▸ Option.some_ne_none _),
          Multiset.countP_cons_of_pos _ ⟨rfl, rfl⟩]
        unfold carried at before
        omega
      · exact Multiset.countP_le_of_le _ (Multiset.le_cons_self _ _)
  | drop user rest held =>
    refine sound.adjust _ _ (fun _ positive => positive.drop user.userName) ?_ ?_
    · intro other member
      exact Or.inl (held ▸ Multiset.mem_cons_of_mem member)
    · refine countAt_adjust_le sound (fun tally other different =>
        Tally.count_drop_of_ne different tally) ?_ fun target other apart => ?_
      · have before := sound.bounded user.endpointName user.userName
        rw [ledger.carried_cons held, if_pos ⟨rfl, rfl⟩] at before
        rw [countAt_drop sound.positive]
        omega
      · rw [ledger.carried_cons held, if_neg, Nat.add_zero]
        rintro ⟨rfl, rfl⟩
        exact apart.elim (· rfl) (· rfl)
  | release name requester =>
    refine sound.adjust _ ledger.untimely (fun _ positive => positive.drop requester)
      (fun _ => Or.inl) ?_
    refine countAt_adjust_le sound (fun tally other different =>
      Tally.count_drop_of_ne different tally) ?_ fun _ _ _ => le_refl _
    have before := sound.bounded name requester
    rw [countAt_drop sound.positive]
    unfold carried at before
    omega

/-- The ledger of an empty manager. -/
def empty : Ledger := ⟨∅, ∅, 0, 0, false⟩

theorem sound_empty : empty.Sound where
  fresh _ _ registered := absurd registered.symm (Option.some_ne_none _)
  userFresh user member := absurd member (Multiset.notMem_zero user)
  injective _ _ _ registered := absurd registered.symm (Option.some_ne_none _)
  bound user member := absurd member (Multiset.notMem_zero user)
  alive endpoint := by
    refine iff_of_false (Finset.notMem_empty endpoint) fun ⟨_, registered⟩ => ?_
    exact absurd registered.symm (Option.some_ne_none _)
  positive _ _ registered := absurd registered.symm (Option.some_ne_none _)
  bounded _ _ := le_refl _

theorem Sound.run {first last : Ledger} {moves : List Move} (sound : first.Sound)
    (run : Run Step first moves last) : last.Sound :=
  run.invariant Sound (fun _ _ _ => Sound.step) sound

/-! ### Exactness -/

/-- The counter of a requester is the number of its live handles of the registered instance. -/
def Exact (ledger : Ledger) : Prop :=
  ∀ name endpoint requester, instanceAt ledger.endpointDb name = some endpoint →
    countAt ledger.endpointDb name requester = ledger.obtained endpoint requester

theorem exact_empty : empty.Exact :=
  fun _ _ _ registered => absurd registered.symm (Option.some_ne_none _)

theorem obtained_eq_zero {ledger : Ledger} {endpoint : EndpointId}
    (unused : ∀ user ∈ ledger.users, user.endpoint ≠ endpoint) (requester : String) :
    ledger.obtained endpoint requester = 0 :=
  Multiset.countP_eq_zero.mpr fun user member both => unused user member both.1

theorem Exact.register {ledger : Ledger} (sound : ledger.Sound) (exact : ledger.Exact)
    {name : String} : Exact { ledger with
      endpointDb := ledger.endpointDb.insert name ⟨ledger.nextEndpoint, ∅⟩
      alive := insert ledger.nextEndpoint ledger.alive
      nextEndpoint := ledger.nextEndpoint + 1 } := by
  intro target endpoint requester registered
  by_cases same : target = name
  · rw [same, instanceAt_insert_self, Option.some_inj] at registered
    have unused : ledger.obtained endpoint requester = 0 :=
      obtained_eq_zero (fun user member => registered ▸ (sound.userFresh user member).ne) requester
    rw [same, countAt_insert_self, Tally.count_empty]
    exact (congrArg Nat.cast unused).symm
  · rw [instanceAt_insert_of_ne same] at registered
    rw [countAt_insert_of_ne same]
    exact exact target endpoint requester registered

theorem Exact.unregister {ledger : Ledger} (exact : ledger.Exact) {name : String}
    (entry : EndpointEntry) : Exact { ledger with
      endpointDb := ledger.endpointDb.erase name
      alive := ledger.alive.erase entry.endpoint } := by
  intro target endpoint requester registered
  by_cases same : target = name
  · rw [same, instanceAt_erase_self] at registered
    exact absurd registered.symm (Option.some_ne_none _)
  · rw [instanceAt_erase_of_ne same] at registered
    rw [countAt_erase_of_ne same]
    exact exact target endpoint requester registered

theorem Exact.issue {ledger : Ledger} (sound : ledger.Sound) (exact : ledger.Exact)
    {user : MavlinkEndpointUser}
    (own : instanceAt ledger.endpointDb user.endpointName = some user.endpoint) :
    Exact { ledger with
      endpointDb := adjustUsers user.endpointName (Tally.bump user.userName) ledger.endpointDb
      users := user ::ₘ ledger.users } := by
  intro target endpoint other registered
  rw [instanceAt_adjustUsers] at registered
  have before := exact target endpoint other registered
  unfold obtained at before ⊢
  rw [Multiset.countP_cons]
  by_cases same : target = user.endpointName ∧ other = user.userName
  · obtain ⟨rfl, rfl⟩ := same
    rw [own, Option.some_inj] at registered
    rw [countAt_bump (own ▸ Option.some_ne_none _), before, if_pos ⟨registered, rfl⟩]
    rfl
  · -- Another name has another instance, so the new handle does not count for the pair.
    have notCounted : ¬ (user.endpoint = endpoint ∧ user.userName = other) := by
      rintro ⟨rfl, rfl⟩
      exact same ⟨sound.injective _ _ _ registered own, rfl⟩
    rw [if_neg notCounted, Nat.add_zero, ← before]
    rcases not_and_or.mp same with different | different
    · exact countAt_adjustUsers_of_ne different _
    · exact countAt_adjustUsers_spared _ (Tally.count_bump_of_ne different)

theorem Exact.drop {ledger : Ledger} (sound : ledger.Sound) (exact : ledger.Exact)
    {user : MavlinkEndpointUser} {rest : Multiset MavlinkEndpointUser}
    (held : ledger.users = user ::ₘ rest) (untimely : Bool)
    (timely : isUntimely user (ledger.endpointDb.lookup user.endpointName) = false) :
    Exact { ledger with
      endpointDb := adjustUsers user.endpointName (Tally.drop user.userName) ledger.endpointDb
      users := rest
      untimely := untimely } := by
  intro target endpoint other registered
  rw [instanceAt_adjustUsers] at registered
  have before := exact target endpoint other registered
  rw [obtained, held, Multiset.countP_cons] at before
  show countAt (adjustUsers user.endpointName (Tally.drop user.userName) ledger.endpointDb)
    target other =
      (Multiset.countP (fun user => user.endpoint = endpoint ∧ user.userName = other) rest : Int)
  by_cases same : target = user.endpointName ∧ other = user.userName
  · obtain ⟨rfl, rfl⟩ := same
    rw [countAt_drop sound.positive, before]
    by_cases own : user.endpoint = endpoint
    · rw [if_pos ⟨own, rfl⟩]
      push_cast
      omega
    · -- The handle is stale, and a timely one: the instance does not count its requester.
      rw [if_neg fun both => own both.1, Nat.add_zero] at before ⊢
      obtain ⟨entry, stored, rfl⟩ := lookup_of_instanceAt registered
      have absent : entry.userCount.lookup user.userName = none := by
        simpa [isUntimely, stored, Ne.symm own] using timely
      have zero : entry.userCount.count user.userName = 0 := by
        rw [Tally.count, absent, Option.getD_none]
      rw [countAt_of_lookup stored, zero] at before
      omega
  · have notCounted : ¬ (user.endpoint = endpoint ∧ user.userName = other) := by
      rintro ⟨rfl, rfl⟩
      exact same ⟨sound.bound user (held ▸ Multiset.mem_cons_self _ _) target registered, rfl⟩
    rw [if_neg notCounted, Nat.add_zero] at before
    rw [← before]
    rcases not_and_or.mp same with different | different
    · exact countAt_adjustUsers_of_ne different _
    · exact countAt_adjustUsers_spared _ (Tally.count_drop_of_ne different)

/-- Exactness survives every move but a release, and a drop at an untimely moment is on
record. -/
theorem Exact.step {ledger after : Ledger} {move : Move} (sound : ledger.Sound)
    (exact : ledger.untimely = false → ledger.Exact) (taken : Step ledger move after)
    (notRelease : ∀ name requester, move ≠ .release name requester)
    (timely : after.untimely = false) : after.Exact := by
  cases taken with
  | register name absent => exact (exact timely).register sound
  | unregister name entry registered => exact (exact timely).unregister entry
  | issue user registered => exact (exact timely).issue sound registered
  | drop user rest held =>
    obtain ⟨timelyBefore, timelyDrop⟩ := Bool.or_eq_false_iff.mp timely
    exact (exact timelyBefore).drop sound held _ timelyDrop
  | release name requester => exact absurd rfl (notRelease name requester)

theorem Exact.run {first last : Ledger} {moves : List Move} (sound : first.Sound)
    (exact : first.Exact) (run : Run Step first moves last)
    (noRelease : ∀ name requester, Move.release name requester ∉ moves)
    (timely : last.untimely = false) : last.Exact := by
  refine (run.invariantOn (fun move => ∀ name requester, move ≠ .release name requester)
    (fun ledger => ledger.Sound ∧ (ledger.untimely = false → ledger.Exact)) ?_ ?_
    ⟨sound, fun _ => exact⟩).2 timely
  · intro before move after notRelease ⟨soundBefore, exactBefore⟩ taken
    exact ⟨soundBefore.step taken, Exact.step soundBefore exactBefore taken notRelease⟩
  · rintro move member name requester rfl
    exact noRelease name requester member

/-! ### Instances along a run -/

/-- A name keeps its instance until it is unregistered. -/
theorem instance_kept {first last : Ledger} {moves : List Move} {name : String}
    {endpoint : EndpointId} (run : Run Step first moves last)
    (kept : Move.unregister name ∉ moves)
    (registered : instanceAt first.endpointDb name = some endpoint) :
    instanceAt last.endpointDb name = some endpoint := by
  refine run.invariantOn (fun move => move ≠ .unregister name)
    (fun ledger => instanceAt ledger.endpointDb name = some endpoint) ?_
    (fun move member same => kept (same ▸ member)) registered
  intro before move after allowed holds taken
  cases taken with
  | register target absent =>
    have different : name ≠ target := by
      rintro rfl
      rw [instanceAt_eq_none.mpr absent] at holds
      exact absurd holds.symm (Option.some_ne_none _)
    exact (instanceAt_insert_of_ne different _).trans holds
  | unregister target entry stored =>
    have different : name ≠ target := fun same => allowed (same ▸ rfl)
    exact (instanceAt_erase_of_ne different).trans holds
  | issue user stored => exact (instanceAt_adjustUsers _).trans holds
  | drop user rest held => exact (instanceAt_adjustUsers _).trans holds
  | release target requester => exact (instanceAt_adjustUsers _).trans holds

/-- An instance that is gone never comes back. -/
theorem gone_kept {first last : Ledger} {moves : List Move} {endpoint : EndpointId}
    (run : Run Step first moves last) (created : endpoint < first.nextEndpoint)
    (gone : endpoint ∉ first.alive) : endpoint ∉ last.alive := by
  refine (run.invariant (fun ledger => endpoint < ledger.nextEndpoint ∧ endpoint ∉ ledger.alive)
    ?_ ⟨created, gone⟩).2
  intro before move after ⟨createdBefore, goneBefore⟩ taken
  cases taken with
  | register name absent =>
    refine ⟨Nat.lt_succ_of_lt createdBefore, fun member => ?_⟩
    rcases Finset.mem_insert.mp member with rfl | old
    · exact absurd createdBefore (Nat.lt_irrefl _)
    · exact goneBefore old
  | unregister name entry registered =>
    exact ⟨createdBefore, fun member => goneBefore (Finset.mem_of_mem_erase member)⟩
  | issue user registered => exact ⟨createdBefore, goneBefore⟩
  | drop user rest held => exact ⟨createdBefore, goneBefore⟩
  | release name requester => exact ⟨createdBefore, goneBefore⟩

/-- Once its name is unregistered, an instance is gone for good. -/
theorem gone_of_unregister {first last : Ledger} {moves : List Move} {name : String}
    {endpoint : EndpointId} (sound : first.Sound) (run : Run Step first moves last)
    (removed : Move.unregister name ∈ moves)
    (registered : instanceAt first.endpointDb name = some endpoint) : endpoint ∉ last.alive := by
  obtain ⟨front, back, rfl, notBefore⟩ := List.eq_append_cons_of_mem removed
  obtain ⟨before, frontRun, rest⟩ := Run.append_iff.mp run
  obtain ⟨after, taken, backRun⟩ := Run.cons_iff.mp rest
  have still := instance_kept frontRun notBefore registered
  have created := (sound.run frontRun).fresh name endpoint still
  cases taken with
  | unregister _ entry stored =>
    rw [instanceAt_of_lookup stored, Option.some_inj] at still
    subst still
    exact gone_kept backRun created (Finset.notMem_erase _ _)

end Ledger

end MavlinkHub
