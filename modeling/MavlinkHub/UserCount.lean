/-
This file reads `endpoint_db` as what it is for: which endpoint instance is
registered under a name, and how often each requester is counted there. The manager
changes a counter in one way only, by adjusting the tally of one entry, and a
database whose counters are positive is determined by the two readings.
-/

import MavlinkHub.World

namespace MavlinkHub

/-- The instance registered under a name. -/
def instanceAt (endpointDb : StringMap EndpointEntry) (name : String) : Option EndpointId :=
  (endpointDb.lookup name).map (·.endpoint)

/-- The counter of a requester at the endpoint registered under a name. -/
def countAt (endpointDb : StringMap EndpointEntry) (name requester : String) : Int :=
  ((endpointDb.lookup name).map (·.userCount.count requester)).getD 0

/-- The counter stored for a requester at the endpoint registered under a name. -/
def counterAt (endpointDb : StringMap EndpointEntry) (name requester : String) : Option Int :=
  (endpointDb.lookup name).bind fun entry => entry.userCount.lookup requester

/-- Every stored counter is at least one. -/
def PositiveCounts (endpointDb : StringMap EndpointEntry) : Prop :=
  ∀ name entry, endpointDb.lookup name = some entry → entry.userCount.Positive

/-- Change the counters of the endpoint registered under a name, if there is one. -/
def adjustUsers (name : String) (change : Tally String → Tally String)
    (endpointDb : StringMap EndpointEntry) : StringMap EndpointEntry :=
  match endpointDb.lookup name with
  | none => endpointDb
  | some entry => endpointDb.insert name { entry with userCount := change entry.userCount }

variable {endpointDb other : StringMap EndpointEntry} {name requester target : String}

theorem instanceAt_of_lookup {entry : EndpointEntry}
    (registered : endpointDb.lookup name = some entry) :
    instanceAt endpointDb name = some entry.endpoint := by
  rw [instanceAt, registered, Option.map_some]

theorem countAt_of_lookup {entry : EndpointEntry}
    (registered : endpointDb.lookup name = some entry) :
    countAt endpointDb name requester = entry.userCount.count requester := by
  rw [countAt, registered, Option.map_some, Option.getD_some]

theorem lookup_of_instanceAt {endpoint : EndpointId}
    (registered : instanceAt endpointDb name = some endpoint) :
    ∃ entry, endpointDb.lookup name = some entry ∧ entry.endpoint = endpoint :=
  Option.map_eq_some_iff.mp registered

theorem instanceAt_eq_none :
    instanceAt endpointDb name = none ↔ endpointDb.lookup name = none :=
  Option.map_eq_none_iff

theorem countAt_of_unregistered (absent : instanceAt endpointDb name = none) :
    countAt endpointDb name requester = 0 := by
  rw [countAt, instanceAt_eq_none.mp absent, Option.map_none, Option.getD_none]

theorem countAt_nonneg (positive : PositiveCounts endpointDb) :
    0 ≤ countAt endpointDb name requester := by
  cases registered : endpointDb.lookup name with
  | none => exact (countAt_of_unregistered (instanceAt_eq_none.mpr registered)).ge
  | some entry =>
    rw [countAt_of_lookup registered]
    exact (positive name entry registered).count_nonneg requester

theorem mem_keys_iff_instanceAt :
    name ∈ endpointDb.keys ↔ (instanceAt endpointDb name).isSome := by
  rw [Finmap.mem_keys, ← Finmap.lookup_isSome, instanceAt, Option.isSome_map]

theorem countAt_eq_counterAt :
    countAt endpointDb name requester = (counterAt endpointDb name requester).getD 0 := by
  unfold countAt counterAt
  cases endpointDb.lookup name <;> rfl

/-- A stored counter is the count, and none is stored when the count is zero. -/
theorem counterAt_eq (positive : PositiveCounts endpointDb) :
    counterAt endpointDb name requester =
      if countAt endpointDb name requester = 0 then none
      else some (countAt endpointDb name requester) := by
  cases stored : endpointDb.lookup name with
  | none =>
    rw [counterAt, stored, countAt, stored]
    rfl
  | some entry =>
    rw [counterAt, stored, countAt_of_lookup stored]
    exact (positive name entry stored).lookup_eq requester

/-- A database is determined by the instances it registers and the counters it stores. -/
theorem endpointDb_ext_counterAt
    (instances : ∀ name, instanceAt endpointDb name = instanceAt other name)
    (counters : ∀ name requester,
      counterAt endpointDb name requester = counterAt other name requester) :
    endpointDb = other := by
  refine Finmap.ext_lookup fun name => ?_
  have sameInstance := instances name
  have sameCounters := counters name
  unfold instanceAt at sameInstance
  unfold counterAt at sameCounters
  cases registered : endpointDb.lookup name with
  | none =>
    rw [registered, Option.map_none] at sameInstance
    exact (Option.map_eq_none_iff.mp sameInstance.symm).symm
  | some entry =>
    rw [registered, Option.map_some] at sameInstance
    obtain ⟨otherEntry, otherRegistered, sameEndpoint⟩ :=
      Option.map_eq_some_iff.mp sameInstance.symm
    rw [registered, otherRegistered] at sameCounters
    rw [otherRegistered, EndpointEntry.ext sameEndpoint.symm (Finmap.ext_lookup sameCounters)]

/-! ### Registering and unregistering a name -/

theorem instanceAt_insert_self (entry : EndpointEntry) :
    instanceAt (endpointDb.insert name entry) name = some entry.endpoint := by
  rw [instanceAt, Finmap.lookup_insert, Option.map_some]

theorem instanceAt_insert_of_ne (different : target ≠ name) (entry : EndpointEntry) :
    instanceAt (endpointDb.insert name entry) target = instanceAt endpointDb target := by
  rw [instanceAt, Finmap.lookup_insert_of_ne _ different, instanceAt]

theorem countAt_insert_self (entry : EndpointEntry) :
    countAt (endpointDb.insert name entry) name requester = entry.userCount.count requester := by
  rw [countAt, Finmap.lookup_insert, Option.map_some, Option.getD_some]

theorem countAt_insert_of_ne (different : target ≠ name) (entry : EndpointEntry) :
    countAt (endpointDb.insert name entry) target requester =
      countAt endpointDb target requester := by
  rw [countAt, Finmap.lookup_insert_of_ne _ different, countAt]

theorem instanceAt_erase_self : instanceAt (endpointDb.erase name) name = none := by
  rw [instanceAt, Finmap.lookup_erase, Option.map_none]

theorem instanceAt_erase_of_ne (different : target ≠ name) :
    instanceAt (endpointDb.erase name) target = instanceAt endpointDb target := by
  rw [instanceAt, Finmap.lookup_erase_ne different, instanceAt]

theorem countAt_erase_of_ne (different : target ≠ name) :
    countAt (endpointDb.erase name) target requester = countAt endpointDb target requester := by
  rw [countAt, Finmap.lookup_erase_ne different, countAt]

theorem PositiveCounts.insert_empty (positive : PositiveCounts endpointDb) (endpoint : EndpointId) :
    PositiveCounts (endpointDb.insert name ⟨endpoint, ∅⟩) := by
  intro target entry stored
  by_cases same : target = name
  · rw [same, Finmap.lookup_insert, Option.some_inj] at stored
    rw [← stored]
    exact Tally.positive_empty
  · rw [Finmap.lookup_insert_of_ne _ same] at stored
    exact positive target entry stored

theorem PositiveCounts.erase (positive : PositiveCounts endpointDb) :
    PositiveCounts (endpointDb.erase name) := by
  intro target entry stored
  by_cases same : target = name
  · rw [same, Finmap.lookup_erase] at stored
    exact absurd stored (Option.some_ne_none entry).symm
  · rw [Finmap.lookup_erase_ne same] at stored
    exact positive target entry stored

/-! ### Adjusting the counters of one entry -/

theorem lookup_adjustUsers_self (change : Tally String → Tally String) :
    (adjustUsers name change endpointDb).lookup name =
      (endpointDb.lookup name).map fun entry =>
        { entry with userCount := change entry.userCount } := by
  unfold adjustUsers
  cases registered : endpointDb.lookup name with
  | none => exact registered
  | some entry => exact Finmap.lookup_insert _

theorem lookup_adjustUsers_of_ne (different : target ≠ name)
    (change : Tally String → Tally String) :
    (adjustUsers name change endpointDb).lookup target = endpointDb.lookup target := by
  unfold adjustUsers
  cases endpointDb.lookup name with
  | none => rfl
  | some entry => exact Finmap.lookup_insert_of_ne _ different

@[simp] theorem instanceAt_adjustUsers (change : Tally String → Tally String) :
    instanceAt (adjustUsers name change endpointDb) target = instanceAt endpointDb target := by
  unfold instanceAt
  by_cases same : target = name
  · rw [same, lookup_adjustUsers_self, Option.map_map]
    rfl
  · rw [lookup_adjustUsers_of_ne same]

/-- A change of counters that spares a requester spares its counter at every name. -/
theorem countAt_adjustUsers_spared (change : Tally String → Tally String)
    (spared : ∀ tally : Tally String, (change tally).count requester = tally.count requester) :
    countAt (adjustUsers name change endpointDb) target requester =
      countAt endpointDb target requester := by
  unfold countAt
  by_cases same : target = name
  · rw [same, lookup_adjustUsers_self, Option.map_map]
    refine congrArg (fun counted : Option Int => counted.getD 0)
      (congrArg (fun read => Option.map read (endpointDb.lookup name)) (funext fun entry => ?_))
    exact spared entry.userCount
  · rw [lookup_adjustUsers_of_ne same]

/-- A change of counters that spares a requester spares its stored counter at every name. -/
theorem counterAt_adjustUsers_spared (change : Tally String → Tally String)
    (spared : ∀ tally : Tally String, (change tally).lookup requester = tally.lookup requester) :
    counterAt (adjustUsers name change endpointDb) target requester =
      counterAt endpointDb target requester := by
  unfold counterAt
  by_cases same : target = name
  · rw [same, lookup_adjustUsers_self]
    cases endpointDb.lookup name with
    | none => rfl
    | some entry => exact spared entry.userCount
  · rw [lookup_adjustUsers_of_ne same]

/-- What a change of counters makes of a requester's counter may be determined by that counter. -/
theorem counterAt_adjustUsers_congr {change : Tally String → Tally String}
    {other : StringMap EndpointEntry}
    (determined : ∀ tally twin : Tally String, tally.lookup requester = twin.lookup requester →
      (change tally).lookup requester = (change twin).lookup requester)
    (registered : (instanceAt endpointDb name).isSome = (instanceAt other name).isSome)
    (same : ∀ target, counterAt endpointDb target requester = counterAt other target requester)
    (target : String) :
    counterAt (adjustUsers name change endpointDb) target requester =
      counterAt (adjustUsers name change other) target requester := by
  have sameTarget := same target
  unfold counterAt at sameTarget ⊢
  by_cases isName : target = name
  · rw [isName] at sameTarget ⊢
    rw [lookup_adjustUsers_self, lookup_adjustUsers_self]
    unfold instanceAt at registered
    cases stored : endpointDb.lookup name <;> cases storedToo : other.lookup name <;>
      simp only [stored, storedToo] at registered sameTarget ⊢
    · exact absurd registered Bool.false_ne_true
    · exact absurd registered.symm Bool.false_ne_true
    · exact determined _ _ sameTarget
  · rw [lookup_adjustUsers_of_ne isName, lookup_adjustUsers_of_ne isName]
    exact sameTarget

theorem countAt_adjustUsers_of_ne (different : target ≠ name)
    (change : Tally String → Tally String) :
    countAt (adjustUsers name change endpointDb) target requester =
      countAt endpointDb target requester := by
  rw [countAt, lookup_adjustUsers_of_ne different, countAt]

theorem countAt_bump (registered : instanceAt endpointDb name ≠ none) :
    countAt (adjustUsers name (Tally.bump requester) endpointDb) name requester =
      countAt endpointDb name requester + 1 := by
  obtain ⟨entry, stored⟩ := Option.ne_none_iff_exists'.mp (mt instanceAt_eq_none.mpr registered)
  rw [countAt, lookup_adjustUsers_self, countAt_of_lookup stored, stored, Option.map_some,
    Option.map_some, Option.getD_some, Tally.count_bump_self]

theorem countAt_drop (positive : PositiveCounts endpointDb) :
    countAt (adjustUsers name (Tally.drop requester) endpointDb) name requester =
      max (countAt endpointDb name requester - 1) 0 := by
  cases stored : endpointDb.lookup name with
  | none =>
    rw [countAt, lookup_adjustUsers_self, countAt, stored]
    rfl
  | some entry =>
    rw [countAt, lookup_adjustUsers_self, countAt_of_lookup stored, stored, Option.map_some,
      Option.map_some, Option.getD_some, (positive name entry stored).count_drop_self]

theorem PositiveCounts.adjustUsers (positive : PositiveCounts endpointDb)
    {change : Tally String → Tally String}
    (kept : ∀ tally : Tally String, tally.Positive → (change tally).Positive) :
    PositiveCounts (adjustUsers name change endpointDb) := by
  intro target entry stored
  by_cases same : target = name
  · rw [same, lookup_adjustUsers_self, Option.map_eq_some_iff] at stored
    obtain ⟨before, storedBefore, rfl⟩ := stored
    exact kept _ (positive name before storedBefore)
  · rw [lookup_adjustUsers_of_ne same] at stored
    exact positive target entry stored

/-! ### The two operations of the source -/

variable {sdk : Sdk}

theorem createMavlinkEndpointUser_of_absent {endpointName : String} {world : World sdk}
    (absent : world.endpointDb.lookup endpointName = none) (requesterName : String) :
    Manager.createMavlinkEndpointUser endpointName requesterName world = (none, world) := by
  rw [Manager.createMavlinkEndpointUser, absent]

theorem createMavlinkEndpointUser_of_registered {endpointName : String} {world : World sdk}
    {entry : EndpointEntry} (registered : world.endpointDb.lookup endpointName = some entry)
    (requesterName : String) :
    Manager.createMavlinkEndpointUser endpointName requesterName world =
      (some ⟨entry.endpoint, endpointName, requesterName⟩,
        { world with
          endpointDb := adjustUsers endpointName (Tally.bump requesterName) world.endpointDb
          log := world.log ++ [.createUser ⟨entry.endpoint, endpointName, requesterName⟩] }) := by
  rw [Manager.createMavlinkEndpointUser, adjustUsers, registered]

theorem createMavlinkEndpointUser_none {endpointName requesterName : String}
    {world requested : World sdk}
    (created : Manager.createMavlinkEndpointUser endpointName requesterName world =
      (none, requested)) : requested = world := by
  cases registered : world.endpointDb.lookup endpointName with
  | none =>
    rw [createMavlinkEndpointUser_of_absent registered] at created
    exact (Prod.mk.inj created).2.symm
  | some entry =>
    rw [createMavlinkEndpointUser_of_registered registered] at created
    exact absurd (Prod.mk.inj created).1 (Option.some_ne_none _)

theorem removeMavlinkEndpointUser_eq (endpointName requesterName : String) (world : World sdk) :
    Manager.removeMavlinkEndpointUser endpointName requesterName world =
      (true, { world with
        endpointDb := adjustUsers endpointName (Tally.drop requesterName) world.endpointDb }) := by
  unfold Manager.removeMavlinkEndpointUser adjustUsers
  cases world.endpointDb.lookup endpointName <;> rfl

end MavlinkHub
