/-
This file follows the definitions that plugin libraries put into the registries. A load
adds what it obtains under a free name and leaves a taken name alone, and it leaves every
library at least as often open as before. So what a load has put into a registry comes
from a library that is still open, whatever is loaded and removed in between.

That a taken name is left alone is something the loader does not report: a load succeeds
if it obtains a definition, whichever definition is registered afterwards.
-/

import MavlinkHub.LibLoader

namespace MavlinkHub

namespace AgentRegistry

variable {Definition : Type} {key other : String} {definition : Definition}
  {registry : AgentRegistry Definition}

/-- What is registered under a key stays, and a free key gets the definition. -/
theorem definitionAt_addAgentDefinition :
    (registry.addAgentDefinition key definition).2.definitionAt other =
      (registry.definitionAt other).or (if key = other then some definition else none) := by
  rw [addAgentDefinition, definitionAt, definitionAt]
  cases taken : registry.lookup key with
  | some existing =>
    by_cases same : key = other
    · rw [← same, taken, Option.some_or]
    · rw [if_neg same, Option.or_none]
  | none =>
    by_cases same : key = other
    · rw [← same, taken, if_pos rfl, Option.none_or, Finmap.lookup_insert]
    · rw [if_neg same, Option.or_none, Finmap.lookup_insert_of_ne _ (Ne.symm same)]

theorem definitionAt_removeAgentDefinition :
    (registry.removeAgentDefinition key).2.definitionAt other =
      if key = other then none else registry.definitionAt other := by
  rw [removeAgentDefinition, definitionAt, definitionAt]
  cases taken : registry.lookup key with
  | none =>
    by_cases same : key = other
    · rw [if_pos same, ← same, taken]
    · rw [if_neg same]
  | some existing =>
    by_cases same : key = other
    · rw [if_pos same, ← same, Finmap.lookup_erase]
    · rw [if_neg same, Finmap.lookup_erase_ne (Ne.symm same)]

end AgentRegistry

namespace LibLoader

variable {Handle AgentDefinition TransportDefinition : Type}

/-! ### What a load obtains and what is registered -/

/-- A definition that a load obtains out of a library, for a name of one kind. -/
structure Obtained (Handle AgentDefinition TransportDefinition : Type) where
  entry : LibKind × String
  handle : Handle
  definition : AgentDefinition ⊕ TransportDefinition

/-- What a load obtains: the library opens, the symbol resolves to a getter, and that returns a
definition. -/
def Call.obtains : Call Handle AgentDefinition TransportDefinition →
    Option (Obtained Handle AgentDefinition TransportDefinition)
  | .loadAgentLib libInfo (.definition handle definition) =>
    some ⟨(.agent, libInfo.name), handle, .inl definition⟩
  | .loadTransportLib libInfo (.definition handle definition) =>
    some ⟨(.transport, libInfo.name), handle, .inr definition⟩
  | _ => none

/-- The definition that a load has for a name. -/
def Call.provides (call : Call Handle AgentDefinition TransportDefinition)
    (entry : LibKind × String) : Option (AgentDefinition ⊕ TransportDefinition) :=
  call.obtains.bind fun obtained =>
    if obtained.entry = entry then some obtained.definition else none

/-- The definition registered under a name of either kind. -/
def registered (loader : LibLoader Handle AgentDefinition TransportDefinition) :
    LibKind × String → Option (AgentDefinition ⊕ TransportDefinition)
  | (.agent, name) => (loader.agentRegistry.definitionAt name).map .inl
  | (.transport, name) => (loader.transportRegistry.definitionAt name).map .inr

/-- What happens to the registries of a loader. -/
inductive Event (Handle AgentDefinition TransportDefinition : Type)
  | load (call : Call Handle AgentDefinition TransportDefinition)
  | removeAgentDefinition (key : String)
  | removeTransportDefinition (key : String)

/-- The name that an event removes. -/
def Event.removes : Event Handle AgentDefinition TransportDefinition → Option (LibKind × String)
  | .load _ => none
  | .removeAgentDefinition key => some (.agent, key)
  | .removeTransportDefinition key => some (.transport, key)

variable {call : Call Handle AgentDefinition TransportDefinition}
  {obtained : Obtained Handle AgentDefinition TransportDefinition}
  {event : Event Handle AgentDefinition TransportDefinition}
  {events front back : List (Event Handle AgentDefinition TransportDefinition)}
  {entry : LibKind × String}

theorem provides_of_obtains (obtains : call.obtains = some obtained) :
    call.provides obtained.entry = some obtained.definition := by
  rw [Call.provides, obtains, Option.bind_some, if_pos rfl]

theorem exists_obtains_of_provides {definition : AgentDefinition ⊕ TransportDefinition}
    (provides : call.provides entry = some definition) :
    ∃ obtained, call.obtains = some obtained ∧ obtained.entry = entry ∧
      obtained.definition = definition := by
  obtain ⟨obtained, obtains, given⟩ := Option.bind_eq_some_iff.mp provides
  by_cases same : obtained.entry = entry
  · rw [if_pos same] at given
    exact ⟨obtained, obtains, same, Option.some.inj given⟩
  · rw [if_neg same] at given
    cases given

variable [DecidableEq Handle] (loader : LibLoader Handle AgentDefinition TransportDefinition)

/-- What an event leaves of the loader and its registries. -/
def next : Event Handle AgentDefinition TransportDefinition →
    LibLoader Handle AgentDefinition TransportDefinition
  | .load call => loader.perform call
  | .removeAgentDefinition key =>
    { loader with agentRegistry := (loader.agentRegistry.removeAgentDefinition key).2 }
  | .removeTransportDefinition key =>
    { loader with transportRegistry := (loader.transportRegistry.removeAgentDefinition key).2 }

/-- The loader after a sequence of events. -/
def afterEvents (events : List (Event Handle AgentDefinition TransportDefinition)) :
    LibLoader Handle AgentDefinition TransportDefinition :=
  events.foldl next loader

variable {loader}

/-- A load changes a registry under a name only if it has a definition for it and the name is
free. -/
theorem registered_perform :
    (loader.perform call).registered entry =
      (loader.registered entry).or (call.provides entry) := by
  rcases entry with ⟨_ | _, name⟩ <;>
    rcases call with ⟨libInfo, _ | handle | handle | ⟨handle, definition⟩⟩ |
      ⟨libInfo, _ | handle | handle | ⟨handle, definition⟩⟩
  all_goals simp [registered, perform, loadAgentLib, loadTransportLib, LibTable.load,
    Call.provides, Call.obtains, AgentRegistry.definitionAt_addAgentDefinition]
  all_goals
    rw [Option.map_or]
    split_ifs <;> rfl

theorem registered_next_load :
    (loader.next (.load call)).registered entry =
      (loader.registered entry).or (call.provides entry) := registered_perform

/-- A removal takes away the definition under one name. -/
theorem registered_next_of_removes {removed : LibKind × String}
    (removes : event.removes = some removed) :
    (loader.next event).registered entry =
      if removed = entry then none else loader.registered entry := by
  rcases entry with ⟨_ | _, name⟩ <;> cases event <;> cases removes
  all_goals simp [registered, next, AgentRegistry.definitionAt_removeAgentDefinition]
  all_goals split_ifs <;> rfl

/-- What is registered stays if it is not removed. -/
theorem registered_next_of_some {definition : AgentDefinition ⊕ TransportDefinition}
    (present : loader.registered entry = some definition) (kept : event.removes ≠ some entry) :
    (loader.next event).registered entry = some definition := by
  cases removes : event.removes with
  | none =>
    cases event with
    | load call => rw [registered_next_load, present, Option.some_or]
    | removeAgentDefinition key => cases removes
    | removeTransportDefinition key => cases removes
  | some removed =>
    have different : removed ≠ entry := fun same => kept (by rw [removes, same])
    rw [registered_next_of_removes removes, if_neg different, present]

theorem registered_afterEvents_of_some {definition : AgentDefinition ⊕ TransportDefinition}
    (present : loader.registered entry = some definition)
    (kept : ∀ event ∈ events, event.removes ≠ some entry) :
    (loader.afterEvents events).registered entry = some definition := by
  induction events generalizing loader with
  | nil => exact present
  | cons event rest inductionHypothesis =>
    rw [List.forall_mem_cons] at kept
    exact inductionHypothesis (registered_next_of_some present kept.1) kept.2

/-! ### Libraries stay open -/

/-- No load closes a library more often than it has opened it. -/
theorem openCounts_le_perform (handle : Handle) :
    loader.openCounts handle ≤ (loader.perform call).openCounts handle := by
  rcases call with ⟨libInfo, _ | opened | opened | ⟨opened, definition⟩⟩ |
    ⟨libInfo, _ | opened | opened | ⟨opened, definition⟩⟩
  all_goals
    simp only [perform, loadAgentLib, loadTransportLib, LibTable.load, OpenCounts.dlclose_dlopen,
      OpenCounts.dlopen_apply]
  all_goals first | exact le_rfl | (split_ifs <;> omega)

theorem openCounts_le_next (handle : Handle) :
    loader.openCounts handle ≤ (loader.next event).openCounts handle := by
  cases event with
  | load call => exact openCounts_le_perform handle
  | removeAgentDefinition key => exact le_rfl
  | removeTransportDefinition key => exact le_rfl

theorem openCounts_le_afterEvents (handle : Handle) :
    loader.openCounts handle ≤ (loader.afterEvents events).openCounts handle := by
  induction events generalizing loader with
  | nil => exact le_rfl
  | cons event rest inductionHypothesis =>
    exact le_trans (openCounts_le_next handle) inductionHypothesis

/-- A load that obtains a definition leaves its library open once more than before. -/
theorem openCounts_perform_of_obtains (obtains : call.obtains = some obtained) :
    (loader.perform call).openCounts obtained.handle =
      loader.openCounts obtained.handle + 1 := by
  rcases call with ⟨libInfo, _ | opened | opened | ⟨opened, definition⟩⟩ |
    ⟨libInfo, _ | opened | opened | ⟨opened, definition⟩⟩ <;> cases obtains
  all_goals
    simp [perform, loadAgentLib, loadTransportLib, LibTable.load, OpenCounts.dlopen_apply]

/-! ### Where registered definitions come from -/

/-- A load of the sequence has put what it obtained into a registry, where it still is. -/
def PutByLoad (loader : LibLoader Handle AgentDefinition TransportDefinition)
    (events : List (Event Handle AgentDefinition TransportDefinition))
    (obtained : Obtained Handle AgentDefinition TransportDefinition) : Prop :=
  ∃ front call back, events = front ++ .load call :: back ∧ call.obtains = some obtained ∧
    (loader.afterEvents front).registered obtained.entry = none ∧
    ∀ event ∈ back, event.removes ≠ some obtained.entry

theorem afterEvents_append :
    loader.afterEvents (front ++ back) = (loader.afterEvents front).afterEvents back :=
  List.foldl_append

/-- It is the definition that is registered. -/
theorem PutByLoad.registered (put : loader.PutByLoad events obtained) :
    (loader.afterEvents events).registered obtained.entry = some obtained.definition := by
  obtain ⟨front, call, back, rfl, obtains, free, kept⟩ := put
  have placed : ((loader.afterEvents front).next (.load call)).registered obtained.entry =
      some obtained.definition := by
    rw [registered_next_load, free, Option.none_or, provides_of_obtains obtains]
  rw [afterEvents_append]
  show (((loader.afterEvents front).next (.load call)).afterEvents back).registered _ = _
  exact registered_afterEvents_of_some placed kept

theorem PutByLoad.append_singleton (put : loader.PutByLoad events obtained)
    (kept : event.removes ≠ some obtained.entry) :
    loader.PutByLoad (events ++ [event]) obtained := by
  obtain ⟨front, call, back, rfl, obtains, free, before⟩ := put
  refine ⟨front, call, back ++ [event], List.append_assoc .., obtains, free, ?_⟩
  intro other member
  rcases List.mem_append.mp member with earlier | last
  · exact before other earlier
  · rw [List.mem_singleton.mp last]
    exact kept

/-- Nothing else is registered but what was registered from the start. -/
theorem registered_or_putByLoad {definition : AgentDefinition ⊕ TransportDefinition}
    (present : (loader.afterEvents events).registered entry = some definition) :
    loader.registered entry = some definition ∨
      ∃ obtained, loader.PutByLoad events obtained ∧ obtained.entry = entry ∧
        obtained.definition = definition := by
  induction events using List.reverseRecOn with
  | nil => exact .inl present
  | append_singleton front event inductionHypothesis =>
    have step : loader.afterEvents (front ++ [event]) = (loader.afterEvents front).next event :=
      afterEvents_append
    rw [step] at present
    cases removes : event.removes with
    | some removed =>
      rw [registered_next_of_removes removes] at present
      split_ifs at present with same
      refine (inductionHypothesis present).imp_right ?_
      rintro ⟨obtained, put, rfl, defined⟩
      have kept : event.removes ≠ some obtained.entry := by
        rw [removes]
        exact fun equal => same (Option.some.inj equal)
      exact ⟨obtained, put.append_singleton kept, rfl, defined⟩
    | none =>
      cases event with
      | removeAgentDefinition key => cases removes
      | removeTransportDefinition key => cases removes
      | load call =>
        rw [registered_next_load] at present
        cases before : (loader.afterEvents front).registered entry with
        | some existing =>
          rw [before, Option.some_or] at present
          cases present
          refine (inductionHypothesis before).imp_right ?_
          rintro ⟨obtained, put, named, defined⟩
          exact ⟨obtained, put.append_singleton (Option.some_ne_none _).symm, named, defined⟩
        | none =>
          rw [before, Option.none_or] at present
          obtain ⟨obtained, obtains, rfl, defined⟩ := exists_obtains_of_provides present
          exact .inr ⟨obtained, ⟨front, call, [], rfl, obtains, before, List.forall_mem_nil _⟩,
            rfl, defined⟩

/-- Its library is open at least once more than at the start. -/
theorem PutByLoad.openCounts_lt (put : loader.PutByLoad events obtained) :
    loader.openCounts obtained.handle < (loader.afterEvents events).openCounts obtained.handle := by
  obtain ⟨front, call, back, rfl, obtains, _, _⟩ := put
  have before : loader.openCounts obtained.handle ≤
      (loader.afterEvents front).openCounts obtained.handle := openCounts_le_afterEvents _
  have opened : ((loader.afterEvents front).next (.load call)).openCounts obtained.handle = _ :=
    openCounts_perform_of_obtains obtains
  have kept : ((loader.afterEvents front).next (.load call)).openCounts obtained.handle ≤
      (((loader.afterEvents front).next (.load call)).afterEvents back).openCounts
        obtained.handle := openCounts_le_afterEvents _
  rw [afterEvents_append]
  exact lt_of_lt_of_le (lt_of_le_of_lt before (opened ▸ Int.lt_succ _)) kept

end LibLoader

/-- After any sequence of loads and removals the registries hold what they held from the start
and what loads have put there, and the library of each definition that a load has put there is
open. -/
theorem registeredLibraries_open {Handle AgentDefinition TransportDefinition : Type}
    [DecidableEq Handle] (agentRegistry : AgentRegistry AgentDefinition)
    (transportRegistry : AgentRegistry TransportDefinition) (opened : Handle → Nat)
    (events : List (LibLoader.Event Handle AgentDefinition TransportDefinition)) :
    let loader := LibLoader.initial agentRegistry transportRegistry fun handle => opened handle
    (∀ entry definition, (loader.afterEvents events).registered entry = some definition →
      loader.registered entry = some definition ∨
        ∃ obtained, loader.PutByLoad events obtained ∧ obtained.entry = entry ∧
          obtained.definition = definition) ∧
      ∀ obtained, loader.PutByLoad events obtained →
        (loader.afterEvents events).registered obtained.entry = some obtained.definition ∧
          1 ≤ (loader.afterEvents events).openCounts obtained.handle := by
  intro loader
  refine ⟨fun entry definition => LibLoader.registered_or_putByLoad, fun obtained put => ?_⟩
  have base : 0 ≤ loader.openCounts obtained.handle := Int.natCast_nonneg _
  exact ⟨put.registered, lt_of_le_of_lt base put.openCounts_lt⟩

/-- A library with an agent, loaded again for a transport that it does not have. -/
def sharedLibrary : List (LibLoader.Event String Unit Unit) :=
  [.load (.loadAgentLib ⟨"app", "shared.so", "getAgentDefinition"⟩ (.definition "shared" ())),
    .load (.loadTransportLib ⟨"udp", "shared.so", "getTransportDefinition"⟩ (.noSymbol "shared")),
    .removeAgentDefinition "other"]

theorem registeredLibraries_open_sample :
    1 ≤ ((LibLoader.initial ∅ ∅ fun _ => ((0 : Nat) : Int)).afterEvents sharedLibrary).openCounts
      "shared" := by
  have put : (LibLoader.initial ∅ ∅ fun _ => ((0 : Nat) : Int)).PutByLoad sharedLibrary
      ⟨(.agent, "app"), "shared", .inl ()⟩ :=
    ⟨[], _, _, rfl, rfl, rfl, by simp [LibLoader.Event.removes]⟩
  exact ((registeredLibraries_open ∅ ∅ (fun _ => 0) sharedLibrary).2 _ put).2

/-! ### What a load reports -/

namespace LibLoader

variable {Handle AgentDefinition TransportDefinition : Type} [DecidableEq Handle]
  (loader : LibLoader Handle AgentDefinition TransportDefinition)

/-- What a load answers. -/
def respond : Call Handle AgentDefinition TransportDefinition → OperationResult
  | .loadAgentLib libInfo outcome => (loader.loadAgentLib libInfo outcome).1
  | .loadTransportLib libInfo outcome => (loader.loadTransportLib libInfo outcome).1

/-- A load obtains a definition, and it is the one registered. -/
def Registers (call : Call Handle AgentDefinition TransportDefinition) : Prop :=
  ∃ obtained, call.obtains = some obtained ∧
    loader.registered obtained.entry = some obtained.definition

/-- A load reports success exactly if afterwards the definition it obtained is registered. -/
def ReportsRegistration (call : Call Handle AgentDefinition TransportDefinition) : Prop :=
  (loader.respond call).success = true ↔ (loader.perform call).Registers call

/-- No other definition is registered under the name of the definition a load obtains. -/
def Unclashing (call : Call Handle AgentDefinition TransportDefinition) : Prop :=
  ∀ obtained definition, call.obtains = some obtained →
    loader.registered obtained.entry = some definition → definition = obtained.definition

variable {loader} {call : Call Handle AgentDefinition TransportDefinition}
  {obtained : Obtained Handle AgentDefinition TransportDefinition}

/-- A load succeeds if it obtains a definition. -/
theorem respond_success : (loader.respond call).success = call.obtains.isSome := by
  rcases call with ⟨libInfo, _ | handle | handle | ⟨handle, definition⟩⟩ |
    ⟨libInfo, _ | handle | handle | ⟨handle, definition⟩⟩ <;> rfl

/-- What a load obtained is registered afterwards exactly if nothing else was. -/
theorem registered_perform_of_obtains (obtains : call.obtains = some obtained) :
    (loader.perform call).registered obtained.entry = some obtained.definition ↔
      loader.Unclashing call := by
  rw [registered_perform, provides_of_obtains obtains]
  constructor
  · intro kept another definition obtainsAnother present
    obtain rfl : obtained = another := Option.some.inj (obtains.symm.trans obtainsAnother)
    rw [present, Option.some_or] at kept
    exact Option.some.inj kept
  · intro unclashing
    cases present : loader.registered obtained.entry with
    | none => rw [Option.none_or]
    | some definition => rw [Option.some_or, unclashing obtained definition obtains present]

omit [DecidableEq Handle] in
theorem registers_iff (obtains : call.obtains = some obtained) :
    loader.Registers call ↔ loader.registered obtained.entry = some obtained.definition := by
  refine ⟨?_, fun present => ⟨obtained, obtains, present⟩⟩
  rintro ⟨another, obtainsAnother, present⟩
  obtain rfl : obtained = another := Option.some.inj (obtains.symm.trans obtainsAnother)
  exact present

/-- A load reports rightly exactly if no other definition was in the place of its own. -/
theorem reportsRegistration_iff : loader.ReportsRegistration call ↔ loader.Unclashing call := by
  rw [ReportsRegistration, respond_success]
  cases obtains : call.obtains with
  | none =>
    have unclashing : loader.Unclashing call := by
      intro obtained definition contrary
      rw [obtains] at contrary
      cases contrary
    refine iff_of_true (iff_of_false Bool.false_ne_true ?_) unclashing
    rintro ⟨obtained, contrary, _⟩
    rw [obtains] at contrary
    cases contrary
  | some obtained =>
    rw [registers_iff obtains, registered_perform_of_obtains obtains, Option.isSome_some,
      eq_self, true_iff]

end LibLoader

end MavlinkHub
