/-
This file transcribes the lib loader and balances its handles. A load opens a library
and then either closes it again or stores its handle. The number of times a library is
open therefore exceeds the number of stored handles by the loads that stored nothing:
those that obtained a definition under a name their handle map already had.
-/

import MavlinkHub.AgentRegistry
import MavlinkHub.AppConfig
import MavlinkHub.Library.Holdings

namespace MavlinkHub

/-! ### The dynamic linker -/

/-- What `dlopen`, `dlsym` and the getter of a library answer to one load. -/
inductive DlOutcome (Handle Definition : Type)
  | notOpened
  | noSymbol (handle : Handle)
  | noDefinition (handle : Handle)
  | definition (handle : Handle) (definition : Definition)

/-- How often each library is open: successful `dlopen` calls minus `dlclose` calls. -/
abbrev OpenCounts (Handle : Type) := Handle → Int

namespace OpenCounts

variable {Handle : Type} [DecidableEq Handle]

/-- A successful `dlopen`. -/
def dlopen (handle : Handle) (counts : OpenCounts Handle) : OpenCounts Handle :=
  Function.update counts handle (counts handle + 1)

/-- `dlclose`. -/
def dlclose (handle : Handle) (counts : OpenCounts Handle) : OpenCounts Handle :=
  Function.update counts handle (counts handle - 1)

theorem dlopen_apply (handle other : Handle) (counts : OpenCounts Handle) :
    counts.dlopen handle other = counts other + if other = handle then 1 else 0 := by
  by_cases same : other = handle
  · rw [same, dlopen, Function.update_self, if_pos rfl]
  · rw [dlopen, Function.update_of_ne same, if_neg same, add_zero]

theorem dlclose_apply (handle other : Handle) (counts : OpenCounts Handle) :
    counts.dlclose handle other = counts other - if other = handle then 1 else 0 := by
  by_cases same : other = handle
  · rw [same, dlclose, Function.update_self, if_pos rfl]
  · rw [dlclose, Function.update_of_ne same, if_neg same, sub_zero]

/-- A library that is opened and closed again is as often open as before. -/
@[simp] theorem dlclose_dlopen (handle : Handle) (counts : OpenCounts Handle) :
    (counts.dlopen handle).dlclose handle = counts := by
  funext other
  rw [dlclose_apply, dlopen_apply, add_sub_cancel_right]

end OpenCounts

/-! ### The loader -/

/-- What a load of one kind works on: a registry, the stored handles and the open libraries. -/
structure LibTable (Handle Definition : Type) where
  registry : AgentRegistry Definition
  handles : Traversal Handle
  openCounts : OpenCounts Handle

namespace LibTable

variable {Handle Definition : Type} [DecidableEq Handle]

/-- `std::unordered_map::emplace`, which does nothing if the key is taken. -/
def emplace (name : String) (handle : Handle) (handles : Traversal Handle) : Traversal Handle :=
  if name ∈ handles then handles else handles.insert name handle

/-- The body that `loadAgentLib` and `loadTransportLib` share. What the registry answers is
not looked at. -/
def load (function lib kind : String) (libInfo : LibInfo) (outcome : DlOutcome Handle Definition)
    (table : LibTable Handle Definition) : OperationResult × LibTable Handle Definition :=
  match outcome with
  | .notOpened =>
    ({ success := false
       messages := [function ++ lib ++ libInfo.path ++ " cannot be found"] }, table)
  | .noSymbol handle =>
    ({ success := false
       messages := [function ++ ": The lib " ++ libInfo.path ++
         " is found but does not contain the symbol: " ++ libInfo.sym] },
      { table with openCounts := (table.openCounts.dlopen handle).dlclose handle })
  | .noDefinition handle =>
    ({ success := false
       messages := [function ++ ": The lib " ++ libInfo.path ++ " and the symbol " ++
         libInfo.sym ++ " are found but there is no " ++ kind] },
      { table with openCounts := (table.openCounts.dlopen handle).dlclose handle })
  | .definition handle definition =>
    ({ success := true
       messages := [function ++ ": The symbol " ++ libInfo.sym ++ " at lib " ++ libInfo.path ++
         " has been successfully loaded"] },
      { registry := (table.registry.addAgentDefinition libInfo.name definition).2
        handles := emplace libInfo.name handle table.handles
        openCounts := table.openCounts.dlopen handle })

end LibTable

/-- `LibLoader` with the two registries it fills and the libraries of the process. -/
structure LibLoader (Handle AgentDefinition TransportDefinition : Type) where
  agentRegistry : AgentRegistry AgentDefinition
  transportRegistry : AgentRegistry TransportDefinition
  agentLibHandles : Traversal Handle := ∅
  transportLibHandles : Traversal Handle := ∅
  openCounts : OpenCounts Handle

namespace LibLoader

variable {Handle AgentDefinition TransportDefinition : Type} [DecidableEq Handle]
  (loader : LibLoader Handle AgentDefinition TransportDefinition)

/-- `LibLoader::loadAgentLib`. -/
def loadAgentLib (libInfo : LibInfo) (outcome : DlOutcome Handle AgentDefinition) :
    OperationResult × LibLoader Handle AgentDefinition TransportDefinition :=
  let (result, table) := LibTable.load "[LibLoader::loadAgentLib]" ": The lib - "
    "AgentDefinition" libInfo outcome
    ⟨loader.agentRegistry, loader.agentLibHandles, loader.openCounts⟩
  (result,
    { loader with
      agentRegistry := table.registry
      agentLibHandles := table.handles
      openCounts := table.openCounts })

/-- `LibLoader::loadTransportLib`. -/
def loadTransportLib (libInfo : LibInfo) (outcome : DlOutcome Handle TransportDefinition) :
    OperationResult × LibLoader Handle AgentDefinition TransportDefinition :=
  let (result, table) := LibTable.load "[LibLoader::loadTransportLib]" ": The lib "
    "TransportDefinition" libInfo outcome
    ⟨loader.transportRegistry, loader.transportLibHandles, loader.openCounts⟩
  (result,
    { loader with
      transportRegistry := table.registry
      transportLibHandles := table.handles
      openCounts := table.openCounts })

/-- One of the two loops of the destructor. -/
def closeAll (handles : Traversal Handle) (counts : OpenCounts Handle) : OpenCounts Handle :=
  handles.entries.foldl (fun counts entry => counts.dlclose entry.2) counts

/-- `~LibLoaderImpl`: the open libraries afterwards. -/
def destroy : OpenCounts Handle :=
  closeAll loader.transportLibHandles (closeAll loader.agentLibHandles loader.openCounts)

/-! ### Sequences of loads -/

/-- The kinds of libraries. -/
inductive LibKind
  | agent
  | transport
  deriving DecidableEq

/-- A call into the loader, with what the dynamic linker answers. -/
inductive Call (Handle AgentDefinition TransportDefinition : Type)
  | loadAgentLib (libInfo : LibInfo) (outcome : DlOutcome Handle AgentDefinition)
  | loadTransportLib (libInfo : LibInfo) (outcome : DlOutcome Handle TransportDefinition)

/-- What a call leaves of the loader. -/
def perform : Call Handle AgentDefinition TransportDefinition →
    LibLoader Handle AgentDefinition TransportDefinition
  | .loadAgentLib libInfo outcome => (loader.loadAgentLib libInfo outcome).2
  | .loadTransportLib libInfo outcome => (loader.loadTransportLib libInfo outcome).2

/-- The loader after a sequence of calls. -/
def after (calls : List (Call Handle AgentDefinition TransportDefinition)) :
    LibLoader Handle AgentDefinition TransportDefinition :=
  calls.foldl perform loader

/-- The number of stored entries that hold a handle. -/
def held (handle : Handle) : Nat :=
  (Holdings.values loader.agentLibHandles).count handle +
    (Holdings.values loader.transportLibHandles).count handle

/-- A name is taken in the handle map of a kind. -/
def Holds : LibKind × String → Prop
  | (.agent, name) => name ∈ loader.agentLibHandles
  | (.transport, name) => name ∈ loader.transportLibHandles

/-- How often a library is open beyond the handles the loader stores and what others opened. -/
def excess (base : OpenCounts Handle) (handle : Handle) : Int :=
  loader.openCounts handle - base handle - loader.held handle

omit [DecidableEq Handle] in
/-- The kind, name and library of a load that obtains a definition. -/
def Call.defines : Call Handle AgentDefinition TransportDefinition →
    Option ((LibKind × String) × Handle)
  | .loadAgentLib libInfo (.definition handle _) => some ((.agent, libInfo.name), handle)
  | .loadTransportLib libInfo (.definition handle _) => some ((.transport, libInfo.name), handle)
  | _ => none

/-! ### One call -/

omit [DecidableEq Handle] in
theorem emplace_of_mem {name : String} {handles : Traversal Handle}
    (taken : name ∈ handles) (handle : Handle) :
    LibTable.emplace name handle handles = handles := if_pos taken

theorem count_values_emplace {name : String} {handles : Traversal Handle}
    (free : name ∉ handles) (handle other : Handle) :
    (Holdings.values (LibTable.emplace name handle handles)).count other =
      (Holdings.values handles).count other + if other = handle then 1 else 0 := by
  rw [LibTable.emplace, if_neg free, Holdings.values_insert,
    Holdings.erase_eq_self (AList.lookup_eq_none.mpr free), Multiset.count_cons]

omit [DecidableEq Handle] in
theorem mem_emplace {name other : String} {handles : Traversal Handle} {handle : Handle} :
    other ∈ LibTable.emplace name handle handles ↔ other ∈ handles ∨ other = name := by
  by_cases taken : name ∈ handles
  · rw [LibTable.emplace, if_pos taken]
    refine ⟨.inl, fun present => present.elim id ?_⟩
    rintro rfl
    exact taken
  · rw [LibTable.emplace, if_neg taken, AList.mem_insert, or_comm]

variable {call : Call Handle AgentDefinition TransportDefinition}
  {entry : LibKind × String} {handle : Handle} {base : OpenCounts Handle}

/-- A load that obtains no definition closes what it opened. -/
theorem perform_of_undefined (undefined : call.defines = none) :
    (loader.perform call).agentLibHandles = loader.agentLibHandles ∧
      (loader.perform call).transportLibHandles = loader.transportLibHandles ∧
      (loader.perform call).openCounts = loader.openCounts := by
  rcases call with ⟨libInfo, _ | handle | handle | ⟨handle, definition⟩⟩ |
    ⟨libInfo, _ | handle | handle | ⟨handle, definition⟩⟩
  all_goals first
    | exact absurd undefined (Option.some_ne_none _)
    | simp [perform, loadAgentLib, loadTransportLib, LibTable.load]

/-- A load that obtains a definition under a free name stores the handle it opened. -/
theorem perform_of_free (defined : call.defines = some (entry, handle))
    (free : ¬loader.Holds entry) (other : Handle) :
    (loader.perform call).excess base other = loader.excess base other := by
  rcases call with ⟨libInfo, _ | opened | opened | ⟨opened, definition⟩⟩ |
    ⟨libInfo, _ | opened | opened | ⟨opened, definition⟩⟩ <;> cases defined
  · have stored := count_values_emplace free handle other
    simp only [excess, held, perform, loadAgentLib, LibTable.load, stored,
      OpenCounts.dlopen_apply]
    split_ifs <;> push_cast <;> omega
  · have stored := count_values_emplace free handle other
    simp only [excess, held, perform, loadTransportLib, LibTable.load, stored,
      OpenCounts.dlopen_apply]
    split_ifs <;> push_cast <;> omega

/-- Under a taken name the library stays open with nothing to close it. -/
theorem perform_of_taken (defined : call.defines = some (entry, handle))
    (taken : loader.Holds entry) (other : Handle) :
    (loader.perform call).excess base other =
      loader.excess base other + if other = handle then 1 else 0 := by
  rcases call with ⟨libInfo, _ | opened | opened | ⟨opened, definition⟩⟩ |
    ⟨libInfo, _ | opened | opened | ⟨opened, definition⟩⟩ <;> cases defined
  · have kept := emplace_of_mem taken handle
    simp only [excess, held, perform, loadAgentLib, LibTable.load, kept, OpenCounts.dlopen_apply]
    split_ifs <;> omega
  · have kept := emplace_of_mem taken handle
    simp only [excess, held, perform, loadTransportLib, LibTable.load, kept,
      OpenCounts.dlopen_apply]
    split_ifs <;> omega

theorem holds_perform (defined : call.defines = some (entry, handle)) (other : LibKind × String) :
    (loader.perform call).Holds other ↔ loader.Holds other ∨ other = entry := by
  rcases other with ⟨_ | _, name⟩ <;>
    rcases call with ⟨libInfo, _ | opened | opened | ⟨opened, definition⟩⟩ |
      ⟨libInfo, _ | opened | opened | ⟨opened, definition⟩⟩ <;> cases defined
  all_goals simp [Holds, perform, loadAgentLib, loadTransportLib, LibTable.load, mem_emplace]

/-! ### Whole sequences -/

/-- The names under which the loads of a sequence obtain definitions, each with its kind. -/
def definedNames (calls : List (Call Handle AgentDefinition TransportDefinition)) :
    List (LibKind × String) :=
  (calls.filterMap Call.defines).map Prod.fst

variable {calls : List (Call Handle AgentDefinition TransportDefinition)}

theorem excess_of_undefined (undefined : call.defines = none) :
    (loader.perform call).excess base = loader.excess base := by
  obtain ⟨agents, transports, counts⟩ := perform_of_undefined loader undefined
  funext other
  rw [excess, excess, held, held, agents, transports, counts]

theorem holds_of_undefined (undefined : call.defines = none) (other : LibKind × String) :
    (loader.perform call).Holds other ↔ loader.Holds other := by
  obtain ⟨agents, transports, _⟩ := perform_of_undefined loader undefined
  rcases other with ⟨_ | _, name⟩
  · rw [Holds, Holds, agents]
  · rw [Holds, Holds, transports]

/-- No call brings the excess of a library down. -/
theorem excess_le_perform (other : Handle) :
    loader.excess base other ≤ (loader.perform call).excess base other := by
  cases defined : call.defines with
  | none => rw [excess_of_undefined loader defined]
  | some entry =>
    rcases entry with ⟨entry, handle⟩
    by_cases taken : loader.Holds entry
    · rw [perform_of_taken loader defined taken]
      split_ifs <;> omega
    · rw [perform_of_free loader defined taken]

theorem excess_le_after (other : Handle) :
    loader.excess base other ≤ (loader.after calls).excess base other := by
  induction calls generalizing loader with
  | nil => exact le_rfl
  | cons call rest inductionHypothesis =>
    exact le_trans (excess_le_perform loader other) (inductionHypothesis (loader.perform call))

/-- A sequence leaves the excess of every library as it was exactly if it defines no name twice
and none that was taken. -/
theorem excess_after_eq_iff :
    (loader.after calls).excess base = loader.excess base ↔
      (definedNames calls).Nodup ∧ ∀ entry ∈ definedNames calls, ¬loader.Holds entry := by
  induction calls generalizing loader with
  | nil => exact iff_of_true rfl ⟨List.nodup_nil, fun _ member => nomatch member⟩
  | cons call rest inductionHypothesis =>
    have step : loader.after (call :: rest) = (loader.perform call).after rest := rfl
    rw [step]
    cases defined : call.defines with
    | none =>
      have names : definedNames (call :: rest) = definedNames rest := by
        rw [definedNames, List.filterMap_cons_none defined, definedNames]
      rw [← excess_of_undefined loader defined, inductionHypothesis, names]
      simp only [holds_of_undefined loader defined]
    | some entry =>
      rcases entry with ⟨entry, handle⟩
      have names : definedNames (call :: rest) = entry :: definedNames rest := by
        rw [definedNames, List.filterMap_cons_some defined, List.map_cons, definedNames]
      rw [names, List.nodup_cons, List.forall_mem_cons]
      by_cases taken : loader.Holds entry
      · refine iff_of_false (fun same => ?_) fun ⟨_, free, _⟩ => free taken
        have more : (loader.perform call).excess base handle = _ :=
          perform_of_taken loader defined taken handle
        have kept : (loader.perform call).excess base handle ≤
          ((loader.perform call).after rest).excess base handle := excess_le_after _ handle
        rw [same, more, if_pos rfl] at kept
        omega
      · have same : (loader.perform call).excess base = loader.excess base :=
          funext (perform_of_free loader defined taken)
        rw [← same, inductionHypothesis]
        simp only [holds_perform loader defined, not_or]
        constructor
        · rintro ⟨distinct, free⟩
          exact ⟨⟨fun member => (free entry member).2 rfl, distinct⟩, taken,
            fun other member => (free other member).1⟩
        · rintro ⟨⟨fresh, distinct⟩, _, free⟩
          refine ⟨distinct, fun other member => ⟨free other member, ?_⟩⟩
          rintro rfl
          exact fresh member

/-! ### Destruction -/

/-- A loop of the destructor closes a library once for each entry that holds its handle. -/
theorem closeAll_apply (handles : Traversal Handle) (counts : OpenCounts Handle)
    (other : Handle) :
    closeAll handles counts other = counts other - (Holdings.values handles).count other := by
  rw [closeAll, Holdings.values, Multiset.coe_count]
  induction handles.entries generalizing counts with
  | nil => simp
  | cons entry rest inductionHypothesis =>
    rw [List.foldl_cons, inductionHypothesis, OpenCounts.dlclose_apply, List.map_cons,
      List.count_cons]
    by_cases same : other = entry.2
    · simp [same]
      omega
    · simp [same, Ne.symm same]

/-- After its destruction a library is as often open as before plus its excess. -/
theorem destroy_apply (base : OpenCounts Handle) (other : Handle) :
    loader.destroy other = base other + loader.excess base other := by
  rw [destroy, closeAll_apply, closeAll_apply, excess, held]
  push_cast
  omega

end LibLoader

/-- The libraries are balanced: each is open once for every stored entry that holds its handle,
on top of what others have opened, and a destruction would leave what others have opened. -/
structure LibLoader.Balanced {Handle AgentDefinition TransportDefinition : Type}
    [DecidableEq Handle] (base : OpenCounts Handle)
    (loader : LibLoader Handle AgentDefinition TransportDefinition) : Prop where
  opened : ∀ handle, loader.openCounts handle - base handle = loader.held handle
  destroyed : ∀ handle, loader.destroy handle = base handle

/-- A loader as its constructor leaves it, in a process with some libraries open. -/
def LibLoader.initial {Handle AgentDefinition TransportDefinition : Type}
    (agentRegistry : AgentRegistry AgentDefinition)
    (transportRegistry : AgentRegistry TransportDefinition) (base : OpenCounts Handle) :
    LibLoader Handle AgentDefinition TransportDefinition :=
  { agentRegistry, transportRegistry, openCounts := base }

section Balance

variable {Handle AgentDefinition TransportDefinition : Type} [DecidableEq Handle]
  {base : OpenCounts Handle} {loader : LibLoader Handle AgentDefinition TransportDefinition}

theorem LibLoader.balanced_iff_excess :
    LibLoader.Balanced base loader ↔ ∀ handle, loader.excess base handle = 0 := by
  constructor
  · intro balanced handle
    rw [LibLoader.excess, balanced.opened, sub_self]
  · intro none
    refine ⟨fun handle => ?_, fun handle => ?_⟩
    · exact sub_eq_zero.mp (none handle)
    · rw [loader.destroy_apply base, none, add_zero]

end Balance

/-- After each of any sequence of loads the libraries are balanced exactly if no two loads of
one kind obtain a definition under the same name. -/
theorem libLoader_balanced_iff {Handle AgentDefinition TransportDefinition : Type}
    [DecidableEq Handle] (agentRegistry : AgentRegistry AgentDefinition)
    (transportRegistry : AgentRegistry TransportDefinition) (base : OpenCounts Handle)
    (calls : List (LibLoader.Call Handle AgentDefinition TransportDefinition)) :
    (∀ front back, calls = front ++ back →
      LibLoader.Balanced base
        ((LibLoader.initial agentRegistry transportRegistry base).after front)) ↔
      (LibLoader.definedNames calls).Nodup := by
  have unused : ∀ entry, ¬(LibLoader.initial agentRegistry transportRegistry base).Holds entry := by
    rintro ⟨_ | _, name⟩ <;> exact AList.notMem_empty name
  have start : (LibLoader.initial agentRegistry transportRegistry base).excess base = 0 := by
    funext handle
    simp [LibLoader.excess, LibLoader.held, LibLoader.initial, Holdings.values]
  have balanced : ∀ front, LibLoader.Balanced base
      ((LibLoader.initial agentRegistry transportRegistry base).after front) ↔
      (LibLoader.definedNames front).Nodup := by
    intro front
    have counted : ((LibLoader.initial agentRegistry transportRegistry base).after front).excess
        base = (LibLoader.initial agentRegistry transportRegistry base).excess base ↔ _ :=
      LibLoader.excess_after_eq_iff _
    rw [start, funext_iff] at counted
    rw [LibLoader.balanced_iff_excess]
    exact counted.trans (and_iff_left fun entry _ => unused entry)
  constructor
  · intro always
    exact (balanced calls).mp (always calls [] (List.append_nil calls).symm)
  · rintro distinct front back rfl
    rw [balanced]
    rw [LibLoader.definedNames, List.filterMap_append, List.map_append] at distinct
    exact distinct.of_append_left

/-- Two libraries that define agents under one name. -/
def clashingLoads : List (LibLoader.Call String Unit Unit) :=
  [.loadAgentLib ⟨"app", "first.so", "getAgentDefinition"⟩ (.definition "first" ()),
    .loadAgentLib ⟨"app", "second.so", "getAgentDefinition"⟩ (.definition "second" ())]

/-- The second library stays open, and no entry holds its handle. -/
theorem clashingLoads_leak :
    let loader := (LibLoader.initial ∅ ∅ fun _ => 0).after clashingLoads
    loader.openCounts "second" = 1 ∧ loader.held "second" = 0 ∧ loader.destroy "second" = 1 ∧
      ¬LibLoader.Balanced (fun _ => 0) loader := by
  intro loader
  have left : loader.destroy "second" = 1 := by decide
  refine ⟨by decide, by decide, left, fun balanced => ?_⟩
  rw [balanced.destroyed] at left
  cases left

end MavlinkHub
