/-
This file is about the calls of the application service, which is not made for two
threads at once. A worker calls it for a command, and the UI thread calls it twice to
refresh the overview tables. The workers keep out of each other's way. Nothing keeps a
refresh out of theirs, so two calls overlap if it begins before the call of an accepted
command has returned.
-/

import MavlinkHub.CliUiController

namespace MavlinkHub

namespace CliUiController

/-- At most one call of `app_service.executeCommand` is in progress. -/
structure CallsAlone (controller : CliUiController) : Prop where
  workers : ∀ first second, controller.InService first → controller.InService second →
    first = second
  uiThread : controller.Fetching → ∀ worker, ¬controller.InService worker

/-- A worker has yet to call the service, or is inside it. -/
def CallPending (controller : CliUiController) : Prop :=
  ∃ worker ∈ controller.workers, worker.phase = .spawned ∨ worker.phase = .inService

/-- No refresh begins while the call of an accepted command has not returned. -/
def RefreshesAlone (controller : CliUiController) : Event → Prop
  | .updateOverviewData => ¬controller.CallPending
  | _ => True

instance (controller : CliUiController) : Decidable controller.CallPending :=
  inferInstanceAs (Decidable (∃ worker ∈ controller.workers, _))

instance (controller : CliUiController) : ∀ event, Decidable (controller.RefreshesAlone event)
  | .updateOverviewData => inferInstanceAs (Decidable ¬_)
  | .commitCommand _ | .setPayload _ | .clearPayload | .clearResult | .executeCurrentCommand
  | .joinExecution | .render | .joined _ | .startThread _ | .agentsReturn _ | .endpointsReturn _
  | .renderName _ | .call _ _ | .answer _ _ _ | .store _ _ _ | .finish _ _ =>
    inferInstanceAs (Decidable True)

/-- The invariant of the runs in which that holds. -/
def RefreshExcludes (controller : CliUiController) : Prop :=
  controller.Fetching → ¬controller.CallPending

variable {controller moved : CliUiController} {worker : Nat} {running other : Worker}
  {jsoncons : Jsoncons} {truncate : String → Int}

/-- A step of a worker that does not begin a call leaves none pending that was not. -/
theorem callPending_of_set (settled : ¬(other.phase = .spawned ∨ other.phase = .inService))
    (workers : moved.workers = controller.workers.set worker other)
    (pending : moved.CallPending) : controller.CallPending := by
  obtain ⟨party, present, phase⟩ := pending
  rw [workers] at present
  rcases List.mem_or_eq_of_mem_set present with old | rfl
  · exact ⟨party, old, phase⟩
  · exact absurd phase settled

/-- Every event keeps the invariant if refreshes begin alone. -/
theorem RefreshExcludes.next (excludes : controller.RefreshExcludes) (event : Event)
    (enabled : controller.Enabled event) (alone : controller.RefreshesAlone event) :
    (controller.next jsoncons truncate event).RefreshExcludes := by
  cases event with
  | commitCommand | setPayload | clearPayload | clearResult => exact excludes
  | executeCurrentCommand =>
    rw [CliUiController.next]
    rcases executeCurrentCommand_cases controller with same | ⟨descriptor, _, _, accepts⟩
    · rw [same]
      exact excludes
    · rw [accepts]
      rintro (⟨⟨⟩⟩ | ⟨⟨⟩⟩)
  | joinExecution => rintro (⟨⟨⟩⟩ | ⟨⟨⟩⟩)
  | updateOverviewData => exact fun _ => alone
  | render =>
    rw [CliUiController.next, render]
    split
    · exact excludes
    · rintro (⟨⟨⟩⟩ | ⟨⟨⟩⟩)
  | joined cmd => cases cmd <;> rintro (⟨⟨⟩⟩ | ⟨⟨⟩⟩)
  | startThread cmd => rintro (⟨⟨⟩⟩ | ⟨⟨⟩⟩)
  | agentsReturn result =>
    obtain ⟨uiCall, tables, _, same⟩ := controller.agentsReturn_cases result
    rw [CliUiController.next, same]
    exact fun _ => excludes (.inl enabled)
  | endpointsReturn result =>
    obtain ⟨uiCall, tables, _, same⟩ := controller.endpointsReturn_cases result
    rw [CliUiController.next, same]
    exact fun _ => excludes (.inr enabled)
  | renderName result => rintro (⟨⟨⟩⟩ | ⟨⟨⟩⟩)
  | call worker cmd =>
    intro fetching
    exact absurd ⟨_, List.mem_of_getElem? enabled, .inl rfl⟩ (excludes fetching)
  | answer worker cmd result =>
    exact fun fetching pending => excludes fetching (callPending_of_set (by simp) rfl pending)
  | store worker cmd result =>
    exact fun fetching pending => excludes fetching (callPending_of_set (by simp) rfl pending)
  | finish worker cmd =>
    exact fun fetching pending => excludes fetching (callPending_of_set (by simp) rfl pending)

theorem refreshExcludes_run {events : List Event}
    (run : (machine jsoncons truncate).Runs RefreshesAlone {} events controller) :
    controller.RefreshExcludes := by
  refine run.invariant RefreshExcludes
    (fun _ event excludes enabled alone => excludes.next event enabled alone) ?_
  rintro (⟨⟨⟩⟩ | ⟨⟨⟩⟩)

theorem callPending_of_inService (inService : controller.InService worker) :
    controller.CallPending := by
  obtain ⟨running, found, phase⟩ := Option.map_eq_some_iff.mp inService
  exact ⟨running, List.mem_of_getElem? found, .inr phase⟩

/-- A refresh that begins too early can find itself inside the service together with a worker. -/
theorem exists_overlap (idle : controller.uiCall = .idle) (pending : controller.CallPending) :
    ∃ events last, (machine jsoncons truncate).Runs (fun _ _ => True) controller
      (.updateOverviewData :: events) last ∧ ¬last.CallsAlone := by
  obtain ⟨⟨cmd, phase⟩, present, waits | inService⟩ := pending
  · obtain ⟨worker, found⟩ := List.mem_iff_getElem?.mp present
    obtain rfl : phase = .spawned := waits
    have bound : worker < controller.workers.length := (List.getElem?_eq_some_iff.mp found).1
    refine ⟨[.call worker cmd], _, .next ⟨idle, trivial, rfl⟩ (.single ⟨found, trivial, rfl⟩),
      fun alone => alone.uiThread (.inl rfl) worker ?_⟩
    show ((controller.workers.set worker ⟨cmd, .inService⟩)[worker]?).map Worker.phase = _
    rw [List.getElem?_set_self bound]
    rfl
  · obtain ⟨worker, found⟩ := List.mem_iff_getElem?.mp present
    obtain rfl : phase = .inService := inService
    refine ⟨[], _, .single ⟨idle, trivial, rfl⟩,
      fun alone => alone.uiThread (.inl rfl) worker ?_⟩
    show (controller.workers[worker]?).map Worker.phase = _
    rw [found]
    rfl

end CliUiController

/-- In the runs in which no refresh begins while the call of an accepted command has not returned,
two calls of the service are never in progress. After such a run, a refresh that begins earlier
can overlap with the call of a worker. -/
theorem serviceCalls_alone {jsoncons : Jsoncons} {truncate : String → Int}
    {events : List CliUiController.Event} {controller : CliUiController}
    (run : (CliUiController.machine jsoncons truncate).Runs CliUiController.RefreshesAlone {} events
      controller) :
    controller.CallsAlone ∧
      (controller.Enabled .updateOverviewData →
        ¬controller.RefreshesAlone .updateOverviewData →
        ∃ events last, (CliUiController.machine jsoncons truncate).Runs (fun _ _ => True)
          controller (.updateOverviewData :: events) last ∧ ¬last.CallsAlone) := by
  obtain ⟨_, atStage⟩ := CliUiController.exists_atStage run
  have excludes := CliUiController.refreshExcludes_run run
  refine ⟨⟨fun _ _ => atStage.alone, fun fetching worker inService => ?_⟩, fun idle early => ?_⟩
  · exact excludes fetching (CliUiController.callPending_of_inService inService)
  · exact CliUiController.exists_overlap idle (not_not.mp early)

/-- The refresh at the start of the UI, a command, and a refresh after its answer. -/
def refreshAround : List CliUiController.Event :=
  [.updateOverviewData, .agentsReturn ⟨false, [], ""⟩, .endpointsReturn ⟨false, [], ""⟩,
    .commitCommand 0, .executeCurrentCommand, .joined (some ⟨.getEndpointList, ""⟩),
    .startThread ⟨.getEndpointList, ""⟩, .call 0 ⟨.getEndpointList, ""⟩,
    .answer 0 ⟨.getEndpointList, ""⟩ ⟨true, [], "[]"⟩, .updateOverviewData]

theorem serviceCalls_alone_sample :
    let controller :=
      refreshAround.foldl (CliUiController.machine (.reading []) fun _ => 0).next {}
    controller.Fetching ∧ controller.CallsAlone := by
  intro controller
  have run : (CliUiController.machine (.reading []) fun _ => 0).Runs
      CliUiController.RefreshesAlone {} refreshAround controller := Machine.runs_of_play rfl
  exact ⟨.inl rfl, (serviceCalls_alone run).1⟩

/-- A refresh while a worker is inside the service. -/
theorem serviceCalls_overlap :
    ∃ controller, (CliUiController.machine (.reading []) fun _ => 0).Runs (fun _ _ => True) {}
        [.commitCommand 0, .executeCurrentCommand, .joined (some ⟨.getEndpointList, ""⟩),
          .startThread ⟨.getEndpointList, ""⟩, .call 0 ⟨.getEndpointList, ""⟩,
          .updateOverviewData] controller ∧
      controller.InService 0 ∧ controller.Fetching ∧ ¬controller.CallsAlone := by
  refine ⟨_, Machine.runs_of_play rfl, ?_, .inl rfl, fun alone => alone.uiThread (.inl rfl) 0 ?_⟩
  · rfl
  · rfl

end MavlinkHub
