/-
This file lets the creation of a worker thread fail. The flag that a command is being
executed is set before the thread is created, and only the worker clears it. If there is
no worker, it is never cleared: the exception leaves the controller with nobody executing
anything, and every later command is ignored.
-/

import MavlinkHub.CliUiController

namespace MavlinkHub

namespace CliUiController

/-- What happens to a controller if the creation of a thread may fail. -/
inductive LaunchEvent
  | event (event : Event)
  /-- The constructor of `std::thread` throws, and the exception leaves
  `executeCurrentCommand`. -/
  | launchFails (cmd : AppServiceCommand)

variable (controller : CliUiController)

/-- When an event can happen. -/
def LaunchEnabled : LaunchEvent → Prop
  | .event event => controller.Enabled event
  | .launchFails cmd => controller.uiCall = .starting cmd

/-- What an event leads to. -/
def launchNext (jsoncons : Jsoncons) (truncate : String → Int) : LaunchEvent → CliUiController
  | .event event => controller.next jsoncons truncate event
  | .launchFails _ => { controller with uiCall := .idle }

instance : DecidablePred controller.LaunchEnabled
  | .event event => inferInstanceAs (Decidable (controller.Enabled event))
  | .launchFails _ => inferInstanceAs (Decidable (_ = _))

/-- A controller whose threads may fail to be created. -/
def launchMachine (jsoncons : Jsoncons) (truncate : String → Int) :
    Machine CliUiController LaunchEvent where
  enabled := LaunchEnabled
  next controller event := controller.launchNext jsoncons truncate event

instance (jsoncons : Jsoncons) (truncate : String → Int) (event : LaunchEvent) :
    Decidable ((launchMachine jsoncons truncate).enabled controller event) :=
  inferInstanceAs (Decidable (controller.LaunchEnabled event))

/-- The UI thread is in the body of `executeCurrentCommand`, with a command it has accepted. -/
def InExecuteCurrentCommand : Prop :=
  ∃ cmd, controller.uiCall = .joining (some cmd) ∨ controller.uiCall = .starting cmd

/-- There is a worker that has not stored its result. -/
def HasWorker : Prop :=
  ∃ running ∈ controller.workers, running.phase ≠ .stored ∧ running.phase ≠ .done

/-- Outside of `executeCurrentCommand` the flag says that a worker is at work. -/
def Unwedged : Prop :=
  ¬controller.InExecuteCurrentCommand → controller.executing = true → controller.HasWorker

/-- The flag is set, and nobody will clear it. -/
structure Wedged : Prop where
  executing : controller.executing = true
  outside : controller.uiCall.stage = none
  nobody : controller.workers.filterMap Worker.stage = []

variable {controller} {jsoncons : Jsoncons} {truncate : String → Int}
  {stage : Option CommandStage}

theorem stage_uiCall_eq_none_iff :
    controller.uiCall.stage = none ↔ ¬controller.InExecuteCurrentCommand := by
  unfold InExecuteCurrentCommand
  cases controller.uiCall with
  | joining cmd => cases cmd <;> simp [UiCall.stage]
  | _ => simp [UiCall.stage]

theorem stage_worker_eq_none_iff {running : Worker} :
    running.stage = none ↔ running.phase = .stored ∨ running.phase = .done := by
  unfold Worker.stage
  cases running.phase <;> simp

theorem hasWorker_iff :
    controller.HasWorker ↔ controller.workers.filterMap Worker.stage ≠ [] := by
  simp only [HasWorker, ne_eq, List.filterMap_eq_nil_iff, stage_worker_eq_none_iff, not_forall,
    not_or, exists_prop]

/-- A serial executor has a worker for the command that it has. -/
theorem AtStage.unwedged (atStage : controller.AtStage stage) : controller.Unwedged := by
  intro outside executing
  rw [hasWorker_iff]
  intro nobody
  have together := atStage.stages
  rw [CliUiController.stages, stage_uiCall_eq_none_iff.mpr outside, nobody] at together
  rw [atStage.executing] at executing
  obtain ⟨current, rfl⟩ := Option.isSome_iff_exists.mp executing
  cases together

theorem Wedged.not_unwedged (wedged : controller.Wedged) : ¬controller.Unwedged := by
  intro unwedged
  have worker := unwedged (stage_uiCall_eq_none_iff.mp wedged.outside) wedged.executing
  exact hasWorker_iff.mp worker wedged.nobody

/-- A failure leaves the flag of a command that no thread has. -/
theorem AtStage.launchFails (atStage : controller.AtStage stage) {cmd : AppServiceCommand}
    (starting : controller.uiCall = .starting cmd) :
    { controller with uiCall := .idle }.Wedged := by
  have has : controller.uiCall.stage = some (.accepted cmd) := by
    rw [starting]
    rfl
  obtain rfl := atStage.of_stage_uiCall has
  have together := atStage.stages
  rw [CliUiController.stages, has] at together
  exact ⟨atStage.executing, rfl, (List.cons.inj together).2⟩

theorem Wedged.executeCurrentCommand (wedged : controller.Wedged) :
    controller.executeCurrentCommand = controller :=
  executeCurrentCommand_of_ignored (.inr wedged.executing)

/-- No worker moves that still has to store its result. -/
theorem Wedged.stage_eq_none (wedged : controller.Wedged) {worker : Nat} {running : Worker}
    (found : controller.workers[worker]? = some running) : running.stage = none :=
  List.filterMap_eq_nil_iff.mp wedged.nobody running (List.mem_of_getElem? found)

/-- Without a worker nothing clears the flag, and with the flag no worker is created. -/
theorem Wedged.next_event (wedged : controller.Wedged) {event : Event}
    (enabled : controller.Enabled event) : (controller.next jsoncons truncate event).Wedged := by
  obtain ⟨executing, outside, nobody⟩ := id wedged
  have refused : ¬controller.AcceptedBy event := by
    intro accepted
    rw [accepted.2.2] at executing
    cases executing
  have still : (controller.next jsoncons truncate event).uiCall.stage = none :=
    uiCall_stage_next outside enabled refused
  by_cases thread : event.AboutThread
  · cases event with
    | joined cmd => exact ⟨executing, still, nobody⟩
    | startThread cmd =>
      rw [show controller.uiCall = .starting cmd from enabled] at outside
      cases outside
    | call worker cmd => cases wedged.stage_eq_none enabled
    | answer worker cmd result => cases wedged.stage_eq_none enabled
    | store worker cmd result => cases wedged.stage_eq_none enabled
    | finish worker cmd =>
      exact ⟨executing, still, (Parties.stages_set_of_none enabled rfl rfl).trans nobody⟩
    | _ => exact thread.elim
  · obtain ⟨workers, _, flag⟩ := controller.threads_next jsoncons truncate thread
    refine ⟨(flag refused).trans executing, still, ?_⟩
    rw [workers]
    exact nobody

theorem Wedged.next (wedged : controller.Wedged) (event : LaunchEvent)
    (enabled : controller.LaunchEnabled event) :
    (controller.launchNext jsoncons truncate event).Wedged := by
  cases event with
  | launchFails cmd =>
    have outside := wedged.outside
    rw [show controller.uiCall = .starting cmd from enabled] at outside
    cases outside
  | event event => exact wedged.next_event enabled

/-- A run of the controller keeps to its stages as long as no launch fails, and is wedged from the
first failure on. -/
theorem atStage_or_wedged {events : List LaunchEvent} {first : CliUiController}
    (atStage : ∃ stage, first.AtStage stage)
    (run : (launchMachine jsoncons truncate).Runs (fun _ _ => True) first events controller) :
    (∃ stage, controller.AtStage stage) ∧ (∀ cmd, .launchFails cmd ∉ events) ∨
      controller.Wedged ∧ ∃ cmd, .launchFails cmd ∈ events := by
  induction run with
  | done state => exact .inl ⟨atStage, fun cmd => List.not_mem_nil⟩
  | @next before middle after event rest head tail inductionHypothesis =>
    obtain ⟨enabled, _, rfl⟩ := head
    obtain ⟨stage, atStage⟩ := atStage
    cases event with
    | event event =>
      rcases inductionHypothesis (atStage.next event enabled) with
        ⟨reached, unfailed⟩ | ⟨wedged, cmd, failed⟩
      · refine .inl ⟨reached, fun cmd failed => ?_⟩
        rcases List.mem_cons.mp failed with contrary | later
        · cases contrary
        · exact unfailed cmd later
      · exact .inr ⟨wedged, cmd, List.mem_cons_of_mem _ failed⟩
    | launchFails cmd =>
      refine .inr ⟨?_, cmd, List.mem_cons_self⟩
      exact Machine.Runs.invariant Wedged
        (fun _ event wedged enabled _ => wedged.next event enabled) tail
        (atStage.launchFails enabled)

end CliUiController

/-- After a run of the controller the flag outside of `executeCurrentCommand` means that a worker
is at work if and only if no launch has failed. After a failed launch every command is ignored. -/
theorem failedLaunch_wedges_iff {jsoncons : Jsoncons} {truncate : String → Int}
    {events : List CliUiController.LaunchEvent} {controller : CliUiController}
    (run : (CliUiController.launchMachine jsoncons truncate).Runs (fun _ _ => True) {} events
      controller) :
    (controller.Unwedged ↔ ∀ cmd, .launchFails cmd ∉ events) ∧
      ((∃ cmd, .launchFails cmd ∈ events) →
        ¬controller.InExecuteCurrentCommand ∧ controller.executing = true ∧
          ¬controller.HasWorker ∧
          controller.next jsoncons truncate .executeCurrentCommand = controller) := by
  rcases CliUiController.atStage_or_wedged ⟨none, CliUiController.atStage_initial⟩ run with
    ⟨⟨stage, atStage⟩, unfailed⟩ | ⟨wedged, cmd, failed⟩
  · exact ⟨iff_of_true atStage.unwedged unfailed, fun ⟨cmd, failed⟩ => absurd failed (unfailed cmd)⟩
  · refine ⟨iff_of_false wedged.not_unwedged fun unfailed => unfailed cmd failed, fun _ => ?_⟩
    refine ⟨CliUiController.stage_uiCall_eq_none_iff.mp wedged.outside, wedged.executing, ?_,
      wedged.executeCurrentCommand⟩
    exact fun worker => CliUiController.hasWorker_iff.mp worker wedged.nobody

/-- A command up to the point at which its worker is created. -/
def acceptedCommand : List CliUiController.LaunchEvent :=
  [.event (.commitCommand 0), .event .executeCurrentCommand,
    .event (.joined (some ⟨.getEndpointList, ""⟩))]

/-- A command whose worker is created. -/
def launchedCommand : List CliUiController.LaunchEvent :=
  acceptedCommand ++ [.event (.startThread ⟨.getEndpointList, ""⟩)]

theorem failedLaunch_wedges_iff_sample :
    let controller := launchedCommand.foldl
      (CliUiController.launchMachine (.reading []) fun _ => 0).next {}
    controller.executing = true ∧ controller.Unwedged := by
  intro controller
  have run : (CliUiController.launchMachine (.reading []) fun _ => 0).Runs (fun _ _ => True) {}
      launchedCommand controller := Machine.runs_of_play rfl
  refine ⟨rfl, (failedLaunch_wedges_iff run).1.mpr fun cmd failed => ?_⟩
  simp [launchedCommand, acceptedCommand] at failed

/-- The creation of the worker fails. The flag stays set without a worker, and another click is
ignored. -/
theorem failedLaunch_wedged :
    ∃ controller, (CliUiController.launchMachine (.reading []) fun _ => 0).Runs (fun _ _ => True)
        {} (acceptedCommand ++ [.launchFails ⟨.getEndpointList, ""⟩]) controller ∧
      controller.uiCall = .idle ∧ controller.executing = true ∧ controller.workers = [] ∧
      ¬controller.Unwedged ∧
      controller.next (.reading []) (fun _ => 0) .executeCurrentCommand = controller :=
  ⟨_, Machine.runs_of_play rfl, rfl, rfl, rfl,
    CliUiController.Wedged.not_unwedged ⟨rfl, rfl, rfl⟩, rfl⟩

end MavlinkHub
