/-
This file is about the result pane of the UI. The controller keeps the name of the last
accepted command and the last stored result, and the pane shows the two together. The
name changes when a command is accepted and the result when it is stored, so in between
the pane would show the result of one command under the name of another, unless the old
result is gone or both commands have the same name.
-/

import MavlinkHub.CliUiController

namespace MavlinkHub

/-- The name of a command in the descriptor table. -/
def AppServiceCommand.name (cmd : AppServiceCommand) : String :=
  cmd.cmdType.descriptor.name

namespace CliUiController

/-- The stored result is what the service returned for the command whose name is kept. -/
def ResultBelongs (controller : CliUiController) : Prop :=
  ∀ result, controller.commandResult = some result →
    ∃ cmd, (SerialStage.stores controller.history).getLast? = some (cmd, result) ∧
      controller.executedCommand = cmd.name

/-- The result pane shows a result under the name of a command it was returned for. -/
def PaneBelongs (controller : CliUiController) : Prop :=
  ∀ name result, controller.resultPane = some (name, result) →
    ∃ cmd, (cmd, result) ∈ SerialStage.stores controller.history ∧ name = cmd.name

/-- No command is accepted over the result of a command of another name. -/
def AcceptsAfterClear (controller : CliUiController) : Event → Prop
  | .executeCurrentCommand => ∀ descriptor ∈ controller.committedDescriptor,
      controller.executing = false →
        controller.commandResult = none ∨ controller.executedCommand = descriptor.name
  | _ => True

instance (controller : CliUiController) : ∀ event, Decidable (controller.AcceptsAfterClear event)
  | .executeCurrentCommand => inferInstanceAs (Decidable (∀ descriptor ∈ _, _))
  | .commitCommand _ | .setPayload _ | .clearPayload | .clearResult | .joinExecution
  | .updateOverviewData | .render | .joined _ | .startThread _ | .agentsReturn _
  | .endpointsReturn _ | .renderName _ | .call _ _ | .answer _ _ _ | .store _ _ _
  | .finish _ _ => inferInstanceAs (Decidable True)

/-- The invariant of the runs in which that holds: also the command under way and the result the
pane has read have the name that is kept. -/
structure Labelled (controller : CliUiController) : Prop where
  underWay : ∀ current ∈ controller.stages, controller.executedCommand = current.job.name
  result : controller.ResultBelongs
  read : ∀ result, controller.uiCall = .rendering result →
    ∃ cmd, (cmd, result) ∈ SerialStage.stores controller.history ∧
      controller.executedCommand = cmd.name
  pane : controller.PaneBelongs

variable {controller moved : CliUiController} {stage : Option CommandStage}
  {worker : Nat} {running : Worker} {current : CommandStage}

theorem labelled_initial : ({} : CliUiController).Labelled :=
  ⟨nofun, nofun, nofun, nofun⟩

/-- The committed descriptor is the one of its own command. -/
theorem name_of_committedDescriptor {descriptor : AppServiceCommandDescriptor}
    (committed : controller.committedDescriptor = some descriptor) (payload : String) :
    descriptor.name = AppServiceCommand.name ⟨descriptor.type, payload⟩ := by
  rw [committedDescriptor] at committed
  split_ifs at committed
  obtain ⟨type, _, rfl⟩ := List.mem_map.mp (List.mem_of_getElem? committed)
  rw [AppServiceCommand.name, AppServiceCommandType.type_descriptor]

/-- The command of a worker is under way. -/
theorem mem_stages_of_worker (found : controller.workers[worker]? = some running)
    (active : running.stage = some current) : current ∈ controller.stages :=
  List.mem_append_right _
    (List.mem_filterMap.mpr ⟨running, List.mem_of_getElem? found, active⟩)

/-- A step of a worker leaves what the others have under way. -/
theorem mem_stages_of_set {other : Worker}
    (workers : moved.workers = controller.workers.set worker other)
    (uiCall : moved.uiCall = controller.uiCall)
    (member : current ∈ moved.stages) :
    current ∈ controller.stages ∨ other.stage = some current := by
  rw [stages, uiCall, workers, List.mem_append] at member
  rcases member with ofUi | ofWorker
  · exact .inl (List.mem_append_left _ ofUi)
  · obtain ⟨party, present, active⟩ := List.mem_filterMap.mp ofWorker
    rcases List.mem_or_eq_of_mem_set present with old | rfl
    · exact .inl (List.mem_append_right _ (List.mem_filterMap.mpr ⟨party, old, active⟩))
    · exact .inr active

/-- A step that accepts and stores nothing, and that shows nothing. -/
theorem Labelled.of_kept (labelled : controller.Labelled)
    (underWay : ∀ current ∈ moved.stages, ∃ old ∈ controller.stages, old.job = current.job)
    (name : moved.executedCommand = controller.executedCommand)
    (result : ∀ result, moved.commandResult = some result →
      controller.commandResult = some result)
    (read : ∀ result, moved.uiCall = .rendering result →
      controller.uiCall = .rendering result ∨ controller.commandResult = some result)
    (pane : moved.resultPane = controller.resultPane ∨ moved.resultPane = none)
    (stores : SerialStage.stores moved.history = SerialStage.stores controller.history) :
    moved.Labelled := by
  refine ⟨fun current member => ?_, fun shown kept => ?_, fun shown reading => ?_,
    fun shownName shown inPane => ?_⟩
  · obtain ⟨old, present, same⟩ := underWay current member
    rw [name, labelled.underWay old present, same]
  · rw [name, stores]
    exact labelled.result shown (result shown kept)
  · rw [name, stores]
    rcases read shown reading with already | stored
    · exact labelled.read shown already
    · obtain ⟨cmd, last, own⟩ := labelled.result shown stored
      exact ⟨cmd, List.mem_of_getLast? last, own⟩
  · rw [stores]
    rcases pane with same | nothing
    · exact labelled.pane shownName shown (same ▸ inPane)
    · rw [nothing] at inPane
      cases inPane

variable {jsoncons : Jsoncons} {truncate : String → Int}

/-- A call of the UI thread, or the end of one, that has nothing under way. -/
theorem Labelled.of_uiCall (labelled : controller.Labelled)
    (moves : moved.uiCall.stage = controller.uiCall.stage)
    (workers : moved.workers = controller.workers)
    (name : moved.executedCommand = controller.executedCommand)
    (result : ∀ result, moved.commandResult = some result →
      controller.commandResult = some result)
    (read : ∀ result, moved.uiCall = .rendering result →
      controller.uiCall = .rendering result ∨ controller.commandResult = some result)
    (pane : moved.resultPane = controller.resultPane ∨ moved.resultPane = none)
    (history : moved.history = controller.history) : moved.Labelled := by
  refine labelled.of_kept (fun current member => ⟨current, ?_, rfl⟩) name result read pane
    (by rw [history])
  rw [stages, moves, workers] at member
  exact member

/-- A step of a worker that stores nothing. -/
theorem Labelled.of_worker (labelled : controller.Labelled) {other : Worker}
    (found : controller.workers[worker]? = some running)
    (job : ∀ current, other.stage = some current →
      ∃ before, running.stage = some before ∧ before.job = current.job)
    (workers : moved.workers = controller.workers.set worker other)
    (same : moved = { controller with workers := moved.workers, history := moved.history })
    (stores : SerialStage.stores moved.history = SerialStage.stores controller.history) :
    moved.Labelled := by
  have uiCall : moved.uiCall = controller.uiCall := by rw [same]
  refine labelled.of_kept (fun current member => ?_) (by rw [same])
    (fun result => by rw [same]; exact id) (fun result => by rw [same]; exact .inl)
    (.inl (by rw [same])) stores
  rcases mem_stages_of_set workers uiCall member with old | stepped
  · exact ⟨current, old, rfl⟩
  · obtain ⟨before, active, sameJob⟩ := job current stepped
    exact ⟨before, mem_stages_of_worker found active, sameJob⟩

theorem Labelled.executeCurrentCommand (labelled : controller.Labelled)
    (atStage : controller.AtStage stage) (idle : controller.uiCall = .idle)
    (clear : controller.AcceptsAfterClear .executeCurrentCommand) :
    controller.executeCurrentCommand.Labelled := by
  rcases controller.executeCurrentCommand_cases with same | ⟨descriptor, committed, free, accepts⟩
  · rw [same]
    exact labelled
  · rw [accepts]
    have named := name_of_committedDescriptor committed controller.payload
    have accepted : SerialStage.stores
        (controller.history ++ [.accept ⟨descriptor.type, controller.payload⟩]) =
        SerialStage.stores controller.history := SerialStage.stores_append nofun
    have alone : stages { controller with
        executing := true
        executedCommand := descriptor.name
        uiCall := .joining (some ⟨descriptor.type, controller.payload⟩)
        history := controller.history ++ [.accept ⟨descriptor.type, controller.payload⟩] } =
        [.accepted ⟨descriptor.type, controller.payload⟩] := by
      rw [stages, (atStage.of_free idle free).2]
      rfl
    refine ⟨fun current member => ?_, fun result kept => ?_, fun result reading => ?_,
      fun name result inPane => ?_⟩
    · rw [alone, List.mem_singleton] at member
      rw [member]
      exact named
    · obtain ⟨cmd, last, own⟩ := labelled.result result kept
      have same := (clear descriptor committed free).resolve_left (by
        rw [show controller.commandResult = some result from kept]
        exact Option.some_ne_none _)
      exact ⟨cmd, by rw [accepted]; exact last, same.symm.trans own⟩
    · cases reading
    · rw [accepted]
      exact labelled.pane name result inPane

theorem Labelled.store (labelled : controller.Labelled) {cmd : AppServiceCommand}
    {result : CommandResult}
    (found : controller.workers[worker]? = some ⟨cmd, .returned result⟩) :
    (controller.next jsoncons truncate (.store worker cmd result)).Labelled := by
  have named := labelled.underWay _ (mem_stages_of_worker found rfl)
  have stored : SerialStage.stores (controller.history ++ [.store cmd result]) =
      SerialStage.stores controller.history ++ [(cmd, result)] := by
    rw [SerialStage.stores, SerialStage.stores, List.filterMap_append]
    rfl
  have workers : (controller.next jsoncons truncate (.store worker cmd result)).workers =
      controller.workers.set worker ⟨cmd, .stored⟩ := rfl
  refine ⟨fun current member => ?_, fun shown kept => ?_, fun shown reading => ?_,
    fun name shown inPane => ?_⟩
  · rcases mem_stages_of_set workers rfl member with old | stepped
    · exact labelled.underWay current old
    · cases stepped
  · obtain rfl := Option.some.inj kept
    exact ⟨cmd, by rw [next, stored, List.getLast?_concat], named⟩
  · obtain ⟨own, present, same⟩ := labelled.read shown reading
    exact ⟨own, by rw [next, stored]; exact List.mem_append_left _ present, same⟩
  · obtain ⟨own, present, same⟩ := labelled.pane name shown inPane
    exact ⟨own, by rw [next, stored]; exact List.mem_append_left _ present, same⟩

theorem Labelled.startThread (labelled : controller.Labelled) {cmd : AppServiceCommand}
    (starting : controller.uiCall = .starting cmd) : (controller.startThread cmd).Labelled := by
  refine labelled.of_kept (fun current member => ⟨current, ?_, rfl⟩) rfl (fun _ => id) nofun
    (.inl rfl) rfl
  rw [stages, CliUiController.startThread, List.filterMap_append] at member
  rw [stages, starting]
  rcases List.mem_append.mp (List.mem_append.mp member |>.resolve_left (List.not_mem_nil)) with
    old | created
  · exact List.mem_append_right _ old
  · exact List.mem_append_left _ created

theorem Labelled.render (labelled : controller.Labelled) (idle : controller.uiCall = .idle) :
    controller.render.Labelled := by
  rw [CliUiController.render]
  split
  · exact labelled.of_uiCall rfl rfl rfl (fun _ => id) (fun _ => .inl) (.inr rfl) rfl
  · rename_i result stored
    refine labelled.of_uiCall (by rw [idle]; rfl) rfl rfl (fun _ => id) ?_ (.inl rfl) rfl
    rintro shown ⟨⟩
    exact .inr stored

theorem Labelled.of_fetch (labelled : controller.Labelled) (fetching : controller.Fetching)
    {uiCall : UiCall} (moves : uiCall = .idle ∨ uiCall = .fetchingEndpoints)
    (tables : OverviewTables) : Labelled { controller with uiCall, tables } := by
  have idle := fetching.stage_eq_none
  rcases moves with rfl | rfl
  · exact labelled.of_uiCall idle.symm rfl rfl (fun _ => id) (fun _ reading => by cases reading)
      (.inl rfl) rfl
  · exact labelled.of_uiCall idle.symm rfl rfl (fun _ => id) (fun _ reading => by cases reading)
      (.inl rfl) rfl

/-- The pane reads the name after the result. -/
theorem Labelled.renderName (labelled : controller.Labelled) {result : CommandResult}
    (rendering : controller.uiCall = .rendering result) :
    (controller.next jsoncons truncate (.renderName result)).Labelled := by
  obtain ⟨cmd, present, own⟩ := labelled.read result rendering
  refine ⟨fun current member => labelled.underWay current ?_, labelled.result, nofun, ?_⟩
  · rw [stages, rendering]
    exact member
  · rintro name shown ⟨⟩
    exact ⟨cmd, present, own⟩

/-- Every event keeps the invariant if no command is accepted over a result of another. -/
theorem Labelled.next (labelled : controller.Labelled) (atStage : controller.AtStage stage)
    (event : Event) (enabled : controller.Enabled event)
    (clear : controller.AcceptsAfterClear event) :
    (controller.next jsoncons truncate event).Labelled := by
  cases event with
  | commitCommand | setPayload | clearPayload =>
    exact labelled.of_uiCall rfl rfl rfl (fun _ => id) (fun _ => .inl) (.inl rfl) rfl
  | clearResult =>
    exact labelled.of_uiCall rfl rfl rfl (fun _ kept => by cases kept) (fun _ => .inl)
      (.inl rfl) rfl
  | executeCurrentCommand => exact labelled.executeCurrentCommand atStage enabled clear
  | joinExecution | updateOverviewData =>
    have idle : controller.uiCall = .idle := enabled
    exact labelled.of_uiCall (by rw [idle]; rfl) rfl rfl (fun _ => id)
      (fun _ reading => by cases reading) (.inl rfl) rfl
  | render => exact labelled.render enabled
  | joined cmd =>
    have joining : controller.uiCall = .joining cmd := enabled.1
    refine labelled.of_uiCall ?_ rfl rfl (fun _ => id) (fun result reading => ?_) (.inl rfl) rfl
    · rw [joining]
      cases cmd <;> rfl
    · cases cmd <;> cases reading
  | startThread cmd => exact labelled.startThread enabled
  | agentsReturn result =>
    obtain ⟨uiCall, tables, moves, same⟩ := controller.agentsReturn_cases result
    rw [CliUiController.next, same]
    exact labelled.of_fetch (.inl enabled) moves tables
  | endpointsReturn result =>
    obtain ⟨uiCall, tables, moves, same⟩ := controller.endpointsReturn_cases result
    rw [CliUiController.next, same]
    exact labelled.of_fetch (.inr enabled) moves tables
  | renderName result => exact labelled.renderName enabled
  | call worker cmd =>
    exact labelled.of_worker enabled (fun _ active => ⟨_, rfl, by cases active; rfl⟩) rfl rfl
      (SerialStage.stores_append fun _ _ same => by cases same)
  | answer worker cmd result =>
    exact labelled.of_worker enabled (fun _ active => ⟨_, rfl, by cases active; rfl⟩) rfl rfl
      (SerialStage.stores_append fun _ _ same => by cases same)
  | store worker cmd result => exact labelled.store enabled
  | finish worker cmd =>
    exact labelled.of_worker enabled (fun _ active => by cases active) rfl rfl rfl

/-- After every run of that kind the result belongs to the name that is kept. -/
theorem labelled_run {events : List Event}
    (run : (machine jsoncons truncate).Runs AcceptsAfterClear {} events controller) :
    controller.Labelled := by
  have both : controller.Labelled ∧ ∃ stage, controller.AtStage stage := by
    refine run.invariant (fun controller => controller.Labelled ∧ ∃ stage, controller.AtStage stage)
      ?_ ⟨labelled_initial, none, atStage_initial⟩
    rintro state event ⟨labelled, stage, atStage⟩ enabled clear
    exact ⟨labelled.next atStage event enabled clear, atStage.next event enabled⟩
  exact both.1

/-- A command that is accepted over the result of another one does not go with that result. -/
theorem Labelled.mislabelled (labelled : controller.Labelled)
    (stale : ¬controller.AcceptsAfterClear .executeCurrentCommand) :
    ¬(controller.next jsoncons truncate .executeCurrentCommand).ResultBelongs := by
  rw [AcceptsAfterClear, not_forall] at stale
  obtain ⟨descriptor, stale⟩ := stale
  obtain ⟨committed, stale⟩ := Classical.not_imp.mp stale
  obtain ⟨free, stale⟩ := Classical.not_imp.mp stale
  obtain ⟨present, renamed⟩ := not_or.mp stale
  obtain ⟨result, kept⟩ := Option.ne_none_iff_exists'.mp present
  obtain ⟨cmd, last, own⟩ := labelled.result result kept
  intro belongs
  have accepted : controller.next jsoncons truncate .executeCurrentCommand = _ :=
    executeCurrentCommand_of_accepted committed free
  rw [accepted] at belongs
  obtain ⟨other, lastOther, ownOther⟩ := belongs result kept
  have same : SerialStage.stores
      (controller.history ++ [.accept ⟨descriptor.type, controller.payload⟩]) =
      SerialStage.stores controller.history := SerialStage.stores_append nofun
  rw [same, last] at lastOther
  obtain rfl : cmd = other := congrArg Prod.fst (Option.some.inj lastOther)
  exact renamed (own.trans ownOther.symm)

end CliUiController

/-- In the runs in which no command is accepted over the result of a command of another name,
the stored result belongs to the name that is kept, and the result pane never shows it under
another. After such a run, a command that is accepted over such a result breaks this at once. -/
theorem displayedResult_belongs {jsoncons : Jsoncons} {truncate : String → Int}
    {events : List CliUiController.Event} {controller : CliUiController}
    (run : (CliUiController.machine jsoncons truncate).Runs CliUiController.AcceptsAfterClear {}
      events controller) :
    controller.ResultBelongs ∧ controller.PaneBelongs ∧
      (¬controller.AcceptsAfterClear .executeCurrentCommand →
        ¬(controller.next jsoncons truncate .executeCurrentCommand).ResultBelongs) :=
  have labelled := CliUiController.labelled_run run
  ⟨labelled.result, labelled.pane, labelled.mislabelled⟩

/-- The execution of a command that the service answers. -/
def executed (worker : Nat) (cmd : AppServiceCommand) (result : CommandResult) :
    List CliUiController.Event :=
  [.executeCurrentCommand, .joined (some cmd), .startThread cmd, .call worker cmd,
    .answer worker cmd result, .store worker cmd result, .finish worker cmd]

/-- Two commands, with the result of the first cleared in between. -/
def clearedBetween : List CliUiController.Event :=
  .commitCommand 0 :: executed 0 ⟨.getEndpointList, ""⟩ ⟨true, [], "[]"⟩ ++
    [.render, .renderName ⟨true, [], "[]"⟩, .clearResult, .commitCommand 3] ++
    executed 1 ⟨.getAgentList, ""⟩ ⟨false, [], ""⟩ ++ [.render, .renderName ⟨false, [], ""⟩]

theorem displayedResult_belongs_sample :
    let controller :=
      clearedBetween.foldl (CliUiController.machine (.reading []) fun _ => 0).next {}
    controller.resultPane = some ("get_agent_list", ⟨false, [], ""⟩) ∧
      controller.ResultBelongs ∧ controller.PaneBelongs := by
  intro controller
  have run : (CliUiController.machine (.reading []) fun _ => 0).Runs
      CliUiController.AcceptsAfterClear {} clearedBetween controller := Machine.runs_of_play rfl
  have displayed := displayedResult_belongs run
  exact ⟨rfl, displayed.1, displayed.2.1⟩

/-- While the second command is under way, the pane shows the result of the first one under
its name. -/
theorem displayedResult_mislabelled :
    ∃ controller, (CliUiController.machine (.reading []) fun _ => 0).Runs (fun _ _ => True) {}
        (.commitCommand 0 :: executed 0 ⟨.getEndpointList, ""⟩ ⟨true, [], "[]"⟩ ++
          [.commitCommand 3, .executeCurrentCommand, .joined (some ⟨.getAgentList, ""⟩),
            .startThread ⟨.getAgentList, ""⟩, .render, .renderName ⟨true, [], "[]"⟩])
        controller ∧
      SerialStage.stores controller.history = [(⟨.getEndpointList, ""⟩, ⟨true, [], "[]"⟩)] ∧
      controller.resultPane = some ("get_agent_list", ⟨true, [], "[]"⟩) ∧
      ¬controller.ResultBelongs ∧ ¬controller.PaneBelongs := by
  refine ⟨_, Machine.runs_of_play rfl, rfl, rfl, fun belongs => ?_, fun belongs => ?_⟩
  · obtain ⟨cmd, last, name⟩ := belongs _ rfl
    obtain rfl := congrArg Prod.fst (Option.some.inj last)
    exact absurd name (by decide)
  · obtain ⟨cmd, stored, name⟩ := belongs _ _ rfl
    obtain rfl := congrArg Prod.fst (List.mem_singleton.mp stored)
    exact absurd name (by decide)

end MavlinkHub
