/-
This file proves what the closures see that a batch of events posts. A closure comes behind
the tasks that are there, so all events of the batch are handled before the first of its
closures runs: a Return in the menu commits the entry that is selected after the batch, and
Clear Payload takes away what the batch has typed after it.

The argument is one invariant of the loop: the queue is what is left of the batch and then
what is left of the closures, and no closure has run while events are left.
-/

import MavlinkHub.UserInterface

namespace MavlinkHub

open Ftxui

namespace View

variable {glyphs : Glyphs} {view : View}

/-- What the events of a batch make of the view, and what they post. -/
def handleAll (glyphs : Glyphs) : List UiEvent → View → View × List Closure
  | [], view => (view, [])
  | event :: rest, view =>
    let after := view.handleEvent glyphs event
    let last := handleAll glyphs rest { after with posted := [] }
    (last.1, after.posted ++ last.2)

/-- What closures leave of a view. -/
def clearedBy (ran : List Closure) (view : View) : View :=
  if .clearPayload ∈ ran then { view with payload := { view.payload with content := [] } }
  else view

/-- The index that is committed after closures, if none is committed while they run. -/
def committedBy (ran : List Closure) (view : View) (committed : Int) : Int :=
  if .commitCommand ∈ ran then view.selectedCommand else committed

theorem handleAll_concat (events : List UiEvent) (event : UiEvent) :
    handleAll glyphs (events ++ [event]) view =
      ({ (handleAll glyphs events view).1.handleEvent glyphs event with posted := [] },
        (handleAll glyphs events view).2 ++
          ((handleAll glyphs events view).1.handleEvent glyphs event).posted) := by
  induction events generalizing view with
  | nil => rw [List.nil_append, handleAll, handleAll, handleAll, List.append_nil, List.nil_append]
  | cons earlier events inductionHypothesis =>
    rw [List.cons_append, handleAll, inductionHypothesis, handleAll, List.append_assoc]

theorem clearedBy_concat (ran : List Closure) (closure : Closure) :
    view.clearedBy (ran ++ [closure]) = (view.clearedBy ran).clearedBy [closure] := by
  unfold clearedBy
  simp only [List.mem_append]
  by_cases before : .clearPayload ∈ ran
  · rw [if_pos (.inl before), if_pos before]
    split_ifs <;> rfl
  · simp only [if_neg before, or_iff_right before]

theorem selectedCommand_clearedBy (ran : List Closure) :
    (view.clearedBy ran).selectedCommand = view.selectedCommand := by
  unfold clearedBy
  split_ifs <;> rfl

theorem committedBy_concat (ran : List Closure) (closure : Closure) (committed : Int) :
    view.committedBy (ran ++ [closure]) committed =
      (view.clearedBy ran).committedBy [closure] (view.committedBy ran committed) := by
  unfold committedBy
  simp only [selectedCommand_clearedBy, List.mem_append]
  by_cases before : .commitCommand ∈ ran
  · rw [if_pos (.inl before), if_pos before, ite_self]
  · simp only [if_neg before, or_iff_right before]

end View

namespace UserInterface

variable {glyphs : Glyphs} {jsoncons : Jsoncons} {truncate : String → Int}
  {ui first : UserInterface} {batch : List UiEvent}

theorem view_update (view : View) : (ui.update view).view = { view with posted := [] } := by
  rw [update, UserInterface.view]
  dsimp only
  rw [String.toList_ofList]

theorem executeCurrentCommand_payload (controller : CliUiController) :
    controller.executeCurrentCommand.payload = controller.payload ∧
      controller.executeCurrentCommand.committedCommand = controller.committedCommand := by
  rcases controller.executeCurrentCommand_cases with same | ⟨_, _, _, same⟩ <;> rw [same] <;>
    exact ⟨rfl, rfl⟩

/-- A closure clears the payload or leaves it. -/
theorem view_closure (closure : Closure) :
    (ui.runTask glyphs jsoncons truncate (.closure closure)).view =
      ui.view.clearedBy [closure] := by
  cases closure with
  | commitCommand | clearResult | clearPayload => rfl
  | executeCurrentCommand =>
    show view { ui with controller := ui.controller.executeCurrentCommand } = ui.view
    rw [view, (executeCurrentCommand_payload _).1, view]

theorem committed_closure (closure : Closure) :
    (ui.runTask glyphs jsoncons truncate (.closure closure)).controller.committedCommand =
      ui.view.committedBy [closure] ui.controller.committedCommand := by
  cases closure with
  | commitCommand | clearResult | clearPayload => rfl
  | executeCurrentCommand => exact (executeCurrentCommand_payload _).2

/-- What goes on in the controller leaves the payload and the committed index. -/
theorem controller_goesOn (jsoncons : Jsoncons) (truncate : String → Int)
    {event : CliUiController.Event} (goesOn : GoesOn event) (controller : CliUiController) :
    (controller.next jsoncons truncate event).payload = controller.payload ∧
      (controller.next jsoncons truncate event).committedCommand =
        controller.committedCommand := by
  cases event with
  | render =>
    rw [CliUiController.next, CliUiController.render]
    split <;> exact ⟨rfl, rfl⟩
  | agentsReturn result =>
    rw [CliUiController.next, CliUiController.agentsReturn]
    split <;> exact ⟨rfl, rfl⟩
  | endpointsReturn result =>
    rw [CliUiController.next, CliUiController.endpointsReturn]
    split <;> exact ⟨rfl, rfl⟩
  | joined | startThread | renderName | call | answer | store | finish => exact ⟨rfl, rfl⟩
  | commitCommand | setPayload | clearPayload | clearResult | executeCurrentCommand
  | joinExecution | updateOverviewData => exact goesOn.elim

/-- How far the loop is with a batch: these events are handled and those are left, these closures
have run and those are left. -/
structure AtTask (glyphs : Glyphs) (first : UserInterface) (batch done rest : List UiEvent)
    (ran left : List Closure) (ui : UserInterface) : Prop where
  batch : batch = done ++ rest
  posted : (View.handleAll glyphs done first.view).2 = ran ++ left
  /-- No closure runs while events are left. -/
  order : rest = [] ∨ ran = []
  tasks : ui.tasks = rest.map Task.event ++ left.map Task.closure
  view : ui.view = (View.handleAll glyphs done first.view).1.clearedBy ran
  committed : ui.controller.committedCommand =
    (View.handleAll glyphs done first.view).1.committedBy ran first.controller.committedCommand

variable {done rest : List UiEvent} {ran left : List Closure}

theorem atTask_initial :
    AtTask glyphs first batch [] batch [] [] { first with tasks := batch.map .event } :=
  ⟨rfl, rfl, .inr rfl, (List.append_nil _).symm, rfl, rfl⟩

/-- The loop handles the next event. -/
theorem AtTask.event {event : UiEvent}
    (atTask : AtTask glyphs first batch done (event :: rest) ran left ui) :
    AtTask glyphs first batch (done ++ [event]) rest ran
      (left ++ ((View.handleAll glyphs done first.view).1.handleEvent glyphs event).posted)
      (ui.next glyphs jsoncons truncate .runTask) := by
  have none_ran : ran = [] := atTask.order.resolve_left (List.cons_ne_nil _ _)
  subst none_ran
  have seen : ui.view = (View.handleAll glyphs done first.view).1 := atTask.view
  have moved : ui.next glyphs jsoncons truncate .runTask =
      { ui with tasks := rest.map Task.event ++ left.map Task.closure }.update
        (ui.view.handleEvent glyphs event) := by
    rw [next, atTask.tasks]
    rfl
  refine ⟨?_, ?_, .inr rfl, ?_, ?_, ?_⟩
  · rw [atTask.batch, List.append_assoc, List.singleton_append]
  · rw [View.handleAll_concat, atTask.posted, List.nil_append, List.nil_append]
  · rw [moved, update, seen, List.map_append, List.append_assoc]
  · rw [moved, view_update, View.handleAll_concat, seen]
    rfl
  · rw [moved]
    exact atTask.committed

/-- The loop runs the next closure. -/
theorem AtTask.closure {closure : Closure}
    (atTask : AtTask glyphs first batch done [] ran (closure :: left) ui) :
    AtTask glyphs first batch done [] (ran ++ [closure]) left
      (ui.next glyphs jsoncons truncate .runTask) := by
  have moved : ui.next glyphs jsoncons truncate .runTask =
      { ui with tasks := left.map Task.closure }.runTask glyphs jsoncons truncate
        (.closure closure) := by
    rw [next, atTask.tasks]
    rfl
  refine ⟨atTask.batch, ?_, .inl rfl, ?_, ?_, ?_⟩
  · rw [atTask.posted, List.append_assoc, List.singleton_append]
  · rw [moved]
    rfl
  · rw [moved, view_closure, View.clearedBy_concat, ← atTask.view]
    rfl
  · rw [moved, committed_closure, View.committedBy_concat, ← atTask.view, ← atTask.committed]
    rfl

/-- The controller goes on. -/
theorem AtTask.controller {event : CliUiController.Event} (goesOn : GoesOn event)
    (atTask : AtTask glyphs first batch done rest ran left ui) :
    AtTask glyphs first batch done rest ran left
      (ui.next glyphs jsoncons truncate (.controller event)) := by
  obtain ⟨payload, committed⟩ := controller_goesOn jsoncons truncate goesOn ui.controller
  refine ⟨atTask.batch, atTask.posted, atTask.order, atTask.tasks, ?_, ?_⟩
  · rw [← atTask.view, next, UserInterface.view, UserInterface.view, payload]
  · rw [← atTask.committed]
    exact committed

/-- An event that brings nothing from the terminal. -/
def Event.Inner : Event → Prop
  | .arrive _ => False
  | _ => True

instance : DecidablePred Event.Inner
  | .arrive _ => inferInstanceAs (Decidable False)
  | .runTask | .controller _ => inferInstanceAs (Decidable True)

theorem AtTask.next {event : Event} (inner : event.Inner) (enabled : ui.Enabled event)
    (atTask : AtTask glyphs first batch done rest ran left ui) :
    ∃ done rest ran left,
      AtTask glyphs first batch done rest ran left (ui.next glyphs jsoncons truncate event) := by
  cases event with
  | arrive events => exact inner.elim
  | controller event => exact ⟨_, _, _, _, atTask.controller enabled.1⟩
  | runTask =>
    cases rest with
    | cons event rest => exact ⟨_, _, _, _, atTask.event⟩
    | nil =>
      cases left with
      | cons closure left => exact ⟨_, _, _, _, atTask.closure⟩
      | nil => exact absurd atTask.tasks enabled.1

/-- A batch of events has arrived, and no other comes in between. As soon as no event of it is left
in the queue, the view is that of the whole batch, whichever of the closures it has posted have run:
a commit has committed the entry that is selected after the batch, and Clear Payload has taken away
all that the batch has typed. -/
theorem closures_seeWholeBatch {events : List Event}
    (run : (machine glyphs jsoncons truncate).Runs (fun _ event => event.Inner)
      { first with tasks := batch.map .event } events ui)
    (handled : ∀ event, .event event ∉ ui.tasks) :
    ∃ ran left, (View.handleAll glyphs batch first.view).2 = ran ++ left ∧
      ui.tasks = left.map .closure ∧
      ui.view = (View.handleAll glyphs batch first.view).1.clearedBy ran ∧
      ui.controller.committedCommand = (View.handleAll glyphs batch first.view).1.committedBy ran
        first.controller.committedCommand := by
  obtain ⟨done, rest, ran, left, atTask⟩ := run.invariant
    (fun ui => ∃ done rest ran left, AtTask glyphs first batch done rest ran left ui)
    (fun ui event held enabled inner => by
      obtain ⟨done, rest, ran, left, atTask⟩ := held
      exact atTask.next inner enabled) ⟨_, _, _, _, atTask_initial⟩
  cases rest with
  | cons event rest =>
    refine absurd ?_ (handled event)
    rw [atTask.tasks]
    exact List.mem_cons_self
  | nil =>
    have whole : batch = done := atTask.batch.trans (List.append_nil done)
    rw [whole]
    exact ⟨ran, left, atTask.posted, atTask.tasks, atTask.view, atTask.committed⟩

/-- Return in the menu and, with it, an arrow: the loop has handled both, and then commits. -/
def returnThenArrow : List UiEvent :=
  [.key .returnKey false fun _ => 0, .key .arrowDown false fun _ => 0]

theorem closures_seeWholeBatch_sample :
    ([Event.runTask, .runTask, .runTask].foldl
      (UserInterface.next · .single (.reading []) fun _ => 0)
        { tasks := returnThenArrow.map .event }).controller.committedCommand = 1 := by
  have run : (machine .single (.reading []) fun _ => 0).Runs (fun _ event => event.Inner)
      { ({} : UserInterface) with tasks := returnThenArrow.map .event }
      [.runTask, .runTask, .runTask] _ := Machine.runs_of_play rfl
  obtain ⟨ran, left, posted, tasks, _, committed⟩ :=
    closures_seeWholeBatch run fun event member => by cases member
  have none_left : left = [] := List.map_eq_nil_iff.mp (tasks.symm.trans rfl)
  rw [none_left, List.append_nil] at posted
  refine committed.trans ?_
  rw [← posted]
  rfl

end UserInterface

end MavlinkHub
