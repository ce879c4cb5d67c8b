/-
This file transcribes the user interface that the UI thread builds and serves: the tree of
its components, what keys, clicks and closures do to it, and the loop that takes one task
after the other. What a component does when it is activated is posted as a closure behind
the tasks that are already there.
-/

import MavlinkHub.CliUiController
import MavlinkHub.Ftxui
import MavlinkHub.Library.FocusTree
import Mathlib.Data.Fintype.Defs

namespace MavlinkHub

/-- The components that events get to, by their names in `generateUserInterface`. -/
inductive Component
  /-- `layout_with_nav`, which catches Tab and TabReverse. -/
  | layoutWithNav
  | layout
  /-- `Container::Vertical({ command_pane, overview_split })`. -/
  | layoutContainer
  | commandPane
  | commandActionContainer
  | commandPaneContainer
  | commandMenuComplete
  | commandMenuWithScroll
  | commandMenu
  | payloadComplete
  | payloadInput
  | actionMenu
  | executeCommandButton
  | clearPayloadButton
  | clearResultButton
  /-- With the tables in it, none of which can have the focus. -/
  | overviewSplit
  deriving DecidableEq

namespace Component

instance : Fintype Component where
  elems := {layoutWithNav, layout, layoutContainer, commandPane, commandActionContainer,
    commandPaneContainer, commandMenuComplete, commandMenuWithScroll, commandMenu, payloadComplete,
    payloadInput, actionMenu, executeCommandButton, clearPayloadButton, clearResultButton,
    overviewSplit}
  complete := by rintro ⟨⟩ <;> decide

def parent : Component → Option Component
  | layoutWithNav => none
  | layout => some layoutWithNav
  | layoutContainer => some layout
  | commandPane | overviewSplit => some layoutContainer
  | commandActionContainer => some commandPane
  | commandPaneContainer | actionMenu => some commandActionContainer
  | commandMenuComplete | payloadComplete => some commandPaneContainer
  | commandMenuWithScroll => some commandMenuComplete
  | commandMenu => some commandMenuWithScroll
  | payloadInput => some payloadComplete
  | executeCommandButton | clearPayloadButton | clearResultButton => some actionMenu

def children : Component → List Component
  | layoutWithNav => [layout]
  | layout => [layoutContainer]
  | layoutContainer => [commandPane, overviewSplit]
  | commandPane => [commandActionContainer]
  | commandActionContainer => [commandPaneContainer, actionMenu]
  | commandPaneContainer => [commandMenuComplete, payloadComplete]
  | commandMenuComplete => [commandMenuWithScroll]
  | commandMenuWithScroll => [commandMenu]
  | payloadComplete => [payloadInput]
  | actionMenu => [executeCommandButton, clearPayloadButton, clearResultButton]
  | commandMenu | payloadInput | executeCommandButton | clearPayloadButton | clearResultButton
  | overviewSplit => []

/-- The containers. -/
def selects : Component → Bool
  | layoutContainer | commandActionContainer | commandPaneContainer | actionMenu => true
  | _ => false

def focusable : Component → Bool
  | overviewSplit => false
  | _ => true

def depth : Component → Nat
  | layoutWithNav => 0
  | layout => 1
  | layoutContainer => 2
  | commandPane | overviewSplit => 3
  | commandActionContainer => 4
  | commandPaneContainer | actionMenu => 5
  | commandMenuComplete | payloadComplete | executeCommandButton | clearPayloadButton
  | clearResultButton => 6
  | commandMenuWithScroll | payloadInput => 7
  | commandMenu => 8

/-- The components of the user interface. -/
def tree : FocusTree Component where
  root := layoutWithNav
  parent := parent
  children := children
  selects := selects
  focusable := focusable
  depth := depth
  mem_children := by decide
  parent_eq_none := by decide
  depth_child := by decide
  nodup := by decide
  focusable_iff := by decide

/-- How many components lie above each other. -/
def levels : Nat := 9

end Component

open Ftxui

/-! ### Events and tasks -/

/-- What is pressed, or turned, on a mouse. -/
inductive MouseButton
  | left
  | none
  | wheelUp
  | wheelDown
  | other
  deriving DecidableEq

/-- What the mouse does, and what is under its pointer. -/
structure Mouse where
  button : MouseButton
  /-- The motion is `Pressed`. -/
  pressed : Bool
  /-- Somebody has captured the mouse. -/
  captured : Bool
  /-- The pointer is in the box of the component. -/
  inside : Component → Bool
  /-- The pointer is in the box of the entry of the menu. -/
  insideEntry : Nat → Bool
  /-- Where a click puts the cursor of the input, unless it is there. -/
  cursor : Option Nat
  /-- One of the splits takes it. -/
  split : Bool

/-- An event of the terminal. With a key comes what is on the screen: whether the mouse is captured,
and how high the boxes of the components are. -/
inductive UiEvent
  | tab
  | tabReverse
  | key (key : Key) (captured : Bool) (height : Component → Int)
  | mouse (mouse : Mouse)

/-- What the menu posts on Return, and each of the buttons when it is clicked. -/
inductive Closure
  | commitCommand
  | executeCurrentCommand
  | clearPayload
  | clearResult
  deriving DecidableEq

/-- What the components have: the selectors of the containers, `selected_command`, the payload with
its cursor, and the closures that have been posted. -/
structure View where
  selectors : Component → Nat := fun _ => 0
  selectedCommand : Int := 0
  payload : Input := ⟨[], 0, true⟩
  posted : List Closure := []

namespace View

open Component

variable (view : View)

/-- `App::PostEventOrExecute`: the loop is running, so the closure is posted. -/
def post (closure : Closure) : View :=
  { view with posted := view.posted ++ [closure] }

def takeFocus (component : Component) : View :=
  { view with selectors := tree.takeFocus view.selectors component }

/-- The number of entries of the menu. -/
def entryCount : Nat := CliUiController.commandDescriptors.length

/-- `Clamp` of the menu. -/
def clampMenu : View :=
  { view with selectedCommand := clampSelected entryCount view.selectedCommand }

/-! ### Keys -/

/-- The index of the selected entry after a key, which only moves it if the menu has the focus. -/
def selectedAfter (key : Key) (height : Int) : Int :=
  if tree.Focused view.selectors .commandMenu then
    menuSelected entryCount height key view.selectedCommand
  else view.selectedCommand

/-- `OnEvent` of the menu. -/
def menuKey (key : Key) (captured : Bool) (height : Int) : Handler View := fun view =>
  let view := view.clampMenu
  if captured then (view, false)
  else if view.selectedAfter key height ≠ view.selectedCommand then
    ({ view with selectedCommand := view.selectedAfter key height }, true)
  else if key = .returnKey then (view.post .commitCommand, true)
  else (view, false)

/-- `OnEvent` of the payload. -/
def inputKey (glyphs : Glyphs) (key : Key) : Handler View := fun view =>
  let handled := view.payload.clamp.handleKey glyphs key
  ({ view with payload := handled.1 }, handled.2)

/-- `OnEvent` of a button. -/
def buttonKey (closure : Closure) (key : Key) : Handler View := fun view =>
  if key = .returnKey then (view.post closure, true) else (view, false)

/-- `EventHandler` of a container: it has handled what has moved its selector. -/
def containerKey (component : Component) (select : Nat → Nat) : Handler View := fun view =>
  let moved := select (view.selectors component)
  ({ view with selectors := Function.update view.selectors component moved },
    moved ≠ view.selectors component)

/-- What a component itself does with a key that gets to it. -/
def handleKey (glyphs : Glyphs) (key : Key) (captured : Bool) (height : Component → Int)
    (component : Component) : Handler View :=
  match component with
  | .commandMenu => menuKey key captured (height .commandMenu)
  | .payloadInput => inputKey glyphs key
  | .executeCommandButton => buttonKey .executeCurrentCommand key
  | .clearPayloadButton => buttonKey .clearPayload key
  | .clearResultButton => buttonKey .clearResult key
  | .layoutContainer | .commandActionContainer | .actionMenu =>
    containerKey component (verticalSelector focusable (children component) (height component) key)
  | .commandPaneContainer =>
    containerKey component (horizontalSelector focusable (children component) key)
  | _ => fun view => (view, false)

/-! ### The mouse -/

/-- `OnMouseWheel` of the menu. -/
def menuWheel (mouse : Mouse) (turn : Int) : Handler View := fun view =>
  if mouse.inside .commandMenu then
    ({ view with selectedCommand := clampSelected entryCount (view.selectedCommand + turn) }, true)
  else (view, false)

/-- The loop of the menu through its entries. -/
def menuPoint (mouse : Mouse) : Handler View := fun view =>
  match (List.range entryCount).find? mouse.insideEntry with
  | none => (view, false)
  | some entry =>
    if mouse.button = .left ∧ mouse.pressed then
      ({ view.takeFocus .commandMenu with selectedCommand := entry }, true)
    else (view.takeFocus .commandMenu, false)

/-- `OnMouseEvent` of the menu. -/
def menuMouse (mouse : Mouse) : Handler View := fun view =>
  if mouse.captured then (view.clampMenu, false)
  else
    match mouse.button with
    | .wheelUp => menuWheel mouse (-1) view.clampMenu
    | .wheelDown => menuWheel mouse 1 view.clampMenu
    | .left | .none => menuPoint mouse view.clampMenu
    | .other => (view.clampMenu, false)

/-- `HandleMouse` of the payload. -/
def inputMouse (mouse : Mouse) : Handler View := fun view =>
  let view := { view with payload := view.payload.clamp }
  if mouse.inside .payloadInput ∧ ¬ mouse.captured ∧ mouse.button = .left ∧ mouse.pressed then
    let view := view.takeFocus .payloadInput
    if view.payload.content = [] then
      ({ view with payload := { view.payload with cursorPosition := 0 } }, true)
    else
      match mouse.cursor with
      | none => (view, false)
      | some cursorPosition =>
        ({ view with payload := { view.payload with cursorPosition } }, true)
  else (view, false)

/-- `OnMouseEvent` of a button. -/
def buttonMouse (component : Component) (closure : Closure) (mouse : Mouse) :
    Handler View := fun view =>
  if mouse.inside component ∧ ¬ mouse.captured ∧ mouse.button = .left ∧ mouse.pressed then
    ((view.takeFocus component).post closure, true)
  else (view, false)

/-- `OnMouseEvent` of a vertical container, after those in it. -/
def containerMouse (component : Component) (mouse : Mouse) : Handler View := fun view =>
  if (mouse.button = .wheelUp ∨ mouse.button = .wheelDown) ∧ mouse.inside component then
    containerKey component (fun selector => min ((children component).length - 1) <|
      moveSelector focusable (children component) (mouse.button = .wheelDown) selector) view
  else (view, false)

/-- What a component itself does with an event of the mouse. -/
def handleMouse (mouse : Mouse) (component : Component) : Handler View :=
  match component with
  | .commandMenu => menuMouse mouse
  | .payloadInput => inputMouse mouse
  | .executeCommandButton => buttonMouse component .executeCurrentCommand mouse
  | .clearPayloadButton => buttonMouse component .clearPayload mouse
  | .clearResultButton => buttonMouse component .clearResult mouse
  | .layoutContainer | .commandActionContainer | .actionMenu => containerMouse component mouse
  | .overviewSplit => fun view => (view, mouse.split)
  | _ => fun view => (view, false)

/-- `tab_boxes`. -/
def tabBoxes : List Component := [.commandMenu, .payloadInput, .actionMenu]

/-- `focused_index` in `focus_next_box`, before it is replaced if there is none. -/
def focusedIndex : Option Nat :=
  tabBoxes.findIdx? fun box => tree.Focused view.selectors box

/-- `focus_next_box`, in the arithmetic of `std::size_t`. -/
def focusNextBox (direction : Int) : View :=
  let next := ((view.focusedIndex.getD 0 : Int) + direction + tabBoxes.length) % 2 ^ 64 %
    tabBoxes.length
  (tabBoxes[next.toNat]?).elim view view.takeFocus

/-- An event, at `layout_with_nav`. -/
def handleEvent (glyphs : Glyphs) : UiEvent → View
  | .tab => view.focusNextBox 1
  | .tabReverse => view.focusNextBox (-1)
  | .key key captured height =>
    (tree.offer selectors (handleKey glyphs key captured height) levels tree.root view).1
  | .mouse mouse => (tree.tour (handleMouse mouse) levels tree.root view).1

end View

/-! ### The loop -/

/-- What the loop has to do. -/
inductive Task
  | event (event : UiEvent)
  | closure (closure : Closure)

/-- The user interface: what its components have, apart from the payload, which belongs to the
controller, and the queue of the loop. -/
structure UserInterface where
  selectors : Component → Nat := fun _ => 0
  selectedCommand : Int := 0
  cursorPosition : Nat := 0
  insert : Bool := true
  controller : CliUiController := {}
  tasks : List Task := []

namespace UserInterface

variable (ui : UserInterface)

/-- What the components have. -/
def view : View where
  selectors := ui.selectors
  selectedCommand := ui.selectedCommand
  payload := ⟨ui.controller.payload.toList, ui.cursorPosition, ui.insert⟩

/-- What the components have made of it; what they have posted comes behind the other tasks. -/
def update (view : View) : UserInterface where
  selectors := view.selectors
  selectedCommand := view.selectedCommand
  cursorPosition := view.payload.cursorPosition
  insert := view.payload.insert
  controller := { ui.controller with payload := String.ofList view.payload.content }
  tasks := ui.tasks ++ view.posted.map .closure

/-- The call of the controller that a closure makes. -/
def call : Closure → CliUiController.Event
  | .commitCommand => .commitCommand ui.selectedCommand
  | .executeCurrentCommand => .executeCurrentCommand
  | .clearPayload => .clearPayload
  | .clearResult => .clearResult

/-- What happens: events of the terminal are posted, the loop takes the next task, or the controller
and its workers go on. -/
inductive Event
  | arrive (events : List UiEvent)
  | runTask
  | controller (event : CliUiController.Event)

/-- The controller goes on with what it is doing, or the result pane is drawn. -/
def GoesOn : CliUiController.Event → Prop
  | .commitCommand _ | .setPayload _ | .clearPayload | .clearResult | .executeCurrentCommand
  | .joinExecution | .updateOverviewData => False
  | _ => True

instance : ∀ event, Decidable (GoesOn event)
  | .commitCommand _ | .setPayload _ | .clearPayload | .clearResult | .executeCurrentCommand
  | .joinExecution | .updateOverviewData => inferInstanceAs (Decidable False)
  | .render | .joined _ | .startThread _ | .agentsReturn _ | .endpointsReturn _ | .renderName _
  | .call _ _ | .answer _ _ _ | .store _ _ _ | .finish _ _ => inferInstanceAs (Decidable True)

/-- The UI thread looks at the terminal when no task is left. -/
def Enabled : Event → Prop
  | .arrive _ => ui.tasks = [] ∧ ui.controller.uiCall = .idle
  | .runTask => ui.tasks ≠ [] ∧ ui.controller.uiCall = .idle
  | .controller event => GoesOn event ∧ ui.controller.Enabled event

variable (glyphs : Glyphs) (jsoncons : Jsoncons) (truncate : String → Int)

def runTask : Task → UserInterface
  | .event event => ui.update (ui.view.handleEvent glyphs event)
  | .closure closure =>
    { ui with controller := ui.controller.next jsoncons truncate (ui.call closure) }

def next : Event → UserInterface
  | .arrive events => { ui with tasks := ui.tasks ++ events.map .event }
  | .runTask =>
    match ui.tasks with
    | [] => ui
    | task :: rest => { ui with tasks := rest }.runTask glyphs jsoncons truncate task
  | .controller event => { ui with controller := ui.controller.next jsoncons truncate event }

/-- The UI thread in its loop, with the workers. -/
def machine : Machine UserInterface Event where
  enabled := Enabled
  next ui event := ui.next glyphs jsoncons truncate event

instance : ∀ event, Decidable ((machine glyphs jsoncons truncate).enabled ui event)
  | .arrive _ | .runTask | .controller _ => inferInstanceAs (Decidable (_ ∧ _))

end UserInterface

end MavlinkHub
