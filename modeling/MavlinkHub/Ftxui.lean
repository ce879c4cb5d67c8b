/-
This file transcribes what the components of the terminal framework do with a key: the
containers, the menu, the text input and the button. Where the framework computes with the
width of glyphs, the outcome is a parameter.
-/

import Mathlib.Data.Int.Order.Basic
import Mathlib.Logic.Function.Iterate

namespace MavlinkHub.Ftxui

/-- A key other than Tab and TabReverse. -/
inductive Key
  | arrowUp
  | arrowDown
  | arrowLeft
  | arrowRight
  | arrowLeftCtrl
  | arrowRightCtrl
  | pageUp
  | pageDown
  | home
  | endKey
  | returnKey
  | backspace
  | delete
  | insert
  | character (character : Char)
  | other
  deriving DecidableEq

/-- The key can come from a terminal: `TerminalInputParser::Parse` makes no characters of what is
below the blank, or of 127. -/
def Key.sent : Key → Bool
  | .character typed => 32 ≤ typed.toNat && typed.toNat ≠ 127
  | _ => true

/-- The key goes as far as a box is high. -/
def Key.pages : Key → Bool
  | .pageUp | .pageDown => true
  | _ => false

/-! ### Containers -/

section

variable {Component : Type} (focusable : Component → Bool) (children : List Component)

/-- `MoveSelector`: to the next child, or the one before, that can have the focus. -/
def moveSelector (forward : Bool) (selector : Nat) : Nat :=
  let indices :=
    if forward then List.range' (selector + 1) (children.length - (selector + 1))
    else (List.range selector).reverse
  (indices.find? fun index => (children[index]?).any focusable).getD selector

/-- Where a key moves the selector of a vertical container. -/
def verticalMove (height : Int) (key : Key) (selector : Nat) : Nat :=
  let back := moveSelector focusable children false
  let on := moveSelector focusable children true
  match key with
  | .arrowUp | .character 'k' => back selector
  | .arrowDown | .character 'j' => on selector
  | .pageUp => back^[height.toNat] selector
  | .pageDown => on^[height.toNat] selector
  | .home => back^[children.length] selector
  | .endKey => on^[children.length] selector
  | _ => selector

def horizontalMove (key : Key) (selector : Nat) : Nat :=
  match key with
  | .arrowLeft | .character 'h' => moveSelector focusable children false selector
  | .arrowRight | .character 'l' => moveSelector focusable children true selector
  | _ => selector

/-- `VerticalContainer::EventHandler`, which has handled the key if the selector has moved. -/
def verticalSelector (height : Int) (key : Key) (selector : Nat) : Nat :=
  min (children.length - 1) (verticalMove focusable children height key selector)

/-- `HorizontalContainer::EventHandler`. -/
def horizontalSelector (key : Key) (selector : Nat) : Nat :=
  min (children.length - 1) (horizontalMove focusable children key selector)

/-- A selector points to a child that can have the focus. -/
def Points (selector : Nat) : Prop :=
  ∃ child, children[selector]? = some child ∧ focusable child

variable {focusable} {children} {selector : Nat}

theorem verticalSelector_height {key : Key} (short : key.pages = false) (height other : Int) :
    verticalSelector focusable children height key selector =
      verticalSelector focusable children other key selector := by
  have same : verticalMove focusable children height key selector =
      verticalMove focusable children other key selector := by
    unfold verticalMove
    dsimp only
    split
    all_goals first
      | rfl
      | cases short
  rw [verticalSelector, same, verticalSelector]

theorem Points.moveSelector (points : Points focusable children selector) (forward : Bool) :
    Points focusable children (moveSelector focusable children forward selector) := by
  rw [Ftxui.moveSelector]
  generalize (if forward then _ else _ : List Nat) = indices
  cases found : indices.find? fun index => (children[index]?).any focusable with
  | none => exact points
  | some index =>
    have able : (children[index]?).any focusable := by
      simpa only using List.find?_some found
    obtain ⟨child, there, focusable⟩ := (Option.any_eq_true _ _).mp able
    exact ⟨child, there, focusable⟩

theorem Points.iterate (points : Points focusable children selector) (forward : Bool)
    (count : Nat) :
    Points focusable children
      ((Ftxui.moveSelector focusable children forward)^[count] selector) := by
  induction count generalizing selector with
  | zero => exact points
  | succ count inductionHypothesis =>
    rw [Function.iterate_succ_apply]
    exact inductionHypothesis (points.moveSelector forward)

theorem Points.verticalMove (points : Points focusable children selector) (height : Int)
    (key : Key) :
    Points focusable children (verticalMove focusable children height key selector) := by
  unfold Ftxui.verticalMove
  split
  · exact points.moveSelector false
  · exact points.moveSelector false
  · exact points.moveSelector true
  · exact points.moveSelector true
  · exact points.iterate false _
  · exact points.iterate true _
  · exact points.iterate false _
  · exact points.iterate true _
  · exact points

theorem Points.horizontalMove (points : Points focusable children selector) (key : Key) :
    Points focusable children (horizontalMove focusable children key selector) := by
  unfold Ftxui.horizontalMove
  split
  · exact points.moveSelector false
  · exact points.moveSelector false
  · exact points.moveSelector true
  · exact points.moveSelector true
  · exact points

/-- The clamp of a container does nothing to a selector that points to a child. -/
theorem Points.clamp (points : Points focusable children selector) :
    Points focusable children (min (children.length - 1) selector) := by
  obtain ⟨child, found, able⟩ := points
  obtain ⟨inside, _⟩ := List.getElem?_eq_some_iff.mp found
  rw [Nat.min_eq_right (by omega)]
  exact ⟨child, found, able⟩

end

/-! ### The menu -/

/-- `Clamp`, of the index of the selected entry among so many. -/
def clampSelected (size : Nat) (selected : Int) : Int :=
  max 0 (min (size - 1) selected)

/-- What a key makes of the index of the selected entry of a menu that has the focus. -/
def menuSelected (size : Nat) (height : Int) (key : Key) (selected : Int) : Int :=
  clampSelected size <|
    match key with
    | .arrowUp | .character 'k' => selected - 1
    | .arrowDown | .character 'j' => selected + 1
    | .pageUp => selected - height
    | .pageDown => selected + height
    | .home => 0
    | .endKey => size - 1
    | _ => selected

theorem menuSelected_height {key : Key} (short : key.pages = false) (size : Nat)
    (height other selected : Int) :
    menuSelected size height key selected = menuSelected size other key selected := by
  unfold menuSelected
  split
  all_goals first
    | rfl
    | cases short

/-! ### The text input -/

/-- Where the framework's glyphs begin and end, and where it puts a cursor that leaves its line or
its word. -/
structure Glyphs where
  previous : List Char → Nat → Nat
  next : List Char → Nat → Nat
  moved : Key → List Char → Nat → Nat

/-- Each character is a glyph, and the text has one word on one line. -/
def Glyphs.single : Glyphs where
  previous _ position := position - 1
  next _ position := position + 1
  moved _ _ position := position

/-- The content of a text input, with its cursor. The closures that an `InputBase` posts on a change
and on Return are left out: nobody has set them, so they do nothing. -/
structure Input where
  content : List Char
  cursorPosition : Nat
  insert : Bool
  deriving DecidableEq

namespace Input

variable (glyphs : Glyphs) (input : Input)

/-- `OnEvent` begins so. -/
def clamp : Input :=
  { input with cursorPosition := min input.cursorPosition input.content.length }

/-- Erase what is between two places. -/
def erase (first last : Nat) : Input :=
  { input with content := input.content.take first ++ input.content.drop last }

/-- `DeleteImpl`, where the cursor is not at the end. -/
def deleteImpl : Input :=
  input.erase input.cursorPosition (glyphs.next input.content input.cursorPosition)

/-- `HandleCharacter`. -/
def handleCharacter (character : Char) : Input :=
  let cleared :=
    if input.insert = false ∧ input.cursorPosition < input.content.length ∧
        input.content[input.cursorPosition]? ≠ some '\n' then
      input.deleteImpl glyphs
    else input
  { cleared with
    content := cleared.content.take cleared.cursorPosition ++
      character :: cleared.content.drop cleared.cursorPosition
    cursorPosition := cleared.cursorPosition + 1 }

/-- `OnEvent`, with a key and after the clamp: what becomes of the input, and whether it has handled
the key. -/
def handleKey (key : Key) : Input × Bool :=
  let atStart := input.cursorPosition = 0
  let atEnd := input.cursorPosition = input.content.length
  match key with
  | .returnKey => (input.handleCharacter glyphs '\n', true)
  | .character character => (input.handleCharacter glyphs character, true)
  | .backspace =>
    if atStart then (input, false)
    else
      let start := glyphs.previous input.content input.cursorPosition
      ({ input.erase start input.cursorPosition with cursorPosition := start }, true)
  | .delete => if atEnd then (input, false) else (input.deleteImpl glyphs, true)
  | .arrowLeft =>
    if atStart then (input, false)
    else
      ({ input with cursorPosition := glyphs.previous input.content input.cursorPosition }, true)
  | .arrowRight =>
    if atEnd then (input, false)
    else ({ input with cursorPosition := glyphs.next input.content input.cursorPosition }, true)
  | .arrowUp | .arrowLeftCtrl =>
    if atStart then (input, false)
    else
      ({ input with cursorPosition := glyphs.moved key input.content input.cursorPosition }, true)
  | .arrowDown | .arrowRightCtrl =>
    if atEnd then (input, false)
    else
      ({ input with cursorPosition := glyphs.moved key input.content input.cursorPosition }, true)
  | .home => ({ input with cursorPosition := 0 }, true)
  | .endKey => ({ input with cursorPosition := input.content.length }, true)
  | .insert => ({ input with insert := !input.insert }, true)
  | .pageUp | .pageDown | .other => (input, false)

end Input

end MavlinkHub.Ftxui
