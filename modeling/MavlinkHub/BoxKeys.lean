/-
This file proves what the keys do in each of the boxes: an arrow moves the focus among the
buttons or the selected entry of the menu, Return activates the button or the menu, and a
character that comes to the payload is written at its end if the cursor is there. Along with
it goes that the selected entry is always one of the menu.
-/

import MavlinkHub.FocusNavigation

namespace MavlinkHub

open Component Ftxui

namespace View

variable {glyphs : Glyphs} {view : View} {component : Component}

/-! ### Tab -/

theorem focusNextBox_frame (direction : Int) :
    view.focusNextBox direction =
      { view with selectors := (view.focusNextBox direction).selectors } := by
  unfold focusNextBox
  dsimp only
  cases tabBoxes[Int.toNat _]? <;> rfl

/-! ### The selected entry -/

/-- The selected entry is one of the menu. -/
def InMenu (view : View) : Prop :=
  0 ≤ view.selectedCommand ∧ view.selectedCommand < entryCount

theorem inMenu_clampSelected (selected : Int) :
    InMenu { view with selectedCommand := clampSelected entryCount selected } := by
  have positive : 0 < entryCount := by decide
  show 0 ≤ clampSelected entryCount selected ∧ clampSelected entryCount selected < entryCount
  unfold clampSelected
  omega

theorem InMenu.menuKey (key : Key) (captured : Bool) (height : Int) :
    (menuKey key captured height view).1.InMenu := by
  have clamped : view.clampMenu.InMenu := inMenu_clampSelected view.selectedCommand
  have moved : 0 ≤ view.clampMenu.selectedAfter key height ∧
      view.clampMenu.selectedAfter key height < entryCount := by
    unfold selectedAfter
    split_ifs
    · exact (inMenu_clampSelected _ : View.InMenu { view with selectedCommand := _ })
    · exact clamped
  unfold View.menuKey
  dsimp only
  split_ifs
  · exact clamped
  · exact moved
  · exact clamped
  · exact clamped

theorem InMenu.handleKey (inMenu : view.InMenu) (key : Key) (captured : Bool)
    (height : Component → Int) (component : Component) :
    (handleKey glyphs key captured height component view).1.InMenu := by
  by_cases menu : component = .commandMenu
  · subst menu
    exact InMenu.menuKey key captured _
  · rw [InMenu, selectedCommand_handleKey menu]
    exact inMenu

theorem InMenu.menuPoint (inMenu : view.InMenu) (mouse : Mouse) :
    (menuPoint mouse view).1.InMenu := by
  unfold View.menuPoint
  split
  · exact inMenu
  · rename_i entry found
    have inside := List.mem_range.mp (List.mem_of_find?_eq_some found)
    split_ifs
    · exact ⟨Int.natCast_nonneg entry, Int.ofNat_lt.mpr inside⟩
    · exact inMenu

theorem InMenu.menuWheel (inMenu : view.InMenu) (mouse : Mouse) (turn : Int) :
    (menuWheel mouse turn view).1.InMenu := by
  unfold View.menuWheel
  split_ifs
  · exact inMenu_clampSelected _
  · exact inMenu

theorem InMenu.menuMouse (mouse : Mouse) : (menuMouse mouse view).1.InMenu := by
  have clamped : view.clampMenu.InMenu := inMenu_clampSelected view.selectedCommand
  unfold View.menuMouse
  split_ifs
  · exact clamped
  · split
    · exact clamped.menuWheel mouse (-1)
    · exact clamped.menuWheel mouse 1
    · exact clamped.menuPoint mouse
    · exact clamped.menuPoint mouse
    · exact clamped

theorem selectedCommand_handleMouse (apart : component ≠ .commandMenu) (mouse : Mouse) :
    (handleMouse mouse component view).1.selectedCommand = view.selectedCommand := by
  cases component with
  | commandMenu => exact absurd rfl apart
  | payloadInput =>
    show (inputMouse mouse view).1.selectedCommand = _
    unfold inputMouse
    dsimp only
    split_ifs
    · rfl
    · split <;> rfl
    · rfl
  | executeCommandButton | clearPayloadButton | clearResultButton =>
    show (buttonMouse _ _ mouse view).1.selectedCommand = _
    unfold buttonMouse
    split_ifs <;> rfl
  | layoutContainer | commandActionContainer | actionMenu =>
    show (containerMouse _ mouse view).1.selectedCommand = _
    unfold containerMouse
    split_ifs <;> rfl
  | layoutWithNav | layout | commandPane | commandPaneContainer | commandMenuComplete
  | commandMenuWithScroll | payloadComplete | overviewSplit => rfl

theorem InMenu.handleMouse (inMenu : view.InMenu) (mouse : Mouse) (component : Component) :
    (handleMouse mouse component view).1.InMenu := by
  by_cases menu : component = .commandMenu
  · subst menu
    exact InMenu.menuMouse mouse
  · rw [InMenu, selectedCommand_handleMouse menu]
    exact inMenu

theorem InMenu.handleEvent (inMenu : view.InMenu) (event : UiEvent) :
    (view.handleEvent glyphs event).InMenu := by
  cases event with
  | tab =>
    show InMenu (view.focusNextBox 1)
    rw [focusNextBox_frame]
    exact inMenu
  | tabReverse =>
    show InMenu (view.focusNextBox (-1))
    rw [focusNextBox_frame]
    exact inMenu
  | key key captured height =>
    exact FocusTree.offer_keeps InMenu
      (fun component _ held => held.handleKey key captured height component) inMenu
  | mouse mouse =>
    exact FocusTree.tour_keeps InMenu (fun component _ held => held.handleMouse mouse component)
      inMenu
/-! ### The buttons -/

/-- Nothing is posted, every selector points to where it can, and the selected entry is one. -/
structure Sound (view : View) : Prop where
  pointed : view.Pointed
  quiet : view.posted = []
  inMenu : view.InMenu

theorem Sound.withSelectors {selectors : Component → Nat} (sound : view.Sound)
    (pointed : tree.Pointed selectors) : { view with selectors := selectors }.Sound :=
  ⟨pointed, sound.quiet, sound.inMenu⟩

theorem Sound.withPayload (sound : view.Sound) (payload : Input) :
    { view with payload := payload }.Sound :=
  ⟨sound.pointed, sound.quiet, sound.inMenu⟩

theorem Sound.withSelected (sound : view.Sound) {selected : Int}
    (inside : 0 ≤ selected ∧ selected < entryCount) :
    { view with selectedCommand := selected }.Sound :=
  ⟨sound.pointed, sound.quiet, inside⟩

/-- The button at this index. -/
def buttonAt (index : Nat) : Option Component := (children .actionMenu)[index]?

variable {index : Nat} {leaf : Component} {height : Component → Int}

/-- The focus is on the button at this index. -/
def OnButton (view : View) (index : Nat) : Prop :=
  view.FocusedOn 2 ∧ view.selectors .actionMenu = index

theorem OnButton.focused (onButton : view.OnButton index)
    (found : buttonAt index = some leaf) : tree.Focused view.selectors leaf := by
  have menu : tree.Focused view.selectors .actionMenu :=
    (onButton.1 .actionMenu (by decide)).mpr rfl
  have able : ∀ button ∈ children .actionMenu, focusable button := by decide
  refine menu.selected rfl ?_ (able leaf (List.mem_of_getElem? found))
  rw [onButton.2]
  exact found

theorem OnButton.update (onButton : view.OnButton index) (next : Nat) :
    ({ view with
      selectors := Function.update view.selectors .actionMenu next } : View).OnButton next := by
  have outside : ∀ container,
      (∃ above ∈ tree.line .actionMenu, tree.parent above = some container) →
        container ≠ .actionMenu := by decide
  have focused := (onButton.1 .actionMenu (by decide)).mpr rfl
  refine ⟨focusedOn_of_focused rfl ((FocusTree.focused_congr fun container above => ?_).mp focused),
    ?_⟩
  · exact (Function.update_of_ne (outside container above) _ _).symm
  · show Function.update view.selectors .actionMenu next .actionMenu = next
    rw [Function.update_self]

/-- A key other than Return moves the selector of the buttons from one place to another, however
high they are. -/
def ArrowMoves (key : Key) (index next : Nat) : Prop :=
  key.sent ∧ key.pages = false ∧ key ≠ .returnKey ∧ index < (children .actionMenu).length ∧
    next ≠ index ∧ verticalSelector focusable (children .actionMenu) 0 key index = next

instance (key : Key) (index next : Nat) : Decidable (ArrowMoves key index next) :=
  inferInstanceAs (Decidable (_ ∧ _))

/-- What contains a button. -/
theorem line_button (button : leaf ∈ children .actionMenu) : leaf ∈ leaves ∧
    tree.line leaf = leaf :: .actionMenu :: tree.line .commandActionContainer := by
  revert leaf
  decide

/-- What a button does with a key. -/
theorem handleKey_button (button : leaf ∈ children .actionMenu) :
    ∃ closure, closureOf leaf = some closure ∧ ∀ key,
      handleKey glyphs key false height leaf = buttonKey closure key := by
  rcases List.mem_cons.mp button with rfl | button
  · exact ⟨_, rfl, fun _ => rfl⟩
  rcases List.mem_pair.mp button with rfl | rfl <;> exact ⟨_, rfl, fun _ => rfl⟩

/-- An arrow moves the focus among the buttons. -/
theorem handleEvent_arrow {key : Key} {next : Nat} (onButton : view.OnButton index)
    (moves : ArrowMoves key index next) :
    view.handleEvent glyphs (.key key false height) =
      { view with selectors := Function.update view.selectors .actionMenu next } := by
  obtain ⟨_, short, arrow, inside, apart, moves⟩ := moves
  have found : buttonAt index = some (children .actionMenu)[index] :=
    List.getElem?_eq_getElem inside
  have button := List.getElem_mem inside
  obtain ⟨member, line⟩ := line_button button
  obtain ⟨closure, _, handles⟩ := handleKey_button button
  have refused : handleKey glyphs key false height (children .actionMenu)[index] view =
      (view, false) := by
    rw [handles, buttonKey, if_neg arrow]
  have taken : handleKey glyphs key false height .actionMenu view =
      ({ view with selectors := Function.update view.selectors .actionMenu next }, true) := by
    show containerKey .actionMenu (verticalSelector focusable (children .actionMenu)
      (height .actionMenu) key) view = _
    rw [containerKey, onButton.2, verticalSelector_height short _ 0, moves,
      decide_eq_true apart]
  rw [handleEvent_key member (onButton.focused found), line, List.map_cons,
    List.map_cons, firstHandled_cons_of_refused (by rw [refused]), refused,
    firstHandled_cons_of_handled (by rw [taken]), taken]

/-- Return activates a button. -/
theorem handleEvent_button {closure : Closure} (onButton : view.OnButton index)
    (found : buttonAt index = some leaf) (posts : closureOf leaf = some closure) :
    view.handleEvent glyphs (.key .returnKey false height) = view.post closure := by
  have button : leaf ∈ children .actionMenu := List.mem_of_getElem? found
  obtain ⟨same, named, handles⟩ := handleKey_button button
  have clicked : handleKey glyphs .returnKey false height leaf view =
      (view.post closure, true) := by
    rw [handles, buttonKey, if_pos rfl, Option.some_inj.mp (named.symm.trans posts)]
  rw [handleEvent_of_handled (line_button button).1 (onButton.focused found)
    (by rw [clicked]), clicked]

/-! ### Typing -/

/-- The key that types a character. -/
def keyOf (character : Char) : Key :=
  if character = '\n' then .returnKey else .character character

theorem handleKey_keyOf (glyphs : Glyphs) (input : Input) (character : Char)
    (atEnd : input.content.length ≤ input.cursorPosition) :
    input.clamp.handleKey glyphs (keyOf character) =
      (⟨input.content ++ [character], input.content.length + 1, input.insert⟩, true) := by
  have clamped : input.clamp = ⟨input.content, input.content.length, input.insert⟩ := by
    rw [Input.clamp, Nat.min_eq_right atEnd]
  have typed : (Input.mk input.content input.content.length input.insert).handleCharacter glyphs
      character = ⟨input.content ++ [character], input.content.length + 1, input.insert⟩ := by
    have inside : ¬(input.insert = false ∧ input.content.length < input.content.length ∧
        input.content[input.content.length]? ≠ some '\n') := fun facts =>
      Nat.lt_irrefl _ facts.2.1
    simp only [Input.handleCharacter, if_neg inside, List.take_length, List.drop_length]
  rw [clamped, ← typed, keyOf]
  split_ifs with lineBreak
  · rw [lineBreak]
    rfl
  · rfl

/-- A key goes into the payload. -/
theorem handleEvent_payload {key : Key} (focusedOn : view.FocusedOn 1)
    (handled : (view.payload.clamp.handleKey glyphs key).2 = true) :
    view.handleEvent glyphs (.key key false height) =
      { view with payload := (view.payload.clamp.handleKey glyphs key).1 } :=
  handleEvent_of_handled (by decide) ((focusedOn .payloadInput (by decide)).mpr rfl) handled

/-! ### The menu -/

theorem focused_menu (focusedOn : view.FocusedOn 0) :
    tree.Focused view.selectors .commandMenu :=
  (focusedOn .commandMenu (by decide)).mpr rfl

theorem clampMenu_eq (sound : view.Sound) : view.clampMenu = view := by
  obtain ⟨lower, upper⟩ := sound.inMenu
  have kept : clampSelected entryCount view.selectedCommand = view.selectedCommand := by
    unfold clampSelected
    omega
  rw [clampMenu, kept]

/-- Return in the menu posts the commit. -/
theorem handleEvent_menu_returnKey (sound : view.Sound) (focusedOn : view.FocusedOn 0) :
    view.handleEvent glyphs (.key .returnKey false height) = view.post .commitCommand := by
  have posts : handleKey glyphs .returnKey false height .commandMenu view =
      (view.post .commitCommand, true) := by
    show menuKey .returnKey false (height .commandMenu) view = _
    rw [menuKey_returnKey _ rfl, clampMenu_eq sound]
  rw [handleEvent_of_handled (by decide) (focused_menu focusedOn) (by rw [posts]), posts]

/-- An arrow moves the selected entry. -/
theorem handleEvent_menu_arrow {key : Key} {next : Int} (sound : view.Sound)
    (focusedOn : view.FocusedOn 0) (short : key.pages = false)
    (moves : menuSelected entryCount 0 key view.selectedCommand = next)
    (apart : next ≠ view.selectedCommand) :
    view.handleEvent glyphs (.key key false height) =
      { view with selectedCommand := next } := by
  have focused := focused_menu focusedOn
  have selected : view.selectedAfter key (height .commandMenu) = next := by
    rw [selectedAfter, if_pos focused, menuSelected_height short _ _ 0, moves]
  have moved : handleKey glyphs key false height .commandMenu view =
      ({ view with selectedCommand := next }, true) := by
    show menuKey key false (height .commandMenu) view = _
    rw [menuKey, clampMenu_eq sound, selected, if_neg Bool.false_ne_true, if_pos apart]
  rw [handleEvent_of_handled (by decide) focused (by rw [moved]), moved]

end View

end MavlinkHub
