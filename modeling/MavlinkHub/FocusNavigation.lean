/-
This file proves who has the focus in the user interface. Every selector points to a child
that can have the focus, whatever keys and clicks come, so the focus gets down to one leaf,
and the leaf lies in one of the boxes that Tab goes round. A key acts through that leaf:
what it posts is the leaf's own closure.
-/

import MavlinkHub.UserInterface

namespace MavlinkHub

open Component Ftxui

namespace View

variable {glyphs : Glyphs} {view : View} {component : Component}

/-! ### The selectors -/

/-- Every selector points to a child that can have the focus. -/
abbrev Pointed (view : View) : Prop := tree.Pointed view.selectors

theorem pointed_initial : Pointed {} := by
  intro component selects _
  cases component <;> first | exact ⟨_, rfl, rfl⟩ | cases selects

theorem Pointed.points (pointed : view.Pointed) (selects : component.selects) :
    Points focusable (children component) (view.selectors component) := by
  have able : component.focusable := by cases component <;> first | rfl | cases selects
  exact pointed component selects able

theorem Pointed.takeFocus (pointed : view.Pointed) (able : component.focusable) :
    (view.takeFocus component).Pointed :=
  FocusTree.Pointed.takeFocus pointed able

theorem Pointed.containerKey (pointed : view.Pointed) {select : Nat → Nat}
    (points : Points focusable (children component) (select (view.selectors component))) :
    (containerKey component select view).1.Pointed := by
  obtain ⟨child, found, able⟩ := points
  exact pointed.update found able

theorem selectors_menuKey (key : Key) (captured : Bool) (height : Int) :
    (menuKey key captured height view).1.selectors = view.selectors := by
  unfold menuKey
  dsimp only
  split_ifs <;> rfl

theorem selectors_buttonKey (closure : Closure) (key : Key) :
    (buttonKey closure key view).1.selectors = view.selectors := by
  unfold buttonKey
  split_ifs <;> rfl

theorem Pointed.handleKey (pointed : view.Pointed) (key : Key) (captured : Bool)
    (height : Component → Int) (component : Component) :
    (handleKey glyphs key captured height component view).1.Pointed := by
  cases component with
  | commandMenu =>
    show tree.Pointed (menuKey _ _ _ view).1.selectors
    rwa [selectors_menuKey]
  | payloadInput => exact pointed
  | executeCommandButton | clearPayloadButton | clearResultButton =>
    show tree.Pointed (buttonKey _ _ view).1.selectors
    rwa [selectors_buttonKey]
  | layoutContainer | commandActionContainer | actionMenu =>
    exact pointed.containerKey ((pointed.points rfl).verticalMove _ _).clamp
  | commandPaneContainer =>
    exact pointed.containerKey ((pointed.points rfl).horizontalMove _).clamp
  | layoutWithNav | layout | commandPane | commandMenuComplete | commandMenuWithScroll
  | payloadComplete | overviewSplit => exact pointed

theorem Pointed.menuWheel (pointed : view.Pointed) (mouse : Mouse) (turn : Int) :
    (menuWheel mouse turn view).1.Pointed := by
  unfold View.menuWheel
  split_ifs <;> exact pointed

theorem Pointed.menuPoint (pointed : view.Pointed) (mouse : Mouse) :
    (menuPoint mouse view).1.Pointed := by
  unfold View.menuPoint
  split
  · exact pointed
  · split_ifs <;> exact pointed.takeFocus rfl

theorem Pointed.menuMouse (pointed : view.Pointed) (mouse : Mouse) :
    (menuMouse mouse view).1.Pointed := by
  have clamped : view.clampMenu.Pointed := pointed
  unfold View.menuMouse
  split_ifs
  · exact pointed
  · split
    · exact clamped.menuWheel mouse (-1)
    · exact clamped.menuWheel mouse 1
    · exact clamped.menuPoint mouse
    · exact clamped.menuPoint mouse
    · exact pointed

theorem Pointed.inputMouse (pointed : view.Pointed) (mouse : Mouse) :
    (inputMouse mouse view).1.Pointed := by
  have taken : (view.takeFocus .payloadInput).Pointed := pointed.takeFocus rfl
  unfold View.inputMouse
  dsimp only
  split_ifs
  · exact taken
  · split <;> exact taken
  · exact pointed

theorem Pointed.buttonMouse (pointed : view.Pointed) (able : component.focusable)
    (closure : Closure) (mouse : Mouse) : (buttonMouse component closure mouse view).1.Pointed := by
  unfold View.buttonMouse
  split_ifs
  · exact pointed.takeFocus able
  · exact pointed

theorem Pointed.containerMouse (pointed : view.Pointed) (selects : component.selects)
    (mouse : Mouse) : (containerMouse component mouse view).1.Pointed := by
  unfold View.containerMouse
  split_ifs
  · exact pointed.containerKey ((pointed.points selects).moveSelector _).clamp
  · exact pointed

theorem Pointed.handleMouse (pointed : view.Pointed) (mouse : Mouse) (component : Component) :
    (handleMouse mouse component view).1.Pointed := by
  cases component with
  | commandMenu => exact pointed.menuMouse mouse
  | payloadInput => exact pointed.inputMouse mouse
  | executeCommandButton | clearPayloadButton | clearResultButton =>
    exact pointed.buttonMouse rfl _ mouse
  | layoutContainer | commandActionContainer | actionMenu => exact pointed.containerMouse rfl mouse
  | layoutWithNav | layout | commandPane | commandPaneContainer | commandMenuComplete
  | commandMenuWithScroll | payloadComplete | overviewSplit => exact pointed

theorem focusable_of_mem_tabBoxes (member : component ∈ tabBoxes) : component.focusable := by
  revert component
  decide

theorem Pointed.focusNextBox (pointed : view.Pointed) (direction : Int) :
    (view.focusNextBox direction).Pointed := by
  unfold View.focusNextBox
  dsimp only
  cases found : tabBoxes[Int.toNat _]? with
  | none => exact pointed
  | some box => exact pointed.takeFocus (focusable_of_mem_tabBoxes (List.mem_of_getElem? found))

theorem Pointed.handleEvent (pointed : view.Pointed) (event : UiEvent) :
    (view.handleEvent glyphs event).Pointed := by
  cases event with
  | tab => exact pointed.focusNextBox 1
  | tabReverse => exact pointed.focusNextBox (-1)
  | key key captured height =>
    exact FocusTree.offer_keeps Pointed
      (fun component _ held => held.handleKey key captured height component) pointed
  | mouse mouse =>
    exact FocusTree.tour_keeps Pointed (fun component _ held => held.handleMouse mouse component)
      pointed

/-! ### The boxes -/

/-- The components that handle keys by themselves. -/
def leaves : List Component :=
  [.commandMenu, .payloadInput, .executeCommandButton, .clearPayloadButton, .clearResultButton]

/-- Every selecting component passes the focus on. -/
theorem Pointed.pass (pointed : view.Pointed) (selects : component.selects)
    (focused : tree.Focused view.selectors component) :
    ∃ child ∈ children component, focusable child ∧ tree.Focused view.selectors child := by
  obtain ⟨child, found, able⟩ := pointed.points selects
  exact ⟨child, List.mem_of_getElem? found, able, focused.selected selects found able⟩

theorem Pointed.focused_commandActionContainer (pointed : view.Pointed) :
    tree.Focused view.selectors .commandActionContainer := by
  have top : tree.Focused view.selectors .layoutWithNav := FocusTree.focused_root.mpr rfl
  have layout : tree.Focused view.selectors .layout := top.activeChild rfl rfl
  have container : tree.Focused view.selectors .layoutContainer := layout.activeChild rfl rfl
  obtain ⟨child, member, able, focused⟩ := pointed.pass rfl container
  have only : ∀ child ∈ children .layoutContainer, focusable child → child = .commandPane := by
    decide
  rw [only child member able] at focused
  exact focused.activeChild rfl rfl

/-- The focus gets down to a leaf. -/
theorem Pointed.exists_leaf (pointed : view.Pointed) :
    ∃ leaf ∈ leaves, tree.Focused view.selectors leaf := by
  obtain ⟨child, member, _, focused⟩ := pointed.pass rfl pointed.focused_commandActionContainer
  rcases List.mem_pair.mp member with rfl | rfl
  · obtain ⟨column, inside, _, there⟩ := pointed.pass rfl focused
    rcases List.mem_pair.mp inside with rfl | rfl
    · have scroll : tree.Focused view.selectors .commandMenuWithScroll := there.activeChild rfl rfl
      exact ⟨.commandMenu, by decide, scroll.activeChild rfl rfl⟩
    · exact ⟨.payloadInput, by decide, there.activeChild rfl rfl⟩
  · obtain ⟨button, inside, _, there⟩ := pointed.pass rfl focused
    have buttons : ∀ button ∈ children .actionMenu, button ∈ leaves := by decide
    exact ⟨button, buttons button inside, there⟩

theorem eq_of_focused_leaves {leaf other : Component} (member : leaf ∈ leaves)
    (also : other ∈ leaves) (focused : tree.Focused view.selectors leaf)
    (there : tree.Focused view.selectors other) : other = leaf := by
  have apart : ∀ leaf ∈ leaves, ∀ other ∈ leaves,
      leaf ∈ tree.line other ∨ other ∈ tree.line leaf → other = leaf := by decide
  exact apart leaf member other also (focused.mem_line_or there)

/-- The box at this index has the focus, and no other box. -/
def FocusedOn (view : View) (index : Nat) : Prop :=
  ∀ box ∈ tabBoxes, tree.Focused view.selectors box ↔ tabBoxes[index]? = some box

theorem focusedOn_of_focused {index : Nat} (found : tabBoxes[index]? = some component)
    (focused : tree.Focused view.selectors component) : view.FocusedOn index := by
  have apart : ∀ box ∈ tabBoxes, ∀ other ∈ tabBoxes,
      box ∈ tree.line other ∨ other ∈ tree.line box → box = other := by decide
  intro box member
  rw [found, Option.some_inj]
  constructor
  · intro also
    exact apart component (List.mem_of_getElem? found) box member (focused.mem_line_or also)
  · rintro rfl
    exact focused

theorem Pointed.exists_focusedOn (pointed : view.Pointed) :
    ∃ index < tabBoxes.length, view.FocusedOn index := by
  obtain ⟨leaf, member, focused⟩ := pointed.exists_leaf
  have boxed : ∀ leaf ∈ leaves, ∃ index < tabBoxes.length, ∃ box ∈ tree.line leaf,
      tabBoxes[index]? = some box := by decide
  obtain ⟨index, inside, box, above, found⟩ := boxed leaf member
  exact ⟨index, inside, focusedOn_of_focused found (focused.of_mem_line above)⟩

theorem focusedOn_takeFocus {index : Nat} (found : tabBoxes[index]? = some component) :
    (view.takeFocus component).FocusedOn index := by
  have only : ∀ child container, tree.parent child = some container →
      tree.selects container = false →
        (tree.children container).find? tree.focusable = some child := by decide
  exact focusedOn_of_focused found (FocusTree.focused_takeFocus
    (focusable_of_mem_tabBoxes (List.mem_of_getElem? found)) (fun child _ => only child))

theorem findIdx?_congr {found sought : Component → Bool} {boxes : List Component}
    (same : ∀ box ∈ boxes, found box = sought box) :
    boxes.findIdx? found = boxes.findIdx? sought := by
  induction boxes with
  | nil => rfl
  | cons box boxes inductionHypothesis =>
    rw [List.findIdx?_cons, List.findIdx?_cons, same box List.mem_cons_self,
      inductionHypothesis fun other member => same other (List.mem_cons_of_mem _ member)]

/-- `focus_next_box` finds the box that has the focus. -/
theorem FocusedOn.focusedIndex {index : Nat} (focusedOn : view.FocusedOn index)
    (inside : index < tabBoxes.length) : view.focusedIndex = some index := by
  have scan : ∀ index < tabBoxes.length,
      (tabBoxes.findIdx? fun box => tabBoxes[index]? = some box) = some index := by decide
  rw [← scan index inside]
  exact findIdx?_congr fun box member => decide_eq_decide.mpr (focusedOn box member)

theorem FocusedOn.focusNextBox {index next : Nat} {direction : Int}
    (focusedOn : view.FocusedOn index) (inside : index < tabBoxes.length)
    (steps : ((index : Int) + direction + tabBoxes.length) % 2 ^ 64 % tabBoxes.length = next) :
    (view.focusNextBox direction).FocusedOn next := by
  have bound : next < tabBoxes.length := by
    have positive : (0 : Int) < tabBoxes.length := by decide
    have less := Int.emod_lt_of_pos (((index : Int) + direction + tabBoxes.length) % 2 ^ 64)
      positive
    rw [steps] at less
    exact Int.ofNat_lt.mp less
  have found := List.getElem?_eq_getElem bound
  rw [View.focusNextBox, focusedOn.focusedIndex inside, Option.getD_some, steps,
    Int.toNat_natCast, found]
  exact focusedOn_takeFocus found

/-- Tab gives the focus to the next box. -/
theorem FocusedOn.tab {index : Nat} (focusedOn : view.FocusedOn index)
    (inside : index < tabBoxes.length) :
    (view.focusNextBox 1).FocusedOn ((index + 1) % tabBoxes.length) := by
  have steps : ∀ index < tabBoxes.length,
      ((index : Int) + 1 + tabBoxes.length) % 2 ^ 64 % tabBoxes.length =
        ((index + 1) % tabBoxes.length : Nat) := by decide
  exact focusedOn.focusNextBox inside (steps index inside)

theorem FocusedOn.tabReverse {index : Nat} (focusedOn : view.FocusedOn index)
    (inside : index < tabBoxes.length) :
    (view.focusNextBox (-1)).FocusedOn ((index + 2) % tabBoxes.length) := by
  have steps : ∀ index < tabBoxes.length,
      ((index : Int) + -1 + tabBoxes.length) % 2 ^ 64 % tabBoxes.length =
        ((index + 2) % tabBoxes.length : Nat) := by decide
  exact focusedOn.focusNextBox inside (steps index inside)

/-! ### Keys -/

/-- What a leaf posts when it is activated. -/
def closureOf : Component → Option Closure
  | .commandMenu => some .commitCommand
  | .executeCommandButton => some .executeCurrentCommand
  | .clearPayloadButton => some .clearPayload
  | .clearResultButton => some .clearResult
  | _ => none

/-- What a key makes a leaf post. The menu does nothing while the mouse is captured. -/
def postedBy (leaf : Component) (key : Key) (captured : Bool) : List Closure :=
  if key = .returnKey ∧ ¬(leaf = .commandMenu ∧ captured) then (closureOf leaf).toList else []

theorem handleKey_of_passive (selects : component.selects = false) (outside : component ∉ leaves)
    (key : Key) (captured : Bool) (height : Component → Int) :
    handleKey glyphs key captured height component = fun view => (view, false) := by
  cases component <;> first | rfl | exact absurd (by decide) outside | cases selects

/-- What contains the leaves only moves selectors. -/
theorem handleKey_of_notMem (outside : component ∉ leaves) (key : Key) (captured : Bool)
    (height : Component → Int) :
    (handleKey glyphs key captured height component view).1 =
      { view with
        selectors := (handleKey glyphs key captured height component view).1.selectors } := by
  cases component <;> first | rfl | exact absurd (by decide) outside

/-- A key is offered to the leaf with the focus, and then to what contains it. -/
theorem handleEvent_key {leaf : Component} (member : leaf ∈ leaves)
    (focused : tree.Focused view.selectors leaf) (key : Key) (captured : Bool)
    (height : Component → Int) :
    view.handleEvent glyphs (.key key captured height) =
      (firstHandled ((tree.line leaf).map (handleKey glyphs key captured height)) view).1 := by
  have empty : ∀ leaf ∈ leaves, tree.children leaf = [] := by decide
  have single : ∀ leaf ∈ leaves, ∀ container, tree.selects container = false →
      container ≠ leaf → container ∈ tree.line leaf →
        ∃ child, tree.children container = [child] := by decide
  have alone : ∀ leaf ∈ leaves, ∀ container, container ≠ leaf → container ∈ tree.line leaf →
      container ∉ leaves := by decide
  have deep : ∀ leaf ∈ leaves, (tree.line leaf).length ≤ levels := by decide
  exact congrArg Prod.fst (FocusTree.offer_eq_firstHandled focused (empty leaf member)
    (single leaf member) (fun container selects apart above => handleKey_of_passive selects
      (alone leaf member container apart above) key captured height) (deep leaf member))

theorem handleEvent_of_handled {leaf : Component} (member : leaf ∈ leaves)
    (focused : tree.Focused view.selectors leaf) {key : Key} {captured : Bool}
    {height : Component → Int}
    (handled : (handleKey glyphs key captured height leaf view).2 = true) :
    view.handleEvent glyphs (.key key captured height) =
      (handleKey glyphs key captured height leaf view).1 := by
  have line : ∀ leaf ∈ leaves, tree.line leaf = leaf :: (tree.line leaf).tail := by decide
  rw [handleEvent_key member focused, line leaf member, List.map_cons,
    firstHandled_cons_of_handled handled]

/-- A key does what the leaf with the focus does with it, and may then move selectors. -/
theorem handleEvent_key_eq {leaf : Component} (member : leaf ∈ leaves)
    (focused : tree.Focused view.selectors leaf) (key : Key) (captured : Bool)
    (height : Component → Int) :
    view.handleEvent glyphs (.key key captured height) =
      { (handleKey glyphs key captured height leaf view).1 with
        selectors := (view.handleEvent glyphs (.key key captured height)).selectors } := by
  have split : ∀ leaf ∈ leaves, ∃ above, tree.line leaf = leaf :: above ∧
      ∀ container ∈ above, container ∉ leaves := by
    intro leaf member
    refine ⟨(tree.line leaf).tail, ?_⟩
    revert leaf
    decide
  obtain ⟨above, line, outside⟩ := split leaf member
  rw [handleEvent_key member focused, line, List.map_cons]
  cases handled : (handleKey glyphs key captured height leaf view).2 with
  | true => rw [firstHandled_cons_of_handled handled]
  | false =>
    rw [firstHandled_cons_of_refused handled]
    refine firstHandled_keeps
      (fun after : View => after = { (handleKey glyphs key captured height leaf view).1 with
        selectors := after.selectors }) (fun handler among state held => ?_) rfl
    obtain ⟨container, found, rfl⟩ := List.mem_map.mp among
    rw [handleKey_of_notMem (outside container found), held]

/-! ### What leaves do with a key -/

theorem clampSelected_clampSelected (size : Nat) (selected : Int) :
    clampSelected size (clampSelected size selected) = clampSelected size selected := by
  unfold clampSelected
  omega

theorem menuKey_returnKey {captured : Bool} (height : Int) (free : captured = false) :
    menuKey .returnKey captured height view = (view.clampMenu.post .commitCommand, true) := by
  have stays : view.clampMenu.selectedAfter .returnKey height = view.clampMenu.selectedCommand := by
    have kept : menuSelected entryCount height .returnKey view.clampMenu.selectedCommand =
        view.clampMenu.selectedCommand := clampSelected_clampSelected _ _
    rw [selectedAfter, kept, ite_self]
  rw [menuKey, free, if_neg Bool.false_ne_true, if_neg (not_not_intro stays), if_pos rfl]

theorem posted_menuKey {key : Key} {captured : Bool} (height : Int)
    (idle : ¬(key = .returnKey ∧ captured = false)) :
    (menuKey key captured height view).1.posted = view.posted := by
  unfold menuKey
  dsimp only
  split_ifs with captures moves returns
  · rfl
  · rfl
  · exact absurd ⟨returns, Bool.eq_false_iff.mpr captures⟩ idle
  · rfl

theorem posted_handleKey {leaf : Component} (member : leaf ∈ leaves) (key : Key) (captured : Bool)
    (height : Component → Int) :
    (handleKey glyphs key captured height leaf view).1.posted =
      view.posted ++ postedBy leaf key captured := by
  cases leaf with
  | commandMenu =>
    show (menuKey key captured _ view).1.posted = _
    by_cases activated : key = .returnKey ∧ captured = false
    · obtain ⟨rfl, free⟩ := activated
      rw [menuKey_returnKey _ free, postedBy, free]
      rfl
    · rw [posted_menuKey _ activated, postedBy, if_neg]
      · exact (List.append_nil _).symm
      · rintro ⟨returns, free⟩
        exact activated ⟨returns, Bool.eq_false_iff.mpr fun captures => free ⟨rfl, captures⟩⟩
  | payloadInput =>
    rw [postedBy]
    split_ifs <;> exact (List.append_nil _).symm
  | executeCommandButton | clearPayloadButton | clearResultButton =>
    show (buttonKey _ key view).1.posted = _
    rw [buttonKey, postedBy]
    by_cases returns : key = .returnKey
    · rw [if_pos returns, if_pos ⟨returns, fun menu => by cases menu.1⟩]
      rfl
    · rw [if_neg returns, if_neg fun both => returns both.1]
      exact (List.append_nil _).symm
  | layoutWithNav | layout | layoutContainer | commandPane | commandActionContainer
  | commandPaneContainer | commandMenuComplete | commandMenuWithScroll | payloadComplete
  | actionMenu | overviewSplit => exact absurd member (by decide)

theorem payload_menuKey (key : Key) (captured : Bool) (height : Int) :
    (menuKey key captured height view).1.payload = view.payload := by
  unfold menuKey
  dsimp only
  split_ifs <;> rfl

theorem buttonKey_frame (closure : Closure) (key : Key) :
    (buttonKey closure key view).1 =
      { view with posted := (buttonKey closure key view).1.posted } := by
  unfold buttonKey
  split_ifs <;> rfl

/-- A key changes the selected entry through the menu only. -/
theorem selectedCommand_handleKey (apart : component ≠ .commandMenu) (key : Key)
    (captured : Bool) (height : Component → Int) :
    (handleKey glyphs key captured height component view).1.selectedCommand =
      view.selectedCommand := by
  cases component with
  | commandMenu => exact absurd rfl apart
  | executeCommandButton | clearPayloadButton | clearResultButton =>
    show (buttonKey _ key view).1.selectedCommand = _
    rw [buttonKey_frame]
  | payloadInput | layoutWithNav | layout | layoutContainer | commandPane
  | commandActionContainer | commandPaneContainer | commandMenuComplete | commandMenuWithScroll
  | payloadComplete | actionMenu | overviewSplit => rfl

/-- A key changes the payload through its input only. -/
theorem payload_handleKey (apart : component ≠ .payloadInput) (key : Key)
    (captured : Bool) (height : Component → Int) :
    (handleKey glyphs key captured height component view).1.payload = view.payload := by
  cases component with
  | payloadInput => exact absurd rfl apart
  | commandMenu => exact payload_menuKey key captured _
  | executeCommandButton | clearPayloadButton | clearResultButton =>
    show (buttonKey _ key view).1.payload = _
    rw [buttonKey_frame]
  | layoutWithNav | layout | layoutContainer | commandPane | commandActionContainer
  | commandPaneContainer | commandMenuComplete | commandMenuWithScroll | payloadComplete
  | actionMenu | overviewSplit => rfl

end View

/-! ### Runs -/

namespace UserInterface

variable {glyphs : Glyphs} {jsoncons : Jsoncons} {truncate : String → Int} {ui : UserInterface}

theorem pointed_next (pointed : ui.view.Pointed) (event : Event) :
    (ui.next glyphs jsoncons truncate event).view.Pointed := by
  cases event with
  | arrive events => exact pointed
  | controller event => exact pointed
  | runTask =>
    rw [UserInterface.next]
    split
    · exact pointed
    · rename_i task rest _
      cases task with
      | closure closure => exact pointed
      | event event => exact pointed.handleEvent event

theorem pointed_run {controller : CliUiController} {events : List Event}
    (run : (machine glyphs jsoncons truncate).Runs (fun _ _ => True)
      { controller := controller } events ui) : ui.view.Pointed :=
  run.invariant (fun ui => ui.view.Pointed) (fun _ event held _ _ => pointed_next held event)
    View.pointed_initial

/-- Tab and a letter, from the terminal and through the loop. -/
def letterAfterTab : List Event :=
  [.arrive [.tab, .key (.character 'a') false fun _ => 0], .runTask, .runTask]

/-- The user interface after them. -/
def typedLetter : UserInterface :=
  letterAfterTab.foldl (UserInterface.next · .single (.reading []) fun _ => 0) {}

/-- In every run exactly one of the boxes has the focus; Tab gives it to the next one, and
TabReverse to the one before, round and round. -/
theorem tab_goesRound {controller : CliUiController} {events : List Event}
    (run : (machine glyphs jsoncons truncate).Runs (fun _ _ => True)
      { controller := controller } events ui) :
    ∃ index < View.tabBoxes.length, ui.view.FocusedOn index ∧
      (ui.view.handleEvent glyphs .tab).FocusedOn ((index + 1) % View.tabBoxes.length) ∧
      (ui.view.handleEvent glyphs .tabReverse).FocusedOn
        ((index + 2) % View.tabBoxes.length) := by
  obtain ⟨index, inside, focusedOn⟩ := (pointed_run run).exists_focusedOn
  exact ⟨index, inside, focusedOn, focusedOn.tab inside, focusedOn.tabReverse inside⟩

theorem tab_goesRound_sample :
    ∃ index < View.tabBoxes.length, typedLetter.view.FocusedOn index ∧
      (typedLetter.view.handleEvent .single .tab).FocusedOn
        ((index + 1) % View.tabBoxes.length) ∧
      (typedLetter.view.handleEvent .single .tabReverse).FocusedOn
        ((index + 2) % View.tabBoxes.length) := by
  have run : (machine .single (.reading []) fun _ => 0).Runs (fun _ _ => True) {} letterAfterTab
      typedLetter := Machine.runs_of_play rfl
  exact tab_goesRound run

/-- In every run exactly one of the components that handle keys has the focus, and a key acts
through it: what is posted is its own closure, on Return, and only the payload changes the text and
only the menu the selected entry. -/
theorem keys_actThroughFocus {controller : CliUiController} {events : List Event}
    (run : (machine glyphs jsoncons truncate).Runs (fun _ _ => True)
      { controller := controller } events ui) :
    ∃ leaf ∈ View.leaves, tree.Focused ui.selectors leaf ∧
      (∀ other ∈ View.leaves, tree.Focused ui.selectors other → other = leaf) ∧
      ∀ key captured height,
        (ui.view.handleEvent glyphs (.key key captured height)).posted =
            View.postedBy leaf key captured ∧
          (leaf ≠ .commandMenu →
            (ui.view.handleEvent glyphs (.key key captured height)).selectedCommand =
              ui.selectedCommand) ∧
          (leaf ≠ .payloadInput →
            (ui.view.handleEvent glyphs (.key key captured height)).payload =
              ui.view.payload) := by
  obtain ⟨leaf, member, focused⟩ := (pointed_run run).exists_leaf
  refine ⟨leaf, member, focused,
    fun other also there => View.eq_of_focused_leaves member also focused there,
    fun key captured height => ?_⟩
  rw [View.handleEvent_key_eq member focused]
  exact ⟨View.posted_handleKey member key captured height,
    fun apart => View.selectedCommand_handleKey apart key captured height,
    fun apart => View.payload_handleKey apart key captured height⟩

theorem keys_actThroughFocus_sample :
    ∃ leaf ∈ View.leaves, tree.Focused typedLetter.selectors leaf ∧
      (typedLetter.view.handleEvent .single (.key .returnKey false fun _ => 0)).posted =
        View.postedBy leaf .returnKey false := by
  have run : (machine .single (.reading []) fun _ => 0).Runs (fun _ _ => True) {} letterAfterTab
      typedLetter := Machine.runs_of_play rfl
  obtain ⟨leaf, member, focused, _, acts⟩ := keys_actThroughFocus run
  exact ⟨leaf, member, focused, (acts .returnKey false fun _ => 0).1⟩

end UserInterface

end MavlinkHub
