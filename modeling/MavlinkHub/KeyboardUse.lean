/-
This file proves that everything the menu offers can be used from the keyboard: from every
state that the user interface can get to, some keys commit the command one wants, type the
payload one wants and start it, if no command is being executed.

Each key comes in a batch of its own, so that what it posts has run before the next one; the
way goes from box to box with Tab and within the boxes with the arrows. Which keys these are
depends on nothing that the screen shows: they do the same however high the boxes are when
they come.
-/

import MavlinkHub.BoxKeys
import MavlinkHub.PostedClosures

namespace MavlinkHub

open Component Ftxui Transition

namespace UserInterface

/-- What one does at the keyboard. -/
inductive Stroke
  | tab
  | tabReverse
  | key (key : Key)

/-- The terminal can send it. -/
def Stroke.sent : Stroke → Prop
  | .key typed => typed.sent
  | _ => True

/-- The event that reports it while nobody has captured the mouse and the boxes are so high. -/
def Stroke.event (height : Component → Int) : Stroke → UiEvent
  | .tab => .tab
  | .tabReverse => .tabReverse
  | .key typed => .key typed false height

/-- The stroke that an event reports. -/
def strokeOf : UiEvent → Option Stroke
  | .tab => some .tab
  | .tabReverse => some .tabReverse
  | .key key false _ => some (.key key)
  | _ => none

theorem exists_event_of_strokeOf {event : UiEvent} {stroke : Stroke}
    (reported : strokeOf event = some stroke) : ∃ height, event = stroke.event height := by
  match event, reported with
  | .tab, rfl => exact ⟨fun _ => 0, rfl⟩
  | .tabReverse, rfl => exact ⟨fun _ => 0, rfl⟩
  | .key key false height, rfl => exact ⟨height, rfl⟩

/-- One stroke, or the loop. -/
def Event.Keyboard : Event → Prop
  | .arrive [event] => ∃ stroke : Stroke, strokeOf event = some stroke ∧ stroke.sent
  | .runTask => True
  | _ => False

/-- What arrives alone. -/
def Event.pressed : Event → Option UiEvent
  | .arrive [event] => some event
  | _ => none

variable {glyphs : Glyphs} {jsoncons : Jsoncons} {truncate : String → Int}
  {base : CliUiController} {ui : UserInterface}

/-- Some strokes lead from one state to another, whatever the screen looks like when they come. -/
def Types (glyphs : Glyphs) (jsoncons : Jsoncons) (truncate : String → Int)
    (before after : UserInterface) : Prop :=
  ∃ strokes : List Stroke, ∀ presses : List UiEvent, presses.map strokeOf = strokes.map some →
    ∃ events, (machine glyphs jsoncons truncate).Runs (fun _ event => event.Keyboard) before events
        after ∧
      events.filterMap Event.pressed = presses

theorem Types.refl (ui : UserInterface) : Types glyphs jsoncons truncate ui ui :=
  ⟨[], fun _ none => ⟨[], .done _, (List.map_eq_nil_iff.mp none).symm⟩⟩

theorem Types.trans {before middle after : UserInterface}
    (first : Types glyphs jsoncons truncate before middle)
    (second : Types glyphs jsoncons truncate middle after) :
    Types glyphs jsoncons truncate before after := by
  obtain ⟨strokes, way⟩ := first
  obtain ⟨others, rest⟩ := second
  refine ⟨strokes ++ others, fun presses reported => ?_⟩
  rw [List.map_append] at reported
  obtain ⟨front, back, rfl, ahead, behind⟩ := List.map_eq_append_iff.mp reported
  obtain ⟨events, run, pressed⟩ := way front ahead
  obtain ⟨further, continued, added⟩ := rest back behind
  exact ⟨events ++ further, run.append continued, by rw [List.filterMap_append, pressed, added]⟩

/-- A stroke that leads there however high the boxes are. -/
theorem types_stroke {before after : UserInterface} (stroke : Stroke)
    (way : ∀ height, ∃ events, (machine glyphs jsoncons truncate).Runs
        (fun _ event => event.Keyboard) before events after ∧
      events.filterMap Event.pressed = [stroke.event height]) :
    Types glyphs jsoncons truncate before after := by
  refine ⟨[stroke], fun presses reported => ?_⟩
  obtain ⟨event, rfl, same⟩ := List.map_eq_singleton_iff.mp reported
  obtain ⟨height, rfl⟩ := exists_event_of_strokeOf same
  exact way height

theorem keyboard_event {stroke : Stroke} (sent : stroke.sent) (height : Component → Int) :
    Event.Keyboard (.arrive [stroke.event height]) :=
  ⟨stroke, by cases stroke <;> rfl, sent⟩

/-- The state with nothing to do, with this view and this committed index. -/
def ready (base : CliUiController) (committed : Int) (view : View) : UserInterface where
  selectors := view.selectors
  selectedCommand := view.selectedCommand
  cursorPosition := view.payload.cursorPosition
  insert := view.payload.insert
  controller := { base with
    payload := String.ofList view.payload.content
    committedCommand := committed }

theorem ready_self {ui : UserInterface} (settled : ui.tasks = []) :
    ready ui.controller ui.controller.committedCommand ui.view = ui := by
  obtain ⟨selectors, selected, cursor, insert, controller, tasks⟩ := ui
  cases settled
  rw [ready, view]
  dsimp only
  rw [String.ofList_toList]

theorem view_ready (committed : Int) {view : View} (quiet : view.posted = []) :
    (ready base committed view).view = view := by
  obtain ⟨selectors, selected, payload, posted⟩ := view
  cases quiet
  rw [ready, UserInterface.view]
  dsimp only
  rw [String.toList_ofList]

section

variable {stroke : Stroke} {committed : Int} {view after : View}

/-- A stroke that posts nothing. -/
theorem types_silent (sent : stroke.sent) (idle : base.uiCall = .idle) (quiet : view.posted = [])
    (handled : ∀ height, view.handleEvent glyphs (stroke.event height) = after)
    (silent : after.posted = []) :
    Types glyphs jsoncons truncate (ready base committed view) (ready base committed after) := by
  refine types_stroke stroke fun height => ?_
  have updated : ({ ready base committed view with tasks := [] } : UserInterface).update
      ((ready base committed view).view.handleEvent glyphs (stroke.event height)) =
        ready base committed after := by
    rw [view_ready committed quiet, handled, update, silent]
    rfl
  exact ⟨[.arrive [stroke.event height], .runTask],
    .next ⟨⟨rfl, idle⟩, keyboard_event sent height, rfl⟩
      (.next ⟨⟨List.cons_ne_nil _ _, idle⟩, trivial, updated.symm⟩ (.done _)), rfl⟩

/-- A stroke that posts a closure, which then runs. -/
theorem types_posting {closure : Closure} (sent : stroke.sent) (idle : base.uiCall = .idle)
    (quiet : view.posted = [])
    (handled : ∀ height, view.handleEvent glyphs (stroke.event height) = after)
    (posted : after.posted = [closure]) :
    Types glyphs jsoncons truncate (ready base committed view)
      ((ready base committed after).runTask glyphs jsoncons truncate (.closure closure)) := by
  refine types_stroke stroke fun height => ?_
  have updated : ({ ready base committed view with tasks := [] } : UserInterface).update
      ((ready base committed view).view.handleEvent glyphs (stroke.event height)) =
        { ready base committed after with tasks := [.closure closure] } := by
    rw [view_ready committed quiet, handled, update, posted]
    rfl
  exact ⟨[.arrive [stroke.event height], .runTask, .runTask],
    .next ⟨⟨rfl, idle⟩, keyboard_event sent height, rfl⟩
      (.next ⟨⟨List.cons_ne_nil _ _, idle⟩, trivial, updated.symm⟩
        (.next ⟨⟨List.cons_ne_nil _ _, idle⟩, trivial, rfl⟩ (.done _))), rfl⟩

end

theorem ready_post (committed : Int) (view : View) (closure : Closure) :
    ready base committed (view.post closure) = ready base committed view := rfl

/-! ### Ways -/

section

variable (glyphs : Glyphs) (jsoncons : Jsoncons) (truncate : String → Int)
  {base : CliUiController} {view : View} (committed : Int)

/-- The keyboard moves the focus, and changes nothing else, to a state where this holds. -/
def MovesTo (base : CliUiController) (view : View) (holds : View → Prop) : Prop :=
  ∃ selectors : Component → Nat,
    Types glyphs jsoncons truncate (ready base committed view)
        (ready base committed { view with selectors := selectors }) ∧
      ({ view with selectors := selectors } : View).Sound ∧
      holds { view with selectors := selectors }

variable {glyphs} {jsoncons} {truncate} {committed} {first second : View → Prop}

theorem MovesTo.refl (sound : view.Sound) (held : first view) :
    MovesTo glyphs jsoncons truncate committed base view first :=
  ⟨view.selectors, .refl _, sound, held⟩

/-- One way goes on from another. -/
theorem MovesTo.trans (way : MovesTo glyphs jsoncons truncate committed base view first)
    (further : ∀ selectors : Component → Nat, ({ view with selectors := selectors } : View).Sound →
      first { view with selectors := selectors } →
        MovesTo glyphs jsoncons truncate committed base { view with selectors := selectors }
          second) :
    MovesTo glyphs jsoncons truncate committed base view second := by
  obtain ⟨selectors, types, sound, held⟩ := way
  obtain ⟨others, more, last, there⟩ := further selectors sound held
  exact ⟨others, types.trans more, last, there⟩

/-- A stroke that only moves selectors. -/
theorem MovesTo.press {stroke : Stroke} (sent : stroke.sent) (idle : base.uiCall = .idle)
    (sound : view.Sound) {selectors : Component → Nat}
    (moved : ∀ height,
      view.handleEvent glyphs (stroke.event height) = { view with selectors := selectors })
    (held : first { view with selectors := selectors }) :
    MovesTo glyphs jsoncons truncate committed base view first := by
  have pointed : (view.handleEvent glyphs (stroke.event fun _ => 0)).Pointed :=
    sound.pointed.handleEvent _
  rw [moved] at pointed
  exact ⟨selectors, types_silent sent idle sound.quiet moved sound.quiet,
    sound.withSelectors pointed, held⟩

/-- Tab, so many times. -/
theorem movesTo_tabs (idle : base.uiCall = .idle) (sound : view.Sound) {index : Nat}
    (inside : index < View.tabBoxes.length) (focusedOn : view.FocusedOn index) (count : Nat) :
    MovesTo glyphs jsoncons truncate committed base view
      (View.FocusedOn · ((index + count) % View.tabBoxes.length)) := by
  induction count with
  | zero =>
    refine .refl sound ?_
    rwa [Nat.add_zero, Nat.mod_eq_of_lt inside]
  | succ count inductionHypothesis =>
    refine inductionHypothesis.trans fun selectors soundThere there => ?_
    have next := there.tab (Nat.mod_lt _ (by decide))
    rw [Nat.mod_add_mod, Nat.add_assoc] at next
    have sent : Stroke.tab.sent := trivial
    exact .press sent idle soundThere (fun _ => View.focusNextBox_frame 1) next

/-- The keyboard gets from everywhere to every box. -/
theorem movesTo_box (idle : base.uiCall = .idle) (sound : view.Sound) {target : Nat}
    (inside : target < View.tabBoxes.length) :
    MovesTo glyphs jsoncons truncate committed base view (View.FocusedOn · target) := by
  obtain ⟨index, bound, focusedOn⟩ := sound.pointed.exists_focusedOn
  have arrives : (index + (target + View.tabBoxes.length - index)) % View.tabBoxes.length =
      target := by
    rw [Nat.add_sub_cancel' (by omega), Nat.add_mod_right, Nat.mod_eq_of_lt inside]
  rw [← arrives]
  exact movesTo_tabs idle sound bound focusedOn (target + View.tabBoxes.length - index)

/-- The keyboard gets from everywhere to a button, if from each other button one key leads to it. -/
theorem movesTo_button (idle : base.uiCall = .idle) (sound : view.Sound) {target : Nat}
    (key : Nat → Key) (leads : ∀ index < (children .actionMenu).length,
      index = target ∨ View.ArrowMoves (key index) index target) :
    MovesTo glyphs jsoncons truncate committed base view (View.OnButton · target) := by
  refine (movesTo_box idle sound (by decide : 2 < View.tabBoxes.length)).trans
    fun selectors sound there => ?_
  obtain ⟨child, found, _⟩ := sound.pointed.points (rfl : Component.actionMenu.selects = true)
  obtain ⟨inside, _⟩ := List.getElem?_eq_some_iff.mp found
  rcases leads _ inside with arrived | moves
  · exact .refl sound ⟨there, arrived⟩
  · have onButton : ({ view with selectors := selectors } : View).OnButton
        (selectors .actionMenu) := ⟨there, rfl⟩
    have sent : (Stroke.key (key (selectors .actionMenu))).sent := moves.1
    exact .press sent idle sound (fun _ => View.handleEvent_arrow onButton moves)
      (onButton.update target)

end

/-! ### What one wants -/

section

variable {view : View} {committed : Int}

/-- A key that posts nothing. -/
theorem types_press {key : Key} (sent : key.sent) (idle : base.uiCall = .idle) (sound : view.Sound)
    {after : View} (handled : ∀ height, view.handleEvent glyphs (.key key false height) = after)
    (silent : after.posted = []) :
    Types glyphs jsoncons truncate (ready base committed view) (ready base committed after) := by
  have pressed : (Stroke.key key).sent := sent
  exact types_silent pressed idle sound.quiet handled silent

/-- Return, where it activates something. -/
theorem types_returnKey (idle : base.uiCall = .idle) (sound : view.Sound) {closure : Closure}
    (handled : ∀ height,
      view.handleEvent glyphs (.key .returnKey false height) = view.post closure) :
    Types glyphs jsoncons truncate (ready base committed view)
      ((ready base committed view).runTask glyphs jsoncons truncate (.closure closure)) := by
  have pressed : (Stroke.key .returnKey).sent := rfl
  have posted : (view.post closure).posted = [closure] := by
    rw [View.post, sound.quiet, List.nil_append]
  have way : Types glyphs jsoncons truncate (ready base committed view) _ :=
    types_posting pressed idle sound.quiet handled posted
  rwa [ready_post] at way

/-- Return on Clear Payload. -/
theorem types_clearPayload (idle : base.uiCall = .idle) (sound : view.Sound)
    (onButton : view.OnButton 1) :
    Types glyphs jsoncons truncate (ready base committed view)
      (ready base committed { view with payload := { view.payload with content := [] } }) :=
  types_returnKey idle sound fun _ => View.handleEvent_button onButton rfl rfl

/-- The keys that type a text, where the cursor is at the end. -/
theorem types_text (idle : base.uiCall = .idle) (sound : view.Sound) (focusedOn : view.FocusedOn 1)
    (atEnd : view.payload.content.length ≤ view.payload.cursorPosition) {text : List Char}
    (sent : ∀ character ∈ text, (View.keyOf character).sent) :
    ∃ cursorPosition, Types glyphs jsoncons truncate (ready base committed view)
      (ready base committed { view with
        payload := ⟨view.payload.content ++ text, cursorPosition, view.payload.insert⟩ }) := by
  induction text generalizing view with
  | nil =>
    refine ⟨view.payload.cursorPosition, ?_⟩
    rw [List.append_nil]
    exact .refl _
  | cons character text inductionHypothesis =>
    have typed := View.handleKey_keyOf glyphs view.payload character atEnd
    have handled (height : Component → Int) : view.handleEvent glyphs
        (.key (View.keyOf character) false height) = { view with
          payload := ⟨view.payload.content ++ [character], view.payload.content.length + 1,
            view.payload.insert⟩ } := by
      rw [View.handleEvent_payload focusedOn (congrArg Prod.snd typed), typed]
    have way : Types glyphs jsoncons truncate (ready base committed view) _ :=
      types_press (sent character List.mem_cons_self) idle sound handled sound.quiet
    have longer : (view.payload.content ++ [character]).length ≤
        view.payload.content.length + 1 := by rw [List.length_append, List.length_singleton]
    obtain ⟨cursorPosition, rest⟩ := inductionHypothesis (sound.withPayload
      ⟨view.payload.content ++ [character], view.payload.content.length + 1, view.payload.insert⟩)
      focusedOn longer fun other member => sent other (List.mem_cons_of_mem _ member)
    refine ⟨cursorPosition, way.trans ?_⟩
    rwa [List.append_assoc, List.singleton_append] at rest

/-- The arrows that select an entry. -/
theorem types_entry (idle : base.uiCall = .idle) (sound : view.Sound) (focusedOn : view.FocusedOn 0)
    {target : Int} (inside : 0 ≤ target ∧ target < View.entryCount) :
    Types glyphs jsoncons truncate (ready base committed view)
      (ready base committed { view with selectedCommand := target }) := by
  induction far : (target - view.selectedCommand).natAbs generalizing view with
  | zero =>
    have arrived : target = view.selectedCommand := by omega
    rw [arrived]
    exact .refl _
  | succ distance inductionHypothesis =>
    obtain ⟨lower, upper⟩ := sound.inMenu
    -- One arrow towards the target.
    obtain ⟨key, next, sent, short, moves, apart, bound, nearer⟩ : ∃ key next, key.sent ∧
        key.pages = false ∧ menuSelected View.entryCount 0 key view.selectedCommand = next ∧
          next ≠ view.selectedCommand ∧ (0 ≤ next ∧ next < View.entryCount) ∧
          (target - next).natAbs = distance := by
      by_cases below : view.selectedCommand < target
      · refine ⟨.arrowDown, view.selectedCommand + 1, rfl, rfl, ?_, by omega, by omega, by omega⟩
        show clampSelected _ (view.selectedCommand + 1) = _
        unfold clampSelected
        omega
      · refine ⟨.arrowUp, view.selectedCommand - 1, rfl, rfl, ?_, by omega, by omega, by omega⟩
        show clampSelected _ (view.selectedCommand - 1) = _
        unfold clampSelected
        omega
    have way : Types glyphs jsoncons truncate (ready base committed view) _ :=
      types_press sent idle sound
        (fun _ => View.handleEvent_menu_arrow sound focusedOn short moves apart) sound.quiet
    exact way.trans (inductionHypothesis (sound.withSelected bound) focusedOn nearer)

/-- Return in the menu. -/
theorem types_commitCommand (idle : base.uiCall = .idle) (sound : view.Sound)
    (focusedOn : view.FocusedOn 0) :
    Types glyphs jsoncons truncate (ready base committed view)
      (ready base view.selectedCommand view) :=
  types_returnKey idle sound fun _ => View.handleEvent_menu_returnKey sound focusedOn

/-- Return on Execute Command. -/
theorem types_executeCurrentCommand (idle : base.uiCall = .idle) (sound : view.Sound)
    (onButton : view.OnButton 0) :
    Types glyphs jsoncons truncate (ready base committed view)
      { ready base committed view with
        controller := (ready base committed view).controller.executeCurrentCommand } :=
  types_returnKey idle sound fun _ => View.handleEvent_button onButton rfl rfl

/-- The keys that make the payload this text. -/
theorem types_payload (idle : base.uiCall = .idle) (sound : view.Sound) {text : List Char}
    (sent : ∀ character ∈ text, (View.keyOf character).sent) :
    ∃ after : View, after.Sound ∧ after.payload.content = text ∧
      Types glyphs jsoncons truncate (ready base committed view) (ready base committed after) := by
  obtain ⟨selectors, toButton, sound, onButton⟩ : MovesTo glyphs jsoncons truncate committed base
      view (View.OnButton · 1) :=
    movesTo_button idle sound (fun index => if index = 0 then .arrowDown else .arrowUp) (by decide)
  have cleared := toButton.trans (types_clearPayload idle sound onButton)
  have empty := sound.withPayload { view.payload with content := [] }
  obtain ⟨others, toInput, soundThere, focusedOn⟩ : MovesTo glyphs jsoncons truncate committed base
      _ (View.FocusedOn · 1) := movesTo_box idle empty (by decide)
  obtain ⟨cursorPosition, typed⟩ := types_text idle soundThere focusedOn (Nat.zero_le _) sent
  exact ⟨_, soundThere.withPayload _, List.nil_append text, (cleared.trans toInput).trans typed⟩

/-- The keys that commit an entry. -/
theorem types_committed (idle : base.uiCall = .idle) (sound : view.Sound) {target : Int}
    (inside : 0 ≤ target ∧ target < View.entryCount) :
    ∃ after : View, after.Sound ∧ after.payload = view.payload ∧
      Types glyphs jsoncons truncate (ready base committed view) (ready base target after) := by
  obtain ⟨selectors, toMenu, sound, focusedOn⟩ : MovesTo glyphs jsoncons truncate committed base
      view (View.FocusedOn · 0) := movesTo_box idle sound (by decide)
  have selected := toMenu.trans (types_entry idle sound focusedOn inside)
  have there := sound.withSelected inside
  exact ⟨_, there, rfl, selected.trans (types_commitCommand idle there focusedOn)⟩

theorem committedDescriptor_of_found (controller : CliUiController) {index : Nat}
    {descriptor : AppServiceCommandDescriptor}
    (found : CliUiController.commandDescriptors[index]? = some descriptor)
    (committed : controller.committedCommand = index) :
    controller.committedDescriptor = some descriptor := by
  obtain ⟨inside, _⟩ := List.getElem?_eq_some_iff.mp found
  have valid : controller.validCommittedCommand := by
    rw [CliUiController.validCommittedCommand, committed, Bool.and_eq_true, decide_eq_true_iff,
      decide_eq_true_iff]
    exact ⟨Int.natCast_nonneg index, Int.ofNat_lt.mpr inside⟩
  rw [CliUiController.committedDescriptor, if_pos valid, committed, Int.toNat_natCast, found]

/-- The keys that start the committed command with the payload there is. -/
theorem types_started (idle : base.uiCall = .idle) (sound : view.Sound)
    (free : base.executing = false) {index : Nat} {descriptor : AppServiceCommandDescriptor}
    (found : CliUiController.commandDescriptors[index]? = some descriptor) :
    ∃ after : UserInterface, after.controller.uiCall =
        .joining (some ⟨descriptor.type, String.ofList view.payload.content⟩) ∧
      Types glyphs jsoncons truncate (ready base index view) after := by
  obtain ⟨selectors, toButton, sound, onButton⟩ : MovesTo glyphs jsoncons truncate index base
      view (View.OnButton · 0) := movesTo_button idle sound (fun _ => .home) (by decide)
  refine ⟨_, ?_, toButton.trans (types_executeCurrentCommand idle sound onButton)⟩
  have committed := committedDescriptor_of_found
    (ready base index { view with selectors := selectors }).controller found rfl
  show CliUiController.uiCall (CliUiController.executeCurrentCommand _) = _
  rw [CliUiController.executeCurrentCommand_of_accepted committed free]
  rfl

end

/-! ### Runs -/

theorem inMenu_next (inMenu : ui.view.InMenu) (event : Event) :
    (ui.next glyphs jsoncons truncate event).view.InMenu := by
  cases event with
  | arrive events => exact inMenu
  | controller event => exact inMenu
  | runTask =>
    rw [UserInterface.next]
    split
    · exact inMenu
    · rename_i task rest _
      cases task with
      | closure closure => exact inMenu
      | event event => exact inMenu.handleEvent event

theorem sound_run {controller : CliUiController} {events : List Event}
    (run : (machine glyphs jsoncons truncate).Runs (fun _ _ => True)
      { controller := controller } events ui) : ui.view.Sound := by
  have first : (0 : Int) < View.entryCount := by decide
  exact ⟨pointed_run run, rfl, run.invariant (fun ui => ui.view.InMenu)
    (fun _ event held _ _ => inMenu_next held event) ⟨Int.le_refl 0, first⟩⟩

/-- From every state that a run gets to, some keys commit any entry of the menu, make the payload
any text that a terminal can send, and start that command with that payload, unless a command is
being executed. They do so whatever the screen looks like when they come. -/
theorem everyCommand_fromKeyboard {controller : CliUiController} {events : List Event}
    (run : (machine glyphs jsoncons truncate).Runs (fun _ _ => True)
      { controller := controller } events ui)
    (settled : ui.tasks = []) (idle : ui.controller.uiCall = .idle)
    (free : ui.controller.executing = false) {index : Nat}
    {descriptor : AppServiceCommandDescriptor}
    (found : CliUiController.commandDescriptors[index]? = some descriptor) {text : List Char}
    (sent : ∀ character ∈ text, (View.keyOf character).sent) :
    ∃ (strokes : List Stroke) (after : UserInterface),
      after.controller.uiCall = .joining (some ⟨descriptor.type, String.ofList text⟩) ∧
      ∀ presses : List UiEvent, presses.map strokeOf = strokes.map some →
        ∃ keys, (machine glyphs jsoncons truncate).Runs (fun _ event => event.Keyboard) ui keys
            after ∧
          keys.filterMap Event.pressed = presses := by
  obtain ⟨bound, _⟩ := List.getElem?_eq_some_iff.mp found
  have inside : 0 ≤ (index : Int) ∧ (index : Int) < View.entryCount :=
    ⟨Int.natCast_nonneg index, Int.ofNat_lt.mpr bound⟩
  obtain ⟨written, sound, content, typed⟩ := types_payload idle (sound_run run) sent
  obtain ⟨chosen, sound, same, committed⟩ := types_committed idle sound inside
  obtain ⟨after, joining, started⟩ := types_started idle sound free found
  rw [same, content] at joining
  obtain ⟨strokes, way⟩ := (typed.trans committed).trans started
  rw [ready_self settled] at way
  exact ⟨strokes, after, joining, way⟩

theorem everyCommand_fromKeyboard_sample :
    ∃ (strokes : List Stroke) (after : UserInterface),
      after.controller.uiCall = .joining (some ⟨.getAgentReport, String.ofList ['7', '\n']⟩) ∧
      ∀ presses : List UiEvent, presses.map strokeOf = strokes.map some →
        ∃ keys, (machine .single (.reading []) fun _ => 0).Runs (fun _ event => event.Keyboard)
            typedLetter keys after ∧
          keys.filterMap Event.pressed = presses := by
  have run : (machine .single (.reading []) fun _ => 0).Runs (fun _ _ => True) {} letterAfterTab
      typedLetter := Machine.runs_of_play rfl
  have settled : typedLetter.tasks = [] := rfl
  have found : CliUiController.commandDescriptors[6]? =
      some AppServiceCommandType.getAgentReport.descriptor := rfl
  have sent : ∀ character ∈ ['7', '\n'], (View.keyOf character).sent := by
    rintro character member
    rcases List.mem_pair.mp member with rfl | rfl <;> rfl
  exact everyCommand_fromKeyboard run settled rfl rfl found sent

end UserInterface

end MavlinkHub
