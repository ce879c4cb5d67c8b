/-
This file is a library of trees of components of which one has the focus. A component that
contains others has an active child: the one its selector points to, or, if it has no
selector, the first one that can have the focus. A component has the focus if it and all
that contain it are active.

A key is offered from the root down to the active children and comes back up until somebody
takes it. Both ways together are one list, the line of the focused leaf from the leaf to the
root: `offer_eq_firstHandled` is that equation, and what keys do is read off it.
-/

import Mathlib.Data.List.Basic
import Mathlib.Data.List.Nodup
import Mathlib.Logic.Function.Basic

/-- Components that contain each other, below one root. -/
structure FocusTree (Component : Type*) where
  root : Component
  parent : Component → Option Component
  children : Component → List Component
  /-- Its active child is chosen by a selector. -/
  selects : Component → Bool
  focusable : Component → Bool
  depth : Component → Nat
  mem_children : ∀ child component,
    child ∈ children component ↔ parent child = some component
  parent_eq_none : ∀ component, parent component = none ↔ component = root
  depth_child : ∀ child component, parent child = some component →
    depth child = depth component + 1
  nodup : ∀ component, (children component).Nodup
  /-- A component with children can have the focus if one of them can. -/
  focusable_iff : ∀ component, children component ≠ [] →
    (focusable component ↔ ∃ child ∈ children component, focusable child)

/-- What somebody does with something, and whether they take it. -/
abbrev Handler (State : Type*) := State → State × Bool

/-- Offer something to each in turn until one takes it. -/
def firstHandled {State : Type*} : List (Handler State) → Handler State
  | [], state => (state, false)
  | handler :: rest, state =>
    if (handler state).2 then handler state else firstHandled rest (handler state).1

section

variable {State : Type*} {handler : Handler State} {first rest handlers : List (Handler State)}
  {state : State}

theorem firstHandled_cons (handler : Handler State) (rest : List (Handler State)) (state : State) :
    firstHandled (handler :: rest) state =
      if (handler state).2 then handler state else firstHandled rest (handler state).1 := rfl

theorem firstHandled_cons_of_handled (handled : (handler state).2 = true) :
    firstHandled (handler :: rest) state = handler state := by
  rw [firstHandled, if_pos handled]

theorem firstHandled_cons_of_refused (refused : (handler state).2 = false) :
    firstHandled (handler :: rest) state = firstHandled rest (handler state).1 := by
  rw [firstHandled, if_neg (Bool.eq_false_iff.mp refused)]

theorem firstHandled_singleton : firstHandled [handler] = handler := by
  funext state
  cases handled : (handler state).2 with
  | true => exact firstHandled_cons_of_handled handled
  | false =>
    rw [firstHandled_cons_of_refused handled]
    exact Prod.ext rfl handled.symm

/-- Those who come first, taken as one. -/
theorem firstHandled_append :
    firstHandled (first ++ rest) = firstHandled (firstHandled first :: rest) := by
  induction first with
  | nil => rfl
  | cons handler first inductionHypothesis =>
    funext state
    rw [List.cons_append]
    cases handled : (handler state).2 with
    | true =>
      have taken : firstHandled (handler :: first) state = handler state :=
        firstHandled_cons_of_handled handled
      rw [firstHandled_cons_of_handled handled, firstHandled_cons_of_handled (by rwa [taken]),
        taken]
    | false =>
      have refused : firstHandled (handler :: first) state =
          firstHandled first (handler state).1 := firstHandled_cons_of_refused handled
      rw [firstHandled_cons_of_refused handled, inductionHypothesis,
        firstHandled_cons (firstHandled first), firstHandled_cons (firstHandled (handler :: first)),
        refused]

/-- Somebody at the end who never takes anything does not matter. -/
theorem firstHandled_append_passive :
    firstHandled (first ++ [fun state => (state, false)]) = firstHandled first := by
  funext state
  rw [firstHandled_append]
  cases handled : (firstHandled first state).2 with
  | true => exact firstHandled_cons_of_handled handled
  | false =>
    rw [firstHandled_cons_of_refused handled]
    exact Prod.ext rfl handled.symm

/-- What each of them keeps, offering keeps. -/
theorem firstHandled_keeps (holds : State → Prop)
    (kept : ∀ handler ∈ handlers, ∀ state, holds state → holds (handler state).1)
    (held : holds state) : holds (firstHandled handlers state).1 := by
  induction handlers generalizing state with
  | nil => exact held
  | cons handler rest inductionHypothesis =>
    have after := kept handler List.mem_cons_self state held
    rw [firstHandled]
    split_ifs
    · exact after
    · exact inductionHypothesis (fun other member => kept other (List.mem_cons_of_mem _ member))
        after

end

namespace FocusTree

variable {Component : Type*} (tree : FocusTree Component)
  {component child other leaf container : Component}

/-! ### Lines -/

/-- A component and at most so many of those that contain it, innermost first. -/
def climb : Nat → Component → List Component
  | 0, component => [component]
  | steps + 1, component =>
    component :: (tree.parent component).elim [] (climb steps)

/-- A component and all that contain it, innermost first. -/
def line (component : Component) : List Component :=
  tree.climb (tree.depth component) component

variable {tree}

theorem parent_root : tree.parent tree.root = none :=
  (tree.parent_eq_none tree.root).mpr rfl

theorem line_root : tree.line tree.root = [tree.root] := by
  rw [line]
  cases tree.depth tree.root with
  | zero => rfl
  | succ steps =>
    rw [climb, parent_root]
    rfl

theorem line_child (within : tree.parent child = some container) :
    tree.line child = child :: tree.line container := by
  rw [line, tree.depth_child _ _ within, climb, within]
  rfl

/-- What holds of the root and of a child where it holds of its parent holds of every component. -/
theorem induction_down {motive : Component → Prop} (top : motive tree.root)
    (down : ∀ child container, tree.parent child = some container → motive container →
      motive child) (component : Component) : motive component := by
  induction height : tree.depth component generalizing component with
  | zero =>
    cases within : tree.parent component with
    | none =>
      rw [(tree.parent_eq_none component).mp within]
      exact top
    | some container =>
      rw [tree.depth_child _ _ within] at height
      cases height
  | succ steps inductionHypothesis =>
    cases within : tree.parent component with
    | none =>
      rw [(tree.parent_eq_none component).mp within]
      exact top
    | some container =>
      refine down _ _ within (inductionHypothesis container ?_)
      rw [tree.depth_child _ _ within] at height
      exact Nat.succ.inj height

/-- What holds of a component and, going up, of each that contains it holds of its whole line. -/
theorem induction_up (motive : Component → List Component → Prop) (component : Component)
    (start : motive component [component])
    (up : ∀ child container path, tree.parent child = some container → motive child path →
      motive container (path ++ [container])) :
    motive tree.root (tree.line component) := by
  have from_path : ∀ component path, motive component (path ++ [component]) →
      motive tree.root (path ++ tree.line component) := by
    intro component
    induction component using tree.induction_down with
    | top =>
      intro path held
      rw [line_root]
      exact held
    | down child container within inductionHypothesis =>
      intro path held
      have higher := inductionHypothesis (path ++ [child]) (up _ _ _ within held)
      rwa [List.append_assoc, List.singleton_append, ← line_child within] at higher
  exact from_path component [] start

theorem mem_line_self : component ∈ tree.line component := by
  cases within : tree.parent component with
  | none =>
    rw [(tree.parent_eq_none component).mp within, line_root]
    exact List.mem_singleton_self _
  | some container =>
    rw [line_child within]
    exact List.mem_cons_self

theorem root_mem_line : tree.root ∈ tree.line component := by
  induction component using tree.induction_down with
  | top => exact mem_line_self
  | down child container within inductionHypothesis =>
    rw [line_child within]
    exact List.mem_cons_of_mem _ inductionHypothesis

/-- A component on a line that is not the first has a child on it. -/
theorem eq_or_child_mem_line (member : container ∈ tree.line component) :
    container = component ∨
      ∃ child ∈ tree.line component, tree.parent child = some container := by
  induction component using tree.induction_down with
  | top =>
    rw [line_root] at member
    exact .inl (List.mem_singleton.mp member)
  | down child middle within inductionHypothesis =>
    rw [line_child within] at member ⊢
    rcases List.mem_cons.mp member with rfl | above
    · exact .inl rfl
    · right
      rcases inductionHypothesis above with rfl | ⟨below, found, belongs⟩
      · exact ⟨child, List.mem_cons_self, within⟩
      · exact ⟨below, List.mem_cons_of_mem _ found, belongs⟩

theorem depth_le_of_mem_line (member : container ∈ tree.line component) :
    tree.depth container ≤ tree.depth component := by
  induction component using tree.induction_down with
  | top =>
    rw [line_root] at member
    exact Nat.le_of_eq (congrArg tree.depth (List.mem_singleton.mp member))
  | down child middle within inductionHypothesis =>
    rw [line_child within] at member
    rcases List.mem_cons.mp member with rfl | above
    · exact Nat.le_refl _
    · have higher := inductionHypothesis above
      rw [tree.depth_child _ _ within]
      omega

theorem child_notMem_line (within : tree.parent child = some container) :
    child ∉ tree.line container := by
  intro member
  have higher := depth_le_of_mem_line member
  rw [tree.depth_child _ _ within] at higher
  omega

theorem container_mem_line (within : tree.parent child = some container)
    (member : child ∈ tree.line component) : container ∈ tree.line component := by
  induction component using tree.induction_down with
  | top =>
    rw [line_root] at member
    rw [List.mem_singleton.mp member, parent_root] at within
    cases within
  | down other middle belongs inductionHypothesis =>
    rw [line_child belongs] at member ⊢
    right
    rcases List.mem_cons.mp member with rfl | above
    · rw [belongs] at within
      cases within
      exact mem_line_self
    · exact inductionHypothesis above

/-! ### The focus -/

section

variable (tree) (selectors : Component → Nat)

/-- `none` if no child can have the focus and there is no selector. -/
def activeChild (component : Component) : Option Component :=
  if tree.selects component then
    (tree.children component)[selectors component % (tree.children component).length]?
  else (tree.children component).find? tree.focusable

/-- The component is the active child of the one that contains it. -/
def Active (component : Component) : Prop :=
  ∀ container ∈ tree.parent component, tree.activeChild selectors container = some component

/-- The component and all that contain it are active, and it can have the focus. -/
def Focused (component : Component) : Prop :=
  (∀ above ∈ tree.line component, tree.Active selectors above) ∧ tree.focusable component

/-- Every selector of a component that can have the focus points to a child that can have it. -/
def Pointed : Prop :=
  ∀ component, tree.selects component → tree.focusable component →
    ∃ child, (tree.children component)[selectors component]? = some child ∧ tree.focusable child

variable {tree} {selectors}

theorem active_child (within : tree.parent child = some container) :
    tree.Active selectors child ↔ tree.activeChild selectors container = some child := by
  rw [Active, within]
  exact ⟨fun active => active container rfl, fun same _ found => by cases found; exact same⟩

theorem mem_of_activeChild (active : tree.activeChild selectors container = some child) :
    child ∈ tree.children container := by
  rw [activeChild] at active
  split_ifs at active
  · exact List.mem_of_getElem? active
  · exact List.mem_of_find?_eq_some active

theorem focusable_container (within : tree.parent child = some container)
    (focusable : tree.focusable child) : tree.focusable container := by
  have member := (tree.mem_children _ _).mpr within
  exact (tree.focusable_iff container (List.ne_nil_of_mem member)).mpr ⟨child, member, focusable⟩

theorem focused_root : tree.Focused selectors tree.root ↔ tree.focusable tree.root := by
  refine and_iff_right fun above member => ?_
  rw [line_root] at member
  rw [List.mem_singleton.mp member, Active, parent_root]
  exact fun _ found => by cases found

/-- A child has the focus if its container has it and it is the active child. -/
theorem focused_child (within : tree.parent child = some container) :
    tree.Focused selectors child ↔ tree.Focused selectors container ∧
      tree.activeChild selectors container = some child ∧ tree.focusable child := by
  rw [Focused, line_child within, List.forall_mem_cons, active_child within]
  constructor
  · rintro ⟨⟨active, above⟩, focusable⟩
    exact ⟨⟨above, focusable_container within focusable⟩, active, focusable⟩
  · rintro ⟨focused, active, focusable⟩
    exact ⟨⟨active, focused.1⟩, focusable⟩

theorem Focused.of_mem_line (focused : tree.Focused selectors component)
    (member : container ∈ tree.line component) : tree.Focused selectors container := by
  induction component using tree.induction_down with
  | top =>
    rw [line_root] at member
    rwa [List.mem_singleton.mp member]
  | down child middle within inductionHypothesis =>
    rw [line_child within] at member
    rcases List.mem_cons.mp member with rfl | above
    · exact focused
    · exact inductionHypothesis ((focused_child within).mp focused).1 above

/-- The focus goes on to the active child. -/
theorem Focused.activeChild (focused : tree.Focused selectors container)
    (active : tree.activeChild selectors container = some child)
    (focusable : tree.focusable child) : tree.Focused selectors child :=
  (focused_child ((tree.mem_children _ _).mp (mem_of_activeChild active))).mpr
    ⟨focused, active, focusable⟩

/-- A component with a selector passes the focus on to what the selector points to. -/
theorem Focused.selected (focused : tree.Focused selectors container)
    (selects : tree.selects container)
    (found : (tree.children container)[selectors container]? = some child)
    (focusable : tree.focusable child) : tree.Focused selectors child := by
  refine focused.activeChild ?_ focusable
  obtain ⟨inside, _⟩ := List.getElem?_eq_some_iff.mp found
  rw [FocusTree.activeChild, if_pos selects, Nat.mod_eq_of_lt inside, found]

/-- Whether a component has the focus depends on the selectors of what contains it. -/
theorem focused_congr {others : Component → Nat}
    (same : ∀ container, (∃ above ∈ tree.line component, tree.parent above = some container) →
      selectors container = others container) :
    tree.Focused selectors component ↔ tree.Focused others component := by
  have active : ∀ above ∈ tree.line component,
      (tree.Active selectors above ↔ tree.Active others above) := by
    intro above member
    cases within : tree.parent above with
    | none =>
      rw [Active, Active, within]
      exact iff_of_true (fun _ found => by cases found) (fun _ found => by cases found)
    | some container =>
      rw [active_child within, active_child within, FocusTree.activeChild, FocusTree.activeChild,
        same container ⟨above, member, within⟩]
  rw [Focused, Focused, forall₂_congr active]

/-- Of two components with the focus one contains the other. -/
theorem Focused.mem_line_or (focused : tree.Focused selectors component)
    (also : tree.Focused selectors other) :
    component ∈ tree.line other ∨ other ∈ tree.line component := by
  induction component using tree.induction_down with
  | top => exact .inl root_mem_line
  | down child container within inductionHypothesis =>
    obtain ⟨above, active, _⟩ := (focused_child within).mp focused
    rcases inductionHypothesis above with inside | outside
    · rcases eq_or_child_mem_line inside with rfl | ⟨sibling, found, belongs⟩
      · right
        rw [line_child within]
        exact List.mem_cons_of_mem _ mem_line_self
      · left
        have same := ((focused_child belongs).mp (also.of_mem_line found)).2.1
        rw [active] at same
        cases same
        exact found
    · right
      rw [line_child within]
      exact List.mem_cons_of_mem _ outside

end

/-! ### Taking the focus -/

section

variable [DecidableEq Component] (tree) (selectors : Component → Nat)

instance : Decidable (tree.Active selectors component) :=
  inferInstanceAs (Decidable (∀ container ∈ tree.parent component, _))

instance : Decidable (tree.Focused selectors component) :=
  inferInstanceAs (Decidable (_ ∧ _))

/-- The container of a component makes it its active child. -/
def setActiveChild (child : Component) : Component → Nat :=
  match tree.parent child with
  | none => selectors
  | some container =>
    if tree.selects container then
      Function.update selectors container ((tree.children container).idxOf child)
    else selectors

/-- All that contain a component make it, and each other, their active children. -/
def takeFocus (component : Component) : Component → Nat :=
  (tree.line component).foldl tree.setActiveChild selectors

variable {tree} {selectors}

theorem takeFocus_child (within : tree.parent child = some container) :
    tree.takeFocus selectors child =
      tree.takeFocus (tree.setActiveChild selectors child) container := by
  rw [takeFocus, line_child within, List.foldl_cons, takeFocus]

theorem takeFocus_root : tree.takeFocus selectors tree.root = selectors := by
  rw [takeFocus, line_root, List.foldl_cons, List.foldl_nil, setActiveChild, parent_root]

theorem setActiveChild_other (within : tree.parent child = some container)
    (apart : other ≠ container) : tree.setActiveChild selectors child other = selectors other := by
  rw [setActiveChild, within]
  dsimp only
  split_ifs
  · exact Function.update_of_ne apart _ _
  · rfl

/-- Only the selectors of what contains the component are changed. -/
theorem takeFocus_other (apart : ∀ container, tree.parent component = some container →
      other ∉ tree.line container) :
    tree.takeFocus selectors component other = selectors other := by
  induction component using tree.induction_down generalizing selectors with
  | top => rw [takeFocus_root]
  | down child container within inductionHypothesis =>
    have outside := apart container within
    rw [takeFocus_child within, inductionHypothesis, setActiveChild_other within]
    · rintro rfl
      exact outside mem_line_self
    · intro above contained member
      exact outside (by rw [line_child contained]; exact List.mem_cons_of_mem _ member)

/-- A component that takes the focus has it, where those without a selector in which it lies have
no child before it that can have the focus. -/
theorem focused_takeFocus (focusable : tree.focusable component)
    (first : ∀ child ∈ tree.line component, ∀ container, tree.parent child = some container →
      tree.selects container = false →
        (tree.children container).find? tree.focusable = some child) :
    tree.Focused (tree.takeFocus selectors component) component := by
  induction component using tree.induction_down generalizing selectors with
  | top => exact focused_root.mpr focusable
  | down child container within inductionHypothesis =>
    rw [line_child within] at first
    have above : tree.Focused (tree.takeFocus selectors child) container := by
      rw [takeFocus_child within]
      exact inductionHypothesis (focusable_container within focusable)
        (fun between member => first between (List.mem_cons_of_mem _ member))
    refine (focused_child within).mpr ⟨above, ?_, focusable⟩
    rw [FocusTree.activeChild]
    split_ifs with selects
    · have pointed : tree.takeFocus selectors child container =
          (tree.children container).idxOf child := by
        rw [takeFocus_child within, takeFocus_other, setActiveChild, within]
        · dsimp only
          rw [if_pos selects, Function.update_self]
        · exact fun _ contained => child_notMem_line contained
      have member := (tree.mem_children _ _).mpr within
      have inside := List.idxOf_lt_length_of_mem member
      rw [pointed, Nat.mod_eq_of_lt inside, List.getElem?_eq_getElem inside, List.getElem_idxOf]
    · exact first child List.mem_cons_self container within (Bool.eq_false_iff.mpr selects)

/-- A selector that is moved to a child that can have the focus. -/
theorem Pointed.update (pointed : tree.Pointed selectors) {index : Nat}
    (found : (tree.children container)[index]? = some child) (focusable : tree.focusable child) :
    tree.Pointed (Function.update selectors container index) := by
  intro component selects able
  by_cases same : component = container
  · rw [same, Function.update_self]
    exact ⟨child, found, focusable⟩
  · rw [Function.update_of_ne same]
    exact pointed component selects able

theorem Pointed.setActiveChild (pointed : tree.Pointed selectors)
    (focusable : tree.focusable child) :
    tree.Pointed (tree.setActiveChild selectors child) := by
  rw [FocusTree.setActiveChild]
  split
  · exact pointed
  · rename_i container within
    split_ifs
    · have member := (tree.mem_children _ _).mpr within
      have inside := List.idxOf_lt_length_of_mem member
      have found : (tree.children container)[(tree.children container).idxOf child]? =
          some child := by
        rw [List.getElem?_eq_getElem inside, List.getElem_idxOf]
      exact pointed.update found focusable
    · exact pointed

theorem Pointed.takeFocus (pointed : tree.Pointed selectors)
    (focusable : tree.focusable component) :
    tree.Pointed (tree.takeFocus selectors component) := by
  induction component using tree.induction_down generalizing selectors with
  | top => rwa [takeFocus_root]
  | down child container within inductionHypothesis =>
    rw [takeFocus_child within]
    exact inductionHypothesis (pointed.setActiveChild focusable)
      (focusable_container within focusable)

end

/-! ### Offering -/

section

variable [DecidableEq Component] {State : Type*} (tree)
  (selectorsOf : State → Component → Nat) (handle : Component → Handler State)

/-- Offer a key to a component, down to so many levels. One with a selector refuses it if it has
not the focus, and else takes what its active child refuses; one without a selector offers it to
its children in turn. -/
def offer : Nat → Component → Handler State
  | 0, _, state => (state, false)
  | levels + 1, component, state =>
    if tree.children component = [] then handle component state
    else if tree.selects component then
      if tree.Focused (selectorsOf state) component then
        firstHandled ((tree.activeChild (selectorsOf state) component).toList.map
          (offer levels) ++ [handle component]) state
      else (state, false)
    else firstHandled ((tree.children component).map (offer levels)) state

/-- Take what the pointer does to a component, down to so many levels: to its children in turn,
then to itself. -/
def tour : Nat → Component → Handler State
  | 0, _, state => (state, false)
  | levels + 1, component, state =>
    firstHandled ((tree.children component).map (tour levels) ++ [handle component]) state

variable {tree} {selectorsOf} {handle}

theorem offer_keeps (holds : State → Prop) {levels : Nat} {state : State}
    (kept : ∀ component state, holds state → holds (handle component state).1)
    (held : holds state) : holds (tree.offer selectorsOf handle levels component state).1 := by
  induction levels generalizing component state with
  | zero => exact held
  | succ levels inductionHypothesis =>
    rw [offer]
    split_ifs
    · exact kept component state held
    · refine firstHandled_keeps holds (fun handler member state held => ?_) held
      rcases List.mem_append.mp member with below | own
      · obtain ⟨child, _, rfl⟩ := List.mem_map.mp below
        exact inductionHypothesis held
      · rw [List.mem_singleton.mp own]
        exact kept component state held
    · exact held
    · refine firstHandled_keeps holds (fun handler member state held => ?_) held
      obtain ⟨child, _, rfl⟩ := List.mem_map.mp member
      exact inductionHypothesis held

omit [DecidableEq Component] in
theorem tour_keeps (holds : State → Prop) {levels : Nat} {state : State}
    (kept : ∀ component state, holds state → holds (handle component state).1)
    (held : holds state) : holds (tree.tour handle levels component state).1 := by
  induction levels generalizing component state with
  | zero => exact held
  | succ levels inductionHypothesis =>
    refine firstHandled_keeps holds (fun handler member state held => ?_) held
    rcases List.mem_append.mp member with below | own
    · obtain ⟨child, _, rfl⟩ := List.mem_map.mp below
      exact inductionHypothesis held
    · rw [List.mem_singleton.mp own]
      exact kept component state held

/-- Where a leaf has the focus, a key is offered to what contains it, innermost first, after the
leaf itself has refused it, and to nobody else. -/
theorem offer_eq_firstHandled {levels : Nat} {state : State}
    (focused : tree.Focused (selectorsOf state) leaf) (empty : tree.children leaf = [])
    (single : ∀ container, tree.selects container = false → container ≠ leaf →
      container ∈ tree.line leaf → ∃ child, tree.children container = [child])
    (passive : ∀ container, tree.selects container = false → container ≠ leaf →
      container ∈ tree.line leaf → handle container = fun state => (state, false))
    (deep : (tree.line leaf).length ≤ levels) :
    tree.offer selectorsOf handle levels tree.root state =
      firstHandled ((tree.line leaf).map handle) state := by
  refine (tree.induction_up (fun component path =>
    component ∈ tree.line leaf ∧ tree.Focused (selectorsOf state) component ∧
      ∀ levels, path.length ≤ levels → tree.offer selectorsOf handle levels component state =
        firstHandled (path.map handle) state) leaf ?_ ?_).2.2 levels deep
  · refine ⟨mem_line_self, focused, fun levels enough => ?_⟩
    cases levels with
    | zero => cases enough
    | succ levels => rw [offer, if_pos empty, List.map_singleton, firstHandled_singleton]
  · rintro child container path within ⟨member, childFocused, before⟩
    have inside := (tree.mem_children _ _).mpr within
    have containerMember := container_mem_line within member
    have apart : container ≠ leaf := by
      rintro rfl
      rw [empty] at inside
      cases inside
    obtain ⟨containerFocused, active, _⟩ := (focused_child within).mp childFocused
    refine ⟨containerMember, containerFocused, fun levels enough => ?_⟩
    rw [List.length_append, List.length_singleton] at enough
    cases levels with
    | zero => omega
    | succ levels =>
      have offered := before levels (by omega)
      rw [offer, if_neg (List.ne_nil_of_mem inside), List.map_append, List.map_singleton]
      split_ifs with selects
      · rw [active, Option.toList_some, List.map_singleton, List.singleton_append,
          firstHandled_append, firstHandled_cons (tree.offer _ _ _ _),
          firstHandled_cons (firstHandled _), offered]
      · have notSelects := Bool.eq_false_iff.mpr selects
        obtain ⟨sole, same⟩ := single container notSelects apart containerMember
        rw [same, List.mem_singleton] at inside
        rw [passive container notSelects apart containerMember, firstHandled_append_passive, same,
          ← inside, List.map_singleton, firstHandled_singleton, offered]

end

end FocusTree
