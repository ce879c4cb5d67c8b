/-
This file proves what the parser of library lists accepts and what it returns. A list is
accepted if it is an array whose elements have the three members and whose names, taken as
strings, are all different. The loop refuses the second element of a name wherever the
first one stands, because the map it fills holds the names of the elements before.
-/

import MavlinkHub.AppConfig
import MavlinkHub.Library.Assignments

namespace MavlinkHub

namespace JsonUtils

variable (jsoncons : Jsoncons)

/-- The element has the members that an entry of a library list needs. -/
def HasLibMembers (libEntry : Json) : Prop :=
  libEntry.contains "name" = true ∧ libEntry.contains "path" = true ∧
    libEntry.contains "sym" = true

/-- The strings that an element of a library list consists of. -/
def libStrings (libEntry : Json) : LibInfo where
  name := jsoncons.asString (libEntry.get "name")
  path := jsoncons.asString (libEntry.get "path")
  sym := jsoncons.asString (libEntry.get "sym")

/-- The value is an array whose elements have what they need and differ in their names. -/
def IsLibList (libListJson : Json) : Prop :=
  libListJson.isArray = true ∧ (∀ libEntry ∈ libListJson.elements, HasLibMembers libEntry) ∧
    (libListJson.elements.map fun libEntry => (libStrings jsoncons libEntry).name).Nodup

/-- What a list assigns, in the order of its elements. -/
def libAssignments (elements : List Json) : List (String × LibInfo) :=
  (elements.map (libStrings jsoncons)).map fun libInfo => (libInfo.name, libInfo)

variable {jsoncons} {libEntry : Json} {elements : List Json} {libList : LibList}

theorem libInfoOf_of_hasLibMembers (complete : HasLibMembers libEntry) :
    libInfoOf jsoncons libEntry = some (libStrings jsoncons libEntry) := by
  obtain ⟨name, path, sym⟩ := complete
  simp [libInfoOf, libStrings, name, path, sym]

theorem libInfoOf_eq_none (incomplete : ¬HasLibMembers libEntry) :
    libInfoOf jsoncons libEntry = none := by
  rw [libInfoOf, if_pos]
  by_contra complete
  simp only [Bool.or_eq_true, Bool.not_eq_true', not_or, Bool.not_eq_false] at complete
  exact incomplete ⟨complete.1.1, complete.1.2, complete.2⟩

theorem libAssignments_cons : libAssignments jsoncons (libEntry :: elements) =
    ((libStrings jsoncons libEntry).name, libStrings jsoncons libEntry) ::
      libAssignments jsoncons elements := rfl

/-- If nothing is missing, the loop assigns each element under its name and refuses a name that
is there. -/
theorem collectLibs_of_hasLibMembers (complete : ∀ libEntry ∈ elements, HasLibMembers libEntry) :
    collectLibs jsoncons elements libList =
      Assignments.assignNew (libAssignments jsoncons elements) libList := by
  induction elements generalizing libList with
  | nil => rfl
  | cons libEntry rest inductionHypothesis =>
    rw [List.forall_mem_cons] at complete
    simp only [collectLibs, libInfoOf_of_hasLibMembers complete.1, libAssignments_cons,
      Assignments.assignNew, inductionHypothesis complete.2]

/-- One element with something missing is enough for the loop to return nothing. -/
theorem hasLibMembers_of_collectLibs {result : LibList}
    (collected : collectLibs jsoncons elements libList = some result) :
    ∀ libEntry ∈ elements, HasLibMembers libEntry := by
  induction elements generalizing libList with
  | nil => exact fun _ member => absurd member List.not_mem_nil
  | cons libEntry rest inductionHypothesis =>
    by_cases complete : HasLibMembers libEntry
    · simp only [collectLibs, libInfoOf_of_hasLibMembers complete] at collected
      split_ifs at collected
      exact List.forall_mem_cons.mpr ⟨complete, inductionHypothesis collected⟩
    · simp only [collectLibs, libInfoOf_eq_none complete] at collected
      cases collected

theorem libAssignments_names : (libAssignments jsoncons elements).map Prod.fst =
    elements.map fun libEntry => (libStrings jsoncons libEntry).name := by
  rw [libAssignments, List.map_map, List.map_map]
  rfl

theorem mem_libAssignments_iff {name : String} {libInfo : LibInfo} :
    (name, libInfo) ∈ libAssignments jsoncons elements ↔
      ∃ libEntry ∈ elements, libStrings jsoncons libEntry = libInfo ∧ libInfo.name = name := by
  simp only [libAssignments, List.map_map, List.mem_map, Function.comp_apply, Prod.mk.injEq]
  constructor
  · rintro ⟨libEntry, member, rfl, rfl⟩
    exact ⟨libEntry, member, rfl, rfl⟩
  · rintro ⟨libEntry, member, rfl, rfl⟩
    exact ⟨libEntry, member, rfl, rfl⟩

/-- What a list is parsed to: all of its assignments, if it is one. -/
theorem jsonToLibList_eq_some_iff {libListJson : Json} :
    jsonToLibList jsoncons libListJson = some libList ↔
      IsLibList jsoncons libListJson ∧
        libList = Assignments.assign (libAssignments jsoncons libListJson.elements) ∅ := by
  cases libListJson with
  | array elements =>
    constructor
    · intro collected
      have complete := hasLibMembers_of_collectLibs collected
      rw [jsonToLibList, collectLibs_of_hasLibMembers complete,
        Assignments.assignNew_empty_eq_some_iff] at collected
      obtain ⟨distinct, same⟩ := collected
      exact ⟨⟨rfl, complete, libAssignments_names ▸ distinct⟩, same⟩
    · rintro ⟨⟨_, complete, distinct⟩, rfl⟩
      have complete : ∀ libEntry ∈ elements, HasLibMembers libEntry := complete
      rw [jsonToLibList, collectLibs_of_hasLibMembers complete,
        Assignments.assignNew_empty_eq_some_iff]
      exact ⟨libAssignments_names ▸ distinct, rfl⟩
  | _ => exact iff_of_false nofun fun accepted => Bool.false_ne_true accepted.1.1

theorem lookup_of_jsonToLibList {libListJson : Json} {name : String} {libInfo : LibInfo}
    (parsed : jsonToLibList jsoncons libListJson = some libList) :
    libList.lookup name = some libInfo ↔
      ∃ libEntry ∈ libListJson.elements,
        libStrings jsoncons libEntry = libInfo ∧ libInfo.name = name := by
  obtain ⟨⟨_, _, distinct⟩, rfl⟩ := jsonToLibList_eq_some_iff.mp parsed
  rw [← libAssignments_names] at distinct
  rw [Assignments.lookup_assign_eq_some_iff distinct, mem_libAssignments_iff]

theorem card_keys_of_jsonToLibList {libListJson : Json}
    (parsed : jsonToLibList jsoncons libListJson = some libList) :
    libList.keys.card = libListJson.elements.length := by
  obtain ⟨⟨_, _, distinct⟩, rfl⟩ := jsonToLibList_eq_some_iff.mp parsed
  rw [← libAssignments_names] at distinct
  rw [Assignments.card_keys_assign_eq_length_iff.mpr distinct, libAssignments, List.length_map,
    List.length_map]

end JsonUtils

open JsonUtils

/-- `jsonToLibList` returns a list exactly for an array whose elements have the three members and
differ in their names, and then the list has one entry for each element, under its name and
with its strings. -/
theorem libList_lossless (jsoncons : Jsoncons) (libListJson : Json) :
    ((jsonToLibList jsoncons libListJson).isSome = true ↔ IsLibList jsoncons libListJson) ∧
      ∀ libList, jsonToLibList jsoncons libListJson = some libList →
        libList.keys.card = libListJson.elements.length ∧
          ∀ name libInfo, libList.lookup name = some libInfo ↔
            ∃ libEntry ∈ libListJson.elements,
              libStrings jsoncons libEntry = libInfo ∧ libInfo.name = name := by
  constructor
  · rw [Option.isSome_iff_exists]
    constructor
    · rintro ⟨libList, parsed⟩
      exact (jsonToLibList_eq_some_iff.mp parsed).1
    · intro accepted
      exact ⟨_, jsonToLibList_eq_some_iff.mpr ⟨accepted, rfl⟩⟩
  · intro libList parsed
    exact ⟨card_keys_of_jsonToLibList parsed, fun name libInfo => lookup_of_jsonToLibList parsed⟩

/-- The number and the text are one name. -/
example :
    let libEntry (name : Json) : Json :=
      .object [("name", name), ("path", .string ""), ("sym", .string "")]
    jsonToLibList (.reading []) (.array [libEntry (.integer 1), libEntry (.string "1")]) = none :=
  rfl

end MavlinkHub
