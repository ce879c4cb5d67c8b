/-
This file compares the decoders of status lists with the strict reading of a payload: an
object with an array of objects, each with a string as name and an integer that fits an
`int` as status. The decoders test whether a status is a number and whether a name is a
string, which jsoncons also says of other values. What they let through is truncated or
wrapped around, or throws. Numbers past the range of 64 bits or of `double` are kept as
their texts: they count as numbers and as strings, and cannot be converted.
-/

import MavlinkHub.JsonUtils
import MavlinkHub.Library.Fallible

namespace MavlinkHub

open JsonUtils

/-! ### The strict reading -/

/-- The value of an integer fits an `int`. -/
def FitsInt (value : Int) : Prop :=
  -2 ^ 31 ≤ value ∧ value < 2 ^ 31

/-- An element of a status list describes a row: its name is a string, and its status an integer
that fits an `int` and has the string of the row. -/
structure DescribesStatus (nameOfValue : Int → String) (entry : Json) (row : String × String) :
    Prop where
  isObject : entry.isObject = true
  containsName : entry.contains "name" = true
  name : entry.get "name" = .string row.1
  containsStatus : entry.contains "status" = true
  status : ∃ value, entry.get "status" = .integer value ∧ FitsInt value ∧
    row.2 = nameOfValue value

/-- A text is a status list: an object whose list is an array with one element for each row. -/
def DescribesStatusList (jsoncons : Jsoncons) (key : String) (nameOfValue : Int → String)
    (text : String) (rows : List (String × String)) : Prop :=
  ∃ json elements, jsoncons.parse text = some json ∧ json.isObject = true ∧
    json.contains key = true ∧ json.get key = .array elements ∧
      List.Forall₂ (DescribesStatus nameOfValue) elements rows

/-- A decoder returns the rows of status lists, and `nullopt` for all other texts. -/
def DecodesStrictly (jsoncons : Jsoncons) (key : String) (nameOfValue : Int → String)
    (text : String) (decoded : Except ConversionFailure (List (String × String))) : Prop :=
  (∀ rows, decoded = .ok rows ↔ DescribesStatusList jsoncons key nameOfValue text rows) ∧
    decoded ≠ .error .thrown

/-! ### What the decoders test -/

/-- The tests of the decoders on an element. -/
def checkedStatus (entry : Json) : Bool :=
  entry.isObject && entry.contains "name" && (entry.get "name").isString &&
    entry.contains "status" && (entry.get "status").isNumber

/-- The status of an element is a number that jsoncons keeps as its text. -/
def OversizedStatus (entry : Json) : Prop :=
  (∃ value, entry.get "status" = .integer value ∧ Json.isStoredInteger value = false) ∨
    ∃ text, entry.get "status" = .bigdec text

/-- The name of an element is a string, and its status an integer that fits an `int`. -/
def ExactStatus (entry : Json) : Prop :=
  (∃ name, entry.get "name" = .string name) ∧
    ∃ value, entry.get "status" = .integer value ∧ FitsInt value

/-- The tests decide rightly on the elements of a list: if all elements pass them, all are exact,
and no element that is reached has a status that cannot be converted. -/
structure StatusesDecodable (elements : List Json) : Prop where
  exact : (∀ entry ∈ elements, checkedStatus entry = true) → ∀ entry ∈ elements, ExactStatus entry
  reached : ∀ front entry back, elements = front ++ entry :: back →
    (∀ earlier ∈ front, checkedStatus earlier = true ∧ ¬OversizedStatus earlier) →
      checkedStatus entry = true → ¬OversizedStatus entry

/-- The list of a text, if it has one, is one on which the tests decide rightly. -/
def StatusListDecodable (jsoncons : Jsoncons) (key : String) (text : String) : Prop :=
  ∀ json elements, jsoncons.parse text = some json → json.isObject = true →
    json.contains key = true → json.get key = .array elements → StatusesDecodable elements

section Elements

variable {jsoncons : Jsoncons} {truncate : String → Int} {nameOfValue : Int → String}
  {entry : Json} {row : String × String} {elements : List Json}

/-- An integer that fits an `int` is stored, and keeps its value. -/
theorem toInt_of_fitsInt {value : Int} (fits : FitsInt value) :
    (Json.integer value).toInt truncate = some value := by
  obtain ⟨least, most⟩ := fits
  have stored : Json.isStoredInteger value = true := by
    rw [Json.isStoredInteger, Bool.and_eq_true, decide_eq_true_iff, decide_eq_true_iff]
    omega
  rw [Json.toInt, if_pos stored, Int.bmod_eq_of_le (by omega) (by omega)]

/-- An element that passes the tests is converted, and refused otherwise. -/
theorem statusEntry_eq :
    statusEntry jsoncons truncate nameOfValue entry =
      if checkedStatus entry then
        match (entry.get "status").toInt truncate with
        | none => .error .thrown
        | some value => .ok (jsoncons.asString (entry.get "name"), nameOfValue value)
      else .error .rejected := by
  have guard : (!entry.isObject || !entry.contains "name" || !(entry.get "name").isString ||
      !entry.contains "status" || !(entry.get "status").isNumber) = !checkedStatus entry := by
    simp only [checkedStatus, Bool.not_and]
  rw [statusEntry, guard]
  cases checkedStatus entry <;> rfl

theorem isNumber_of_checked (checked : checkedStatus entry = true) :
    (entry.get "status").isNumber = true := by
  rw [checkedStatus, Bool.and_eq_true] at checked
  exact checked.2

/-- The conversion of a number throws if jsoncons keeps it as its text. -/
theorem toInt_eq_none_iff (truncate : String → Int)
    (isNumber : (entry.get "status").isNumber = true) :
    (entry.get "status").toInt truncate = none ↔ OversizedStatus entry := by
  rw [OversizedStatus]
  cases status : entry.get "status" with
  | integer value =>
    rw [Json.toInt, ite_eq_right_iff]
    simp
  | decimal text =>
    rw [Json.toInt]
    simp
  | bigdec text => exact iff_of_true rfl (.inr ⟨text, rfl⟩)
  | _ =>
    rw [status] at isNumber
    cases isNumber

theorem statusEntry_eq_thrown_iff :
    statusEntry jsoncons truncate nameOfValue entry = .error .thrown ↔
      checkedStatus entry = true ∧ OversizedStatus entry := by
  rw [statusEntry_eq]
  by_cases checked : checkedStatus entry = true
  · rw [if_pos checked, and_iff_right checked,
      ← toInt_eq_none_iff truncate (isNumber_of_checked checked)]
    cases (entry.get "status").toInt truncate with
    | none => exact iff_of_true rfl rfl
    | some value =>
      exact iff_of_false (fun contrary => by cases contrary) (Option.some_ne_none value)
  · rw [if_neg checked]
    refine iff_of_false (fun contrary => by cases contrary) ?_
    rintro ⟨contrary, _⟩
    exact checked contrary

/-- A converted element has passed the tests. -/
theorem checked_of_statusEntry
    (converted : statusEntry jsoncons truncate nameOfValue entry = .ok row) :
    checkedStatus entry = true := by
  rw [statusEntry_eq] at converted
  by_contra unchecked
  rw [if_neg unchecked] at converted
  cases converted

theorem exists_statusEntry_iff :
    (∃ row, statusEntry jsoncons truncate nameOfValue entry = .ok row) ↔
      checkedStatus entry = true ∧ ¬OversizedStatus entry := by
  constructor
  · rintro ⟨row, converted⟩
    refine ⟨checked_of_statusEntry converted, fun oversized => ?_⟩
    have thrown : statusEntry jsoncons truncate nameOfValue entry = .error .thrown :=
      statusEntry_eq_thrown_iff.mpr ⟨checked_of_statusEntry converted, oversized⟩
    rw [thrown] at converted
    cases converted
  · rintro ⟨checked, sized⟩
    rw [statusEntry_eq, if_pos checked]
    rw [← toInt_eq_none_iff truncate (isNumber_of_checked checked)] at sized
    obtain ⟨value, read⟩ := Option.ne_none_iff_exists'.mp sized
    exact ⟨_, by rw [read]⟩

/-- On exact elements the decoders do what the strict reading asks for. -/
theorem statusEntry_of_describes (describes : DescribesStatus nameOfValue entry row) :
    statusEntry jsoncons truncate nameOfValue entry = .ok row := by
  obtain ⟨isObject, containsName, name, containsStatus, value, status, fits, named⟩ := describes
  have checked : checkedStatus entry = true := by
    rw [checkedStatus, isObject, containsName, name, containsStatus, status]
    rfl
  rw [statusEntry_eq, if_pos checked, status, toInt_of_fitsInt fits, name]
  show Except.ok (row.1, nameOfValue value) = Except.ok row
  rw [← named]

theorem describes_of_statusEntry (exact : ExactStatus entry)
    (converted : statusEntry jsoncons truncate nameOfValue entry = .ok row) :
    DescribesStatus nameOfValue entry row := by
  have checked := checked_of_statusEntry converted
  obtain ⟨⟨name, named⟩, value, status, fits⟩ := exact
  rw [statusEntry_eq, if_pos checked, status, toInt_of_fitsInt fits, named] at converted
  obtain rfl := Except.ok.inj converted
  rw [checkedStatus] at checked
  simp only [Bool.and_eq_true] at checked
  obtain ⟨⟨⟨⟨isObject, containsName⟩, _⟩, containsStatus⟩, _⟩ := checked
  exact ⟨isObject, containsName, named, containsStatus, value, status, fits, rfl⟩

theorem DescribesStatus.exact (describes : DescribesStatus nameOfValue entry row) :
    ExactStatus entry :=
  let ⟨value, status, fits, _⟩ := describes.status
  ⟨⟨row.1, describes.name⟩, value, status, fits⟩

/-! ### Whole lists -/

variable {rows : List (String × String)}

/-- The loop throws if it reaches a status that cannot be converted. -/
theorem mapM_statusEntry_eq_thrown_iff :
    elements.mapM (statusEntry jsoncons truncate nameOfValue) = .error .thrown ↔
      ∃ front entry back, elements = front ++ entry :: back ∧
        (∀ earlier ∈ front, checkedStatus earlier = true ∧ ¬OversizedStatus earlier) ∧
          checkedStatus entry = true ∧ OversizedStatus entry := by
  simp only [Fallible.mapM_eq_error_iff, exists_statusEntry_iff, statusEntry_eq_thrown_iff]

/-- The loop returns the rows of an exact list. -/
theorem mapM_of_describes (describes : List.Forall₂ (DescribesStatus nameOfValue) elements rows) :
    elements.mapM (statusEntry jsoncons truncate nameOfValue) = .ok rows :=
  Fallible.mapM_eq_ok_iff.mpr (describes.imp fun _ _ => statusEntry_of_describes)

theorem describes_of_mapM (exact : ∀ entry ∈ elements, ExactStatus entry)
    (converted : elements.mapM (statusEntry jsoncons truncate nameOfValue) = .ok rows) :
    List.Forall₂ (DescribesStatus nameOfValue) elements rows := by
  rw [Fallible.mapM_eq_ok_iff] at converted
  induction converted with
  | nil => exact .nil
  | cons head _ inductionHypothesis =>
    rw [List.forall_mem_cons] at exact
    exact .cons (describes_of_statusEntry exact.1 head) (inductionHypothesis exact.2)

theorem exists_mapM_of_checked
    (checked : ∀ entry ∈ elements, checkedStatus entry = true)
    (returned : elements.mapM (statusEntry jsoncons truncate nameOfValue) ≠ .error .thrown) :
    ∃ rows, elements.mapM (statusEntry jsoncons truncate nameOfValue) = .ok rows := by
  cases converted : elements.mapM (statusEntry jsoncons truncate nameOfValue) with
  | ok rows => exact ⟨rows, rfl⟩
  | error failure =>
    obtain ⟨front, entry, back, rfl, _, failed⟩ := Fallible.mapM_eq_error_iff.mp converted
    rw [statusEntry_eq, if_pos (checked entry (List.mem_append_right _ List.mem_cons_self))]
      at failed
    cases read : (entry.get "status").toInt truncate with
    | none =>
      rw [read] at failed
      obtain rfl := Except.error.inj failed
      exact absurd converted returned
    | some value =>
      rw [read] at failed
      cases failed

/-- The loop decides as the strict reading does exactly if the tests decide rightly. -/
theorem mapM_statusEntry_strict_iff :
    ((∀ rows, elements.mapM (statusEntry jsoncons truncate nameOfValue) = .ok rows ↔
        List.Forall₂ (DescribesStatus nameOfValue) elements rows) ∧
      elements.mapM (statusEntry jsoncons truncate nameOfValue) ≠ .error .thrown) ↔
      StatusesDecodable elements := by
  rw [ne_eq, mapM_statusEntry_eq_thrown_iff]
  constructor
  · rintro ⟨strict, returned⟩
    refine ⟨fun checked => ?_, fun front entry back same earlier checked oversized =>
      returned ⟨front, entry, back, same, earlier, checked, oversized⟩⟩
    have returns : elements.mapM (statusEntry jsoncons truncate nameOfValue) ≠ .error .thrown :=
      fun thrown => returned (mapM_statusEntry_eq_thrown_iff.mp thrown)
    obtain ⟨rows, converted⟩ := exists_mapM_of_checked checked returns
    have describes := (strict rows).mp converted
    intro entry member
    obtain ⟨row, _, describesEntry⟩ := Fallible.exists_of_mem describes member
    exact describesEntry.exact
  · intro decodable
    refine ⟨fun rows => ⟨fun converted => ?_, mapM_of_describes⟩, ?_⟩
    · refine describes_of_mapM (decodable.exact fun entry member => ?_) converted
      have each := Fallible.mapM_eq_ok_iff.mp converted
      obtain ⟨row, _, convertedEntry⟩ := Fallible.exists_of_mem each member
      exact checked_of_statusEntry convertedEntry
    · rintro ⟨front, entry, back, same, earlier, checked, oversized⟩
      exact decodable.reached front entry back same earlier checked oversized

end Elements

section Texts

variable {jsoncons : Jsoncons} {truncate : String → Int} {key : String}
  {nameOfValue : Int → String} {text : String} {json : Json} {elements : List Json}

/-- A text has a list under a key. -/
def HasList (jsoncons : Jsoncons) (key text : String) (json : Json) (elements : List Json) :
    Prop :=
  jsoncons.parse text = some json ∧ json.isObject = true ∧ json.contains key = true ∧
    json.get key = .array elements

theorem statusListFromJsonString_of_list (list : HasList jsoncons key text json elements) :
    statusListFromJsonString jsoncons truncate key nameOfValue text =
      elements.mapM (statusEntry jsoncons truncate nameOfValue) := by
  obtain ⟨parsed, isObject, contains, get⟩ := list
  rw [statusListFromJsonString, parsed]
  simp only [isObject, contains, get, Json.isArray, Json.elements, Bool.not_true, Bool.or_self,
    Bool.false_eq_true, if_false]

/-- A text without a list is refused. -/
theorem statusListFromJsonString_of_no_list
    (none : ∀ json elements, ¬HasList jsoncons key text json elements) :
    statusListFromJsonString jsoncons truncate key nameOfValue text = .error .rejected := by
  rw [statusListFromJsonString]
  cases parsed : jsoncons.parse text with
  | none => rfl
  | some json =>
    refine if_pos ?_
    by_contra shape
    simp only [Bool.or_eq_true, Bool.not_eq_true', not_or, Bool.not_eq_false] at shape
    obtain ⟨⟨isObject, contains⟩, isArray⟩ := shape
    cases get : json.get key with
    | array elements => exact none json elements ⟨parsed, isObject, contains, get⟩
    | _ =>
      rw [get] at isArray
      cases isArray

theorem describesStatusList_iff_of_list (list : HasList jsoncons key text json elements)
    (rows : List (String × String)) :
    DescribesStatusList jsoncons key nameOfValue text rows ↔
      List.Forall₂ (DescribesStatus nameOfValue) elements rows := by
  obtain ⟨parsed, isObject, contains, get⟩ := list
  simp only [DescribesStatusList, parsed, Option.some.injEq]
  constructor
  · rintro ⟨_, others, rfl, _, _, same, describes⟩
    obtain rfl := Json.array.inj (get.symm.trans same)
    exact describes
  · intro describes
    exact ⟨json, elements, rfl, isObject, contains, get, describes⟩

theorem statusListDecodable_iff_of_list (list : HasList jsoncons key text json elements) :
    StatusListDecodable jsoncons key text ↔ StatusesDecodable elements := by
  obtain ⟨parsed, isObject, contains, get⟩ := list
  constructor
  · intro decodable
    exact decodable json elements parsed isObject contains get
  · intro decodable other others parsedOther _ _ same
    obtain rfl := Option.some.inj (parsed.symm.trans parsedOther)
    obtain rfl := Json.array.inj (get.symm.trans same)
    exact decodable

/-- A decoder reads a text strictly exactly if its tests decide rightly on the list. -/
theorem statusListFromJsonString_strict_iff :
    DecodesStrictly jsoncons key nameOfValue text
        (statusListFromJsonString jsoncons truncate key nameOfValue text) ↔
      StatusListDecodable jsoncons key text := by
  by_cases list : ∃ json elements, HasList jsoncons key text json elements
  · obtain ⟨json, elements, list⟩ := list
    rw [statusListDecodable_iff_of_list list, DecodesStrictly,
      statusListFromJsonString_of_list list]
    simp only [describesStatusList_iff_of_list list]
    exact mapM_statusEntry_strict_iff
  · simp only [not_exists] at list
    rw [DecodesStrictly, statusListFromJsonString_of_no_list list]
    refine iff_of_true ⟨fun rows => ?_, fun contrary => by cases contrary⟩ ?_
    · refine iff_of_false (fun contrary => by cases contrary) ?_
      rintro ⟨json, elements, parsed, isObject, contains, get, _⟩
      exact list json elements ⟨parsed, isObject, contains, get⟩
    · intro json elements parsed isObject contains get
      exact absurd ⟨parsed, isObject, contains, get⟩ (list json elements)

end Texts

/-- The decoders of status lists are strict exactly on the texts on whose list their tests decide
rightly: every list they return is that of the encoder's shape, with the string of exactly the
status of each element, every other text yields `nullopt`, and nothing is thrown. -/
theorem statusLists_decodeStrictly_iff (jsoncons : Jsoncons) (truncate : String → Int)
    (text : String) :
    (DecodesStrictly jsoncons "agent_status_list" agentStateNameOfValue text
        (agentStatusListFromJsonString jsoncons truncate text) ↔
      StatusListDecodable jsoncons "agent_status_list" text) ∧
    (DecodesStrictly jsoncons "endpoint_status_list" endpointStateNameOfValue text
        (endpointStatusListFromJsonString jsoncons truncate text) ↔
      StatusListDecodable jsoncons "endpoint_status_list" text) :=
  ⟨statusListFromJsonString_strict_iff, statusListFromJsonString_strict_iff⟩

/-- A status list of one agent with a given status. -/
def oneStatus (status : Json) : Json :=
  .object [("agent_status_list", .array [.object [("name", .string "app"), ("status", status)]])]

theorem oneStatus_hasList (status : Json) :
    HasList (.reading [oneStatus status]) "agent_status_list" (oneStatus status).compact
      (oneStatus status) [.object [("name", .string "app"), ("status", status)]] := by
  refine ⟨?_, rfl, rfl, rfl⟩
  simp [Jsoncons.reading]

theorem statusLists_decodeStrictly_iff_sample :
    DecodesStrictly (.reading [oneStatus (.integer 2)]) "agent_status_list" agentStateNameOfValue
      (oneStatus (.integer 2)).compact (agentStatusListFromJsonString
        (.reading [oneStatus (.integer 2)]) (fun _ => 0) (oneStatus (.integer 2)).compact) := by
  refine (statusLists_decodeStrictly_iff (.reading [oneStatus (.integer 2)]) (fun _ => 0)
    (oneStatus (.integer 2)).compact).1.mpr ?_
  rw [statusListDecodable_iff_of_list (oneStatus_hasList _)]
  constructor
  · intro _ entry member
    rw [List.mem_singleton.mp member]
    exact ⟨⟨"app", rfl⟩, 2, rfl, by decide, by decide⟩
  · rintro front entry back same _ _ oversized
    have member : entry ∈ front ++ entry :: back := by simp
    rw [← same, List.mem_singleton] at member
    subst member
    rcases oversized with ⟨value, status, unstored⟩ | ⟨text, status⟩
    · cases status
      cases unstored
    · cases status

/-- A status past the range of `int` wraps around, a fraction is truncated, and a status past 64
bits or past the range of `double` throws. -/
theorem oneStatus_decoded :
    agentStatusListFromJsonString (.reading [oneStatus (.integer (2 ^ 32 + 2))]) (fun _ => 0)
        (oneStatus (.integer (2 ^ 32 + 2))).compact = .ok [("app", "active")] ∧
      agentStatusListFromJsonString (.reading [oneStatus (.decimal "2.5")]) (fun _ => 2)
        (oneStatus (.decimal "2.5")).compact = .ok [("app", "active")] ∧
      agentStatusListFromJsonString (.reading [oneStatus (.integer (2 ^ 64))]) (fun _ => 0)
        (oneStatus (.integer (2 ^ 64))).compact = .error .thrown ∧
      agentStatusListFromJsonString (.reading [oneStatus (.bigdec "1e400")]) (fun _ => 0)
        (oneStatus (.bigdec "1e400")).compact = .error .thrown ∧
      ¬DecodesStrictly (.reading [oneStatus (.decimal "2.5")]) "agent_status_list"
        agentStateNameOfValue (oneStatus (.decimal "2.5")).compact
        (agentStatusListFromJsonString (.reading [oneStatus (.decimal "2.5")]) (fun _ => 2)
          (oneStatus (.decimal "2.5")).compact) := by
  have decoded : ∀ truncate status,
      agentStatusListFromJsonString (.reading [oneStatus status]) truncate
        (oneStatus status).compact =
      [Json.object [("name", .string "app"), ("status", status)]].mapM
        (statusEntry (.reading [oneStatus status]) truncate agentStateNameOfValue) :=
    fun truncate status => statusListFromJsonString_of_list (oneStatus_hasList status)
  have fraction := decoded (fun _ => 2) (.decimal "2.5")
  refine ⟨(decoded _ _).trans rfl, fraction.trans rfl, (decoded _ _).trans rfl,
    (decoded _ _).trans rfl, fun strict => ?_⟩
  have describes := (strict.1 [("app", "active")]).mp (fraction.trans rfl)
  rw [describesStatusList_iff_of_list (oneStatus_hasList _)] at describes
  obtain ⟨row, _, described⟩ := Fallible.exists_of_mem describes (List.mem_singleton_self _)
  obtain ⟨value, status, _⟩ := described.status
  cases status

end MavlinkHub
