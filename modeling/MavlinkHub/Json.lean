/-
This file is the boundary with jsoncons. A document is a tree of values, and the
library reads a text as one and writes one as a text. What its member functions do
on a tree is documented and transcribed here; the text format itself is a parameter.
-/

import Mathlib.Algebra.Group.Int.Defs
import Mathlib.Algebra.Group.Nat.Defs

namespace MavlinkHub

/-- A `jsoncons::json` value. A number with a fraction or an exponent is given by its text: it is a
`decimal` if it is in the range of `double`. Otherwise jsoncons keeps it as a string with the
tag `bigdec`. -/
inductive Json
  | null
  | bool (value : Bool)
  | integer (value : Int)
  | decimal (text : String)
  | bigdec (text : String)
  | string (text : String)
  | array (elements : List Json)
  | object (members : List (String × Json))

namespace Json

/-- The members of an object; other values have none. -/
def members : Json → List (String × Json)
  | .object members => members
  | _ => []

/-- `json::contains`, which is false for everything but an object. -/
def contains (key : String) (json : Json) : Bool :=
  json.members.any fun member => member.1 = key

/-- `json::operator[]`, for a key the object contains. -/
def get (key : String) (json : Json) : Json :=
  ((json.members.find? fun member => member.1 = key).map (·.2)).getD .null

/-- The order of keys: that of their first characters that differ. -/
def keyBefore : List Char → List Char → Bool
  | _, [] => false
  | [], _ :: _ => true
  | char :: rest, other :: others =>
    if char = other then keyBefore rest others else char.toNat < other.toNat

/-- The members of an object after an assignment to a key. They are sorted by key. -/
def setMember (key : String) (value : Json) : List (String × Json) → List (String × Json)
  | [] => [(key, value)]
  | member :: rest =>
    if member.1 = key then (key, value) :: rest
    else if keyBefore key.toList member.1.toList then (key, value) :: member :: rest
    else member :: setMember key value rest

/-- An assignment to `json::operator[]` of an object. -/
def set (json : Json) (key : String) (value : Json) : Json :=
  match json with
  | .object members => .object (setMember key value members)
  | _ => json

/-- `json::push_back`, for an array. -/
def pushBack (json element : Json) : Json :=
  match json with
  | .array elements => .array (elements ++ [element])
  | _ => json

/-- `json::is_object`. -/
def isObject : Json → Bool
  | .object _ => true
  | _ => false

/-- `json::is_array`. -/
def isArray : Json → Bool
  | .array _ => true
  | _ => false

/-- The elements of an array; other values have none. -/
def elements : Json → List Json
  | .array elements => elements
  | _ => []

/-- `json::is_bool`. -/
def isBool : Json → Bool
  | .bool _ => true
  | _ => false

/-- `json::as_bool`, for a value that is one. -/
def asBool : Json → Bool
  | .bool value => value
  | _ => false

/-- An integer that is stored as one; a larger one is kept as its digits. -/
def isStoredInteger (value : Int) : Bool :=
  -2 ^ 63 ≤ value && value < 2 ^ 64

/-- `json::is_string`. A number kept as its text counts as one. -/
def isString : Json → Bool
  | .string _ => true
  | .bigdec _ => true
  | .integer value => !isStoredInteger value
  | _ => false

/-- `json::is_number`. -/
def isNumber : Json → Bool
  | .integer _ => true
  | .decimal _ => true
  | .bigdec _ => true
  | _ => false

/-- `json::as<int>`, for a number; `none` is a thrown `conv_error`. A stored integer loses its
high bits. What a `double` is cast to is a parameter. -/
def toInt (truncate : String → Int) : Json → Option Int
  | .integer value => if isStoredInteger value then some (value.bmod (2 ^ 32)) else none
  | .decimal text => some (truncate text)
  | _ => none

/-- `json::as_bool`, for any value; `none` is a thrown `json_runtime_error`. -/
def toBool : Json → Option Bool
  | .bool value => some value
  | .integer value => if isStoredInteger value then some (value ≠ 0) else none
  | _ => none

mutual

/-- The compact form of a value, for texts that need no escapes. -/
def compact : Json → String
  | .null => "null"
  | .bool value => if value then "true" else "false"
  | .integer value => toString value
  | .decimal text => text
  | .bigdec text => text
  | .string text => "\"" ++ text ++ "\""
  | .array elements => "[" ++ compactElements elements ++ "]"
  | .object members => "\x7b" ++ compactMembers members ++ "\x7d"

def compactElements : List Json → String
  | [] => ""
  | [element] => element.compact
  | element :: rest => element.compact ++ "," ++ compactElements rest

def compactMembers : List (String × Json) → String
  | [] => ""
  | [(key, value)] => "\"" ++ key ++ "\":" ++ value.compact
  | (key, value) :: rest => "\"" ++ key ++ "\":" ++ value.compact ++ "," ++ compactMembers rest

end

end Json

/-- How the conversion of a document can fail: it is refused with `nullopt`, or an exception
that the function does not catch leaves it. -/
inductive ConversionFailure
  | rejected
  | thrown
  deriving DecidableEq

/-- The text format of jsoncons. -/
structure Jsoncons where
  /-- `json::parse`; `none` is a thrown `ser_error`. -/
  parse : String → Option Json
  /-- The text a value is serialised to. -/
  dump : Json → String

/-- `json::as_string`: a string as it is, any other value serialised. -/
def Jsoncons.asString (jsoncons : Jsoncons) : Json → String
  | .string text => text
  | .bigdec text => text
  | json => jsoncons.dump json

/-- The format that writes the compact form and reads the given documents. -/
def Jsoncons.reading (documents : List Json) : Jsoncons where
  parse text := documents.find? fun document => document.compact = text
  dump := Json.compact

end MavlinkHub
