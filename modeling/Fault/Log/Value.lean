import Fault.Json.Dump

/-!
# Log values

A log value is a small tree of attributes for a structured log: scalars, lists, and groups of
attributes in the order in which they were added. A group may hold a key several times; the last
attribute of a key is the one that counts.
-/

namespace Fault

open Fault.Number (Floating Numeral)

/-- A value of a structured log. -/
inductive LogValue where
  | null
  | boolean (value : Bool)
  | int (value : Int64)
  | uint (value : UInt64)
  | floating (value : Floating)
  | text (value : String)
  | list (items : List LogValue)
  /-- Attributes in the order in which they were added. -/
  | group (attributes : List (String × LogValue))
  deriving Inhabited

namespace LogValue

/-- The group without attributes. -/
def emptyGroup : LogValue :=
  .group []

/-- Add an attribute to a group; nothing is added to any other value. -/
def add
    (value : LogValue)
    (key : String)
    (content : LogValue) :
    LogValue :=
  match value with
  | .group attributes => .group (attributes ++ [(key, content)])
  | other => other

/-- The last attribute of a key in a group. -/
def get?
    (value : LogValue)
    (key : String) :
    Option LogValue :=
  match value with
  | .group attributes =>
      (attributes.reverse.find? fun pair => pair.1 == key).map Prod.snd
  | _ => none

/-- The text of a text value. -/
def text? : LogValue → Option String
  | .text value => some value
  | _ => none

/-- The log value of an integer: signed when it fits, else unsigned. -/
def ofInteger (integer : JsonInteger) : LogValue :=
  if integer.value < 9_223_372_036_854_775_808 then
    .int (Int64.ofInt integer.value)
  else
    .uint (UInt64.ofNat integer.value.toNat)

mutual

/-- The log value of a JSON value. -/
def ofJson : Json → LogValue
  | .null => .null
  | .boolean value => .boolean value
  | .number (.integer integer) => ofInteger integer
  | .number (.double value) => .floating (.finite value)
  | .text value => .text value
  | .array items => .list (ofItems items)
  | .object members => .group (ofMembers members)

/-- The log values of the items of an array. -/
def ofItems : List Json → List LogValue
  | [] => []
  | item :: items => ofJson item :: ofItems items

/-- The attributes of the members of an object. -/
def ofMembers : List (String × Json) → List (String × LogValue)
  | [] => []
  | (name, value) :: members => (name, ofJson value) :: ofMembers members

end

/-- The JSON form of a signed integer. -/
def intJson (value : Int64) : Json :=
  (Json.ofInt? value.toInt).getD .null

/-- The JSON form of an unsigned integer. -/
def uintJson (value : UInt64) : Json :=
  Json.ofNat value.toNat

mutual

/-- The JSON form of a value; of attributes with one key the last stays. -/
def toJson : LogValue → Json
  | .null => .null
  | .boolean value => .boolean value
  | .int value => intJson value
  | .uint value => uintJson value
  | .floating value => Json.ofFloating value
  | .text value => .text value
  | .list items => .array (toItems items)
  | .group attributes => Json.ofMembers (toMembers attributes)

/-- The JSON forms of the items of a list. -/
def toItems : List LogValue → List Json
  | [] => []
  | item :: items => toJson item :: toItems items

/-- The JSON forms of attributes. -/
def toMembers : List (String × LogValue) → List (String × Json)
  | [] => []
  | (key, value) :: attributes => (key, toJson value) :: toMembers attributes

end

mutual

/-- The dump of a value. -/
def dump : LogValue → Dump
  | .null => .text "Null"
  | .boolean value => .tuple "Bool" [.boolean value]
  | .int value => .tuple "Int" [.integer value.toInt]
  | .uint value => .tuple "Uint" [.natural value.toNat]
  | .floating value => .tuple "Float" [.text (Numeral.dump.text value)]
  | .text value => .tuple "String" [.quoted value]
  | .list items => .tuple "List" [.list (dumpItems items)]
  | .group attributes => .tuple "Group" [.list (dumpAttributes attributes)]

/-- The dumps of the items of a list. -/
def dumpItems : List LogValue → List Dump
  | [] => []
  | item :: items => dump item :: dumpItems items

/-- The dumps of attributes, pairs of a key and a value. -/
def dumpAttributes : List (String × LogValue) → List Dump
  | [] => []
  | (key, value) :: attributes =>
      .tuple "" [.quoted key, dump value] :: dumpAttributes attributes

end

mutual

/-- Equality of values of the same kind; floating numbers are compared by value. -/
def equals : LogValue → LogValue → Bool
  | .null, .null => true
  | .boolean first, .boolean second => first == second
  | .int first, .int second => first == second
  | .uint first, .uint second => first == second
  | .floating first, .floating second => first.equals second
  | .text first, .text second => first == second
  | .list first, .list second => equalItems first second
  | .group first, .group second => equalAttributes first second
  | _, _ => false

/-- Equality of lists, item by item. -/
def equalItems : List LogValue → List LogValue → Bool
  | [], [] => true
  | first :: firsts, second :: seconds => equals first second && equalItems firsts seconds
  | _, _ => false

/-- Equality of attributes, key by key and value by value. -/
def equalAttributes : List (String × LogValue) → List (String × LogValue) → Bool
  | [], [] => true
  | (firstKey, first) :: firsts, (secondKey, second) :: seconds =>
      firstKey == secondKey && equals first second && equalAttributes firsts seconds
  | _, _ => false

end

end LogValue

end Fault
