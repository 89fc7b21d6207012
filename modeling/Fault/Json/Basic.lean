import Fault.Number.Floating

/-!
# JSON values

A JSON value with numbers of two kinds: integers of 64 bits, signed or unsigned, and finite
doubles. The members of an object are kept sorted by name, and a name occurs once: putting a
member replaces the one of the same name.
-/

namespace Fault

open Fault.Number (Finite Floating)

/-- An integer that fits 64 bits with or without a sign. -/
structure JsonInteger where
  value : Int
  lower : -9_223_372_036_854_775_808 ≤ value
  upper : value < 18_446_744_073_709_551_616
  deriving DecidableEq

/-- The JSON integer of a value, when it fits. -/
def JsonInteger.ofInt? (value : Int) : Option JsonInteger :=
  if fits : -9_223_372_036_854_775_808 ≤ value ∧ value < 18_446_744_073_709_551_616 then
    some ⟨value, fits.1, fits.2⟩
  else
    none

/-- A JSON number. -/
inductive JsonNumber where
  | integer (value : JsonInteger)
  | double (value : Finite)
  deriving DecidableEq

/-- Equality of numbers: an integer differs from every double, doubles compare by value. -/
def JsonNumber.equals : JsonNumber → JsonNumber → Bool
  | .integer first, .integer second => first == second
  | .double first, .double second => first.equals second
  | _, _ => false

/-- A JSON value. -/
inductive Json where
  | null
  | boolean (value : Bool)
  | number (value : JsonNumber)
  | text (value : String)
  | array (items : List Json)
  | object (members : List (String × Json))
  deriving Inhabited

/-- The members of a JSON object, sorted by name. -/
abbrev Members := List (String × Json)

namespace Members

/-- Put a member at its place, over a member of the same name. -/
def insert
    (name : String)
    (value : Json) :
    Members → Members
  | [] => [(name, value)]
  | (other, old) :: rest =>
      if name = other then (name, value) :: rest
      else if name < other then (name, value) :: (other, old) :: rest
      else (other, old) :: insert name value rest

/-- The members of a list put one after the other, so that the last of a name stays. -/
def ofList (members : List (String × Json)) : Members :=
  members.foldl (fun sorted member => sorted.insert member.1 member.2) []

/-- The value of a name. -/
def get?
    (members : Members)
    (name : String) :
    Option Json :=
  (members.find? fun member => member.1 = name).map Prod.snd

end Members

namespace Json

/-- The number of an integer, when JSON has it. -/
def ofInt? (value : Int) : Option Json :=
  (JsonInteger.ofInt? value).map fun integer => .number (.integer integer)

/-- The number of a natural number below `2 ^ 64`; larger ones have none and become null. -/
def ofNat (value : Nat) : Json :=
  (ofInt? value).getD .null

/-- The number of a floating one; JSON has only the finite ones, the others become null. -/
def ofFloating : Floating → Json
  | .finite value => .number (.double value)
  | _ => .null

/-- An object of members in any order. -/
def ofMembers (members : List (String × Json)) : Json :=
  .object (Members.ofList members)

/-- The text of a string value. -/
def text? : Json → Option String
  | .text value => some value
  | _ => none

/-- The value of a boolean. -/
def boolean? : Json → Option Bool
  | .boolean value => some value
  | _ => none

/-- The value of an integer. -/
def integer? : Json → Option Int
  | .number (.integer integer) => some integer.value
  | _ => none

/-- The items of an array. -/
def array? : Json → Option (List Json)
  | .array items => some items
  | _ => none

/-- The members of an object. -/
def members? : Json → Option Members
  | .object members => some members
  | _ => none

/-- The member of an object by its name. -/
def member?
    (json : Json)
    (name : String) :
    Option Json :=
  json.members?.bind (·.get? name)

mutual

/-- Equality of JSON values: the same shape, with numbers compared by value. -/
def equals : Json → Json → Bool
  | .null, .null => true
  | .boolean first, .boolean second => first == second
  | .number first, .number second => first.equals second
  | .text first, .text second => first == second
  | .array first, .array second => equalItems first second
  | .object first, .object second => equalMembers first second
  | _, _ => false

/-- Equality of lists of JSON values, item by item. -/
def equalItems : List Json → List Json → Bool
  | [], [] => true
  | first :: firsts, second :: seconds => equals first second && equalItems firsts seconds
  | _, _ => false

/-- Equality of members, name by name and value by value. -/
def equalMembers : List (String × Json) → List (String × Json) → Bool
  | [], [] => true
  | (firstName, first) :: firsts, (secondName, second) :: seconds =>
      firstName == secondName && equals first second && equalMembers firsts seconds
  | _, _ => false

end

end Json

end Fault
