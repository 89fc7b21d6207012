import Fault.Json.Dump
import Fault.Json.Failure
import Fault.Duration
import Fault.Severity
import Fault.Redacted

/-!
# Field values

The values a field can hold, one constructor for each family of types, and what every value can
do: name its type, show itself as a dump, render as JSON, and be compared with a value of any
type. Values of different types are never equal.
-/

namespace Fault

open Fault.Number (Floating Numeral powerOfTwo)

/-- How wide integers are: a number of bits, or as wide as the words of the machine. -/
inductive IntegerWidth where
  | bits (count : Nat)
  | word
  deriving DecidableEq, Repr

/-- The number of bits of a width; a machine word has 64. -/
def IntegerWidth.size : IntegerWidth → Nat
  | .bits count => count
  | .word => 64

/-- The name of a width in the names of types. -/
def IntegerWidth.name : IntegerWidth → String
  | .bits count => Text.showNat count
  | .word => "size"

/-- A type of integers: with or without a sign, and of a width. Types of one range are told apart
when only one of them is that of machine words. -/
structure IntegerType where
  signed : Bool
  width : IntegerWidth
  deriving DecidableEq, Repr

namespace IntegerType

/-- The name of a type of integers. -/
def name (type : IntegerType) : String :=
  (if type.signed then "i" else "u") ++ type.width.name

/-- The number of bits of a type. -/
def bits (type : IntegerType) : Nat :=
  type.width.size

/-- The least integer of a type. -/
def least (type : IntegerType) : Int :=
  if type.signed then -(powerOfTwo (type.bits - 1) : Int) else 0

/-- The greatest integer of a type. -/
def greatest (type : IntegerType) : Int :=
  if type.signed then (powerOfTwo (type.bits - 1) : Int) - 1 else (powerOfTwo type.bits : Int) - 1

/-- Whether an integer belongs to a type. -/
def contains (type : IntegerType) (value : Int) : Bool :=
  type.least ≤ value && value ≤ type.greatest

end IntegerType

/-- The type of a field. -/
inductive ValueType where
  | text
  | boolean
  | character
  | integer (type : IntegerType)
  | floating
  | unit
  | json
  | texts
  | optionalInteger
  | integerMap
  /-- A string whose dump is the bare string. -/
  | block
  /-- A string that refuses to render as JSON when it starts with an exclamation mark. -/
  | picky
  | redactedText
  | redactedInteger
  | severity
  | duration
  | details
  deriving DecidableEq, Repr

/-- The signed integers of 64 bits, the type of the integers inside other values. -/
def IntegerType.standard : IntegerType :=
  ⟨true, .bits 64⟩

/-- The value of a field. -/
inductive Value where
  | text (value : String)
  | boolean (value : Bool)
  | character (value : Char)
  | integer (type : IntegerType) (value : Int)
  | floating (value : Floating)
  | unit
  | json (value : Json)
  | texts (items : List String)
  | optionalInteger (value : Option Int)
  /-- Integers by name, sorted by name. -/
  | integerMap (entries : List (String × Int))
  | block (value : String)
  | picky (value : String)
  | redactedText (value : Redacted String)
  | redactedInteger (value : Redacted Int)
  | severity (value : Severity)
  | duration (value : Duration)
  | details (members : Members)

namespace Value

/-- The type of a value. -/
def type : Value → ValueType
  | .text _ => .text
  | .boolean _ => .boolean
  | .character _ => .character
  | .integer type _ => .integer type
  | .floating _ => .floating
  | .unit => .unit
  | .json _ => .json
  | .texts _ => .texts
  | .optionalInteger _ => .optionalInteger
  | .integerMap _ => .integerMap
  | .block _ => .block
  | .picky _ => .picky
  | .redactedText _ => .redactedText
  | .redactedInteger _ => .redactedInteger
  | .severity _ => .severity
  | .duration _ => .duration
  | .details _ => .details

/-- The dump of a value. -/
def dump : Value → Dump
  | .text value => .quoted value
  | .boolean value => .boolean value
  | .character value => .text (String.ofList (Text.quotedChar value))
  | .integer _ value => .integer value
  | .floating value => .text (Numeral.dump.text value)
  | .unit => .text "()"
  | .json value => value.dump
  | .texts items => .list (items.map Dump.quoted)
  | .optionalInteger value => .optional (value.map Dump.integer)
  | .integerMap entries =>
      .mapping (entries.map fun entry => (Text.quote entry.1, .integer entry.2))
  | .block value => .text value
  | .picky value => .tuple "Picky" [.quoted value]
  | .redactedText value => value.dump
  | .redactedInteger value => value.dump
  | .severity value => .text value.name
  | .duration value => .text value.text
  | .details members => .mapping (Json.dumpMembers members)

/-- The JSON integer of a value, or the failure of a number that JSON does not have. -/
def integerJson (value : Int) : Except Json.Failure Json :=
  match Json.ofInt? value with
  | some form => .ok form
  | none => .error Json.outOfRange

/-- The JSON form of integers by name, or the first failure. -/
def integerMapJson : List (String × Int) → Except Json.Failure (List (String × Json))
  | [] => .ok []
  | (name, value) :: entries => do
      let form ← integerJson value
      let rest ← integerMapJson entries
      .ok ((name, form) :: rest)

/-- The JSON form of a value. -/
def toJson : Value → Except Json.Failure Json
  | .text value => .ok (.text value)
  | .boolean value => .ok (.boolean value)
  | .character value => .ok (.text (String.singleton value))
  | .integer _ value => integerJson value
  | .floating value => .ok (Json.ofFloating value)
  | .unit => .ok .null
  | .json value => .ok value
  | .texts items => .ok (.array (items.map Json.text))
  | .optionalInteger none => .ok .null
  | .optionalInteger (some value) => integerJson value
  | .integerMap entries => do
      let members ← integerMapJson entries
      .ok (Json.ofMembers members)
  | .block value => .ok (.text value)
  | .picky value =>
      if value.toList.head? = some '!' then
        .error (Json.Failure.ofText ("refused: " ++ value))
      else
        .ok (.text value)
  | .redactedText value => .ok value.toJson
  | .redactedInteger value => .ok value.toJson
  | .severity value => .ok (.text value.word)
  | .duration value =>
      .ok (Json.ofMembers
        [("secs", Json.ofNat value.seconds), ("nanos", Json.ofNat value.nanoseconds)])
  | .details members => .ok (.object members)

/-- Equality of values of any types; floating numbers are compared by value. -/
def equals : Value → Value → Bool
  | .text first, .text second => first == second
  | .boolean first, .boolean second => first == second
  | .character first, .character second => first == second
  | .integer firstType first, .integer secondType second =>
      firstType == secondType && first == second
  | .floating first, .floating second => first.equals second
  | .unit, .unit => true
  | .json first, .json second => first.equals second
  | .texts first, .texts second => first == second
  | .optionalInteger first, .optionalInteger second => first == second
  | .integerMap first, .integerMap second => first == second
  | .block first, .block second => first == second
  | .picky first, .picky second => first == second
  | .redactedText first, .redactedText second => first.value == second.value
  | .redactedInteger first, .redactedInteger second => first.value == second.value
  | .severity first, .severity second => first == second
  | .duration first, .duration second => first == second
  | .details first, .details second => Json.equalMembers first second
  | _, _ => false

end Value

/-- The value that a field of a type has when nothing was stored. -/
def ValueType.zero : ValueType → Value
  | .text => .text ""
  | .boolean => .boolean false
  | .character => .character '\x00'
  | .integer type => .integer type 0
  | .floating => .floating Floating.zero
  | .unit => .unit
  | .json => .json .null
  | .texts => .texts []
  | .optionalInteger => .optionalInteger none
  | .integerMap => .integerMap []
  | .block => .block ""
  | .picky => .picky ""
  | .redactedText => .redactedText ⟨""⟩
  | .redactedInteger => .redactedInteger ⟨0⟩
  | .severity => .severity Severity.standard
  | .duration => .duration Duration.zero
  | .details => .details []

end Fault
