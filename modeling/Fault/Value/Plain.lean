import Fault.Value.Decode
import Fault.Number.Reading

/-!
# Plain forms of values

The plain form of a value is JSON that hides nothing and loses nothing, for data that is written by
hand. It is the JSON form of the value, except that integers of more than 64 bits and floating
numbers are written as text, redacted values as what they hide, and picky ones as their string.
Types have short names for the same purpose.
-/

namespace Fault

open Fault.Number (Precision readFloating?)

/-- The integers of 128 bits. -/
def IntegerType.wide : IntegerType :=
  ⟨true, .bits 128⟩

namespace IntegerType

/-- The types of integers by name. -/
def named : List (String × IntegerType) :=
  let widths := [.bits 8, .bits 16, .bits 32, .bits 64, .bits 128, .word]
  let types := widths.map (IntegerType.mk true) ++ widths.map (IntegerType.mk false)
  types.map fun type => (type.name, type)

/-- Read an integer of a type from text. -/
def read? (type : IntegerType) (text : String) : Option Int :=
  (Text.readInteger? text.toList).filter type.contains

end IntegerType

namespace ValueType

/-- The type of a short name. -/
def ofName? (name : String) : Option ValueType :=
  match name with
  | "string" => some .text
  | "bool" => some .boolean
  | "char" => some .character
  | "f64" => some .floating
  | "unit" => some .unit
  | "json" => some .json
  | "strings" => some .texts
  | "opt_i64" => some .optionalInteger
  | "map_i64" => some .integerMap
  | "block" => some .block
  | "picky" => some .picky
  | "redacted" => some .redactedText
  | "redacted_i64" => some .redactedInteger
  | "level" => some .severity
  | "duration" => some .duration
  | "details" => some .details
  | other => (IntegerType.named.lookup other).map .integer

/-- Read a value of a type from its plain form. -/
def readPlain? (type : ValueType) (form : Json) : Option Value :=
  match type, form with
  | .floating, .text digits => (readFloating? .double digits.toList).map .floating
  | .integer width, .text digits =>
      if width = .wide then (width.read? digits).map (.integer width) else none
  | _, _ => (type.decode form).toOption

end ValueType

/-- The plain form of a value. -/
def Value.plain (value : Value) : Json :=
  match value with
  | .integer width number =>
      if width = .wide then .text (Text.showInt number) else (Json.ofInt? number).getD .null
  | .floating _ => .text value.dump.compactText
  | .redactedText hidden => .text hidden.value
  | .redactedInteger hidden => (Json.ofInt? hidden.value).getD .null
  | .picky content => .text content
  | _ => value.toJson.toOption.getD .null

end Fault
