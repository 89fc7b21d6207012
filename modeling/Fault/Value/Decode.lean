import Fault.Value.Basic

/-!
# Reading values from JSON

Every type of values reads the JSON form that its values render to, and refuses all other JSON
with a reason. Nothing is converted but an integer that is read as a floating number. Items and
members are read in order, and the first failure counts.
-/

namespace Fault

open Fault.Number (Floating Finite Numeral)

/-- Why a JSON value is no value of a type. -/
inductive Misfit where
  /-- A JSON value of the wrong kind. -/
  | type (found : Json) (wanted : String)
  /-- An integer or a string of the right kind that the type does not have. -/
  | value (found : Json) (wanted : String)
  /-- An array of the wrong length. -/
  | length (found : Nat) (wanted : String)
  /-- A word that names no severity. -/
  | severity (word : String)
  /-- A member that a duration does not have. -/
  | unknownMember (name : String)
  /-- A member that a duration needs. -/
  | missingMember (name : String)
  /-- A duration that is too long. -/
  | overflow

/-- The description of a JSON value in a message. -/
def Json.describe : Json → String
  | .null => "null"
  | .boolean value => "boolean `" ++ (if value then "true" else "false") ++ "`"
  | .number (.integer integer) => "integer `" ++ Text.showInt integer.value ++ "`"
  | .number (.double value) => "floating point `" ++ Numeral.json.text (.finite value) ++ "`"
  | .text value => "string " ++ Text.quote value
  | .array _ => "sequence"
  | .object _ => "map"

/-- The message of a misfit. -/
def Misfit.message : Misfit → String
  | .type found wanted => "invalid type: " ++ found.describe ++ ", expected " ++ wanted
  | .value found wanted => "invalid value: " ++ found.describe ++ ", expected " ++ wanted
  | .length found wanted =>
      "invalid length " ++ Text.showNat found ++ ", expected " ++ wanted
  | .severity word =>
      "unknown variant `" ++ word ++ "`, expected one of " ++
        ", ".intercalate (Severity.all.map fun severity => "`" ++ severity.word ++ "`")
  | .unknownMember name => "unknown field `" ++ name ++ "`, expected `secs` or `nanos`"
  | .missingMember name => "missing field `" ++ name ++ "`"
  | .overflow => "overflow deserializing Duration"

namespace Decode

/-- Read a string. -/
def string : Json → Except Misfit String
  | .text value => .ok value
  | found => .error (.type found "a string")

/-- Read a string of one character. -/
def character : Json → Except Misfit Char
  | .text value =>
      match value.toList with
      | [single] => .ok single
      | _ => .error (.value (.text value) "a character")
  | found => .error (.type found "a character")

/-- Read an integer of a type. -/
def integer (type : IntegerType) : Json → Except Misfit Int
  | .number (.integer integer) =>
      if type.contains integer.value then .ok integer.value
      else .error (.value (.number (.integer integer)) type.name)
  | found => .error (.type found type.name)

/-- Read a floating number. -/
def floating : Json → Except Misfit Floating
  | .number (.integer integer) => .ok (.finite (Finite.ofInt integer.value))
  | .number (.double value) => .ok (.finite value)
  | found => .error (.type found "f64")

/-- Read nothing, which is written as null. -/
def unit : Json → Except Misfit Unit
  | .null => .ok ()
  | found => .error (.type found "unit")

/-- Read strings in order. -/
def strings : List Json → Except Misfit (List String)
  | [] => .ok []
  | item :: items => do
      let value ← string item
      let rest ← strings items
      .ok (value :: rest)

/-- Read integers by name in order. -/
def integers : List (String × Json) → Except Misfit (List (String × Int))
  | [] => .ok []
  | (name, item) :: members => do
      let value ← integer .standard item
      let rest ← integers members
      .ok ((name, value) :: rest)

/-- The severity of a word. -/
def severityWord (word : String) : Except Misfit Severity :=
  match Severity.ofWord? word with
  | some severity => .ok severity
  | none => .error (.severity word)

/-- Read a severity: its word, or an object whose one member has the word as name and null as
value. -/
def severity : Json → Except Misfit Severity
  | .text word => severityWord word
  | .object [(word, value)] => do
      let severity ← severityWord word
      unit value
      .ok severity
  | .object members => .error (.value (.object members) "map with a single key")
  | found => .error (.type found "string or map")

/-- The type of the seconds of a duration. -/
def secondsType : IntegerType :=
  ⟨false, .bits 64⟩

/-- The type of the nanoseconds of a duration. -/
def nanosecondsType : IntegerType :=
  ⟨false, .bits 32⟩

/-- The duration of its parts. -/
def durationParts (seconds nanoseconds : Int) : Except Misfit Duration :=
  match Duration.ofParts? seconds.toNat nanoseconds.toNat with
  | some duration => .ok duration
  | none => .error .overflow

/-- Read the members of a duration, one after the other, into what was read so far. -/
def durationMembers
    (seconds nanoseconds : Option Int) :
    List (String × Json) → Except Misfit (Option Int × Option Int)
  | [] => .ok (seconds, nanoseconds)
  | (name, item) :: members =>
      if name = "secs" then do
        let value ← integer secondsType item
        durationMembers (some value) nanoseconds members
      else if name = "nanos" then do
        let value ← integer nanosecondsType item
        durationMembers seconds (some value) members
      else
        .error (.unknownMember name)

/-- Read a duration: an object with both parts, or an array of the two. -/
def duration : Json → Except Misfit Duration
  | .object members => do
      match ← durationMembers none none members with
      | (none, _) => .error (.missingMember "secs")
      | (_, none) => .error (.missingMember "nanos")
      | (some seconds, some nanoseconds) => durationParts seconds nanoseconds
  | .array [] => .error (.length 0 "struct Duration")
  | .array [first] => do
      let _ ← integer secondsType first
      .error (.length 1 "struct Duration")
  | .array (first :: second :: rest) => do
      let seconds ← integer secondsType first
      let nanoseconds ← integer nanosecondsType second
      let duration ← durationParts seconds nanoseconds
      if rest.isEmpty then .ok duration
      else .error (.length (rest.length + 2) "fewer elements in array")
  | found => .error (.type found "struct Duration")

end Decode

/-- Read a value of a type. -/
def ValueType.decode : ValueType → Json → Except Misfit Value
  | .text, form => (Decode.string form).map .text
  | .boolean, .boolean value => .ok (.boolean value)
  | .boolean, found => .error (.type found "a boolean")
  | .character, form => (Decode.character form).map .character
  | .integer type, form => (Decode.integer type form).map (.integer type)
  | .floating, form => (Decode.floating form).map .floating
  | .unit, form => (Decode.unit form).map fun _ => .unit
  | .json, form => .ok (.json form)
  | .texts, .array items => (Decode.strings items).map .texts
  | .texts, found => .error (.type found "a sequence")
  | .optionalInteger, .null => .ok (.optionalInteger none)
  | .optionalInteger, form =>
      (Decode.integer .standard form).map fun value => .optionalInteger (some value)
  | .integerMap, .object members => (Decode.integers members).map .integerMap
  | .integerMap, found => .error (.type found "a map")
  | .block, form => (Decode.string form).map .block
  | .picky, form => (Decode.string form).map .picky
  | .redactedText, form => (Decode.string form).map fun value => .redactedText ⟨value⟩
  | .redactedInteger, form =>
      (Decode.integer .standard form).map fun value => .redactedInteger ⟨value⟩
  | .severity, form => (Decode.severity form).map .severity
  | .duration, form => (Decode.duration form).map .duration
  | .details, .object members => .ok (.details members)
  | .details, found => .error (.type found "a map")

end Fault
