import Fault.Json.Basic
import Fault.Number.Numeral

/-!
# JSON text

The compact text of a JSON value: no blanks, members in the order of their names, numbers in their
shortest form. A string escapes quotes, backslashes and the controls of the first block only.
-/

namespace Fault.Json

open Fault.Text
open Fault.Number (Numeral)

/-- A character inside a JSON string. -/
def escape (character : Char) : List Char :=
  if character = '"' then ['\\', '"']
  else if character = '\\' then ['\\', '\\']
  else if character = '\x08' then ['\\', 'b']
  else if character = '\t' then ['\\', 't']
  else if character = '\n' then ['\\', 'n']
  else if character = '\x0c' then ['\\', 'f']
  else if character = '\r' then ['\\', 'r']
  else if character.toNat < 0x20 then
    ['\\', 'u', '0', '0'] ++
      List.replicate (2 - (Nat.toDigits 16 character.toNat).length) '0' ++
      Nat.toDigits 16 character.toNat
  else [character]

/-- A string in quotes, followed by more text. -/
def writeText
    (value : String)
    (rest : List Char) :
    List Char :=
  '"' :: value.toList.foldr (fun character tail => escape character ++ tail) ('"' :: rest)

/-- The text of a number. -/
def numberText : JsonNumber → List Char
  | .integer integer => Text.integer integer.value
  | .double value => Numeral.json.writeFinite .double value

mutual

/-- The text of a value, followed by more text. -/
def write : Json → List Char → List Char
  | .null, rest => "null".toList ++ rest
  | .boolean true, rest => "true".toList ++ rest
  | .boolean false, rest => "false".toList ++ rest
  | .number value, rest => numberText value ++ rest
  | .text value, rest => writeText value rest
  | .array items, rest => '[' :: writeItems items (']' :: rest)
  | .object members, rest => '\x7b' :: writeMembers members ('\x7d' :: rest)

/-- The items of an array with commas between them, followed by more text. -/
def writeItems : List Json → List Char → List Char
  | [], rest => rest
  | [last], rest => write last rest
  | item :: items, rest => write item (',' :: writeItems items rest)

/-- The members of an object with commas between them, followed by more text. -/
def writeMembers : List (String × Json) → List Char → List Char
  | [], rest => rest
  | [(name, last)], rest => writeText name (':' :: write last rest)
  | (name, value) :: members, rest =>
      writeText name (':' :: write value (',' :: writeMembers members rest))

end

/-- The compact text of a value. -/
def render (json : Json) : String :=
  String.ofList (write json [])

end Fault.Json
