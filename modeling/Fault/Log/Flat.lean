import Fault.Log.Value
import Fault.Text.Blank

/-!
# Flat log text

The flat text of a log value is one line of tokens with spaces between them. A token is the path
of keys to a leaf, an equals sign and the leaf. A text stands bare when it could not be mistaken
for anything else, and in quotes otherwise.
-/

namespace Fault.LogValue

open Fault.Number (Numeral)
open Fault.Text (isBlank isControl)

/-- Whether a text stands bare: it is not empty and holds nothing that separates tokens. -/
def isBare (text : List Char) : Bool :=
  !text.isEmpty &&
    !text.any fun character =>
      isBlank character || character == '"' || character == '=' || isControl character

/-- A text as a leaf, bare or in quotes. -/
def leafText (text : List Char) : List Char :=
  if isBare text then text else Text.quoted text

/-- Texts with a separator between them. -/
def joinWith (separator : Char) : List (List Char) → List Char
  | [] => []
  | [last] => last
  | first :: rest => first ++ separator :: joinWith separator rest

/-- The path of a key below another path. -/
def pathTo (path key : List Char) : List Char :=
  if path.isEmpty then key else path ++ '.' :: key

/-- The token of a leaf; without a path it is the leaf alone. -/
def token (path leaf : List Char) : List Char :=
  if path.isEmpty then leaf else path ++ '=' :: leaf

/-- The text of a value without parts. -/
def scalar : LogValue → List Char
  | .null => "null".toList
  | .boolean value => (if value then "true" else "false").toList
  | .int value => Text.integer value.toInt
  | .uint value => Text.natural value.toNat
  | .floating value => Numeral.plain.write .double value
  | .text value => leafText value.toList
  | .list _ => []
  | .group _ => []

mutual

/-- The tokens of a value below a path. -/
def tokens (path : List Char) : LogValue → List (List Char)
  | .group attributes => groupTokens path attributes
  | .list items => [token path ('[' :: joinWith ',' (leaves items) ++ [']'])]
  | .null => [token path (scalar .null)]
  | .boolean value => [token path (scalar (.boolean value))]
  | .int value => [token path (scalar (.int value))]
  | .uint value => [token path (scalar (.uint value))]
  | .floating value => [token path (scalar (.floating value))]
  | .text value => [token path (scalar (.text value))]

/-- The tokens of attributes below a path. -/
def groupTokens (path : List Char) : List (String × LogValue) → List (List Char)
  | [] => []
  | (key, value) :: attributes =>
      tokens (pathTo path key.toList) value ++ groupTokens path attributes

/-- A value as one leaf: a list in brackets, a group in braces. -/
def leaf : LogValue → List Char
  | .group attributes => '\x7b' :: joinWith ' ' (groupTokens [] attributes) ++ ['\x7d']
  | .list items => '[' :: joinWith ',' (leaves items) ++ [']']
  | .null => scalar .null
  | .boolean value => scalar (.boolean value)
  | .int value => scalar (.int value)
  | .uint value => scalar (.uint value)
  | .floating value => scalar (.floating value)
  | .text value => scalar (.text value)

/-- The items of a list as leaves. -/
def leaves : List LogValue → List (List Char)
  | [] => []
  | item :: items => leaf item :: leaves items

end

/-- The flat text of a value. -/
def flat (value : LogValue) : List Char :=
  joinWith ' ' (tokens [] value)

/-- The flat text of a value as a string. -/
def flatText (value : LogValue) : String :=
  String.ofList value.flat

end Fault.LogValue
