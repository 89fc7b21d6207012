import Fault.Text.Unprintable
import Fault.Text.Extending

/-!
# Quoted text

A quoted text shows every character of a text in a readable way: quotes, backslashes and line
ends by a backslash and a letter, characters that print nothing or draw onto their neighbour by
their code point, and all others as they are.
-/

namespace Fault.Text

/-- The hexadecimal digits of a number, lower case and without leading zeros. -/
def hexDigits (number : Nat) : List Char :=
  Nat.toDigits 16 number

/-- A character by its code point, as in `\u{301}`. -/
def escapeCodePoint (character : Char) : List Char :=
  ['\\', 'u', '\x7b'] ++ hexDigits character.toNat ++ ['\x7d']

/-- The quoted form of one character inside quotes of the given kind. -/
def escape (quote : Char) (character : Char) : List Char :=
  if character = '\n' then ['\\', 'n']
  else if character = '\r' then ['\\', 'r']
  else if character = '\t' then ['\\', 't']
  else if character = '\x00' then ['\\', '0']
  else if character = '\\' then ['\\', '\\']
  else if character = quote then ['\\', quote]
  else if isExtending character || isUnprintable character then escapeCodePoint character
  else [character]

/-- A text in double quotes. -/
def quoted (text : List Char) : List Char :=
  '"' :: text.flatMap (escape '"') ++ ['"']

/-- A character in single quotes; a double quote stands bare between them. -/
def quotedChar (character : Char) : List Char :=
  '\'' :: escape '\'' character ++ ['\'']

/-- The quoted form of a string. -/
def quote (text : String) : String :=
  String.ofList (quoted text.toList)

end Fault.Text
