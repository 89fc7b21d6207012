import Fault.Json.Numeral

/-!
# Reading JSON text

The reader of JSON text. Arrays and objects nest at most 127 deep, a surrogate in an escape has to
be followed by its other half, and of members with one name the last stays. An error only tells
whether the text ended too early.
-/

namespace Fault.Json

/-- The blanks between the tokens of JSON. -/
def isSpace (character : Char) : Bool :=
  character = ' ' || character = '\n' || character = '\t' || character = '\r'

/-- A text without the blanks at its front. -/
def skipSpace (text : List Char) : List Char :=
  text.dropWhile isSpace

/-- Read the letters of a word. -/
def readWord
    (word : List Char)
    (value : Json)
    (text : List Char) :
    Except ParseError (Json × List Char) :=
  match word, text with
  | [], rest => .ok (value, rest)
  | _ :: _, [] => .error .truncated
  | letter :: letters, character :: rest =>
      if letter = character then readWord letters value rest else .error .malformed

/-- The value of a hexadecimal digit. -/
def hexValue? (character : Char) : Option Nat :=
  if '0' ≤ character && character ≤ '9' then some (character.toNat - '0'.toNat)
  else if 'a' ≤ character && character ≤ 'f' then some (character.toNat - 'a'.toNat + 10)
  else if 'A' ≤ character && character ≤ 'F' then some (character.toNat - 'A'.toNat + 10)
  else none

/-- Read the four digits of a code unit. A text of fewer than four bytes ended too early. -/
def readUnit (text : List Char) : Except ParseError (Nat × List Char) :=
  match text with
  | first :: second :: third :: fourth :: rest =>
      match hexValue? first, hexValue? second, hexValue? third, hexValue? fourth with
      | some a, some b, some c, some d => .ok (((a * 16 + b) * 16 + c) * 16 + d, rest)
      | _, _, _, _ => .error .malformed
  | short =>
      if (String.ofList short).utf8ByteSize < 4 then .error .truncated else .error .malformed

/-- Read the escape of a code point: one unit, or a pair of surrogates. -/
def readCodePoint (text : List Char) : Except ParseError (Char × List Char) := do
  let (unit, rest) ← readUnit text
  if 0xdc00 ≤ unit && unit ≤ 0xdfff then
    .error .malformed
  else if unit < 0xd800 || 0xdbff < unit then
    .ok (Char.ofNat unit, rest)
  else
    match rest with
    | '\\' :: 'u' :: behind =>
        let (other, after) ← readUnit behind
        if other < 0xdc00 || 0xdfff < other then
          .error .malformed
        else
          .ok (Char.ofNat ((unit - 0xd800) * 0x400 + (other - 0xdc00) + 0x10000), after)
    | ['\\'] => .error .truncated
    | [] => .error .truncated
    | _ => .error .malformed

/-- The character of an escape of one letter. -/
def letterEscape? (letter : Char) : Option Char :=
  match letter with
  | '"' => some '"'
  | '\\' => some '\\'
  | '/' => some '/'
  | 'b' => some '\x08'
  | 'f' => some '\x0c'
  | 'n' => some '\n'
  | 'r' => some '\r'
  | 't' => some '\t'
  | _ => none

/-- Read a string behind its first quote; the characters read so far are kept in reverse. Every
step takes at least one character, so the length of the text bounds the steps. -/
def readString
    (steps : Nat)
    (reversed : List Char)
    (text : List Char) :
    Except ParseError (String × List Char) :=
  match steps, text with
  | 0, _ => .error .truncated
  | _, [] => .error .truncated
  | _, '"' :: rest => .ok (String.ofList reversed.reverse, rest)
  | _, ['\\'] => .error .truncated
  | steps + 1, '\\' :: 'u' :: rest =>
      match readCodePoint rest with
      | .ok (character, after) => readString steps (character :: reversed) after
      | .error error => .error error
  | steps + 1, '\\' :: letter :: rest =>
      match letterEscape? letter with
      | some character => readString steps (character :: reversed) rest
      | none => .error .malformed
  | steps + 1, character :: rest =>
      if character.toNat < 0x20 then .error .malformed
      else readString steps (character :: reversed) rest

mutual

/-- Read a value. Of two calls in a row at least one takes a character, so twice the length of the
text bounds the steps; `depth` more arrays and objects may open. -/
def readValue
    (steps depth : Nat)
    (text : List Char) :
    Except ParseError (Json × List Char) :=
  match steps with
  | 0 => .error .truncated
  | steps + 1 =>
      match skipSpace text with
      | [] => .error .truncated
      | 'n' :: rest => readWord "ull".toList .null rest
      | 't' :: rest => readWord "rue".toList (.boolean true) rest
      | 'f' :: rest => readWord "alse".toList (.boolean false) rest
      | '"' :: rest => do
          let (value, after) ← readString (rest.length + 1) [] rest
          .ok (.text value, after)
      | '[' :: rest =>
          if depth ≤ 1 then .error .malformed
          else readItems steps (depth - 1) true [] rest
      | '\x7b' :: rest =>
          if depth ≤ 1 then .error .malformed
          else readMembers steps (depth - 1) true [] rest
      | '-' :: rest => do
          let (value, after) ← readNumber true rest
          .ok (.number value, after)
      | front => do
          let (value, after) ← readNumber false front
          .ok (.number value, after)

/-- Read the items of an array; those read so far are kept in reverse. -/
def readItems
    (steps depth : Nat)
    (first : Bool)
    (reversed : List Json)
    (text : List Char) :
    Except ParseError (Json × List Char) :=
  match steps with
  | 0 => .error .truncated
  | steps + 1 =>
      let item (front : List Char) : Except ParseError (Json × List Char) := do
        let (value, after) ← readValue steps depth front
        readItems steps depth false (value :: reversed) after
      match skipSpace text with
      | [] => .error .truncated
      | ']' :: rest => .ok (.array reversed.reverse, rest)
      | ',' :: rest =>
          if first then .error .malformed
          else
            match skipSpace rest with
            | ']' :: _ => .error .malformed
            | front => item front
      | front => if first then item front else .error .malformed

/-- Read the members of an object; those read so far are kept sorted. -/
def readMembers
    (steps depth : Nat)
    (first : Bool)
    (members : Members)
    (text : List Char) :
    Except ParseError (Json × List Char) :=
  match steps with
  | 0 => .error .truncated
  | steps + 1 =>
      let member (front : List Char) : Except ParseError (Json × List Char) :=
        match front with
        | [] => .error .truncated
        | '"' :: rest => do
            let (name, after) ← readString (rest.length + 1) [] rest
            match skipSpace after with
            | ':' :: behind =>
                let (value, after) ← readValue steps depth behind
                readMembers steps depth false (members.insert name value) after
            | other => .error (ParseError.atFront other)
        | _ => .error .malformed
      match skipSpace text with
      | [] => .error .truncated
      | '\x7d' :: rest => .ok (.object members, rest)
      | ',' :: rest => if first then .error .malformed else member (skipSpace rest)
      | front => if first then member front else .error .malformed

end

/-- The value of a JSON text. -/
def parse (text : String) : Except ParseError Json := do
  let characters := text.toList
  let (value, rest) ← readValue (2 * characters.length + 2) 128 characters
  match skipSpace rest with
  | [] => .ok value
  | _ => .error .malformed

end Fault.Json
