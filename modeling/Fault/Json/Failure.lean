import Fault.Text.Integer

/-!
# Failures of JSON rendering

A failure is a message with a position in a document. A message that already ends in a position
gives it up to the failure, and the text of a failure states the position again, unless its line
is zero. So a position at the end of a message is brought into its plain form, and one with line
zero is dropped.
-/

namespace Fault.Json

open Fault.Text

/-- Why a value has no JSON form. -/
structure Failure where
  message : String
  line : Nat
  column : Nat
  deriving DecidableEq, Repr

/-- The words before the line of a position. -/
def lineWords : List Char :=
  " at line ".toList

/-- The words between the line and the column of a position. -/
def columnWords : List Char :=
  " column ".toList

/-- The text behind the last occurrence of some words, and the text before it. -/
def splitAtLast?
    (words : List Char) :
    List Char → Option (List Char × List Char)
  | [] => none
  | character :: rest =>
      match splitAtLast? words rest with
      | some (before, behind) => some (character :: before, behind)
      | none =>
          if words.isPrefixOf (character :: rest) then
            some ([], (character :: rest).drop words.length)
          else
            none

/-- A number of a position: digits of a number that fits 64 bits. -/
def positionNumber? (digits : List Char) : Option Nat :=
  (readNatural? digits).filter (· < UInt64.size)

/-- The message and the position of a text that ends in a position. -/
def splitPosition? (text : List Char) : Option (List Char × Nat × Nat) := do
  let (message, behind) ← splitAtLast? lineWords text
  let line ← positionNumber? (behind.takeWhile isDigit)
  let rest := behind.dropWhile isDigit
  if columnWords.isPrefixOf rest then
    let column ← positionNumber? (rest.drop columnWords.length)
    some (message, line, column)
  else
    none

namespace Failure

/-- The failure of a message, which gives up a position at its end. -/
def ofText (text : String) : Failure :=
  match splitPosition? text.toList with
  | some (message, line, column) => ⟨String.ofList message, line, column⟩
  | none => ⟨text, 0, 0⟩

/-- The text of a failure. -/
def text (failure : Failure) : String :=
  if failure.line = 0 then
    failure.message
  else
    failure.message ++ " at line " ++ showNat failure.line ++ " column " ++ showNat failure.column

end Failure

/-- A number that is too large for JSON. -/
def outOfRange : Failure :=
  ⟨"number out of range", 0, 0⟩

end Fault.Json
