import Fault.Number.Floating
import Fault.Text.Integer

/-!
# Reading floating numbers

The written forms of a floating number: an optional sign, then digits with at most one point
among them and an optional exponent, or one of the words for an infinity and for a value that is
not a number, in any case of letters. The value is the nearest number of the precision.
-/

namespace Fault.Number

open Fault.Text

/-- An optional sign and what follows it. -/
def splitSign : List Char → Bool × List Char
  | '-' :: rest => (true, rest)
  | '+' :: rest => (false, rest)
  | text => (false, text)

/-- The exponent that a text states: none for an empty text, else a letter `e` and an integer. -/
def readExponent? : List Char → Option Int
  | [] => some 0
  | letter :: rest =>
      if letter = 'e' || letter = 'E' then readInteger? rest else none

/-- The value of an unsigned numeral: digits before and after the point, and an exponent. -/
def readUnsigned?
    (precision : Precision)
    (negative : Bool)
    (text : List Char) :
    Option Floating :=
  let whole := text.takeWhile isDigit
  let afterWhole := text.dropWhile isDigit
  let (part, tail) :=
    match afterWhole with
    | '.' :: rest => (rest.takeWhile isDigit, rest.dropWhile isDigit)
    | _ => ([], afterWhole)
  if whole.isEmpty && part.isEmpty then
    none
  else
    (readExponent? tail).map fun exponent =>
      precision.roundDecimal negative (digitsValue (whole ++ part)) (exponent - part.length)

/-- The value of a numeral. -/
def readFloating?
    (precision : Precision)
    (text : List Char) :
    Option Floating :=
  let (negative, rest) := splitSign text
  let word := String.ofList (rest.map Char.toLower)
  if word = "nan" then some .nan
  else if word = "inf" || word = "infinity" then some (.infinite negative)
  else readUnsigned? precision negative rest

end Fault.Number
