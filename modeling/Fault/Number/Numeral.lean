import Fault.Number.Shortest
import Fault.Text.Integer

/-!
# Numerals of floating numbers

A `Numeral` collects the decisions that turn the shortest decimal form of a floating number into
text: how ties of digits are broken, between which places of the decimal point a number is
written out, whether a whole number keeps a point, and whether a plus sign marks an exponent that
is not negative. Outside those places one digit stands before the point and an exponent follows.
-/

namespace Fault.Number

open Fault.Text (natural integer)

/-- How floating numbers are written. -/
structure Numeral where
  /-- Which of two equally near digits is taken. -/
  tie : Tie
  /-- The least place of the decimal point that is written out, when there is a bound. -/
  leastPlace : Option Int
  /-- The greatest place of the decimal point that is written out, when there is a bound. -/
  greatestPlace : Option Int
  /-- Whether a whole number that is written out ends in `.0`. -/
  keepsPoint : Bool
  /-- Whether an exponent that is not negative has a plus sign. -/
  marksPlus : Bool

namespace Numeral

/-- Plain numerals: every number is written out, and a whole number has no point. -/
def plain : Numeral :=
  ⟨.up, none, none, false, false⟩

/-- Numerals of a dump: from `1e16` and below `1e-4` with an exponent. -/
def dump : Numeral :=
  ⟨.up, some (-3), some 16, true, false⟩

/-- Numerals of JSON: from `1e+16` and below `1e-5` with an exponent. -/
def json : Numeral :=
  ⟨.even, some (-4), some 16, true, true⟩

/-- Digits with the point after `place` of them, zeros added on either side as needed. -/
def positional
    (numeral : Numeral)
    (digits : List Char)
    (place : Int) :
    List Char :=
  if place ≤ 0 then
    ['0', '.'] ++ List.replicate place.natAbs '0' ++ digits
  else if digits.length ≤ place.natAbs then
    digits ++ List.replicate (place.natAbs - digits.length) '0' ++
      if numeral.keepsPoint then ['.', '0'] else []
  else
    digits.take place.natAbs ++ '.' :: digits.drop place.natAbs

/-- Digits with the point after the first of them, and the exponent that makes up for it. -/
def exponential
    (numeral : Numeral)
    (digits : List Char)
    (place : Int) :
    List Char :=
  let exponent := place - 1
  digits.take 1 ++ (if digits.length ≤ 1 then [] else '.' :: digits.drop 1) ++
    'e' :: (if numeral.marksPlus && 0 ≤ exponent then ['+'] else []) ++ integer exponent

/-- The text of a finite number. -/
def writeFinite
    (numeral : Numeral)
    (precision : Precision)
    (value : Finite) :
    List Char :=
  let sign := if value.negative then ['-'] else []
  if value.isZero then
    sign ++ '0' :: if numeral.keepsPoint then ['.', '0'] else []
  else
    let decimal := value.shortest precision numeral.tie
    let digits := natural decimal.digits
    let place := (digits.length : Int) + decimal.exponent
    let writtenOut :=
      numeral.leastPlace.all (· ≤ place) && numeral.greatestPlace.all (place ≤ ·)
    sign ++
      if writtenOut then numeral.positional digits place else numeral.exponential digits place

/-- The text of a floating number. -/
def write
    (numeral : Numeral)
    (precision : Precision) :
    Floating → List Char
  | .nan => "NaN".toList
  | .infinite false => "inf".toList
  | .infinite true => "-inf".toList
  | .finite value => numeral.writeFinite precision value

/-- The text of a double as a string. -/
def text (numeral : Numeral) (value : Floating) : String :=
  String.ofList (numeral.write .double value)

end Numeral

end Fault.Number
