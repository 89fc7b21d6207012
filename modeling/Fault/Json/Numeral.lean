import Fault.Json.Basic
import Fault.Text.Integer

/-!
# Reading JSON numbers

A number without point and exponent is an integer when it fits 64 bits. Every other number is a
double: its digits are gathered into a significand of at most 64 bits, later digits only move the
exponent, and the significand is scaled by one power of ten. The result of the scaling is rounded
each time, so it need not be the double nearest to the written number.
-/

namespace Fault.Json

open Fault.Text (isDigit digitValue)
open Fault.Number (Finite)

/-- Why a text is no JSON: it ended too early, or it went wrong before its end. -/
inductive ParseError where
  | truncated
  | malformed
  deriving DecidableEq, Repr

/-- The error of a text that must go on: it ended, or something else stands there. -/
def ParseError.atFront : List Char → ParseError
  | [] => .truncated
  | _ => .malformed

/-- Gather digits into a significand of 64 bits, count them, and return what follows: a
character other than a digit, or the first digit that no longer fits. -/
def gather
    (significand count : Nat) :
    List Char → Nat × Nat × List Char
  | [] => (significand, count, [])
  | character :: rest =>
      let next := significand * 10 + digitValue character
      if isDigit character && next < UInt64.size then
        gather next (count + 1) rest
      else
        (significand, count, character :: rest)

/-- Whether a text starts with a digit. -/
def startsWithDigit (text : List Char) : Bool :=
  (text.head?.map isDigit).getD false

/-- A double divided by a power of ten, in steps of the greatest power that is a double. -/
def scaleDown
    (value : Finite)
    (exponent : Nat) :
    Finite :=
  let quotient (power : Nat) : Finite :=
    match value.divide (Finite.tenTo power) with
    | .finite result => result
    | _ => value
  if exponent ≤ 308 then quotient exponent
  else if value.isZero then value
  else scaleDown (quotient 308) (exponent - 308)
termination_by exponent

/-- The double of a significand and an exponent of ten, when there is one. -/
def scale
    (negative : Bool)
    (significand : Nat)
    (exponent : Int) :
    Except ParseError Finite :=
  let value := Finite.ofInt significand
  let signed (result : Finite) : Finite := if negative then result.negate else result
  if exponent < 0 then
    .ok (signed (scaleDown value exponent.natAbs))
  else if value.isZero then
    .ok (signed value)
  else if 308 < exponent then
    .error .malformed
  else
    match value.times (Finite.tenTo exponent.natAbs) with
    | .finite result => .ok (signed result)
    | _ => .error .malformed

/-- Read the exponent behind its letter and scale the significand. An exponent beyond 31 bits is
an error for a significand that would grow, and gives zero otherwise. -/
def readExponent
    (negative : Bool)
    (significand : Nat)
    (exponent : Int)
    (text : List Char) :
    Except ParseError (Finite × List Char) :=
  let (downward, rest) :=
    match text with
    | '+' :: rest => (false, rest)
    | '-' :: rest => (true, rest)
    | _ => (false, text)
  if !startsWithDigit rest then
    .error (ParseError.atFront rest)
  else
    let stated := Text.digitsValue (rest.takeWhile isDigit)
    let after := rest.dropWhile isDigit
    let moved : Int := if downward then exponent - stated else exponent + stated
    if stated < 2_147_483_648 then
      (scale negative significand moved).map fun value => (value, after)
    else if significand = 0 || downward then
      .ok ((Number.Precision.double.zero negative), after)
    else
      .error .malformed

/-- Finish a double behind its digits: an exponent may follow. -/
def finishDouble
    (negative : Bool)
    (significand : Nat)
    (exponent : Int) :
    List Char → Except ParseError (Finite × List Char)
  | 'e' :: rest => readExponent negative significand exponent rest
  | 'E' :: rest => readExponent negative significand exponent rest
  | rest => (scale negative significand exponent).map fun value => (value, rest)

/-- Read the digits behind the point; at least one has to stand there. -/
def readPart
    (negative : Bool)
    (significand : Nat)
    (exponent : Int)
    (text : List Char) :
    Except ParseError (Finite × List Char) :=
  let (gathered, count, rest) := gather significand 0 text
  if count = 0 && !startsWithDigit rest then
    .error (ParseError.atFront rest)
  else
    finishDouble negative gathered (exponent - count) (rest.dropWhile isDigit)

/-- Finish a number behind the digits of its whole part, `skipped` of which did not fit. -/
def finishNumber
    (negative : Bool)
    (significand skipped : Nat)
    (text : List Char) :
    Except ParseError (JsonNumber × List Char) :=
  let double (reading : Except ParseError (Finite × List Char)) :
      Except ParseError (JsonNumber × List Char) :=
    reading.map fun result => (.double result.1, result.2)
  let inexact (rest : List Char) : Except ParseError (JsonNumber × List Char) :=
    double (finishDouble negative significand skipped rest)
  match text with
  | '.' :: rest => double (readPart negative significand skipped rest)
  | 'e' :: _ => inexact text
  | 'E' :: _ => inexact text
  | _ =>
      let value : Int := if negative then -(significand : Int) else significand
      let integer? := if negative && significand = 0 then none else JsonInteger.ofInt? value
      match skipped, integer? with
      | 0, some integer => .ok (.integer integer, text)
      | _, _ => inexact text

/-- Read a number behind its sign. A zero stands alone before the point. -/
def readNumber
    (negative : Bool)
    (text : List Char) :
    Except ParseError (JsonNumber × List Char) :=
  match text with
  | [] => .error .truncated
  | '0' :: rest =>
      if startsWithDigit rest then .error .malformed else finishNumber negative 0 0 rest
  | _ =>
      if startsWithDigit text then
        let (significand, _, rest) := gather 0 0 text
        finishNumber negative significand (rest.takeWhile isDigit).length (rest.dropWhile isDigit)
      else
        .error .malformed

end Fault.Json
