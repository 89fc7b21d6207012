import Fault.Number.Floating

/-!
# Shortest decimal form

The shortest decimal form of a floating number is the decimal number with the fewest digits among
those that round to it, and of these the nearest one. The numbers that round to a floating number
form an interval around it, with its ends when the significand is even. For each count of digits
only the two grid points next to the number have to be tried.
-/

namespace Fault.Number

/-- A decimal number `digits * 10 ^ exponent`. -/
structure Decimal where
  digits : Nat
  exponent : Int
  deriving DecidableEq, Repr, Inhabited

/-- Which of two equally near decimal numbers is taken. -/
inductive Tie where
  | up
  | even
  deriving DecidableEq, Repr

/-- The fractions that round to a floating number: two ends over one denominator, and whether they
belong to it. -/
structure Interval where
  low : Nat
  high : Nat
  denominator : Nat
  closed : Bool

/-- Whether a fraction lies in an interval. -/
def Interval.contains
    (interval : Interval)
    (numerator denominator : Nat) :
    Bool :=
  let point := numerator * interval.denominator
  let low := interval.low * denominator
  let high := interval.high * denominator
  if interval.closed then
    low ≤ point && point ≤ high
  else
    low < point && point < high

/-- The interval of a floating number that is not zero. Below a power of two the grid is twice as
fine, down to the least exponent. -/
def Finite.interval
    (precision : Precision)
    (value : Finite) :
    Interval :=
  let quarters := 4 * value.significand
  let narrow :=
    value.significand = powerOfTwo (precision.bits - 1) && precision.leastExponent < value.exponent
  let low := overPower (quarters - if narrow then 1 else 2) 4 (-value.exponent)
  let high := overPower (quarters + 2) 4 (-value.exponent)
  ⟨low.1, high.1, low.2, value.significand % 2 = 0⟩

/-- The place of the decimal point: a fraction with this place `k` is at least `10 ^ (k - 1)` and
less than `10 ^ k`. -/
def pointPlace (numerator denominator : Nat) : Int :=
  if denominator ≤ numerator then
    (Nat.toDigits 10 (numerator / denominator)).length
  else
    1 - ((Nat.toDigits 10 ((denominator - 1) / numerator)).length : Int)

/-- A fraction over a power of ten. -/
def overPowerOfTen
    (numerator denominator : Nat)
    (exponent : Int) :
    Nat × Nat :=
  if exponent < 0 then
    (numerator * powerOfTen exponent.natAbs, denominator)
  else
    (numerator, denominator * powerOfTen exponent.natAbs)

/-- The grid point of a given count of digits that lies in the interval and is nearest to the
number, when there is one. -/
def gridPoint?
    (tie : Tie)
    (interval : Interval)
    (value : Nat × Nat)
    (exponent : Int) :
    Option Decimal :=
  let scaled := overPowerOfTen value.1 value.2 exponent
  let below := scaled.1 / scaled.2
  let rest := scaled.1 % scaled.2
  let lies (digits : Nat) : Bool :=
    if exponent < 0 then
      interval.contains digits (powerOfTen exponent.natAbs)
    else
      interval.contains (digits * powerOfTen exponent.natAbs) 1
  if rest = 0 then
    some ⟨below, exponent⟩
  else
    match lies below, lies (below + 1) with
    | false, false => none
    | true, false => some ⟨below, exponent⟩
    | false, true => some ⟨below + 1, exponent⟩
    | true, true =>
        let upward :=
          scaled.2 < 2 * rest ||
            (2 * rest = scaled.2 && (tie == .up || below % 2 = 1))
        some ⟨if upward then below + 1 else below, exponent⟩

/-- Try grids with more and more digits, the finest of the given ones at last. -/
def shortestFrom
    (tie : Tie)
    (interval : Interval)
    (value : Nat × Nat)
    (place : Int)
    (count : Nat) :
    Nat → Decimal
  | 0 => ⟨0, 0⟩
  | remaining + 1 =>
      match gridPoint? tie interval value (place - count) with
      | some decimal => decimal
      | none => shortestFrom tie interval value place (count + 1) remaining

/-- A decimal number without zeros at the end of its digits. -/
def Decimal.strip (decimal : Decimal) : Decimal :=
  let zeros := ((Nat.toDigits 10 decimal.digits).reverse.takeWhile (· == '0')).length
  if decimal.digits = 0 then decimal
  else ⟨decimal.digits / powerOfTen zeros, decimal.exponent + zeros⟩

/-- The shortest decimal form of the magnitude of a floating number; seventeen digits tell all
doubles apart. -/
def Finite.shortest
    (precision : Precision)
    (tie : Tie)
    (value : Finite) :
    Decimal :=
  if value.isZero then
    ⟨0, 0⟩
  else
    let place := pointPlace value.fraction.1 value.fraction.2
    (shortestFrom tie (value.interval precision) value.fraction place 1 17).strip

end Fault.Number
