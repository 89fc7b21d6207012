/-!
# Binary floating numbers

A floating number is a sign, a significand and an exponent of two, an infinity, or not a number.
A `Precision` says how many binary digits a significand has and which exponents exist. Every
operation is carried out on exact fractions and rounded once, to the nearest number of the
precision and to the even significand of two equally near ones.
-/

namespace Fault.Number

/-- A finite floating number: `significand * 2 ^ exponent`, negated when `negative` is set. -/
structure Finite where
  negative : Bool
  significand : Nat
  exponent : Int
  deriving DecidableEq, Repr, Inhabited

/-- A floating number. -/
inductive Floating where
  | nan
  | infinite (negative : Bool)
  | finite (value : Finite)
  deriving DecidableEq, Repr, Inhabited

/-- The number of binary digits of a significand and the range of the exponents. -/
structure Precision where
  bits : Nat
  leastExponent : Int
  greatestExponent : Int

/-- Numbers of 64 bits. -/
def Precision.double : Precision :=
  ⟨53, -1074, 971⟩

/-- Numbers of 32 bits. -/
def Precision.single : Precision :=
  ⟨24, -149, 104⟩

/-- A power of two. -/
def powerOfTwo (exponent : Nat) : Nat :=
  Nat.pow 2 exponent

/-- A power of ten. -/
def powerOfTen (exponent : Nat) : Nat :=
  Nat.pow 10 exponent

/-- A quotient rounded to the nearest integer, an exact half to the even one. -/
def divideToEven (numerator denominator : Nat) : Nat :=
  let quotient := numerator / denominator
  let twice := 2 * (numerator % denominator)
  if twice < denominator then quotient
  else if denominator < twice then quotient + 1
  else quotient + quotient % 2

/-- The fraction of a numerator and denominator over a power of two. -/
def overPower
    (numerator denominator : Nat)
    (exponent : Int) :
    Nat × Nat :=
  if exponent < 0 then
    (numerator * powerOfTwo exponent.natAbs, denominator)
  else
    (numerator, denominator * powerOfTwo exponent.natAbs)

namespace Precision

/-- Zero, with a sign. -/
def zero (precision : Precision) (negative : Bool) : Finite :=
  ⟨negative, 0, precision.leastExponent⟩

/-- The exponent at which a fraction's significand fills the digits of the precision. -/
def exponentOf
    (precision : Precision)
    (numerator denominator : Nat) :
    Int :=
  let guess : Int := (numerator.log2 : Int) - denominator.log2 - precision.bits
  let scaled := overPower numerator denominator guess
  let exact := if scaled.1 / scaled.2 < powerOfTwo precision.bits then guess else guess + 1
  max exact precision.leastExponent

/-- The floating number nearest to a fraction. -/
def round
    (precision : Precision)
    (negative : Bool)
    (numerator denominator : Nat) :
    Floating :=
  if numerator = 0 then
    .finite (precision.zero negative)
  else
    let exponent := precision.exponentOf numerator denominator
    let scaled := overPower numerator denominator exponent
    let significand := divideToEven scaled.1 scaled.2
    let full := significand = powerOfTwo precision.bits
    let significand := if full then powerOfTwo (precision.bits - 1) else significand
    let exponent := if full then exponent + 1 else exponent
    if precision.greatestExponent < exponent then
      .infinite negative
    else
      .finite ⟨negative, significand, exponent⟩

/-- The floating number nearest to `digits * 10 ^ exponent`. Beyond four hundred places on either
side every precision has reached an infinity or zero. -/
def roundDecimal
    (precision : Precision)
    (negative : Bool)
    (digits : Nat)
    (exponent : Int) :
    Floating :=
  let magnitude := ((Nat.toDigits 10 digits).length : Int) + exponent
  if digits = 0 || magnitude < -400 then
    .finite (precision.zero negative)
  else if 400 < magnitude then
    .infinite negative
  else if exponent < 0 then
    precision.round negative digits (powerOfTen exponent.natAbs)
  else
    precision.round negative (digits * powerOfTen exponent.natAbs) 1

end Precision

namespace Finite

/-- The magnitude as a fraction. -/
def fraction (value : Finite) : Nat × Nat :=
  overPower value.significand 1 (-value.exponent)

/-- Whether a number is zero, of either sign. -/
def isZero (value : Finite) : Bool :=
  value.significand == 0

/-- A number with the opposite sign. -/
def negate (value : Finite) : Finite :=
  { value with negative := !value.negative }

/-- Numerical equality: a zero equals the other zero. -/
def equals (first second : Finite) : Bool :=
  first == second || (first.isZero && second.isZero)

/-- The double nearest to an integer. -/
def ofInt (number : Int) : Finite :=
  match Precision.double.round (number < 0) number.natAbs 1 with
  | .finite value => value
  | _ => Precision.double.zero false

/-- The double nearest to a product of doubles. -/
def times (first second : Finite) : Floating :=
  Precision.double.round (first.negative != second.negative)
    (first.fraction.1 * second.fraction.1) (first.fraction.2 * second.fraction.2)

/-- The double nearest to a quotient of doubles with a divisor other than zero. -/
def divide (first second : Finite) : Floating :=
  Precision.double.round (first.negative != second.negative)
    (first.fraction.1 * second.fraction.2) (first.fraction.2 * second.fraction.1)

/-- The double nearest to a power of ten. -/
def tenTo (exponent : Nat) : Finite :=
  match Precision.double.roundDecimal false 1 exponent with
  | .finite value => value
  | _ => Precision.double.zero false

end Finite

namespace Floating

/-- The double zero. -/
def zero : Floating :=
  .finite (Precision.double.zero false)

/-- Numerical equality: a value that is not a number differs from everything, itself included. -/
def equals : Floating → Floating → Bool
  | .finite first, .finite second => first.equals second
  | .infinite first, .infinite second => first == second
  | _, _ => false

end Floating

end Fault.Number
