/-!
# Whole numbers in text

Decimal digits of whole numbers, and the reading of a number that may carry a sign.
-/

namespace Fault.Text

/-- The decimal digits of a natural number. -/
def natural (number : Nat) : List Char :=
  Nat.toDigits 10 number

/-- An integer in decimal, a minus before the negative ones. -/
def integer (number : Int) : List Char :=
  if number < 0 then '-' :: natural number.natAbs else natural number.natAbs

/-- A natural number as a string. -/
def showNat (number : Nat) : String :=
  String.ofList (natural number)

/-- An integer as a string. -/
def showInt (number : Int) : String :=
  String.ofList (integer number)

/-- Whether a character is a decimal digit of ASCII. -/
def isDigit (character : Char) : Bool :=
  '0' ≤ character && character ≤ '9'

/-- The value of a decimal digit. -/
def digitValue (character : Char) : Nat :=
  character.toNat - '0'.toNat

/-- The value of a run of digits, most significant first. -/
def digitsValue (digits : List Char) : Nat :=
  digits.foldl (fun total digit => total * 10 + digitValue digit) 0

/-- The value of a text that holds digits only, and at least one of them. -/
def readNatural? (text : List Char) : Option Nat :=
  if text.isEmpty || !text.all isDigit then none else some (digitsValue text)

/-- The value of a text that holds digits behind at most one sign. -/
def readInteger? : List Char → Option Int
  | '-' :: digits => (readNatural? digits).map fun value => -(value : Int)
  | '+' :: digits => (readNatural? digits).map fun value => (value : Int)
  | digits => (readNatural? digits).map fun value => (value : Int)

end Fault.Text
