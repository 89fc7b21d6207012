import Fault.Text.Integer

/-!
# Durations

A duration of whole seconds and nanoseconds below one second. Its text uses the largest unit that
is not zero, with the rest as decimal places without zeros at their end.
-/

namespace Fault

open Fault.Text (natural showNat)

/-- A span of time. -/
structure Duration where
  seconds : Nat
  nanoseconds : Nat
  deriving DecidableEq, Repr

namespace Duration

/-- The empty span. -/
def zero : Duration :=
  ⟨0, 0⟩

/-- The nanoseconds of a second. -/
def second : Nat :=
  1000000000

/-- The duration of seconds and any number of nanoseconds, whole seconds of which are carried;
none when the seconds no longer fit 64 bits. -/
def ofParts? (seconds nanoseconds : Nat) : Option Duration :=
  let carried := seconds + nanoseconds / second
  if carried < UInt64.size then some ⟨carried, nanoseconds % second⟩ else none

/-- A whole number and decimal places of a given count, the latter without zeros at their end. -/
def decimal (whole part places : Nat) : String :=
  let digits := natural part
  let padded := List.replicate (places - digits.length) '0' ++ digits
  let kept := (padded.reverse.dropWhile (· == '0')).reverse
  showNat whole ++ if kept.isEmpty then "" else "." ++ String.ofList kept

/-- The text of a duration. -/
def text (duration : Duration) : String :=
  let nanoseconds := duration.nanoseconds
  if 0 < duration.seconds then
    decimal duration.seconds nanoseconds 9 ++ "s"
  else if 1000000 ≤ nanoseconds then
    decimal (nanoseconds / 1000000) (nanoseconds % 1000000) 6 ++ "ms"
  else if 1000 ≤ nanoseconds then
    decimal (nanoseconds / 1000) (nanoseconds % 1000) 3 ++ "µs"
  else
    showNat nanoseconds ++ "ns"

end Duration

end Fault
