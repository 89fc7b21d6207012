import Fault.Dump
import Fault.Json.Basic

/-!
# Redacted values

A redacted value is available to code and to comparisons, but none of its written forms depends on
it: text, dump and JSON show the same mask whatever is hidden.
-/

namespace Fault

/-- A value that never reaches any output. -/
structure Redacted (α : Type) where
  value : α
  deriving DecidableEq

namespace Redacted

variable {α : Type}

/-- What is written in place of a redacted value. -/
def mask : String :=
  "[REDACTED]"

/-- The text of a redacted value. -/
def text (_ : Redacted α) : String :=
  mask

/-- The dump of a redacted value. -/
def dump (_ : Redacted α) : Dump :=
  .text mask

/-- The JSON form of a redacted value. -/
def toJson (_ : Redacted α) : Json :=
  .text mask

end Redacted

end Fault
