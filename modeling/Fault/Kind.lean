import Fault.Dump

/-!
# Kinds

A kind is the label that classifies the errors of a definition. It is a label only: two
definitions of one kind are still different definitions.
-/

namespace Fault

/-- The classification label of a definition. -/
structure Kind where
  label : String
  deriving DecidableEq, Repr

namespace Kind

/-- The empty kind, which no output shows. -/
def unset : Kind :=
  ⟨""⟩

/-- Whether a kind is the empty one. -/
def isUnset (kind : Kind) : Bool :=
  kind == unset

/-- The order of kinds is the order of their labels, character by character. -/
def order (first second : Kind) : Ordering :=
  compare first.label second.label

/-- The dump of a kind, on one line in both forms. -/
def dump (kind : Kind) : Dump :=
  .text ("Kind(" ++ Text.quote kind.label ++ ")")

end Kind

end Fault
