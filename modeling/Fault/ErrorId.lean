/-!
# Identities of errors

An error is referred to by its place in a graph.
-/

namespace Fault

/-- The identity of an error in its graph. -/
structure ErrorId where
  index : Nat
  deriving DecidableEq, Repr

end Fault
