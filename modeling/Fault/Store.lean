import Fault.Occurrence
import Fault.Builtin

/-!
# Stores

A store hands out the identities of a program: of its errors, its definitions and its keys. Keys are
numbered behind the common ones, whose identities are taken from the start.
-/

namespace Fault

/-- The errors of a program, and how many definitions and keys it has made. The common keys are not
counted. -/
structure Store where
  defaults : Defaults
  graph : Graph
  definitions : Nat
  keys : Nat

namespace Store

/-- The store of a program that has made nothing yet. -/
def initial (defaults : Defaults) : Store :=
  ⟨defaults, .empty, 0, 0⟩

/-- Add an error. -/
def add
    (store : Store)
    (node : Node) :
    ErrorId × Store :=
  let (identity, graph) := store.graph.add node
  (identity, { store with graph := graph })

/-- Make a key. -/
def makeKey
    (store : Store)
    (name : String)
    (type : ValueType) :
    Key × Store :=
  (.made store.keys name type, { store with keys := store.keys + 1 })

/-- Declare a root definition. -/
def declare
    (store : Store)
    (kind : Kind)
    (settings : List Setting) :
    Definition × Store :=
  (.declare store.defaults store.definitions kind settings,
    { store with definitions := store.definitions + 1 })

/-- Derive a definition by settings. -/
def derive
    (store : Store)
    (definition : Definition)
    (settings : List Setting) :
    Definition × Store :=
  (definition.derive store.defaults store.definitions settings,
    { store with definitions := store.definitions + 1 })

/-- Derive a definition by the settings of a context and then by its own. -/
def deriveIn
    (store : Store)
    (definition : Definition)
    (context : Context)
    (settings : List Setting) :
    Definition × Store :=
  (definition.deriveIn store.defaults store.definitions context settings,
    { store with definitions := store.definitions + 1 })

end Store

end Fault
