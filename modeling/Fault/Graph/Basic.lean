import Fault.Definition.Context
import Fault.Panic.Payload

/-!
# Error graphs

All errors of a program form a graph: occurrences of definitions, joined errors, recovered panics,
causes that were read from data, and foreign errors of any other origin. An error is referred to
by its identity in the graph, so that it can be shared between several errors, and a foreign error
may even lead back to one that contains it.

A foreign error without any data of its own is a marker. It has no identity, so it is never the
same as an error that was seen before.
-/

namespace Fault

/-- What an occurrence wraps. -/
inductive Cause where
  | none
  /-- One error, with the name of its type when the type was known at that time. -/
  | single (error : ErrorId) (typeName : Option String)
  /-- Several errors, gathered in a joined error. -/
  | joined (group : ErrorId)
  deriving DecidableEq, Repr

/-- Whether several errors were gathered. -/
def Cause.isJoined : Cause → Bool
  | .joined _ => true
  | _ => false

/-- One occurrence of a definition. -/
structure Occurrence where
  definition : Definition
  message : String
  cause : Cause
  stack : Stack

/-- A recovered panic: the payload until it is taken, and the error that the payload was. -/
structure Recovered where
  message : String
  payload : Option Payload
  error : Option ErrorId

/-- A cause read from data whose kind no definition claims. -/
structure Unclaimed where
  message : String
  typeName : Option String
  cause : Option ErrorId

/-- A piece of the text of a foreign error: literal, or a text of another error. -/
inductive ForeignPiece where
  | text (content : String)
  | error (verb : Verb) (identity : ErrorId)

/-- An error of any other origin, known by its texts and its source. -/
structure Foreign where
  typeName : String
  form : Verb → List ForeignPiece
  source : Option ErrorId

/-- A foreign error without data: its type, its message and its text for developers. -/
structure Marker where
  typeName : String
  message : String
  shown : String
  deriving DecidableEq, Repr

/-- An error of a graph. -/
inductive Node where
  | occurrence (occurrence : Occurrence)
  | joined (members : List ErrorId)
  | recovered (panic : Recovered)
  | unclaimed (cause : Unclaimed)
  | foreign (error : Foreign)
  | marker (error : Marker)

namespace Node

/-- The name of the type of an error. -/
def typeName : Node → String
  | .occurrence _ => "errdef::error::Error"
  | .joined _ => "errdef::chain::Joined"
  | .recovered _ => "errdef::panic::PanicError"
  | .unclaimed _ => "errdef::resolver::DecodedCause"
  | .foreign error => error.typeName
  | .marker error => error.typeName

/-- The occurrence that an error is. -/
def occurrence? : Node → Option Occurrence
  | .occurrence found => some found
  | _ => none

/-- The recovered panic that an error is. -/
def recovered? : Node → Option Recovered
  | .recovered panic => some panic
  | _ => none

/-- Whether an error is a marker. -/
def isMarker : Node → Bool
  | .marker _ => true
  | _ => false

end Node

/-- The errors of a program, by identity. -/
structure Graph where
  nodes : Array Node

namespace Graph

/-- The graph without errors. -/
def empty : Graph :=
  ⟨#[]⟩

/-- The number of errors. -/
def size (graph : Graph) : Nat :=
  graph.nodes.size

/-- The error of an identity. -/
def get?
    (graph : Graph)
    (identity : ErrorId) :
    Option Node :=
  graph.nodes[identity.index]?

/-- Add an error under a new identity. -/
def add
    (graph : Graph)
    (node : Node) :
    ErrorId × Graph :=
  (⟨graph.size⟩, ⟨graph.nodes.push node⟩)

/-- The occurrence of an identity. -/
def occurrence?
    (graph : Graph)
    (identity : ErrorId) :
    Option Occurrence :=
  (graph.get? identity).bind Node.occurrence?

/-- The recovered panic of an identity. -/
def recovered?
    (graph : Graph)
    (identity : ErrorId) :
    Option Recovered :=
  (graph.get? identity).bind Node.recovered?

/-- The members of a joined error. -/
def members
    (graph : Graph)
    (identity : ErrorId) :
    List ErrorId :=
  match graph.get? identity with
  | some (.joined members) => members
  | _ => []

/-- Replace the error of an identity. -/
def replace
    (graph : Graph)
    (identity : ErrorId)
    (node : Node) :
    Graph :=
  ⟨graph.nodes.setIfInBounds identity.index node⟩

/-- Give a foreign error its source, unless it has one; whether it was given. -/
def setSource
    (graph : Graph)
    (identity source : ErrorId) :
    Bool × Graph :=
  match graph.get? identity with
  | some (.foreign error) =>
      match error.source with
      | none => (true, graph.replace identity (.foreign { error with source := some source }))
      | some _ => (false, graph)
  | _ => (false, graph)

/-- Take the payload out of a recovered panic; nothing is left for the next one. -/
def takePayload
    (graph : Graph)
    (identity : ErrorId) :
    Option Payload × Graph :=
  match graph.recovered? identity with
  | some panic =>
      (panic.payload, graph.replace identity (.recovered { panic with payload := none }))
  | none => (none, graph)

end Graph

end Fault
