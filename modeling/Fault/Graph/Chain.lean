import Fault.Graph.Links

/-!
# Chains

The chain of an error is a walk over the error and everything it wraps: depth first, an error
before its causes, and every identified error once, however many ways lead to it. Errors that were
seen are not entered again, so the walk ends on cyclic graphs too.
-/

namespace Fault.Graph

/-- The errors of a walk that has seen some errors and still has others to visit, the next one
first. -/
def walk
    (graph : Graph)
    (seen pending : List ErrorId) :
    List ErrorId :=
  match pending with
  | [] => []
  | identity :: rest =>
      if _ : graph.isIdentified identity then
        if _ : seen.contains identity then
          graph.walk seen rest
        else
          identity :: graph.walk (identity :: seen) (graph.causes identity ++ rest)
      else
        identity :: graph.walk seen rest
termination_by (graph.unseen seen, pending.length)
decreasing_by
  · exact Prod.Lex.right _ (by simp)
  · exact Prod.Lex.left _ _ (unseen_cons_lt (by assumption) (by simp_all))
  · exact Prod.Lex.right _ (by simp)

/-- The chain of an error, itself first. -/
def chain
    (graph : Graph)
    (start : ErrorId) :
    List ErrorId :=
  graph.walk [] [start]

/-- The first error of a chain that satisfies a test. -/
def find?
    (graph : Graph)
    (accepts : Node → Bool)
    (start : ErrorId) :
    Option ErrorId :=
  (graph.chain start).find? fun identity => (graph.get? identity).any accepts

/-- The first occurrence of a chain. -/
def firstOccurrence?
    (graph : Graph)
    (start : ErrorId) :
    Option Occurrence :=
  (graph.chain start).findSome? graph.occurrence?

/-- The first recovered panic of a chain. -/
def firstRecovered?
    (graph : Graph)
    (start : ErrorId) :
    Option ErrorId :=
  graph.find? (fun node => node.recovered?.isSome) start

end Fault.Graph

namespace Fault.Definition

/-- Whether a chain holds an occurrence of this definition or of one that shares its root. -/
def claims
    (definition : Definition)
    (graph : Graph)
    (start : ErrorId) :
    Bool :=
  (graph.chain start).any fun identity =>
    (graph.occurrence? identity).any fun occurrence =>
      definition.sameRoot occurrence.definition

/-- The answer of the first definition of a list that claims an error, or another answer. -/
def dispatch
    {α : Type}
    (graph : Graph)
    (start : ErrorId)
    (otherwise : α) :
    List (Definition × α) → α
  | [] => otherwise
  | (definition, result) :: rest =>
      if definition.claims graph start then result else dispatch graph start otherwise rest

end Fault.Definition

namespace Fault.Key

/-- The value of a key in the first occurrence of a chain. -/
def read?
    (key : Key)
    (graph : Graph)
    (start : ErrorId) :
    Option Value :=
  (graph.firstOccurrence? start).bind fun occurrence => occurrence.definition.fields.get? key

/-- The value of a key in a chain, or the zero value of the key. -/
def readOrZero
    (key : Key)
    (graph : Graph)
    (start : ErrorId) :
    Value :=
  (key.read? graph start).getD key.zero

/-- The value of a key in a chain, or another value. -/
def readOr
    (key : Key)
    (graph : Graph)
    (start : ErrorId)
    (default : Value) :
    Value :=
  (key.read? graph start).getD default

/-- The value of a key in a chain, or what a function makes of the error. -/
def readOrElse
    (key : Key)
    (graph : Graph)
    (start : ErrorId)
    (fallback : ErrorId → Value) :
    Value :=
  match key.read? graph start with
  | some value => value
  | none => fallback start

end Fault.Key
