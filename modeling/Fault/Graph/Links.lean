import Fault.Graph.Basic

/-!
# Links

The links of an error lead to its direct causes. A joined error links to its members, and an
occurrence with several causes links to the members of its joined error, not to the joined error
itself. An occurrence of a boundary definition has no links at all.
-/

namespace Fault

/-- A step from an error to a cause, with the name of the cause's type when it was known. -/
structure Link where
  target : ErrorId
  typeName : Option String
  deriving DecidableEq, Repr

/-- A link that knows no type. -/
def Link.untyped (target : ErrorId) : Link :=
  ⟨target, none⟩

namespace Graph

/-- The links of an occurrence. -/
def occurrenceLinks
    (graph : Graph)
    (occurrence : Occurrence) :
    List Link :=
  if occurrence.definition.isBoundary then
    []
  else
    match occurrence.cause with
    | .none => []
    | .single error typeName => [⟨error, typeName⟩]
    | .joined group => (graph.members group).map Link.untyped

/-- The links of an error, in order. -/
def links
    (graph : Graph)
    (identity : ErrorId) :
    List Link :=
  match graph.get? identity with
  | some (.occurrence occurrence) => graph.occurrenceLinks occurrence
  | some (.joined members) => members.map Link.untyped
  | some (.recovered panic) => panic.error.toList.map Link.untyped
  | some (.unclaimed cause) => cause.cause.toList.map Link.untyped
  | some (.foreign error) => error.source.toList.map Link.untyped
  | some (.marker _) => []
  | none => []

/-- The direct causes of an error. -/
def causes
    (graph : Graph)
    (identity : ErrorId) :
    List ErrorId :=
  (graph.links identity).map Link.target

/-- The one error that an error names as its source: of an occurrence with several causes it is
the joined error, and a joined error names none. -/
def source?
    (graph : Graph)
    (identity : ErrorId) :
    Option ErrorId :=
  match graph.get? identity with
  | some (.occurrence occurrence) =>
      if occurrence.definition.isBoundary then
        none
      else
        match occurrence.cause with
        | .none => none
        | .single error _ => some error
        | .joined group => some group
  | some (.recovered panic) => panic.error
  | some (.unclaimed cause) => cause.cause
  | some (.foreign error) => error.source
  | _ => none

/-- Whether an error has an identity that a walk can recognise: markers have none. -/
def isIdentified
    (graph : Graph)
    (identity : ErrorId) :
    Bool :=
  match graph.get? identity with
  | some node => !node.isMarker
  | none => false

/-- The number of errors outside a list; walks go on only while it shrinks. -/
def unseen
    (graph : Graph)
    (seen : List ErrorId) :
    Nat :=
  (List.range graph.size).countP fun index => !seen.contains ⟨index⟩

/-- An identified error stands in the graph. -/
theorem index_lt_size
    {graph : Graph}
    {identity : ErrorId}
    (identified : graph.isIdentified identity = true) :
    identity.index < graph.size := by
  unfold isIdentified get? at identified
  cases found : graph.nodes[identity.index]? with
  | none => simp [found] at identified
  | some node =>
      have inBounds := Array.getElem?_eq_some_iff.mp found
      exact inBounds.1

/-- Seeing one more error of a range leaves fewer of the range unseen. -/
private theorem countP_unseen_lt
    (seen : List ErrorId)
    (identity : ErrorId)
    (new : seen.contains identity = false)
    (indices : List Nat)
    (present : identity.index ∈ indices) :
    indices.countP (fun index => !(identity :: seen).contains ⟨index⟩) <
      indices.countP (fun index => !seen.contains ⟨index⟩) := by
  have weaker :
      ∀ rest : List Nat,
        rest.countP (fun index => !(identity :: seen).contains ⟨index⟩) ≤
          rest.countP (fun index => !seen.contains ⟨index⟩) := by
    intro rest
    apply List.countP_mono_left
    intro index _ outside
    simp_all
  induction indices with
  | nil => simp at present
  | cons index rest inductionHypothesis =>
      by_cases isHead : identity.index = index
      · have headSeen : (identity :: seen).contains (⟨index⟩ : ErrorId) = true := by
          simp [← isHead]
        have headUnseen : seen.contains (⟨index⟩ : ErrorId) = false := by
          simpa [← isHead] using new
        have restShrinks := weaker rest
        simp only [List.countP_cons, headSeen, headUnseen, Bool.not_true, Bool.not_false,
          Bool.false_eq_true, if_false, if_true]
        omega
      · have inRest : identity.index ∈ rest := by
          cases present with
          | head => exact absurd rfl isHead
          | tail _ later => exact later
        have shrinks := inductionHypothesis inRest
        have headSame :
            (identity :: seen).contains (⟨index⟩ : ErrorId) = seen.contains ⟨index⟩ := by
          have differs : (⟨index⟩ : ErrorId) ≠ identity := by
            intro same
            exact isHead (by rw [← same])
          simp [differs]
        simp only [List.countP_cons, headSame]
        omega

/-- Seeing one more identified error leaves fewer errors unseen. -/
theorem unseen_cons_lt
    {graph : Graph}
    {seen : List ErrorId}
    {identity : ErrorId}
    (identified : graph.isIdentified identity = true)
    (new : seen.contains identity = false) :
    graph.unseen (identity :: seen) < graph.unseen seen :=
  countP_unseen_lt seen identity new _
    (List.mem_range.mpr (index_lt_size identified))

end Graph

end Fault
