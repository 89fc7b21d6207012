import Fault.Proofs.DraftGrowth
import Fault.Proofs.Likeness

/-!
# Claims, step by step

A definition claims an error when an occurrence of its family is the error itself or is held behind
it, with no boundary on the way. So what a definition claims of a new occurrence is settled by the
definition of the occurrence and by the errors that the occurrence holds, and these are claimed as
before, because nothing that is created later changes what lies behind an error.
-/

namespace Fault.Graph

open Relation

/-! ## Holding errors -/

/-- The errors that a cause holds; of several causes it holds each one, not the joined error that
gathers them. -/
def held (graph : Graph) : Cause → List ErrorId
  | .none => []
  | .single error _ => [error]
  | .joined group => graph.members group

/-- The errors that an error holds, whether it shows them or not. -/
def heldBy
    (graph : Graph)
    (identity : ErrorId) :
    List ErrorId :=
  match graph.get? identity with
  | some (.occurrence error) => graph.held error.cause
  | some (.joined members) => members
  | some (.recovered panic) => panic.error.toList
  | some (.unclaimed cause) => cause.cause.toList
  | some (.foreign error) => error.source.toList
  | some (.marker _) => []
  | none => []

/-- Whether an error is an occurrence of a boundary definition. -/
def isBoundary
    (graph : Graph)
    (identity : ErrorId) :
    Bool :=
  (graph.occurrence? identity).any fun error => error.definition.isBoundary

/-- Whether an error holds another one and is no boundary. -/
def PassesTo
    (graph : Graph)
    (error cause : ErrorId) :
    Prop :=
  graph.isBoundary error = false ∧ cause ∈ graph.heldBy error

/-- An occurrence that is no boundary links to the errors that its cause holds. -/
theorem map_target_occurrenceLinks
    (graph : Graph)
    (error : Occurrence) :
    (graph.occurrenceLinks error).map Link.target =
      if error.definition.isBoundary then [] else graph.held error.cause := by
  unfold occurrenceLinks held
  cases error.definition.isBoundary with
  | true =>
      rfl
  | false =>
      cases error.cause with
      | none =>
          rfl
      | single target typeName =>
          rfl
      | joined group =>
          simp [Link.untyped, Function.comp_def]

/-- The causes of an error are those that it holds, unless its definition is a boundary. -/
theorem causes_eq_heldBy
    (graph : Graph)
    (identity : ErrorId) :
    graph.causes identity = if graph.isBoundary identity then [] else graph.heldBy identity := by
  unfold causes links heldBy isBoundary occurrence?
  cases graph.get? identity with
  | none =>
      rfl
  | some node =>
      cases node with
      | occurrence error =>
          exact graph.map_target_occurrenceLinks error
      | _ =>
          simp [Node.occurrence?, Link.untyped, Function.comp_def]

/-- The links of an error lead to what it holds, unless it is a boundary. -/
theorem linksTo_iff_passesTo
    {graph : Graph}
    {error cause : ErrorId} :
    graph.LinksTo error cause ↔ graph.PassesTo error cause := by
  unfold LinksTo PassesTo
  rw [causes_eq_heldBy]
  cases graph.isBoundary error with
  | true =>
      simp
  | false =>
      simp

/-- To reach an error is to pass from one to the next, past no boundary. -/
theorem reaches_iff_passesTo
    {graph : Graph}
    {error behind : ErrorId} :
    graph.Reaches error behind ↔ ReflTransGen graph.PassesTo error behind := by
  have same : graph.LinksTo = graph.PassesTo := by
    funext error cause
    exact propext linksTo_iff_passesTo
  rw [Reaches, same]

/-! ## Claims -/

/-- A definition claims an error exactly when one of its family can be reached. -/
theorem claims_iff
    {graph : Graph}
    {definition : Definition}
    {start : ErrorId} :
    definition.claims graph start = true ↔
      ∃ behind error,
        graph.Reaches start behind ∧
          graph.occurrence? behind = some error ∧
          definition.sameRoot error.definition = true := by
  unfold Definition.claims
  rw [List.any_eq_true]
  constructor
  · intro claimed
    obtain ⟨behind, member, accepted⟩ := claimed
    obtain ⟨error, found, family⟩ := (Option.any_eq_true _ _).mp accepted
    exact ⟨behind, error, mem_chain_iff.mp member, found, family⟩
  · intro shown
    obtain ⟨behind, error, reached, found, family⟩ := shown
    refine ⟨behind, mem_chain_iff.mpr reached, ?_⟩
    rw [found, Option.any_some]
    exact family

/-- A definition claims an error that is an occurrence of its family, or of which it claims a
cause. -/
theorem claims_iff_exists_cause
    {graph : Graph}
    {definition : Definition}
    {start : ErrorId} :
    definition.claims graph start = true ↔
      (∃ error,
        graph.occurrence? start = some error ∧ definition.sameRoot error.definition = true) ∨
      ∃ cause, graph.LinksTo start cause ∧ definition.claims graph cause = true := by
  constructor
  · intro claimed
    obtain ⟨behind, error, reached, found, family⟩ := claims_iff.mp claimed
    rcases ReflTransGen.cases_head reached with same | ⟨cause, linked, further⟩
    · subst behind
      exact .inl ⟨error, found, family⟩
    · exact .inr ⟨cause, linked, claims_iff.mpr ⟨behind, error, further, found, family⟩⟩
  · intro shown
    rcases shown with ⟨error, found, family⟩ | ⟨cause, linked, claimed⟩
    · exact claims_iff.mpr ⟨start, error, .refl, found, family⟩
    · obtain ⟨behind, error, reached, found, family⟩ := claims_iff.mp claimed
      exact claims_iff.mpr ⟨behind, error, .head linked reached, found, family⟩

/-- A definition claims an occurrence of its family, and one that is no boundary and holds an error
that the definition claims. -/
theorem claims_of_occurrence
    {graph : Graph}
    {identity : ErrorId}
    {error : Occurrence}
    (found : graph.get? identity = some (.occurrence error))
    (definition : Definition) :
    definition.claims graph identity = true ↔
      definition.sameRoot error.definition = true ∨
        error.definition.isBoundary = false ∧
          ∃ other ∈ graph.held error.cause, definition.claims graph other = true := by
  have isOccurrence : graph.occurrence? identity = some error := by
    rw [occurrence?, found]
    rfl
  have boundary : graph.isBoundary identity = error.definition.isBoundary := by
    rw [isBoundary, isOccurrence]
    rfl
  have heldErrors : graph.heldBy identity = graph.held error.cause := by
    rw [heldBy, found]
  rw [claims_iff_exists_cause, isOccurrence]
  simp only [linksTo_iff_passesTo, PassesTo, boundary, heldErrors]
  constructor
  · intro claimed
    rcases claimed with ⟨other, same, family⟩ | ⟨other, ⟨isOpen, member⟩, claimed⟩
    · cases same
      exact .inl family
    · exact .inr ⟨isOpen, other, member, claimed⟩
  · intro shown
    rcases shown with family | ⟨isOpen, other, member, claimed⟩
    · exact .inl ⟨error, rfl, family⟩
    · exact .inr ⟨other, ⟨isOpen, member⟩, claimed⟩

/-! ## New errors -/

/-- A graph that grows looks as before from the errors that it had. -/
theorem IsClosed.looksLike_of_growsTo
    {graph grown : Graph}
    (closed : graph.IsClosed)
    (grows : graph.GrowsTo grown) :
    graph.LooksLike (fun identity => identity.index < graph.size) grown where
  nodes identity inGraph := by
    have found : graph.get? identity = some graph.nodes[identity.index] :=
      Array.getElem?_eq_getElem inGraph
    rw [grows identity _ found, found]
    exact .some (.refl _)
  closed _ _ _ _ found exposed :=
    closed.index_lt_size found exposed
  fields_eq identity error other _ found otherFound _ := by
    have kept := grows identity _ found
    rw [otherFound, Option.some.injEq, Node.occurrence.injEq] at kept
    rw [kept]

/-- An identity outside the graph has no causes. -/
theorem causes_eq_nil_of_size_le
    {graph : Graph}
    {identity : ErrorId}
    (outside : graph.size ≤ identity.index) :
    graph.causes identity = [] := by
  have absent : graph.get? identity = none := Array.getElem?_eq_none outside
  simp [causes, links, absent]

/-- In a closed graph the causes of errors are errors of the graph. -/
theorem IsClosed.index_lt_size_of_mem_causes
    {graph : Graph}
    (closed : graph.IsClosed)
    {identity cause : ErrorId}
    (isCause : cause ∈ graph.causes identity) :
    cause.index < graph.size := by
  by_cases inGraph : identity.index < graph.size
  · exact (closed.looksLike_of_growsTo (.refl graph)).inside_of_linksTo inGraph isCause
  · rw [causes_eq_nil_of_size_le (Nat.le_of_not_lt inGraph)] at isCause
    cases isCause

/-- What is claimed of an error stays so when the graph grows. -/
theorem claims_eq_of_growsTo
    {graph grown : Graph}
    (closed : graph.IsClosed)
    (grows : graph.GrowsTo grown)
    {error : ErrorId}
    (inGraph : error.index < graph.size)
    (definition : Definition) :
    definition.claims grown error = definition.claims graph error := by
  have alike := closed.looksLike_of_growsTo grows
  exact (alike.claims_eq inGraph definition).symm

/-- An error that is raised is found under its identity. -/
theorem get?_raise
    (graph : Graph)
    (occasion : Occasion)
    (message : String)
    (cause : Cause) :
    (graph.raise occasion message cause).2.get? (graph.raise occasion message cause).1 =
      some (.occurrence ⟨occasion.definition, message, cause, occasion.stack⟩) :=
  graph.get?_add _

/-- A definition claims a wrapped error when it is of the family of the wrapper, or when the wrapper
is no boundary and the definition claims the error that was wrapped. -/
theorem claims_wrapWith
    {graph : Graph}
    (closed : graph.IsClosed)
    (occasion : Occasion)
    (message : String)
    {handle : Handle}
    (inGraph : handle.error.index < graph.size)
    (definition : Definition) :
    definition.claims (graph.wrapWith occasion message handle).2
        (graph.wrapWith occasion message handle).1 = true ↔
      definition.sameRoot occasion.definition = true ∨
        occasion.definition.isBoundary = false ∧
          definition.claims graph handle.error = true := by
  have grows : graph.GrowsTo (graph.wrapWith occasion message handle).2 :=
    graph.growsTo_add _
  have found := graph.get?_raise occasion message (graph.causeOf handle)
  rw [← claims_eq_of_growsTo closed grows inGraph]
  refine (claims_of_occurrence found definition).trans ?_
  simp only [causeOf, held, List.mem_singleton, exists_eq_left]
  rfl

/-- Joined errors are gathered first and wrapped then. -/
theorem join?_of_ne_nil
    (graph : Graph)
    (occasion : Occasion)
    {members : List ErrorId}
    (nonempty : members ≠ []) :
    graph.join? occasion members =
      some
        ((graph.add (.joined members)).2.raise occasion
          ((graph.add (.joined members)).2.message (graph.add (.joined members)).1)
          (.joined (graph.add (.joined members)).1)) := by
  have someMembers : members.isEmpty = false := by
    simpa using nonempty
  simp only [join?, gather?, someMembers]
  rfl

/-- Errors can be joined when there are any, and a definition claims the joined errors when it is of
the family of the wrapper, or when the wrapper is no boundary and the definition claims one of
them. -/
theorem exists_join?
    {graph : Graph}
    (closed : graph.IsClosed)
    (occasion : Occasion)
    {members : List ErrorId}
    (nonempty : members ≠ [])
    (inGraph : ∀ member ∈ members, member.index < graph.size) :
    ∃ error grown,
      graph.join? occasion members = some (error, grown) ∧
        ∀ definition : Definition,
          definition.claims grown error = true ↔
            definition.sameRoot occasion.definition = true ∨
              occasion.definition.isBoundary = false ∧
                ∃ member ∈ members, definition.claims graph member = true := by
  let gathered := graph.add (.joined members)
  let raised := gathered.2.raise occasion (gathered.2.message gathered.1) (.joined gathered.1)
  have created : graph.join? occasion members = some (raised.1, raised.2) :=
    graph.join?_of_ne_nil occasion nonempty
  -- The joined error stands between the occurrence and the members, but no link leads to it.
  have growsToRaised : gathered.2.GrowsTo raised.2 :=
    gathered.2.growsTo_add _
  have grows : graph.GrowsTo raised.2 :=
    (graph.growsTo_add (.joined members)).trans growsToRaised
  have heldErrors : raised.2.held (.joined gathered.1) = members := by
    have found : raised.2.get? gathered.1 = some (.joined members) :=
      growsToRaised _ _ (graph.get?_add (.joined members))
    simp [held, Graph.members, found]
  refine ⟨raised.1, raised.2, created, fun definition => ?_⟩
  have found :=
    gathered.2.get?_raise occasion (gathered.2.message gathered.1) (.joined gathered.1)
  have sameClaims :
      (∃ error ∈ raised.2.held (.joined gathered.1), definition.claims raised.2 error = true) ↔
        ∃ member ∈ members, definition.claims graph member = true := by
    rw [heldErrors]
    apply exists_congr
    intro member
    apply and_congr_right
    intro isMember
    rw [claims_eq_of_growsTo closed grows (inGraph member isMember)]
  exact (claims_of_occurrence found definition).trans
    (or_congr_right (and_congr_right fun _ => sameClaims))

end Fault.Graph
