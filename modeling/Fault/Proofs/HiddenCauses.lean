import Fault.Graph.Foreign
import Fault.Proofs.LikeOutputs

/-!
# Boundaries are opaque

An occurrence of a boundary definition stores a cause and shows it to nobody. Two graphs that differ
in the cause of such an occurrence, and in errors that only this cause leads to, cannot be told
apart from any error that both have: not by its chain and its tree, not by a look-up in the chain,
not by a field, and not by an output.
-/

namespace Fault

/-- An occurrence with another cause. -/
def Occurrence.withCause
    (error : Occurrence)
    (cause : Cause) :
    Occurrence :=
  { error with cause := cause }

namespace Graph

/-- A graph with some more errors, in which an occurrence stores another cause. The cause may be any
error, old or new, or any joined error. -/
def withCause
    (graph : Graph)
    (added : Array Node)
    (identity : ErrorId)
    (error : Occurrence)
    (cause : Cause) :
    Graph :=
  (⟨graph.nodes ++ added⟩ : Graph).replace identity (.occurrence (error.withCause cause))

/-- Only the owner of the exchanged cause is another error than before. -/
theorem get?_withCause
    (graph : Graph)
    (added : Array Node)
    (owner : ErrorId)
    (error : Occurrence)
    (cause : Cause)
    {identity : ErrorId}
    (inGraph : identity.index < graph.size) :
    (graph.withCause added owner error cause).get? identity =
      if identity = owner then some (.occurrence (error.withCause cause))
      else graph.get? identity := by
  have inBounds : identity.index < graph.nodes.size :=
    inGraph
  by_cases isOwner : identity = owner
  · subst owner
    have inLonger : identity.index < (graph.nodes ++ added).size := by
      rw [Array.size_append]
      omega
    simp only [withCause, replace, get?, if_true]
    exact Array.getElem?_setIfInBounds_self_of_lt inLonger
  · have otherIndex : owner.index ≠ identity.index := by
      intro same
      apply isOwner
      cases owner
      cases identity
      simpa using same.symm
    simp only [withCause, replace, get?, if_neg isOwner]
    rw [Array.getElem?_setIfInBounds_ne otherIndex, Array.getElem?_append_left inBounds]

section

variable {graph : Graph} {added : Array Node} {owner : ErrorId} {error : Occurrence} {cause : Cause}

/-- Under an identity of the graph the two graphs have the same error, or the occurrence with its
two causes. -/
theorem get?_withCause_cases
    (added : Array Node)
    (cause : Cause)
    (found : graph.occurrence? owner = some error)
    {identity : ErrorId}
    (inGraph : identity.index < graph.size) :
    (graph.withCause added owner error cause).get? identity = graph.get? identity ∨
      (graph.get? identity = some (.occurrence error) ∧
        (graph.withCause added owner error cause).get? identity =
          some (.occurrence (error.withCause cause))) := by
  rw [get?_withCause graph added owner error cause inGraph]
  by_cases isOwner : identity = owner
  · subst owner
    exact .inr ⟨get?_of_occurrence?_eq_some found, if_pos rfl⟩
  · exact .inl (if_neg isOwner)

/-- The definitions of all errors are the same with another cause. -/
theorem definition_withCause
    (added : Array Node)
    (cause : Cause)
    (found : graph.occurrence? owner = some error)
    {identity : ErrorId}
    (inGraph : identity.index < graph.size) :
    ((graph.withCause added owner error cause).occurrence? identity).map Occurrence.definition =
      (graph.occurrence? identity).map Occurrence.definition := by
  unfold Graph.occurrence?
  rcases get?_withCause_cases added cause found inGraph with same | ⟨present, otherPresent⟩
  · rw [same]
  · rw [present, otherPresent]
    rfl

/-- The two graphs look alike on all errors that both have. -/
theorem looksLike_withCause
    (closed : graph.IsClosed)
    (found : graph.occurrence? owner = some error)
    (boundary : error.definition.isBoundary = true) :
    graph.LooksLike (fun identity => identity.index < graph.size)
      (graph.withCause added owner error cause) where
  nodes identity inGraph := by
    rcases get?_withCause_cases added cause found inGraph with same | ⟨present, otherPresent⟩
    · rw [same]
      exact rel_refl Node.LooksLike.refl (graph.get? identity)
    · have sameButCause : error.LooksLike (error.withCause cause) :=
        ⟨.refl error.definition, rfl, rfl, fun isOpen => by simp [boundary] at isOpen⟩
      rw [present, otherPresent]
      exact .some (.occurrence sameButCause)
  closed _ _ _ _ present exposed :=
    closed.index_lt_size present exposed
  fields_eq identity first second inGraph present otherPresent _ := by
    have sameDefinition := definition_withCause added cause found inGraph
    rw [occurrence?, occurrence?, present, otherPresent] at sameDefinition
    rw [Option.some.inj sameDefinition]

/-- To look through the same items for the same things finds the same. -/
private theorem findSome?_eq
    {α β : Type}
    {items : List α}
    {find otherFind : α → Option β}
    (same : ∀ item ∈ items, find item = otherFind item) :
    items.findSome? find = items.findSome? otherFind := by
  induction items with
  | nil =>
      rfl
  | cons item rest inductionHypothesis =>
      obtain ⟨head, others⟩ := List.forall_mem_cons.mp same
      rw [List.findSome?_cons, List.findSome?_cons, head, inductionHypothesis others]

/-- The first occurrences of a chain in the two graphs have the same definition, and with it the
same fields. -/
theorem firstDefinition_withCause
    (closed : graph.IsClosed)
    (found : graph.occurrence? owner = some error)
    (boundary : error.definition.isBoundary = true)
    {start : ErrorId}
    (inGraph : start.index < graph.size) :
    (graph.firstOccurrence? start).map Occurrence.definition =
      ((graph.withCause added owner error cause).firstOccurrence? start).map
        Occurrence.definition := by
  have alike : graph.LooksLike _ (graph.withCause added owner error cause) :=
    looksLike_withCause closed found boundary
  rw [firstOccurrence?, firstOccurrence?, ← alike.chain_eq inGraph, List.map_findSome?,
    List.map_findSome?]
  apply findSome?_eq
  intro identity member
  exact (definition_withCause added cause found (alike.inside_of_mem_chain inGraph member)).symm

/-- Every field is read as before, wherever the reading starts. -/
theorem read?_withCause
    (closed : graph.IsClosed)
    (found : graph.occurrence? owner = some error)
    (boundary : error.definition.isBoundary = true)
    {start : ErrorId}
    (inGraph : start.index < graph.size)
    (key : Key) :
    key.read? graph start = key.read? (graph.withCause added owner error cause) start := by
  have throughDefinition :
      ∀ other : Graph,
        key.read? other start =
          ((other.firstOccurrence? start).map Occurrence.definition).bind
            fun definition => definition.fields.get? key := by
    intro other
    rw [Key.read?, Option.bind_map]
    rfl
  rw [throughDefinition, throughDefinition, firstDefinition_withCause closed found boundary inGraph]

/-- A search that does not look at stored causes finds the same. -/
theorem find?_withCause
    (closed : graph.IsClosed)
    (found : graph.occurrence? owner = some error)
    (boundary : error.definition.isBoundary = true)
    {accepts : Node → Bool}
    (overlooks :
      ∀ occurrence other,
        accepts (.occurrence occurrence) = accepts (.occurrence (occurrence.withCause other)))
    {start : ErrorId}
    (inGraph : start.index < graph.size) :
    graph.find? accepts start = (graph.withCause added owner error cause).find? accepts start := by
  have alike : graph.LooksLike _ (graph.withCause added owner error cause) :=
    looksLike_withCause closed found boundary
  apply alike.find?_eq inGraph
  intro identity node other isInside present otherPresent
  rcases get?_withCause_cases added cause found isInside with sameNode | ⟨owned, otherOwned⟩
  · rw [sameNode, present, Option.some.injEq] at otherPresent
    rw [otherPresent]
  · rw [owned, Option.some.injEq] at present
    rw [otherOwned, Option.some.injEq] at otherPresent
    rw [← present, ← otherPresent]
    exact overlooks error cause

end

/-- The cause that an occurrence of a boundary definition stores cannot be observed from any error:
whichever other cause it stores, every error has the same outputs, finds the same errors in its
chain, and reads the same fields. A search must not ask the occurrence what it stores, because the
occurrence itself knows whether that is several errors. -/
theorem boundary_hides_cause
    {graph : Graph}
    {owner : ErrorId}
    {error : Occurrence}
    (closed : graph.IsClosed)
    (found : graph.occurrence? owner = some error)
    (boundary : error.definition.isBoundary = true)
    (added : Array Node)
    (cause : Cause)
    (observer : ErrorId)
    (inGraph : observer.index < graph.size) :
    graph.SameOutputs (graph.withCause added owner error cause) observer ∧
      (∀ target : ErrorId,
        target.index < graph.size →
        graph.isIn target observer =
          (graph.withCause added owner error cause).isIn target observer) ∧
      (∀ accepts : Node → Bool,
        (∀ occurrence other,
          accepts (.occurrence occurrence) = accepts (.occurrence (occurrence.withCause other))) →
        graph.find? accepts observer =
          (graph.withCause added owner error cause).find? accepts observer) ∧
      ∀ key : Key,
        key.read? graph observer =
            key.read? (graph.withCause added owner error cause) observer ∧
          key.readOrZero graph observer =
            key.readOrZero (graph.withCause added owner error cause) observer ∧
          (∀ default,
            key.readOr graph observer default =
              key.readOr (graph.withCause added owner error cause) observer default) ∧
          ∀ fallback,
            key.readOrElse graph observer fallback =
              key.readOrElse (graph.withCause added owner error cause) observer fallback := by
  have alike : graph.LooksLike _ (graph.withCause added owner error cause) :=
    looksLike_withCause closed found boundary
  refine ⟨alike.sameOutputs inGraph, fun target targetInGraph => ?_, fun accepts overlooks => ?_,
    fun key => ?_⟩
  · exact alike.isIn_eq inGraph targetInGraph
  · exact find?_withCause closed found boundary overlooks inGraph
  · have read :
        key.read? graph observer =
          key.read? (graph.withCause added owner error cause) observer :=
      read?_withCause closed found boundary inGraph key
    refine ⟨read, ?_, fun default => ?_, fun fallback => ?_⟩
    · rw [Key.readOrZero, Key.readOrZero, read]
    · rw [Key.readOr, Key.readOr, read]
    · rw [Key.readOrElse, Key.readOrElse, read]

/-- A definition whose errors hide their causes. -/
def edgeDefinition : Definition :=
  .declare .standard 0 ⟨"edge"⟩ [.noTrace, .boundary]

/-- An occurrence that hides a foreign error. -/
def edgeError : Occurrence :=
  ⟨edgeDefinition, "refused", .single ⟨0⟩ none, []⟩

/-- An occurrence of a boundary definition behind a foreign error that tells of it, and another one
that leads to both. -/
def edgeGraph : Graph where
  nodes :=
    #[.foreign (Foreign.saying "Plain" "secret" "Plain(\"secret\")"),
      .occurrence edgeError,
      .foreign (Foreign.enclosing "Outer" "outer" ⟨1⟩),
      .joined [⟨2⟩, ⟨1⟩],
      .occurrence ⟨.declare .standard 1 ⟨"top"⟩ [.noTrace], "top", .joined ⟨3⟩, []⟩]

/-- Two errors that the boundary might hide as well. -/
def otherSecrets : Array Node :=
  #[.foreign (Foreign.saying "Plain" "other" "Plain(\"other\")"), .joined [⟨5⟩, ⟨4⟩]]

/-- What lies behind the inner boundary is exchanged, and the outer error shows no trace of it. -/
theorem boundary_hides_cause_edgeGraph :
    edgeGraph.IsClosed ∧
      edgeGraph.occurrence? ⟨1⟩ = some edgeError ∧
      edgeError.definition.isBoundary = true ∧
      (4 : Nat) < edgeGraph.size ∧
      (edgeGraph.withCause otherSecrets ⟨1⟩ edgeError (.joined ⟨6⟩)).occurrence? ⟨1⟩ =
        some (edgeError.withCause (.joined ⟨6⟩)) ∧
      edgeGraph.SameOutputs (edgeGraph.withCause otherSecrets ⟨1⟩ edgeError (.joined ⟨6⟩)) ⟨4⟩ := by
  have closed : edgeGraph.IsClosed := by
    decide
  have found : edgeGraph.occurrence? ⟨1⟩ = some edgeError :=
    rfl
  have boundary : edgeError.definition.isBoundary = true :=
    rfl
  have inGraph : 4 < edgeGraph.size := by
    decide
  have hidden := boundary_hides_cause closed found boundary otherSecrets (.joined ⟨6⟩) ⟨4⟩ inGraph
  exact ⟨closed, found, boundary, inGraph, rfl, hidden.1⟩

end Graph

end Fault
