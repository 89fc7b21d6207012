import Fault.Proofs.ClaimSteps

/-!
# References to errors

A program does not hold errors but references to values of them. An occurrence has many values, all
of which share one state; every other error is the one value that it is, at the place where it
stands. A walk recognises an occurrence by the shared state, and any other error by its place and
its type. The loop of a walk goes from reference to reference, and it finds the chain: which of the
values of an occurrence the references lead to makes no difference.
-/

namespace Fault

/-- A reference to an error: the place of a value, and the error that it is a value of. -/
structure Reference where
  place : Nat
  error : ErrorId
  deriving DecidableEq, Repr

/-- What a walk recognises an error by. The type counts beside the place, because an error can stand
at the front of one that holds it. -/
inductive Identity where
  | shared (occurrence : ErrorId)
  | placed (place : Nat) (typeName : String)
  deriving DecidableEq, Repr

namespace Graph

/-- What a walk recognises a reference by; a marker is not recognised. -/
def identity?
    (graph : Graph)
    (reference : Reference) :
    Option Identity :=
  match graph.get? reference.error with
  | some (.occurrence _) => some (.shared reference.error)
  | some (.marker _) => none
  | some node => some (.placed reference.place node.typeName)
  | none => none

/-- A reference is recognised when the error it refers to has an identity. -/
theorem isSome_identity?
    (graph : Graph)
    (reference : Reference) :
    (graph.identity? reference).isSome = graph.isIdentified reference.error := by
  simp only [identity?, isIdentified]
  cases graph.get? reference.error with
  | none =>
      rfl
  | some node =>
      cases node <;> rfl

/-- A reference that is recognised refers to an error with an identity. -/
theorem isIdentified_of_identity?
    {graph : Graph}
    {reference : Reference}
    {identity : Identity}
    (recognised : graph.identity? reference = some identity) :
    graph.isIdentified reference.error = true := by
  simp [← isSome_identity?, recognised]

/-- A reference to an error with an identity is recognised. -/
theorem exists_identity?
    {graph : Graph}
    {reference : Reference}
    (identified : graph.isIdentified reference.error = true) :
    ∃ identity, graph.identity? reference = some identity :=
  Option.isSome_iff_exists.mp ((graph.isSome_identity? reference).trans identified)

/-- A reference that is recognised as shared refers to the error it is recognised as. -/
theorem error_of_identity?
    {graph : Graph}
    {reference : Reference}
    {error : ErrorId}
    (recognised : graph.identity? reference = some (.shared error)) :
    reference.error = error := by
  simp only [identity?] at recognised
  split at recognised <;> simp_all

/-- A reference that is recognised by its place has this place. -/
theorem place_of_identity?
    {graph : Graph}
    {reference : Reference}
    {place : Nat}
    {typeName : String}
    (recognised : graph.identity? reference = some (.placed place typeName)) :
    reference.place = place := by
  simp only [identity?] at recognised
  split at recognised <;> simp_all

/-- An occurrence is recognised wherever it is. -/
theorem identity?_of_occurrence
    {graph : Graph}
    {reference : Reference}
    {error : Occurrence}
    (isOccurrence : graph.occurrence? reference.error = some error) :
    graph.identity? reference = some (.shared reference.error) := by
  simp [identity?, get?_of_occurrence?_eq_some isOccurrence]

/-- How the values of the errors of a graph lie in memory, and the references that they hold. -/
structure Layout (graph : Graph) where
  /-- Whether a reference leads to a value that is there. -/
  InUse : Reference → Prop
  inGraph : ∀ reference, InUse reference → reference.error.index < graph.size
  /-- The references of an error to its causes. -/
  links : ErrorId → List Reference
  error_links : ∀ error, (links error).map Reference.error = graph.causes error
  inUse_links : ∀ error, ∀ reference ∈ links error, InUse reference
  /-- Two values of one type at one place are values of one error. -/
  error_eq :
    ∀ first second,
      InUse first → InUse second →
        graph.isIdentified first.error = true →
        graph.identity? first = graph.identity? second → first.error = second.error
  /-- An error other than an occurrence has one value, unless it is a marker. -/
  place_eq :
    ∀ first second,
      InUse first → InUse second → first.error = second.error →
        graph.isIdentified first.error = true → graph.occurrence? first.error = none →
        first.place = second.place

namespace Layout

variable {graph : Graph} (layout : graph.Layout)

/-- Every error can be one value at a place of its own. -/
def direct (closed : graph.IsClosed) : graph.Layout where
  InUse reference := reference.error.index < graph.size ∧ reference.place = reference.error.index
  inGraph _ inUse := inUse.1
  links error := (graph.causes error).map fun cause => ⟨cause.index, cause⟩
  error_links error := by
    simp [Function.comp_def]
  inUse_links error reference isLink := by
    obtain ⟨cause, isCause, rfl⟩ := List.mem_map.mp isLink
    exact ⟨closed.index_lt_size_of_mem_causes isCause, rfl⟩
  error_eq first second firstInUse secondInUse identified same := by
    obtain ⟨identity, recognised⟩ := exists_identity? identified
    cases identity with
    | shared error =>
        exact (error_of_identity? recognised).trans (error_of_identity? (same ▸ recognised)).symm
    | placed place typeName =>
        have samePlace : first.place = second.place :=
          (place_of_identity? recognised).trans (place_of_identity? (same ▸ recognised)).symm
        exact congrArg ErrorId.mk (firstInUse.2.symm.trans (samePlace.trans secondInUse.2))
  place_eq first second firstInUse secondInUse same _ _ := by
    rw [firstInUse.2, secondInUse.2, same]

/-- References to one error are recognised alike. -/
theorem identity?_eq
    {first second : Reference}
    (firstInUse : layout.InUse first)
    (secondInUse : layout.InUse second)
    (same : first.error = second.error) :
    graph.identity? first = graph.identity? second := by
  have samePlace := layout.place_eq first second firstInUse secondInUse same
  simp only [identity?, isIdentified, occurrence?, ← same] at samePlace ⊢
  cases found : graph.get? first.error with
  | none =>
      rfl
  | some node =>
      cases node <;> simp_all [Node.isMarker, Node.occurrence?]

/-- The loop of a walk: the identities that it has seen, the references that it still has to follow,
the next one first, and the references that it yields. -/
inductive Walks : List Identity → List Reference → List Reference → Prop where
  | done (seen : List Identity) :
      Walks seen [] []
  /-- An error that was seen before is dropped. -/
  | again
      {seen : List Identity}
      {reference : Reference}
      {rest visited : List Reference}
      {identity : Identity}
      (recognised : graph.identity? reference = some identity)
      (seenBefore : identity ∈ seen)
      (further : Walks seen rest visited) :
      Walks seen (reference :: rest) visited
  /-- A new error is yielded, and its causes come before the rest. -/
  | enter
      {seen : List Identity}
      {reference : Reference}
      {rest visited : List Reference}
      {identity : Identity}
      (recognised : graph.identity? reference = some identity)
      (new : identity ∉ seen)
      (further : Walks (identity :: seen) (layout.links reference.error ++ rest) visited) :
      Walks seen (reference :: rest) (reference :: visited)
  /-- An error that is not recognised is always new. -/
  | anonymous
      {seen : List Identity}
      {reference : Reference}
      {rest visited : List Reference}
      (unrecognised : graph.identity? reference = none)
      (further : Walks seen (layout.links reference.error ++ rest) visited) :
      Walks seen (reference :: rest) (reference :: visited)

/-- Whether identities are those of errors, as far as references in use go. -/
def Marks
    (seen : List Identity)
    (errors : List ErrorId) :
    Prop :=
  ∀ reference identity,
    layout.InUse reference → graph.identity? reference = some identity →
      (identity ∈ seen ↔ reference.error ∈ errors)

theorem marks_nil : layout.Marks [] [] := by
  intro reference identity _ _
  simp

variable {layout}

/-- To see a reference marks its error. -/
theorem Marks.cons
    {seen : List Identity}
    {errors : List ErrorId}
    (marks : layout.Marks seen errors)
    {reference : Reference}
    (inUse : layout.InUse reference)
    {identity : Identity}
    (recognised : graph.identity? reference = some identity) :
    layout.Marks (identity :: seen) (reference.error :: errors) := by
  intro other otherIdentity otherInUse otherRecognised
  have sameIdentity : otherIdentity = identity ↔ other.error = reference.error := by
    constructor
    · intro same
      exact layout.error_eq other reference otherInUse inUse
        (isIdentified_of_identity? otherRecognised)
        (by rw [otherRecognised, recognised, same])
    · intro same
      have alike := layout.identity?_eq otherInUse inUse same
      simpa [otherRecognised, recognised] using alike
  simp only [List.mem_cons, sameIdentity, marks other otherIdentity otherInUse otherRecognised]

/-- References that wait behind those of an error in use are in use. -/
theorem inUse_links_append
    (error : ErrorId)
    {rest : List Reference}
    (inUse : ∀ next ∈ rest, layout.InUse next) :
    ∀ next ∈ layout.links error ++ rest, layout.InUse next := by
  intro next member
  rcases List.mem_append.mp member with isLink | inRest
  · exact layout.inUse_links error next isLink
  · exact inUse next inRest

/-- The loop yields references to what a walk finds. -/
theorem Walks.map_error
    {seen : List Identity}
    {pending visited : List Reference}
    (walks : layout.Walks seen pending visited)
    {errors : List ErrorId}
    (marks : layout.Marks seen errors)
    (inUse : ∀ reference ∈ pending, layout.InUse reference) :
    visited.map Reference.error = graph.walk errors (pending.map Reference.error) := by
  induction walks generalizing errors with
  | done seen =>
      simp [walk]
  | again recognised seenBefore further inductionHypothesis =>
      obtain ⟨firstInUse, restInUse⟩ := List.forall_mem_cons.mp inUse
      have isSeen := (marks _ _ firstInUse recognised).mp seenBefore
      rw [List.map_cons, walk, dif_pos (isIdentified_of_identity? recognised),
        dif_pos (by simpa using isSeen)]
      exact inductionHypothesis marks restInUse
  | enter recognised new further inductionHypothesis =>
      obtain ⟨firstInUse, restInUse⟩ := List.forall_mem_cons.mp inUse
      have isNew := (not_congr (marks _ _ firstInUse recognised)).mp new
      rw [List.map_cons, List.map_cons, walk, dif_pos (isIdentified_of_identity? recognised),
        dif_neg (by simpa using isNew),
        inductionHypothesis (marks.cons firstInUse recognised) (inUse_links_append _ restInUse),
        List.map_append, layout.error_links]
  | @anonymous seen reference rest visited unrecognised further inductionHypothesis =>
      obtain ⟨_, restInUse⟩ := List.forall_mem_cons.mp inUse
      have unidentified : graph.isIdentified reference.error = false := by
        simp [← isSome_identity?, unrecognised]
      rw [List.map_cons, List.map_cons, walk, dif_neg (by simp [unidentified]),
        inductionHypothesis marks (inUse_links_append _ restInUse), List.map_append,
        layout.error_links, causes_eq_nil_of_not_identified unidentified, List.nil_append]

/-- From one reference on, the loop yields references to the chain. -/
theorem Walks.map_error_eq_chain
    {reference : Reference}
    {visited : List Reference}
    (walks : layout.Walks [] [reference] visited)
    (inUse : layout.InUse reference) :
    visited.map Reference.error = graph.chain reference.error :=
  walks.map_error layout.marks_nil (List.forall_mem_singleton.mpr inUse)

/-- The loop yields the same references whenever it is at the same point. -/
theorem Walks.eq
    {seen : List Identity}
    {pending visited others : List Reference}
    (walks : layout.Walks seen pending visited)
    (walksToo : layout.Walks seen pending others) :
    visited = others := by
  induction walks generalizing others with
  | done seen =>
      cases walksToo
      rfl
  | again recognised seenBefore further inductionHypothesis =>
      cases walksToo with
      | again _ _ furtherToo =>
          exact inductionHypothesis furtherToo
      | enter recognisedToo new _ =>
          exact absurd seenBefore (Option.some.inj (recognised.symm.trans recognisedToo) ▸ new)
      | anonymous unrecognised _ =>
          cases recognised.symm.trans unrecognised
  | enter recognised new further inductionHypothesis =>
      cases walksToo with
      | again recognisedToo seenBefore _ =>
          exact absurd seenBefore (Option.some.inj (recognised.symm.trans recognisedToo) ▸ new)
      | enter recognisedToo _ furtherToo =>
          obtain rfl := Option.some.inj (recognised.symm.trans recognisedToo)
          exact congrArg (List.cons _) (inductionHypothesis furtherToo)
      | anonymous unrecognised _ =>
          cases recognised.symm.trans unrecognised
  | anonymous unrecognised further inductionHypothesis =>
      cases walksToo with
      | again recognised _ _ =>
          cases unrecognised.symm.trans recognised
      | enter recognised _ _ =>
          cases unrecognised.symm.trans recognised
      | anonymous _ furtherToo =>
          exact congrArg (List.cons _) (inductionHypothesis furtherToo)

/-- The loop comes to an end. -/
theorem exists_walks
    {seen : List Identity}
    {errors : List ErrorId}
    (marks : layout.Marks seen errors)
    {pending : List Reference}
    (inUse : ∀ reference ∈ pending, layout.InUse reference) :
    ∃ visited, layout.Walks seen pending visited := by
  generalize named : pending.map Reference.error = todo
  fun_induction graph.walk errors todo generalizing seen pending with
  | case1 errors =>
      obtain rfl := List.map_eq_nil_iff.mp named
      exact ⟨[], .done seen⟩
  | case2 errors error rest identified seenBefore inductionHypothesis =>
      obtain ⟨reference, others, rfl, rfl, rfl⟩ := List.map_eq_cons_iff.mp named
      obtain ⟨firstInUse, restInUse⟩ := List.forall_mem_cons.mp inUse
      obtain ⟨identity, recognised⟩ := exists_identity? identified
      obtain ⟨visited, further⟩ := inductionHypothesis marks restInUse rfl
      have isSeen := (marks _ _ firstInUse recognised).mpr (by simpa using seenBefore)
      exact ⟨visited, .again recognised isSeen further⟩
  | case3 errors error rest identified new inductionHypothesis =>
      obtain ⟨reference, others, rfl, rfl, rfl⟩ := List.map_eq_cons_iff.mp named
      obtain ⟨firstInUse, restInUse⟩ := List.forall_mem_cons.mp inUse
      obtain ⟨identity, recognised⟩ := exists_identity? identified
      obtain ⟨visited, further⟩ :=
        inductionHypothesis (marks.cons firstInUse recognised)
          (inUse_links_append reference.error restInUse)
          (by simp only [List.map_append, layout.error_links])
      have isNew := (not_congr (marks _ _ firstInUse recognised)).mpr (by simpa using new)
      exact ⟨reference :: visited, .enter recognised isNew further⟩
  | case4 errors error rest unidentified inductionHypothesis =>
      obtain ⟨reference, others, rfl, rfl, rfl⟩ := List.map_eq_cons_iff.mp named
      obtain ⟨_, restInUse⟩ := List.forall_mem_cons.mp inUse
      have unrecognised : graph.identity? reference = none := by
        simpa [← isSome_identity?] using unidentified
      have noCauses := causes_eq_nil_of_not_identified (by simpa using unidentified)
      obtain ⟨visited, further⟩ :=
        inductionHypothesis marks (inUse_links_append reference.error restInUse)
          (by simp only [List.map_append, layout.error_links, noCauses, List.nil_append])
      exact ⟨reference :: visited, .anonymous unrecognised further⟩

end Layout

end Graph

end Fault
