import Fault.Proofs.DraftReading

/-!
# Causes that were read

The tree of an error that was read has the shape of the nested causes of its object: one error for
each element, in order, with the message of the element, made by the registered definition of its
kind or else unclaimed. The shapes differ in two places. An object of a boundary definition shows
none of its causes, and an unclaimed error has room for one cause only, so that several causes
stand below a joined error of their own.
-/

namespace Fault

namespace Graph

mutual

/-- Whether an error, with the tree below it, is what an element of a list of causes was read
as. -/
inductive MirrorsOne
    (graph : Graph)
    (resolver : Resolver) :
    Json → ErrorId → Forest → Prop where
  | claimed
      {members : Members}
      {definition : Definition}
      {identity : ErrorId}
      {error : Occurrence}
      {below : Forest} :
      resolver.claimant? members = some definition →
      definition.isBoundary = false →
      graph.occurrence? identity = some error →
      error.definition.sameRoot definition = true →
      members.get? "message" = some (.text error.message) →
      graph.Mirrors resolver members.causeForms below →
      graph.MirrorsOne resolver (.object members) identity below
  /-- A boundary definition hides the causes of its errors. -/
  | hidden
      {members : Members}
      {definition : Definition}
      {identity : ErrorId}
      {error : Occurrence} :
      resolver.claimant? members = some definition →
      definition.isBoundary = true →
      graph.occurrence? identity = some error →
      error.definition.sameRoot definition = true →
      members.get? "message" = some (.text error.message) →
      graph.MirrorsOne resolver (.object members) identity .nil
  | unclaimed
      {members : Members}
      {cause : Unclaimed}
      {identity : ErrorId}
      {below : Forest} :
      resolver.claimant? members = none →
      members.causeForms.length ≤ 1 →
      graph.get? identity = some (.unclaimed cause) →
      members.get? "message" = some (.text cause.message) →
      graph.Mirrors resolver members.causeForms below →
      graph.MirrorsOne resolver (.object members) identity below
  /-- Several causes of an unclaimed error are the members of a joined error. -/
  | gathered
      {members : Members}
      {cause : Unclaimed}
      {group : ErrorId}
      {gathered : List ErrorId}
      {identity : ErrorId}
      {below : Forest} :
      resolver.claimant? members = none →
      2 ≤ members.causeForms.length →
      graph.get? identity = some (.unclaimed cause) →
      members.get? "message" = some (.text cause.message) →
      graph.get? group = some (.joined gathered) →
      graph.Mirrors resolver members.causeForms below →
      graph.MirrorsOne resolver (.object members) identity
        (.node (.untyped group) false below .nil)

/-- Whether a tree holds what the elements of a list of causes were read as: one error for each
element, in order. -/
inductive Mirrors
    (graph : Graph)
    (resolver : Resolver) :
    List Json → Forest → Prop where
  | nil :
      graph.Mirrors resolver [] .nil
  | cons
      {form : Json}
      {forms : List Json}
      {identity : ErrorId}
      {below rest : Forest} :
      graph.MirrorsOne resolver form identity below →
      graph.Mirrors resolver forms rest →
      graph.Mirrors resolver (form :: forms) (.node (.untyped identity) false below rest)

end

mutual

/-- The error that a draft of a form grows to mirrors the form. -/
theorem mirrorsOne_of_hasGrown
    {graph : Graph}
    {resolver : Resolver}
    {form : Json}
    {draft : Draft}
    {identity : ErrorId}
    {below : Forest}
    (read : resolver.draftCause form = .ok draft)
    (grown : graph.HasGrown draft identity below) :
    graph.MirrorsOne resolver form identity below := by
  cases grown with
  | hidden isOccurrence boundary =>
      obtain ⟨members, rfl, claimed, told, reads, _⟩ :=
        Resolver.draftCause_eq_ok_occurrence_iff.mp read
      exact .hidden claimed (isOccurrence.isBoundary_eq reads ▸ boundary)
        isOccurrence.occurrence?_eq isOccurrence.sameRoot (isOccurrence.told ▸ told)
  | occurrence isOccurrence boundary causes =>
      obtain ⟨members, rfl, claimed, told, reads, drafts⟩ :=
        Resolver.draftCause_eq_ok_occurrence_iff.mp read
      exact .claimed claimed (isOccurrence.isBoundary_eq reads ▸ boundary)
        isOccurrence.occurrence?_eq isOccurrence.sameRoot (isOccurrence.told ▸ told)
        (mirrors_of_haveGrown drafts causes)
  | unclaimed found few causes =>
      obtain ⟨members, rfl, claimed, told, _, drafts⟩ :=
        Resolver.draftCause_eq_ok_unclaimed_iff.mp read
      have sameLength := Resolver.length_of_draftAll_eq_ok drafts
      exact .unclaimed claimed (sameLength ▸ few) found told (mirrors_of_haveGrown drafts causes)
  | gathered found isGroup several causes =>
      obtain ⟨members, rfl, claimed, told, _, drafts⟩ :=
        Resolver.draftCause_eq_ok_unclaimed_iff.mp read
      have sameLength := Resolver.length_of_draftAll_eq_ok drafts
      exact .gathered claimed (sameLength ▸ several) found told isGroup
        (mirrors_of_haveGrown drafts causes)

/-- The errors that drafts of forms grow to mirror the forms, one by one. -/
theorem mirrors_of_haveGrown
    {graph : Graph}
    {resolver : Resolver}
    {forms : List Json}
    {drafts : List Draft}
    {forest : Forest}
    (read : resolver.draftAll forms = .ok drafts)
    (grown : graph.HaveGrown drafts forest) :
    graph.Mirrors resolver forms forest := by
  cases grown with
  | nil =>
      have sameLength := Resolver.length_of_draftAll_eq_ok read
      rw [List.eq_nil_of_length_eq_zero sameLength.symm]
      exact .nil
  | cons first others =>
      cases forms with
      | nil =>
          cases read
      | cons form forms =>
          obtain ⟨_, _, firstRead, othersRead, same⟩ :=
            Resolver.draftAll_cons_eq_ok_iff.mp read
          cases same
          exact .cons (mirrorsOne_of_hasGrown firstRead first)
            (mirrors_of_haveGrown othersRead others)

end

end Graph

/-- The tree of an error that is read mirrors the causes of its object. -/
theorem Store.decode_mirrors
    {store after : Store}
    {resolver : Resolver}
    {form : Json}
    {identity : ErrorId}
    (decoded : store.decode resolver form = .ok (identity, after)) :
    ∃ (members : Members) (definition : Definition) (error : Occurrence),
      form = .object members ∧
        resolver.maker? members = some definition ∧
        after.graph.occurrence? identity = some error ∧
        error.definition.sameRoot definition = true ∧
        members.get? "message" = some (.text error.message) ∧
        if definition.isBoundary then
          after.graph.causeTree identity = .nil
        else
          after.graph.Mirrors resolver members.causeForms (after.graph.causeTree identity) := by
  obtain ⟨members, definition, settings, message, drafts, isObject, made, told, reads, read,
    grown⟩ := exists_hasGrown_of_decode_eq_ok decoded
  generalize after.graph.causeTree identity = tree at grown ⊢
  cases grown with
  | hidden isOccurrence boundary =>
      refine ⟨members, definition, _, isObject, made, isOccurrence.occurrence?_eq,
        isOccurrence.sameRoot, isOccurrence.told ▸ told, ?_⟩
      rw [← isOccurrence.isBoundary_eq reads, if_pos boundary]
  | occurrence isOccurrence boundary causes =>
      refine ⟨members, definition, _, isObject, made, isOccurrence.occurrence?_eq,
        isOccurrence.sameRoot, isOccurrence.told ▸ told, ?_⟩
      rw [← isOccurrence.isBoundary_eq reads, boundary, if_neg Bool.false_ne_true]
      exact Graph.mirrors_of_haveGrown read causes

/-! ## Several causes of an unclaimed error -/

/-- A definition without settings. -/
def claiming : Definition :=
  .declare .standard 0 ⟨"claimed"⟩ []

/-- An element that no definition claims, with two causes. -/
def crowdedElement : Members :=
  [("causes", .array [.object [("message", .text "first")], .object [("message", .text "second")]]),
    ("message", .text "middle")]

/-- An object with the element as its one cause. -/
def crowdedForm : Members :=
  [("causes", .array [.object crowdedElement]),
    ("kind", .text "claimed"),
    ("message", .text "top")]

/-- What becomes of the object. -/
def crowdedResult : ErrorId × Store :=
  (Store.initial .standard).build <|
    .occurrence claiming [] "top"
      [.unclaimed "middle" none [.unclaimed "first" none [], .unclaimed "second" none []]]

/-- The object is read, and its cause that nothing claims gathers both of its own causes. -/
theorem decode_crowdedForm :
    (Store.initial .standard).decode ⟨[claiming], none⟩ (.object crowdedForm) =
      .ok crowdedResult := by
  cbv

/-- One joined error stands between the element and its two causes. -/
theorem causeTree_crowdedResult :
    crowdedResult.2.graph.causeTree crowdedResult.1 =
      .node (.untyped ⟨3⟩) false
        (.node (.untyped ⟨2⟩) false
          (.node (.untyped ⟨0⟩) false .nil (.node (.untyped ⟨1⟩) false .nil .nil))
          .nil)
        .nil := by
  cbv

/-- The error that is read from the object mirrors it, with the two causes under one joined error.
-/
theorem decode_mirrors_crowdedForm :
    (Store.initial .standard).decode ⟨[claiming], none⟩ (.object crowdedForm) =
        .ok (crowdedResult.1, crowdedResult.2) ∧
      ∃ (members : Members) (definition : Definition) (error : Occurrence),
        Json.object crowdedForm = .object members ∧
          Resolver.maker? ⟨[claiming], none⟩ members = some definition ∧
          crowdedResult.2.graph.occurrence? crowdedResult.1 = some error ∧
          error.definition.sameRoot definition = true ∧
          members.get? "message" = some (.text error.message) ∧
          if definition.isBoundary then
            crowdedResult.2.graph.causeTree crowdedResult.1 = .nil
          else
            crowdedResult.2.graph.Mirrors ⟨[claiming], none⟩ members.causeForms
              (crowdedResult.2.graph.causeTree crowdedResult.1) :=
  ⟨decode_crowdedForm, Store.decode_mirrors decode_crowdedForm⟩

/-- The error of an element can have fewer causes than the element, without any boundary. -/
theorem not_length_below_eq_length_causeForms :
    ¬∀ (store after : Store) (resolver : Resolver) (members : Members) (identity : ErrorId),
      store.decode resolver (.object members) = .ok (identity, after) →
        resolver.fallback = none →
        (∀ definition ∈ resolver.definitions, definition.isBoundary = false) →
        ∀ (index : Nat) (branch : Branch) (element : Members),
          (after.graph.causeTree identity).get? index = some branch →
            members.causeForms[index]? = some (.object element) →
            branch.below.length = element.causeForms.length := by
  intro claimed
  have sameLength :=
    claimed (.initial .standard) crowdedResult.2 ⟨[claiming], none⟩ crowdedForm crowdedResult.1
      decode_crowdedForm rfl (by simp [claiming, Definition.declare, Definition.isBoundary,
        Template.applyAll, Template.ofKind]) 0 _ crowdedElement
      (by rw [causeTree_crowdedResult]; rfl) (by cbv)
  have two : crowdedElement.causeForms.length = 2 := by
    cbv
  rw [two] at sameLength
  cases sameLength

end Fault
