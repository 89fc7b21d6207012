import Fault.Proofs.WireFields
import Fault.Proofs.WireForm

/-!
# The way over the wire and back

An error can travel to a resolver when it and all errors of its tree that were made by definitions
have a kind, for which the resolver answers the very definition, and fields that travel. Any other
error of the tree may have one cause at most: it becomes an unclaimed one, which has room for no
more. The form of such an error is read, and the form of what was read is the same again, without
the call stacks.
-/

namespace Fault

/-- Whether an error is rebuilt by a resolver from its form: its kind leads to its own definition,
no marshaler gives it another form, and all its fields travel. -/
structure Occurrence.IsWireable
    (resolver : Resolver)
    (error : Occurrence) :
    Prop where
  hasKind : error.definition.kind.isUnset = false
  claimed : resolver.ofKind? error.definition.kind.label = some error.definition
  unmarshaled : error.definition.template.marshaler = none
  travel : ∀ field ∈ error.definition.fields.entries, field.Travels

/-- Whether a place in a cause tree survives the way over the wire. -/
structure Branch.IsWireable
    (resolver : Resolver)
    (graph : Graph)
    (branch : Branch) :
    Prop where
  occurrence :
    ∀ error,
      graph.occurrence? branch.link.target = some error →
        error.IsWireable resolver
  /-- An error that no definition made has one cause at most. -/
  other :
    graph.occurrence? branch.link.target = none →
      branch.below.length ≤ 1

namespace Resolver

/-- Whether the form of a cause is read as a draft whose errors have this form again, without call
stacks. -/
structure RestoresOne
    (resolver : Resolver)
    (item : Json)
    (draft : Draft) :
    Prop where
  read : resolver.draftCause item = .ok draft
  shown :
    ∀ (graph : Graph) (identity : ErrorId) (below : Forest),
      graph.HasGrown draft identity below →
        graph.causeJson (.untyped identity) (graph.causesJson below) = .ok item.withoutStacks

/-- Whether the forms of causes are read as drafts whose errors have these forms again, without
call stacks. -/
structure Restores
    (resolver : Resolver)
    (items : List Json)
    (drafts : List Draft) :
    Prop where
  read : resolver.draftAll items = .ok drafts
  shown :
    ∀ (graph : Graph) (forest : Forest),
      graph.HaveGrown drafts forest →
        graph.causesJson forest = .ok (Json.itemsWithoutStacks items)

theorem Restores.nil (resolver : Resolver) :
    resolver.Restores [] [] := by
  refine ⟨by rw [draftAll], fun graph forest grown => ?_⟩
  cases grown
  rfl

theorem Restores.cons
    {resolver : Resolver}
    {item : Json}
    {items : List Json}
    {draft : Draft}
    {drafts : List Draft}
    (first : resolver.RestoresOne item draft)
    (others : resolver.Restores items drafts) :
    resolver.Restores (item :: items) (draft :: drafts) := by
  refine ⟨draftAll_cons_eq_ok_iff.mpr ⟨draft, drafts, first.read, others.read, rfl⟩,
    fun graph forest grown => ?_⟩
  cases grown with
  | cons firstGrown othersGrown =>
      rw [Graph.causesJson, first.shown _ _ _ firstGrown, others.shown _ _ othersGrown]
      rfl

end Resolver

/-! ## Occurrences -/

/-- The members of the form of an error whose fields travel, given the forms of its causes. -/
def Occurrence.wireMembers
    (error : Occurrence)
    (items : List Json) :
    Members :=
  (WireForm.ofOccurrence error error.definition.fields.forms items).sorted

/-- The error of a draft with the definition, the message and the restored fields of another error
has the form of that one without call stacks. -/
theorem Graph.IsOccurrenceOf.occurrenceJson_eq
    {graph : Graph}
    {settings : List Setting}
    {identity : ErrorId}
    {error restored : Occurrence}
    (isOccurrence :
      graph.IsOccurrenceOf error.definition settings error.message identity restored)
    (isRestored : error.definition.IsRestoredBy settings)
    (items : List Json) :
    occurrenceJson restored (.ok (Json.itemsWithoutStacks items)) =
      .ok (Json.withoutStacks (.object (error.wireMembers items))) := by
  obtain ⟨defaults, number, derived⟩ := isOccurrence.derived
  obtain ⟨fields, sameTemplate⟩ := isOccurrence.exists_template_eq isRestored.reads
  have rendered := isRestored.renders defaults number
  have sameEmpty := isRestored.isEmpty_eq defaults number
  rw [← derived] at rendered sameEmpty
  have sameKind : restored.definition.kind = error.definition.kind := by
    rw [Definition.kind, sameTemplate]
    rfl
  rw [occurrenceJson_ok rendered, Json.withoutStacks, Occurrence.wireMembers,
    WireForm.membersWithoutStacks_sorted]
  simp only [WireForm.ofOccurrence, WireForm.withoutStacks, sameKind, sameEmpty,
    isOccurrence.told, isOccurrence.untraced, List.isEmpty_nil, if_true]

namespace Occurrence

/-- Whether a draft is what the definition of an error reads from its form, and the error of the
draft has this form again, without call stacks. -/
structure IsRestoredBy
    (resolver : Resolver)
    (error : Occurrence)
    (items : List Json)
    (draft : Draft) :
    Prop where
  read :
    Resolver.draftOf error.definition (error.wireMembers items)
      (resolver.draftAll (error.wireMembers items).causeForms) = .ok draft
  shown :
    ∀ (graph : Graph) (identity : ErrorId) (below : Forest),
      graph.HasGrown draft identity below →
        ∃ restored,
          graph.occurrence? identity = some restored ∧
            restored.definition.template.marshaler = none ∧
            Graph.occurrenceJson restored (graph.causesJson below) =
              .ok (Json.withoutStacks (.object (error.wireMembers items)))

/-- A wireable error states the forms of its fields. -/
theorem statedFields_wireMembers
    (error : Occurrence)
    (items : List Json) :
    (error.wireMembers items).statedFields = error.definition.fields.forms := by
  rw [wireMembers, WireForm.statedFields_sorted, WireForm.ofOccurrence]
  cases none : error.definition.fields.isEmpty with
  | false =>
      rfl
  | true =>
      rw [Fields.forms_eq_nil none]
      rfl

namespace IsWireable

variable
  {resolver : Resolver}
  {error : Occurrence}
  {items : List Json}
  {drafts : List Draft}

/-- A wireable error states the kind of its definition. -/
theorem kindOf?_wireMembers
    (wireable : error.IsWireable resolver)
    (items : List Json) :
    Resolver.kindOf? (error.wireMembers items) = some error.definition.kind.label := by
  rw [wireMembers, WireForm.kindOf?_sorted, WireForm.ofOccurrence, wireable.hasKind]
  rfl

/-- The fields of a wireable error render. -/
theorem toMembers_eq
    (wireable : error.IsWireable resolver) :
    error.definition.fields.toMembers = .ok error.definition.fields.forms :=
  Fields.toMembers_eq_forms fun field member => (wireable.travel field member).renders

/-- A wireable error is restored from its own form when its causes are restored from theirs. -/
theorem exists_isRestoredBy
    (wireable : error.IsWireable resolver)
    (restores : resolver.Restores items drafts)
    (hidden : error.definition.isBoundary = true → items = []) :
    ∃ draft, error.IsRestoredBy resolver items draft := by
  obtain ⟨settings, isRestored⟩ := Definition.exists_isRestoredBy wireable.travel
  have reads := isRestored.reads
  have causes : resolver.draftAll (error.wireMembers items).causeForms = .ok drafts := by
    rw [wireMembers, WireForm.causeForms_sorted]
    exact restores.read
  refine ⟨.occurrence error.definition settings error.message drafts,
    Resolver.draftOf_eq_ok_iff.mpr ⟨error.message, settings, drafts, WireForm.get?_message _,
      error.statedFields_wireMembers items ▸ reads, causes, rfl⟩,
    fun graph identity below grown => ?_⟩
  obtain ⟨restored, isOccurrence⟩ := grown.exists_isOccurrenceOf
  have sameCauses : graph.causesJson below = .ok (Json.itemsWithoutStacks items) := by
    cases grown with
    | hidden isHidden boundary =>
        rw [hidden (isHidden.isBoundary_eq reads ▸ boundary)]
        rfl
    | occurrence _ _ causes =>
        exact restores.shown graph below causes
  obtain ⟨fields, sameTemplate⟩ := isOccurrence.exists_template_eq reads
  refine ⟨restored, isOccurrence.occurrence?_eq, ?_, ?_⟩
  · rw [sameTemplate]
    exact wireable.unmarshaled
  · rw [sameCauses]
    exact isOccurrence.occurrenceJson_eq isRestored items

/-- A wireable error among causes is restored when its own causes are. -/
theorem exists_restoresOne
    (wireable : error.IsWireable resolver)
    (restores : resolver.Restores items drafts)
    (hidden : error.definition.isBoundary = true → items = []) :
    ∃ draft, resolver.RestoresOne (.object (error.wireMembers items)) draft := by
  obtain ⟨draft, restored⟩ := wireable.exists_isRestoredBy restores hidden
  have claimed : resolver.claimant? (error.wireMembers items) = some error.definition := by
    rw [Resolver.claimant?, wireable.kindOf?_wireMembers]
    exact wireable.claimed
  refine ⟨draft, ?_, fun graph identity below grown => ?_⟩
  · rw [Resolver.draftCause_object, claimed]
    exact restored.read
  · obtain ⟨_, found, unmarshaled, same⟩ := restored.shown graph identity below grown
    simp only [Graph.causeJson, Link.untyped, found, unmarshaled]
    exact same

end IsWireable

end Occurrence

/-! ## Other errors -/

/-- The message of an unclaimed error is its own. -/
theorem Graph.message_of_unclaimed
    {graph : Graph}
    {identity : ErrorId}
    {cause : Unclaimed}
    (found : graph.get? identity = some (.unclaimed cause)) :
    graph.message identity = cause.message := by
  have shown : graph.block? .display identity = some (Text.Block.ofString cause.message) := by
    rw [block?, textDepth, text?, found]
    rfl
  exact (message_of_block?_eq_some shown).trans (Text.Block.toText_ofString cause.message)

/-- The form of an error that no definition made is read as an unclaimed error of the same form. -/
theorem Resolver.Restores.exists_restoresOne
    {resolver : Resolver}
    {items : List Json}
    {drafts : List Draft}
    (restores : resolver.Restores items drafts)
    (few : items.length ≤ 1)
    (message : String)
    (typeName : Option String) :
    ∃ draft,
      resolver.RestoresOne (.object (WireForm.ofPlain message typeName items).sorted) draft := by
  set form := WireForm.ofPlain message typeName items
  have unclaimed : resolver.claimant? form.sorted = none := by
    rw [claimant?, WireForm.kindOf?_sorted]
    rfl
  have sameType : typeOf? form.sorted = typeName := by
    rw [WireForm.typeOf?_sorted]
    exact Option.or_none
  refine ⟨.unclaimed message typeName drafts, draftCause_eq_ok_unclaimed_iff.mpr
    ⟨form.sorted, rfl, unclaimed, form.get?_message, sameType.symm, ?_⟩,
    fun graph identity below grown => ?_⟩
  · rw [WireForm.causeForms_sorted]
    exact restores.read
  · have sameLength := length_of_draftAll_eq_ok restores.read
    cases grown with
    | gathered _ _ several _ =>
        omega
    | unclaimed found _ causes =>
        have noOccurrence : graph.occurrence? identity = none := by
          rw [Graph.occurrence?, found]
          rfl
        have sameName : graph.shownType ⟨identity, none⟩ = typeName := by
          rw [Graph.shownType, found]
        simp only [Graph.causeJson, noOccurrence, Link.untyped]
        rw [restores.shown graph below causes, Graph.plainJson_ok, Json.withoutStacks,
          WireForm.membersWithoutStacks_sorted, Graph.message_of_unclaimed found, sameName]
        rfl

/-! ## Whole trees -/

namespace Graph

/-- The form of a wireable cause is read as a draft that restores it. -/
theorem exists_restoresOne
    {graph : Graph}
    {resolver : Resolver}
    {branch : Branch}
    {items : List Json}
    {drafts : List Draft}
    (wireable : branch.IsWireable resolver graph)
    (restores : resolver.Restores items drafts)
    (sameLength : items.length = branch.below.length)
    (hidden :
      ∀ error,
        graph.occurrence? branch.link.target = some error →
          error.definition.isBoundary = true →
          branch.below = .nil) :
    ∃ item draft,
      graph.causeJson branch.link (.ok items) = .ok item ∧ resolver.RestoresOne item draft := by
  cases found : graph.occurrence? branch.link.target with
  | some error =>
      have errorWireable := wireable.occurrence error found
      have noCauses : error.definition.isBoundary = true → items = [] := by
        intro boundary
        rw [hidden error found boundary] at sameLength
        exact List.eq_nil_of_length_eq_zero sameLength
      obtain ⟨draft, restored⟩ := errorWireable.exists_restoresOne restores noCauses
      refine ⟨_, draft, ?_, restored⟩
      simp only [causeJson, found, errorWireable.unmarshaled]
      exact occurrenceJson_ok errorWireable.toMembers_eq items
  | none =>
      have few : items.length ≤ 1 := sameLength ▸ wireable.other found
      obtain ⟨draft, restored⟩ :=
        restores.exists_restoresOne few (graph.message branch.link.target)
          (graph.shownType branch.link)
      refine ⟨_, draft, ?_, restored⟩
      simp only [causeJson, found]
      exact graph.plainJson_ok branch.link items

/-- The forms of the causes of a wireable tree are read as drafts that restore them. -/
theorem exists_restores
    {graph : Graph}
    {resolver : Resolver}
    (forest : Forest)
    (wireable : ∀ place ∈ forest.places, place.2.IsWireable resolver graph)
    (hidden :
      ∀ place ∈ forest.places,
        ∀ error,
          graph.occurrence? place.2.link.target = some error →
            error.definition.isBoundary = true →
            place.2.below = .nil) :
    ∃ items drafts,
      graph.causesJson forest = .ok items ∧
        items.length = forest.length ∧
        resolver.Restores items drafts := by
  -- Drafts restore their forms in every graph, so the induction need not follow the one that is
  -- built from them.
  induction forest with
  | nil =>
      exact ⟨[], [], rfl, rfl, .nil resolver⟩
  | cut target rest inductionHypothesis =>
      exact inductionHypothesis wireable hidden
  | node link reentered below rest belowHypothesis restHypothesis =>
      have own :
          ([link], ⟨link, reentered, below⟩) ∈ (Forest.node link reentered below rest).places :=
        Forest.mem_places_node.mpr (.inl ⟨rfl, rfl⟩)
      have inBelow :
          ∀ place ∈ below.places,
            (link :: place.1, place.2) ∈ (Forest.node link reentered below rest).places :=
        fun place member => Forest.mem_places_node.mpr (.inr (.inl ⟨place.1, rfl, member⟩))
      have inRest :
          ∀ place ∈ rest.places, place ∈ (Forest.node link reentered below rest).places :=
        fun place member => Forest.mem_places_node.mpr (.inr (.inr member))
      obtain ⟨belowItems, belowDrafts, belowShown, belowLength, belowRestores⟩ :=
        belowHypothesis
          (fun place member => wireable (link :: place.1, place.2) (inBelow place member))
          (fun place member => hidden (link :: place.1, place.2) (inBelow place member))
      obtain ⟨restItems, restDrafts, restShown, restLength, restRestores⟩ :=
        restHypothesis (fun place member => wireable _ (inRest place member))
          (fun place member => hidden _ (inRest place member))
      obtain ⟨item, draft, shown, restored⟩ :=
        exists_restoresOne (wireable _ own) belowRestores belowLength (hidden _ own)
      refine ⟨item :: restItems, draft :: restDrafts, ?_, ?_, .cons restored restRestores⟩
      · rw [causesJson, belowShown, shown, restShown]
        rfl
      · rw [List.length_cons, restLength, Forest.length]

/-- An error of a boundary definition has no links. -/
theorem links_eq_nil_of_boundary
    {graph : Graph}
    {identity : ErrorId}
    {error : Occurrence}
    (found : graph.occurrence? identity = some error)
    (boundary : error.definition.isBoundary = true) :
    graph.links identity = [] :=
  List.map_eq_nil_iff.mp (causes_eq_nil_of_boundary found boundary)

/-- An error of a boundary definition has no causes below it, wherever it stands. -/
theorem below_eq_nil_of_boundary
    {graph : Graph}
    {root : ErrorId}
    {path : List Link}
    {branch : Branch}
    {error : Occurrence}
    (member : (path, branch) ∈ (graph.causeTree root).places)
    (found : graph.occurrence? branch.link.target = some error)
    (boundary : error.definition.isBoundary = true) :
    branch.below = .nil := by
  have below := (branch_of_mem_places member).2.2
  rw [← target_eq_pathEnd member, links_eq_nil_of_boundary found boundary, unfold] at below
  exact below

/-- An error of a boundary definition has nothing in its tree. -/
theorem causeTree_eq_nil_of_boundary
    {graph : Graph}
    {root : ErrorId}
    {error : Occurrence}
    (found : graph.occurrence? root = some error)
    (boundary : error.definition.isBoundary = true) :
    graph.causeTree root = .nil := by
  rw [causeTree, links_eq_nil_of_boundary found boundary, unfold]
  rfl

/-- Whether an error and all errors of its tree survive the way over the wire. -/
structure IsWireable
    (graph : Graph)
    (resolver : Resolver)
    (root : ErrorId)
    (error : Occurrence) :
    Prop where
  own : error.IsWireable resolver
  places : ∀ place ∈ (graph.causeTree root).places, place.2.IsWireable resolver graph

end Graph

/-- The form of a wireable error is read, and the form of the error that was read is the same again
without call stacks. -/
theorem Graph.decode_toJson
    {graph : Graph}
    {resolver : Resolver}
    {root : ErrorId}
    {error : Occurrence}
    (found : graph.occurrence? root = some error)
    (wireable : graph.IsWireable resolver root error)
    (store : Store) :
    ∃ form,
      graph.toJson root error = .ok form ∧
        ∃ identity after restored,
          store.decode resolver form = .ok (identity, after) ∧
            after.graph.occurrence? identity = some restored ∧
            after.graph.toJson identity restored = .ok form.withoutStacks := by
  obtain ⟨items, drafts, shown, sameLength, restores⟩ :=
    exists_restores (graph.causeTree root) wireable.places
      fun place member _ found boundary => below_eq_nil_of_boundary member found boundary
  have noCauses : error.definition.isBoundary = true → items = [] := by
    intro boundary
    rw [causeTree_eq_nil_of_boundary found boundary] at sameLength
    exact List.eq_nil_of_length_eq_zero sameLength
  obtain ⟨draft, restored⟩ := wireable.own.exists_isRestoredBy restores noCauses
  obtain ⟨result, isResult, unmarshaled, same⟩ :=
    restored.shown _ _ _ (Store.hasGrown_causeTree store draft)
  have made : resolver.maker? (error.wireMembers items) = some error.definition := by
    rw [Resolver.maker?, wireable.own.kindOf?_wireMembers, Option.getD_some,
      Resolver.ofKindOrFallback?, wireable.own.claimed]
    rfl
  refine ⟨.object (error.wireMembers items), ?_, (store.build draft).1, (store.build draft).2,
    result, ?_, isResult, ?_⟩
  · simp only [toJson, wireable.own.unmarshaled]
    rw [shown]
    exact occurrenceJson_ok wireable.own.toMembers_eq items
  · exact Store.decode_eq_ok_iff.mpr
      ⟨draft, Resolver.draft_eq_ok_iff.mpr ⟨_, _, rfl, made, restored.read⟩, rfl⟩
  · simp only [toJson, unmarshaled]
    exact same

/-! ## An error on its way -/

/-- A definition with two fields of one name. -/
def sending : Definition :=
  .declare .standard 0 ⟨"sending"⟩
    [.field (.made 0 "host" .text) (.text "first"), .field (.made 1 "host" .text) (.text "second")]

/-- A definition that hides its causes. -/
def sealing : Definition :=
  .declare .standard 1 ⟨"sealing"⟩ [.boundary]

/-- A resolver that knows both definitions. -/
def receiver : Resolver :=
  ⟨[sending, sealing], none⟩

/-- The error that is sent. -/
def sentError : Occurrence :=
  ⟨sending, "sent", .single ⟨2⟩ none, [⟨"call", "file", 1⟩]⟩

/-- The error behind it that hides its own cause. -/
def sealedError : Occurrence :=
  ⟨sealing, "sealed", .single ⟨0⟩ none, [⟨"call", "file", 2⟩]⟩

/-- The sent error wraps an unclaimed one, this one the sealed error, and this one a marker. -/
def sentGraph : Graph where
  nodes :=
    #[.marker ⟨"Unit", "unit", "Unit"⟩,
      .occurrence sealedError,
      .unclaimed ⟨"between", some "Between", some ⟨1⟩⟩,
      .occurrence sentError]

/-- The tree of the sent error ends at the sealed one, which hides its cause. -/
theorem causeTree_sentGraph :
    sentGraph.causeTree ⟨3⟩ =
      .node (.untyped ⟨2⟩) false (.node (.untyped ⟨1⟩) false .nil .nil) .nil := by
  cbv

/-- The sealed error is wireable. -/
theorem isWireable_sealedError :
    sealedError.IsWireable receiver where
  hasKind := rfl
  claimed := rfl
  unmarshaled := rfl
  travel := List.forall_mem_nil _

/-- The sent error is wireable, with both fields of one name. -/
theorem isWireable_sentError :
    sentGraph.IsWireable receiver ⟨3⟩ sentError where
  own :=
    { hasKind := rfl
      claimed := rfl
      unmarshaled := rfl
      travel := by
        have first : Field.Travels ⟨.made 0 "host" .text, .text "first"⟩ :=
          ⟨.text "first", .text "first", rfl, rfl, rfl⟩
        have second : Field.Travels ⟨.made 1 "host" .text, .text "second"⟩ :=
          ⟨.text "second", .text "second", rfl, rfl, rfl⟩
        exact List.forall_mem_cons.mpr ⟨first, List.forall_mem_singleton.mpr second⟩ }
  places := by
    intro place member
    simp only [causeTree_sentGraph, Forest.places, List.map_cons, List.map_nil, List.append_nil,
      List.mem_cons, List.not_mem_nil, or_false] at member
    rcases member with rfl | rfl
    · exact ⟨fun error found => (by cases found), fun _ => le_refl 1⟩
    · refine ⟨fun error found => ?_, fun absent => (by cases absent)⟩
      cases found
      exact isWireable_sealedError

/-- The sent error comes back as it was sent, but for its stacks. -/
theorem decode_toJson_sentError :
    sentGraph.occurrence? ⟨3⟩ = some sentError ∧
      sentGraph.IsWireable receiver ⟨3⟩ sentError ∧
      ∃ form,
        sentGraph.toJson ⟨3⟩ sentError = .ok form ∧
          ∃ identity after restored,
            (Store.initial .standard).decode receiver form = .ok (identity, after) ∧
              after.graph.occurrence? identity = some restored ∧
              after.graph.toJson identity restored = .ok form.withoutStacks :=
  ⟨rfl, isWireable_sentError,
    Graph.decode_toJson rfl isWireable_sentError (Store.initial .standard)⟩

end Fault
