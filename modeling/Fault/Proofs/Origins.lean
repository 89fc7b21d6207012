import Fault.Proofs.Recipes

/-!
# Where errors that are read come from

A resolver answers two questions about the definitions it was given: which of them has a kind, and
which of them made an error. It answers the first one from an index that keeps the first place of
every kind, and the second one by identity and then by root.

The answers agree on errors that are read. The kind of an object selects the first definition of
that kind, the error is made by that definition or by one derived from it, and it is traced back to
the definition it started from: a definition of the same family in an earlier place would have the
same kind, since no derivation changes it.
-/

namespace Fault

namespace Resolver

variable {resolver : Resolver}

/-! ## The index of kinds -/

/-- The first place of every kind. -/
def kindIndex (resolver : Resolver) : Std.HashMap String Nat :=
  resolver.definitions.zipIdx.foldl
    (fun index placed => index.insertIfNew placed.1.kind.label placed.2) ∅

/-- The definition in the place that the index has for a kind. -/
def indexed?
    (resolver : Resolver)
    (label : String) :
    Option Definition :=
  resolver.kindIndex[label]?.bind fun place => resolver.definitions[place]?

/-- Whether a definition is the first one of a kind. -/
def IsFirstOfKind
    (resolver : Resolver)
    (label : String)
    (definition : Definition) :
    Prop :=
  ∃ earlier later,
    resolver.definitions = earlier ++ definition :: later ∧
      definition.kind.label = label ∧
      ∀ other ∈ earlier, other.kind.label ≠ label

/-- A kind that the index has keeps its place; any other one gets its first place in the list. -/
theorem getElem?_foldl_insertIfNew
    (definitions : List Definition)
    (start : Nat)
    (index : Std.HashMap String Nat)
    (label : String) :
    ((definitions.zipIdx start).foldl
        (fun index placed => index.insertIfNew placed.1.kind.label placed.2) index)[label]? =
      index[label]?.or
        ((definitions.findIdx? fun definition => definition.kind.label == label).map
          (· + start)) := by
  induction definitions generalizing start index with
  | nil =>
      simp
  | cons definition rest inductionHypothesis =>
      simp only [List.zipIdx_cons, List.foldl_cons, inductionHypothesis,
        Std.HashMap.getElem?_insertIfNew, List.findIdx?_cons]
      by_cases isKind : definition.kind.label = label
      · by_cases present : label ∈ index
        · simp [isKind, present]
        · simp [isKind, present]
      · simp [isKind, Option.map_map, Function.comp_def, Nat.add_assoc, Nat.add_comm 1]

/-- The index answers as a search through the definitions does. -/
theorem indexed?_eq_ofKind?
    (resolver : Resolver)
    (label : String) :
    resolver.indexed? label = resolver.ofKind? label := by
  simp only [indexed?, kindIndex, getElem?_foldl_insertIfNew, ofKind?,
    List.find?_eq_bind_findIdx?_getElem?]
  simp

/-- A label finds the first definition of its kind among those of a resolver. -/
theorem ofKind?_eq_some_iff
    {label : String}
    {definition : Definition} :
    resolver.ofKind? label = some definition ↔ resolver.IsFirstOfKind label definition := by
  simp only [ofKind?, List.find?_eq_some_iff_append, IsFirstOfKind, beq_iff_eq, Bool.not_eq_true',
    beq_eq_false_iff_ne]
  constructor
  · rintro ⟨isKind, earlier, later, same, apart⟩
    exact ⟨earlier, later, same, isKind, apart⟩
  · rintro ⟨earlier, later, same, isKind, apart⟩
    exact ⟨isKind, earlier, later, same, apart⟩

/-- Some definition is the first one of a kind that is registered. -/
theorem exists_ofKind?
    {label : String}
    (registered : ∃ definition ∈ resolver.definitions, definition.kind.label = label) :
    ∃ definition, resolver.ofKind? label = some definition := by
  obtain ⟨definition, member, isKind⟩ := registered
  apply Option.isSome_iff_exists.mp
  exact List.find?_isSome.mpr ⟨definition, member, by simpa using isKind⟩

namespace IsFirstOfKind

variable {label : String} {definition : Definition}

/-- The first definition of a kind is one of those of the resolver. -/
theorem mem
    (first : resolver.IsFirstOfKind label definition) :
    definition ∈ resolver.definitions := by
  obtain ⟨earlier, later, same, _⟩ := first
  simp [same]

/-- A search finds the first definition of a kind, when it accepts that definition and no other
ones than those of its kind. -/
theorem find?_eq_some
    (first : resolver.IsFirstOfKind label definition)
    {accepts : Definition → Bool}
    (accepted : accepts definition = true)
    (ofKind :
      ∀ other ∈ resolver.definitions,
        accepts other = true → other.kind.label = definition.kind.label) :
    resolver.definitions.find? accepts = some definition := by
  obtain ⟨earlier, later, same, isKind, apart⟩ := first
  refine List.find?_eq_some_iff_append.mpr ⟨accepted, earlier, later, same, fun other member => ?_⟩
  have inList : other ∈ resolver.definitions := by
    simp [same, member]
  have rejected : accepts other ≠ true :=
    fun accepts => apart other member ((ofKind other inList accepts).trans isKind)
  simpa using rejected

end IsFirstOfKind

/-! ## Tracing back -/

/-- The registered definition that an error of a definition comes from. -/
def source?
    (resolver : Resolver)
    (definition : Definition) :
    Option Definition :=
  (resolver.definitions.find? definition.isSame).or
    (resolver.definitions.find? definition.sameRoot)

section Issued

variable
  {count : Nat}
  {recipes : List Recipe}
  {defaults : Defaults}
  {label : String}
  {recipe : Recipe}

/-- The first definition of a kind is its own source. -/
theorem source?_self
    (issued : Recipe.Issued count recipes)
    (known : resolver.definitions ⊆ recipes.map (Recipe.definition defaults))
    (first : resolver.IsFirstOfKind label (recipe.definition defaults))
    (member : recipe ∈ recipes) :
    resolver.source? (recipe.definition defaults) = some (recipe.definition defaults) := by
  have telling := (issued.definition_numbered defaults).2
  have itself :
      resolver.definitions.find? (recipe.definition defaults).isSame =
        some (recipe.definition defaults) := by
    have isItself : (recipe.definition defaults).isSame (recipe.definition defaults) = true :=
      beq_self_eq_true (recipe.definition defaults).identity
    refine first.find?_eq_some isItself fun other otherMember same => ?_
    obtain ⟨otherRecipe, inRecipes, rfl⟩ := List.mem_map.mp (known otherMember)
    rw [telling recipe member otherRecipe inRecipes (beq_iff_eq.mp same)]
  exact Option.or_eq_some_iff.mpr (.inl itself)

/-- The first definition of a kind is the source of what is derived from it under a number that is
still free: nothing that is registered has this number, and what has the same root has its kind. -/
theorem source?_add
    (issued : Recipe.Issued count recipes)
    (known : resolver.definitions ⊆ recipes.map (Recipe.definition defaults))
    (first : resolver.IsFirstOfKind label (recipe.definition defaults))
    (member : recipe ∈ recipes)
    {step : Derivation}
    (isFree : ((recipe.add step).definition defaults).identity = count) :
    resolver.source? ((recipe.add step).definition defaults) =
      some (recipe.definition defaults) := by
  have bounded := (issued.definition_numbered defaults).1
  have fresh :
      resolver.definitions.find? ((recipe.add step).definition defaults).isSame = none := by
    refine List.find?_eq_none.mpr fun other otherMember same => ?_
    obtain ⟨otherRecipe, inRecipes, rfl⟩ := List.mem_map.mp (known otherMember)
    have isCount : count = (otherRecipe.definition defaults).identity :=
      isFree.symm.trans (beq_iff_eq.mp same)
    have below := bounded otherRecipe inRecipes
    omega
  have byRoot :
      resolver.definitions.find? ((recipe.add step).definition defaults).sameRoot =
        some (recipe.definition defaults) := by
    have family := (Recipe.sameRoot_iff defaults (recipe.add step) recipe).mpr rfl
    refine first.find?_eq_some family fun other otherMember same => ?_
    obtain ⟨otherRecipe, inRecipes, rfl⟩ := List.mem_map.mp (known otherMember)
    have sameStart : recipe.identity = otherRecipe.identity :=
      (Recipe.sameRoot_iff defaults (recipe.add step) otherRecipe).mp same
    have sameKind := issued.kind_eq member inRecipes sameStart
    rw [Recipe.kind_definition, Recipe.kind_definition, sameKind]
  exact Option.or_eq_some_iff.mpr (.inr ⟨fresh, byRoot⟩)

/-- The first definition of a kind is the source of what settings make of it, be it the definition
itself or a new one. -/
theorem source?_derive
    {definition : Definition}
    (issued : Recipe.Issued count recipes)
    (known : resolver.definitions ⊆ recipes.map (Recipe.definition defaults))
    (first : resolver.IsFirstOfKind label definition)
    (settings : List Setting) :
    resolver.source? (definition.derive defaults count settings) = some definition := by
  obtain ⟨recipe, member, rfl⟩ := List.mem_map.mp (known first.mem)
  cases settings with
  | nil =>
      exact source?_self issued known first member
  | cons setting rest =>
      let step : Derivation := .bySettings count (setting :: rest)
      have isMade :
          (recipe.add step).definition defaults =
            (recipe.definition defaults).derive defaults count (setting :: rest) :=
        recipe.definition_add defaults step
      rw [← isMade]
      exact source?_add issued known first member (congrArg Definition.identity isMade)

end Issued

/-- A chain starts with its error, so an occurrence is the first one of its own chain. -/
theorem origin?_of_occurrence
    (resolver : Resolver)
    {graph : Graph}
    {identity : ErrorId}
    {error : Occurrence}
    (found : graph.get? identity = some (.occurrence error)) :
    resolver.origin? graph identity = resolver.source? error.definition := by
  have isOccurrence : graph.occurrence? identity = some error := by
    simp only [Graph.occurrence?, found, Option.bind_some, Node.occurrence?]
  have first : graph.firstOccurrence? identity = some error := by
    rw [Graph.firstOccurrence?, Graph.chain, Graph.walk]
    split <;> simp [isOccurrence]
  simp only [origin?, first, Option.bind_some, source?]

/-- An object of a registered kind is read as an occurrence of the first definition of this kind,
with causes that ask for registered definitions only. -/
theorem exists_draft_of_statedKind
    {members : Members}
    {definition : Definition}
    {draft : Draft}
    (selected : resolver.ofKind? (statedKind members) = some definition)
    (drafted : resolver.draft (.object members) = .ok draft) :
    ∃ settings message causes,
      draft = .occurrence definition settings message causes ∧
        Draft.allDefinitions causes ⊆ resolver.definitions := by
  obtain ⟨_, maker, isObject, made, read⟩ := draft_eq_ok_iff.mp drafted
  cases isObject
  have isMaker : maker = definition := by
    rcases maker?_eq_some_iff.mp made with found | ⟨notFound, _⟩
    · exact Option.some.inj (found.symm.trans selected)
    · cases notFound.symm.trans selected
  subst isMaker
  obtain ⟨message, settings, causes, _, _, caused, rfl⟩ := draftOf_eq_ok_iff.mp read
  refine ⟨settings, message, causes, rfl, ?_⟩
  exact allDefinitions_subset_of_draftAll
    (fun _ _ _ causeRead => definitions_subset_of_draftCause causeRead) caused

end Resolver

/-- An error that is read from an object of a registered kind comes from the definition that the
kind selects, which is the first one of that kind. -/
theorem Store.decode_originates
    {store after : Store}
    {recipes : List Recipe}
    {resolver : Resolver}
    {members : Members}
    {label : String}
    {identity : ErrorId}
    (knows : store.Knows recipes)
    (known : resolver.definitions ⊆ recipes.map (Recipe.definition store.defaults))
    (registered : ∃ definition ∈ resolver.definitions, definition.kind.label = label)
    (stated : Resolver.statedKind members = label)
    (decoded : store.decode resolver (.object members) = .ok (identity, after)) :
    ∃ definition more,
      resolver.IsFirstOfKind label definition ∧
        resolver.indexed? label = some definition ∧
        resolver.origin? after.graph identity = some definition ∧
        after.Knows (recipes ++ more) := by
  obtain ⟨definition, selected⟩ := Resolver.exists_ofKind? registered
  have first := Resolver.ofKind?_eq_some_iff.mp selected
  obtain ⟨draft, drafted, isBuilt⟩ := decode_eq_ok_iff.mp decoded
  rw [← stated] at selected
  obtain ⟨settings, message, causes, rfl, registeredOnly⟩ :=
    Resolver.exists_draft_of_statedKind selected drafted
  have asked := List.Subset.trans registeredOnly known
  obtain ⟨causesMore, causesKnown, sameDefaults⟩ := knows.exists_buildAll causes asked
  obtain ⟨more, allKnown, _⟩ := knows.exists_build (.occurrence definition settings message causes)
    (List.cons_subset.mpr ⟨known first.mem, asked⟩)
  rw [← isBuilt] at allKnown
  have indexed : resolver.indexed? label = some definition := by
    rw [Resolver.indexed?_eq_ofKind?, ← stated, selected]
  refine ⟨definition, more, first, indexed, ?_, allKnown⟩
  have stillKnown :
      resolver.definitions ⊆
        (recipes ++ causesMore).map (Recipe.definition (store.buildAll causes).2.defaults) := by
    rw [sameDefaults, List.map_append]
    exact List.subset_append_of_subset_left _ known
  rw [build_occurrence] at isBuilt
  obtain ⟨rfl, rfl⟩ := Prod.ext_iff.mp isBuilt
  calc
    resolver.origin? _ _
    _ = resolver.source?
          (definition.derive (store.buildAll causes).2.defaults
            (store.buildAll causes).2.definitions settings) :=
        resolver.origin?_of_occurrence (Graph.get?_add _ _)
    _ = some definition :=
        Resolver.source?_derive causesKnown.issued stillKnown first settings

/-! ## A derived definition in front of its root -/

/-- A program with a definition and another one that is derived from it. -/
def relatives : Program :=
  .run .standard [.declare ⟨"net"⟩ [], .derive 0 [.noTrace]]

/-- The definitions of the program, the derived one first and once more behind its root. -/
def derivedFirst : Resolver :=
  ⟨relatives.definitions.reverse ++ relatives.definitions.drop 1, none⟩

/-- An object with a field, and with a cause of its own kind. -/
def relativeForm : Members :=
  [("causes", .array [.object [("kind", .text "net"), ("message", .text "c")]]),
    ("fields", .object [("x", .text "1")]),
    ("kind", .text "net"),
    ("message", .text "m")]

/-- What becomes of the object: an error of a third definition, which is derived from the second
one, with a cause of the second one itself. -/
def relativeResult : ErrorId × Store :=
  let second : Definition :=
    (Definition.declare .standard 0 ⟨"net"⟩ []).derive .standard 1 [.noTrace]
  relatives.store.build <|
    .occurrence second [.field Builtin.details (.details [("x", .text "1")])] "m"
      [.occurrence second [] "c" []]

/-- The object is read by the derived definition, which comes first. -/
theorem decode_relativeForm :
    relatives.store.decode derivedFirst (.object relativeForm) = .ok relativeResult := by
  cbv

/-- The error of a derived definition leads back to it, and to the root that both belong to. -/
theorem decode_originates_relativeForm :
    ∃ recipes,
      relatives.store.Knows recipes ∧
        derivedFirst.definitions ⊆
          recipes.map (Recipe.definition relatives.store.defaults) ∧
        (∃ definition ∈ derivedFirst.definitions, definition.kind.label = "net") ∧
        Resolver.statedKind relativeForm = "net" ∧
        relatives.store.decode derivedFirst (.object relativeForm) =
          .ok (relativeResult.1, relativeResult.2) ∧
        ∃ definition more,
          derivedFirst.IsFirstOfKind "net" definition ∧
            derivedFirst.indexed? "net" = some definition ∧
            derivedFirst.origin? relativeResult.2.graph relativeResult.1 = some definition ∧
            relativeResult.2.Knows (recipes ++ more) := by
  obtain ⟨recipes, knows, same⟩ :=
    Program.exists_knows_run .standard [.declare ⟨"net"⟩ [], .derive 0 [.noTrace]]
  have known :
      derivedFirst.definitions ⊆ recipes.map (Recipe.definition relatives.store.defaults) := by
    intro definition member
    change definition ∈ recipes.map (Recipe.definition (Program.run _ _).store.defaults)
    rw [same]
    rcases List.mem_append.mp member with inFront | behind
    · exact List.mem_reverse.mp inFront
    · exact List.mem_of_mem_drop behind
  have registered :
      ∃ definition ∈ derivedFirst.definitions, definition.kind.label = "net" :=
    ⟨_, List.mem_cons_self, rfl⟩
  have stated : Resolver.statedKind relativeForm = "net" := by
    decide
  exact ⟨recipes, knows, known, registered, stated, decode_relativeForm,
    Store.decode_originates knows known registered stated decode_relativeForm⟩

end Fault
