import Fault.Proofs.TreeScan
import Fault.Resolver.Basic

/-!
# Graphs that look alike

Two values look alike when they are the same, or when both are redacted values of one type. This
carries over to fields, definitions and errors: errors that look alike may differ in hidden values,
and errors of a boundary definition may differ in the cause they store too. Two graphs look alike on
a set of errors when their errors do and when nothing of the set exposes an error outside of it. The
links, chains and trees of such graphs are the same on the set, and so are look-ups in them.
-/

namespace Fault

/-- Options are related when both are empty, or when both hold something and these are related. -/
theorem rel_iff
    {α β : Type}
    {related : α → β → Prop}
    {first : Option α}
    {second : Option β} :
    Option.Rel related first second ↔
      (first = none ∧ second = none) ∨
        ∃ left right, first = some left ∧ second = some right ∧ related left right := by
  constructor
  · intro relates
    cases relates with
    | none =>
        exact .inl ⟨rfl, rfl⟩
    | some holds =>
        exact .inr ⟨_, _, rfl, rfl, holds⟩
  · rintro (⟨rfl, rfl⟩ | ⟨left, right, rfl, rfl, holds⟩)
    · exact .none
    · exact .some holds

theorem rel_refl
    {α : Type}
    {related : α → α → Prop}
    (refl : ∀ item, related item item)
    (found : Option α) :
    Option.Rel related found found := by
  cases found with
  | none =>
      exact .none
  | some item =>
      exact .some (refl item)

/-! ## Values and fields -/

/-- Whether two values are the same but for what is redacted. -/
inductive Value.LooksLike : Value → Value → Prop where
  | same (value : Value) : LooksLike value value
  | redactedText (first second : Redacted String) :
      LooksLike (.redactedText first) (.redactedText second)
  | redactedInteger (first second : Redacted Int) :
      LooksLike (.redactedInteger first) (.redactedInteger second)

namespace Value.LooksLike

variable {first second : Value}

/-- Values that look alike are of one type. -/
theorem type_eq (alike : first.LooksLike second) :
    first.type = second.type := by
  cases alike <;> rfl

/-- Values that look alike are dumped alike. -/
theorem dump_eq (alike : first.LooksLike second) :
    first.dump = second.dump := by
  cases alike <;> rfl

/-- Values that look alike have the same form, or fail alike. -/
theorem toJson_eq (alike : first.LooksLike second) :
    first.toJson = second.toJson := by
  cases alike <;> rfl

/-- A key accepts both of two values that look alike, or none. -/
theorem accept?
    (alike : first.LooksLike second)
    (key : Key) :
    Option.Rel LooksLike (key.accept? first) (key.accept? second) := by
  unfold Key.accept?
  rw [← alike.type_eq]
  split
  · exact .some alike
  · exact .none

end Value.LooksLike

/-- Whether two fields have one key and values that look alike. -/
structure Field.LooksLike (first second : Field) : Prop where
  key : first.key = second.key
  value : first.value.LooksLike second.value

theorem Field.LooksLike.refl (field : Field) : field.LooksLike field :=
  ⟨rfl, .same field.value⟩

/-- Fields that look alike are shown as the same text. -/
theorem Field.LooksLike.text_eq
    {first second : Field}
    (alike : first.LooksLike second) :
    first.text = second.text := by
  rw [Field.text, Field.text, Field.name, Field.name, alike.key, alike.value.dump_eq]

/-- Whether fields look alike one by one. -/
def Fields.LooksLike (first second : Fields) : Prop :=
  List.Forall₂ Field.LooksLike first.entries second.entries

namespace Fields.LooksLike

theorem refl (fields : Fields) : fields.LooksLike fields :=
  List.forall₂_same.mpr fun field _ => .refl field

variable {first second : Fields}

/-- What shows the same of two fields that look alike shows the same of all fields. -/
theorem map_eq
    {α : Type}
    {shown : Field → α}
    (alike : first.LooksLike second)
    (same : ∀ field other, field.LooksLike other → shown field = shown other) :
    first.entries.map shown = second.entries.map shown := by
  rw [← List.forall₂_eq_eq_eq, List.forall₂_map_left_iff, List.forall₂_map_right_iff]
  exact List.Forall₂.imp same alike

/-- Fields that look alike are empty together. -/
theorem isEmpty_eq (alike : first.LooksLike second) :
    first.isEmpty = second.isEmpty := by
  have lengths := List.Forall₂.length_eq alike
  rw [isEmpty, isEmpty, Bool.eq_iff_iff, List.isEmpty_iff_length_eq_zero,
    List.isEmpty_iff_length_eq_zero, lengths]

/-- Fields that look alike are dumped alike. -/
theorem dump_eq (alike : first.LooksLike second) :
    first.dump = second.dump := by
  have shown :
      first.entries.map (fun field => (Text.quote field.name, field.value.dump)) =
        second.entries.map fun field => (Text.quote field.name, field.value.dump) := by
    apply alike.map_eq
    intro field other fieldsAlike
    rw [Field.name, Field.name, fieldsAlike.key, fieldsAlike.value.dump_eq]
  rw [dump, dump, shown]

/-- Fields that look alike one by one render to the same members. -/
private theorem toMembersFrom_eq
    {fields others : List Field}
    (alike : List.Forall₂ Field.LooksLike fields others)
    (members : Members) :
    toMembersFrom members fields = toMembersFrom members others := by
  induction alike generalizing members with
  | nil =>
      rfl
  | cons fieldsAlike _ inductionHypothesis =>
      rw [toMembersFrom, toMembersFrom, fieldsAlike.value.toJson_eq, Field.name, Field.name,
        fieldsAlike.key]
      simp only [inductionHypothesis]

/-- Fields that look alike render to the same members. -/
theorem toMembers_eq (alike : first.LooksLike second) :
    first.toMembers = second.toMembers :=
  toMembersFrom_eq alike []

/-- A field is found among others when one that looks like it is found among those that look like
them. -/
private theorem find?_entries
    {fields others : List Field}
    (alike : List.Forall₂ Field.LooksLike fields others)
    (identity : Nat) :
    Option.Rel Field.LooksLike
      (fields.find? fun field => field.key.identity == identity)
      (others.find? fun field => field.key.identity == identity) := by
  induction alike with
  | nil =>
      exact .none
  | @cons field other fields others fieldsAlike _ inductionHypothesis =>
      rw [List.find?_cons, List.find?_cons, fieldsAlike.key]
      cases isWanted : other.key.identity == identity with
      | true =>
          exact .some fieldsAlike
      | false =>
          exact inductionHypothesis

/-- A key finds values that look alike in fields that look alike. -/
theorem get?
    (alike : first.LooksLike second)
    (key : Key) :
    Option.Rel Value.LooksLike (first.get? key) (second.get? key) := by
  unfold Fields.get? Fields.find?
  rcases rel_iff.mp (find?_entries alike key.identity) with
    ⟨noneFirst, noneSecond⟩ | ⟨field, other, foundFirst, foundSecond, fieldsAlike⟩
  · rw [noneFirst, noneSecond]
    exact .none
  · rw [foundFirst, foundSecond]
    exact fieldsAlike.value.accept? key

end Fields.LooksLike

/-! ## Definitions -/

/-- Whether two templates are the same but for what is redacted. -/
structure Template.LooksLike (first second : Template) : Prop where
  kind : first.kind = second.kind
  noTrace : first.noTrace = second.noTrace
  skip : first.skip = second.skip
  depth : first.depth = second.depth
  boundary : first.boundary = second.boundary
  formatter : first.formatter = second.formatter
  marshaler : first.marshaler = second.marshaler
  logValuer : first.logValuer = second.logValuer
  fields : first.fields.LooksLike second.fields

theorem Template.LooksLike.refl (template : Template) : template.LooksLike template where
  kind := rfl
  noTrace := rfl
  skip := rfl
  depth := rfl
  boundary := rfl
  formatter := rfl
  marshaler := rfl
  logValuer := rfl
  fields := .refl template.fields

/-- Whether two roots are the same but for what is redacted. -/
def Definition.OriginLooksLike (first second : Nat × Template) : Prop :=
  first.1 = second.1 ∧ first.2.LooksLike second.2

theorem Definition.OriginLooksLike.refl (origin : Nat × Template) : OriginLooksLike origin origin :=
  ⟨rfl, .refl origin.2⟩

/-- Whether two definitions are the same but for what is redacted. -/
structure Definition.LooksLike (first second : Definition) : Prop where
  identity : first.identity = second.identity
  template : first.template.LooksLike second.template
  origin : Option.Rel OriginLooksLike first.origin second.origin

namespace Definition.LooksLike

theorem refl (definition : Definition) : definition.LooksLike definition where
  identity := rfl
  template := .refl definition.template
  origin := rel_refl OriginLooksLike.refl definition.origin

variable {first second : Definition}

/-- Definitions that look alike are roots together. -/
theorem isRoot_eq (alike : first.LooksLike second) :
    first.isRoot = second.isRoot := by
  unfold isRoot
  rcases rel_iff.mp alike.origin with
    ⟨isRoot, otherIsRoot⟩ | ⟨origin, other, derived, otherDerived, _⟩
  · rw [isRoot, otherIsRoot]
  · rw [derived, otherDerived]
    rfl

/-- Definitions that look alike have one root. -/
theorem rootIdentity_eq (alike : first.LooksLike second) :
    first.rootIdentity = second.rootIdentity := by
  unfold rootIdentity root
  rcases rel_iff.mp alike.origin with
    ⟨isRoot, otherIsRoot⟩ | ⟨origin, other, derived, otherDerived, originsAlike⟩
  · rw [isRoot, otherIsRoot]
    exact alike.identity
  · rw [derived, otherDerived]
    exact originsAlike.1

/-- Definitions that look alike are dumped alike. -/
theorem dump_eq (alike : first.LooksLike second) :
    first.dump = second.dump := by
  have template := alike.template
  simp only [dump, template.kind, template.fields.isEmpty_eq, template.fields.dump_eq,
    template.noTrace, template.skip, template.depth, template.boundary, alike.isRoot_eq]

end Definition.LooksLike

/-! ## Errors -/

/-- The errors that a cause leads to. -/
def Cause.exposed : Cause → List ErrorId
  | .none => []
  | .single error _ => [error]
  | .joined group => [group]

/-- The errors that an occurrence exposes: a boundary exposes none. -/
def Occurrence.exposed (error : Occurrence) : List ErrorId :=
  if error.definition.isBoundary then [] else error.cause.exposed

/-- The errors of which a piece of text shows a text. -/
def ForeignPiece.exposed : ForeignPiece → List ErrorId
  | .text _ => []
  | .error _ identity => [identity]

/-- The errors that an error exposes, by its links, by its source or by its texts. -/
def Node.exposed : Node → List ErrorId
  | .occurrence error => error.exposed
  | .joined members => members
  | .recovered panic => panic.error.toList
  | .unclaimed cause => cause.cause.toList
  | .foreign error =>
      error.source.toList ++
        [Verb.display, .alternate, .debug].flatMap fun verb =>
          (error.form verb).flatMap ForeignPiece.exposed
  | .marker _ => []

/-- An error that a foreign error shows in a text is exposed by it. -/
theorem ForeignPiece.mem_exposed
    {error : Foreign}
    {verb other : Verb}
    {identity : ErrorId}
    (member : .error other identity ∈ error.form verb) :
    identity ∈ (Node.foreign error).exposed := by
  have shown : identity ∈ (error.form verb).flatMap ForeignPiece.exposed :=
    List.mem_flatMap.mpr ⟨_, member, List.mem_singleton_self identity⟩
  apply List.mem_append_right
  exact List.mem_flatMap.mpr ⟨verb, by cases verb <;> simp, shown⟩

/-- Whether two occurrences are the same but for what is redacted and what a boundary hides. -/
structure Occurrence.LooksLike (first second : Occurrence) : Prop where
  definition : first.definition.LooksLike second.definition
  message : first.message = second.message
  stack : first.stack = second.stack
  cause : first.definition.isBoundary = false → first.cause = second.cause

theorem Occurrence.LooksLike.refl (error : Occurrence) : error.LooksLike error :=
  ⟨.refl error.definition, rfl, rfl, fun _ => rfl⟩

/-- Occurrences that look alike stand behind boundaries together. -/
theorem Occurrence.LooksLike.isBoundary_eq
    {first second : Occurrence}
    (alike : first.LooksLike second) :
    first.definition.isBoundary = second.definition.isBoundary :=
  alike.definition.template.boundary

/-- Whether two errors are occurrences that look alike, or the same error of any other kind. -/
inductive Node.LooksLike : Node → Node → Prop where
  | occurrence
      {first second : Occurrence}
      (alike : first.LooksLike second) :
      LooksLike (.occurrence first) (.occurrence second)
  | other
      (node : Node)
      (plain : node.occurrence? = none) :
      LooksLike node node

theorem Node.LooksLike.refl (node : Node) : node.LooksLike node := by
  cases node with
  | occurrence error =>
      exact .occurrence (.refl error)
  | joined members =>
      exact .other _ rfl
  | recovered panic =>
      exact .other _ rfl
  | unclaimed cause =>
      exact .other _ rfl
  | foreign error =>
      exact .other _ rfl
  | marker error =>
      exact .other _ rfl

/-- Whether the errors of a graph expose errors of the graph only. -/
def Graph.IsClosed (graph : Graph) : Prop :=
  ∀ node ∈ graph.nodes.toList, ∀ other ∈ node.exposed, other.index < graph.size

instance (graph : Graph) : Decidable graph.IsClosed :=
  inferInstanceAs
    (Decidable (∀ node ∈ graph.nodes.toList, ∀ other ∈ node.exposed, other.index < graph.size))

/-- What an error of a closed graph exposes is in the graph. -/
theorem Graph.IsClosed.index_lt_size
    {graph : Graph}
    (closed : graph.IsClosed)
    {identity other : ErrorId}
    {node : Node}
    (found : graph.get? identity = some node)
    (exposed : other ∈ node.exposed) :
    other.index < graph.size := by
  apply closed node _ other exposed
  exact Array.mem_toList_iff.mpr (Array.mem_of_getElem? found)

/-- The marker that an error is. -/
def Node.marker? : Node → Option Marker
  | .marker error => some error
  | _ => none

/-- The marker of an identity. -/
def Graph.marker?
    (graph : Graph)
    (identity : ErrorId) :
    Option Marker :=
  (graph.get? identity).bind Node.marker?

/-- Of two errors only what markers they are and their identities count for whether they are the
same. -/
theorem Graph.sameError_eq_marker?
    (graph : Graph)
    (first second : ErrorId) :
    graph.sameError first second =
      match graph.marker? first, graph.marker? second with
      | some firstError, some secondError => firstError.message == secondError.message
      | none, none => first == second
      | _, _ => false := by
  unfold sameError marker?
  cases graph.get? first with
  | none =>
      cases graph.get? second with
      | none =>
          rfl
      | some node =>
          cases node <;> rfl
  | some firstNode =>
      cases graph.get? second with
      | none =>
          cases firstNode <;> rfl
      | some secondNode =>
          cases firstNode <;> cases secondNode <;> rfl

theorem Graph.sameError_self
    (graph : Graph)
    (error : ErrorId) :
    graph.sameError error error = true := by
  rw [Graph.sameError_eq_marker?]
  cases graph.marker? error <;> simp

/-- Whether a template replaces an output of its errors. -/
def Template.isRendered (template : Template) : Bool :=
  template.formatter.isSome || template.marshaler.isSome || template.logValuer.isSome

/-- Whether two graphs have errors that look alike under every identity of a set, and nothing of the
set exposes an error outside of it. A renderer could read what is redacted, so where a definition
has one, its fields are the same in both graphs. -/
structure Graph.LooksLike
    (inside : ErrorId → Prop)
    (first second : Graph) :
    Prop where
  nodes :
    ∀ identity,
      inside identity →
      Option.Rel Node.LooksLike (first.get? identity) (second.get? identity)
  closed :
    ∀ identity node other,
      inside identity →
      first.get? identity = some node →
      other ∈ node.exposed →
      inside other
  fields_eq :
    ∀ identity error other,
      inside identity →
      first.get? identity = some (.occurrence error) →
      second.get? identity = some (.occurrence other) →
      error.definition.template.isRendered = true →
      error.definition.fields = other.definition.fields

namespace Graph.LooksLike

open Relation

variable {inside : ErrorId → Prop} {first second : Graph}

/-! ## Links -/

/-- Under every identity of the set there is no error in both graphs, or the same occurrence but for
what is redacted or hidden, or the same error of another kind. -/
theorem get?_cases
    (alike : first.LooksLike inside second)
    {identity : ErrorId}
    (member : inside identity) :
    (first.get? identity = none ∧ second.get? identity = none) ∨
      (∃ error other,
        first.get? identity = some (.occurrence error) ∧
          second.get? identity = some (.occurrence other) ∧
          error.LooksLike other) ∨
      ∃ node,
        first.get? identity = some node ∧
          second.get? identity = some node ∧
          node.occurrence? = none := by
  rcases rel_iff.mp (alike.nodes identity member) with
    absent | ⟨node, other, found, otherFound, nodesAlike⟩
  · exact .inl absent
  · cases nodesAlike with
    | occurrence occurrencesAlike =>
        exact .inr (.inl ⟨_, _, found, otherFound, occurrencesAlike⟩)
    | other _ plain =>
        exact .inr (.inr ⟨_, found, otherFound, plain⟩)

/-- An occurrence inside looks like the one of the same identity in the other graph. -/
theorem looksLike_of_get?
    (alike : first.LooksLike inside second)
    {identity : ErrorId}
    (member : inside identity)
    {error other : Occurrence}
    (found : first.get? identity = some (.occurrence error))
    (otherFound : second.get? identity = some (.occurrence other)) :
    error.LooksLike other := by
  have nodes := alike.nodes identity member
  rw [found, otherFound, Option.rel_some_some] at nodes
  cases nodes with
  | occurrence occurrencesAlike =>
      exact occurrencesAlike
  | other _ plain =>
      simp [Node.occurrence?] at plain

/-- An error inside has an identity in both graphs or in none. -/
theorem isIdentified_eq
    (alike : first.LooksLike inside second)
    {identity : ErrorId}
    (member : inside identity) :
    first.isIdentified identity = second.isIdentified identity := by
  rcases alike.get?_cases member with
    ⟨absent, otherAbsent⟩ | ⟨error, other, found, otherFound, _⟩ | ⟨node, found, otherFound, _⟩
  · simp [isIdentified, absent, otherAbsent]
  · simp [isIdentified, found, otherFound, Node.isMarker]
  · simp [isIdentified, found, otherFound]

/-- An error inside is an occurrence in both graphs or in none, and the two look alike. -/
theorem occurrence?
    (alike : first.LooksLike inside second)
    {identity : ErrorId}
    (member : inside identity) :
    Option.Rel Occurrence.LooksLike (first.occurrence? identity) (second.occurrence? identity) := by
  rcases alike.get?_cases member with
    ⟨absent, otherAbsent⟩ | ⟨error, other, found, otherFound, occurrencesAlike⟩ |
      ⟨node, found, otherFound, plain⟩
  · simp [Graph.occurrence?, absent, otherAbsent]
  · simpa [Graph.occurrence?, found, otherFound, Node.occurrence?] using occurrencesAlike
  · simp [Graph.occurrence?, found, otherFound, plain]

/-- The members of a group inside are inside. -/
theorem inside_of_mem_members
    (alike : first.LooksLike inside second)
    {group identity : ErrorId}
    (member : inside group)
    (gathered : identity ∈ first.members group) :
    inside identity := by
  unfold members at gathered
  split at gathered
  · next members found =>
      exact alike.closed group _ identity member found gathered
  · simp at gathered

/-- Links lead from errors of the set to errors of the set. -/
theorem inside_of_linksTo
    (alike : first.LooksLike inside second)
    {error cause : ErrorId}
    (member : inside error)
    (linked : first.LinksTo error cause) :
    inside cause := by
  have exposedInside := alike.closed error
  unfold LinksTo causes links at linked
  cases found : first.get? error with
  | none =>
      simp [found] at linked
  | some node =>
      cases node with
      | occurrence occurrence =>
          simp only [found, occurrenceLinks] at linked
          cases boundary : occurrence.definition.isBoundary with
          | true =>
              simp [boundary] at linked
          | false =>
              have shows : ∀ other ∈ occurrence.cause.exposed, inside other := by
                intro other exposed
                apply exposedInside _ other member found
                simpa [Node.exposed, Occurrence.exposed, boundary] using exposed
              cases causeShape : occurrence.cause with
              | none =>
                  simp [boundary, causeShape] at linked
              | single target typeName =>
                  have isTarget : cause = target := by
                    simpa [boundary, causeShape] using linked
                  exact shows cause (by simp [causeShape, Cause.exposed, isTarget])
              | joined group =>
                  have gathered : cause ∈ first.members group := by
                    simpa [boundary, causeShape, Link.untyped] using linked
                  exact alike.inside_of_mem_members
                    (shows group (by simp [causeShape, Cause.exposed])) gathered
      | joined members =>
          apply exposedInside _ cause member found
          simpa [found, Link.untyped, Node.exposed] using linked
      | recovered panic =>
          apply exposedInside _ cause member found
          simpa [found, Link.untyped, Node.exposed] using linked
      | unclaimed unclaimed =>
          apply exposedInside _ cause member found
          simpa [found, Link.untyped, Node.exposed] using linked
      | foreign foreign =>
          apply exposedInside _ cause member found
          have isSource : cause ∈ foreign.source.toList := by
            simpa [found, Link.untyped] using linked
          exact List.mem_append_left _ isSource
      | marker marker =>
          simp [found] at linked

/-- What can be reached from inside is inside. -/
theorem inside_of_reaches
    (alike : first.LooksLike inside second)
    {start finish : ErrorId}
    (member : inside start)
    (reached : first.Reaches start finish) :
    inside finish := by
  induction reached with
  | refl =>
      exact member
  | tail _ linked inductionHypothesis =>
      exact alike.inside_of_linksTo inductionHypothesis linked

/-- A group inside has the same members in both graphs. -/
theorem members_eq
    (alike : first.LooksLike inside second)
    {group : ErrorId}
    (member : inside group) :
    first.members group = second.members group := by
  rcases alike.get?_cases member with
    ⟨absent, otherAbsent⟩ | ⟨error, other, found, otherFound, _⟩ | ⟨node, found, otherFound, _⟩
  · simp [members, absent, otherAbsent]
  · simp [members, found, otherFound]
  · simp [members, found, otherFound]

/-- The occurrences of an identity have the same links: where they may store different causes, none
has any. -/
theorem occurrenceLinks_eq
    (alike : first.LooksLike inside second)
    {identity : ErrorId}
    (member : inside identity)
    {error other : Occurrence}
    (found : first.get? identity = some (.occurrence error))
    (otherFound : second.get? identity = some (.occurrence other)) :
    first.occurrenceLinks error = second.occurrenceLinks other := by
  have occurrencesAlike := alike.looksLike_of_get? member found otherFound
  unfold occurrenceLinks
  rw [← occurrencesAlike.isBoundary_eq]
  cases boundary : error.definition.isBoundary with
  | true =>
      rfl
  | false =>
      rw [← occurrencesAlike.cause boundary]
      cases causeShape : error.cause with
      | none =>
          rfl
      | single target typeName =>
          rfl
      | joined group =>
          have groupInside : inside group := by
            apply alike.closed identity _ group member found
            simp [Node.exposed, Occurrence.exposed, boundary, causeShape, Cause.exposed]
          simp only [alike.members_eq groupInside]

/-- An error inside has the same links in both graphs. -/
theorem links_eq
    (alike : first.LooksLike inside second)
    {identity : ErrorId}
    (member : inside identity) :
    first.links identity = second.links identity := by
  rcases alike.get?_cases member with
    ⟨absent, otherAbsent⟩ | ⟨error, other, found, otherFound, _⟩ | ⟨node, found, otherFound, plain⟩
  · simp [links, absent, otherAbsent]
  · simp only [links, found, otherFound]
    exact alike.occurrenceLinks_eq member found otherFound
  · cases node with
    | occurrence error =>
        simp [Node.occurrence?] at plain
    | _ =>
        simp [links, found, otherFound]

/-- An error inside has the same causes in both graphs. -/
theorem causes_eq
    (alike : first.LooksLike inside second)
    {identity : ErrorId}
    (member : inside identity) :
    first.causes identity = second.causes identity := by
  rw [causes, causes, alike.links_eq member]

/-- An error inside has the same source in both graphs. -/
theorem source?_eq
    (alike : first.LooksLike inside second)
    {identity : ErrorId}
    (member : inside identity) :
    first.source? identity = second.source? identity := by
  rcases alike.get?_cases member with
    ⟨absent, otherAbsent⟩ | ⟨error, other, found, otherFound, occurrencesAlike⟩ |
      ⟨node, found, otherFound, plain⟩
  · simp [source?, absent, otherAbsent]
  · simp only [source?, found, otherFound, ← occurrencesAlike.isBoundary_eq]
    cases boundary : error.definition.isBoundary with
    | true =>
        rfl
    | false =>
        rw [occurrencesAlike.cause boundary]
  · cases node with
    | occurrence error =>
        simp [Node.occurrence?] at plain
    | _ =>
        simp [source?, found, otherFound]

/-- An error inside is the same marker in both graphs, or in none. -/
theorem marker?_eq
    (alike : first.LooksLike inside second)
    {identity : ErrorId}
    (member : inside identity) :
    first.marker? identity = second.marker? identity := by
  rcases alike.get?_cases member with
    ⟨absent, otherAbsent⟩ | ⟨error, other, found, otherFound, _⟩ | ⟨node, found, otherFound, _⟩
  · simp [marker?, absent, otherAbsent]
  · simp [marker?, found, otherFound, Node.marker?]
  · simp [marker?, found, otherFound]

/-- Two errors inside are the same in both graphs or in none. -/
theorem sameError_eq
    (alike : first.LooksLike inside second)
    {identity target : ErrorId}
    (member : inside identity)
    (targetMember : inside target) :
    first.sameError identity target = second.sameError identity target := by
  rw [sameError_eq_marker?, sameError_eq_marker?, alike.marker?_eq member,
    alike.marker?_eq targetMember]

/-! ## Chains and trees -/

/-- A walk from inside meets the same errors in both graphs. -/
theorem walk_eq
    (alike : first.LooksLike inside second)
    {seen pending : List ErrorId}
    (members : ∀ identity ∈ pending, inside identity) :
    first.walk seen pending = second.walk seen pending := by
  fun_induction first.walk seen pending with
  | case1 seen =>
      simp [walk]
  | case2 seen identity rest identified seenBefore inductionHypothesis =>
      obtain ⟨member, restMembers⟩ := List.forall_mem_cons.mp members
      rw [walk, dif_pos (by rwa [← alike.isIdentified_eq member]), dif_pos seenBefore]
      exact inductionHypothesis restMembers
  | case3 seen identity rest identified new inductionHypothesis =>
      obtain ⟨member, restMembers⟩ := List.forall_mem_cons.mp members
      rw [walk, dif_pos (by rwa [← alike.isIdentified_eq member]), dif_neg new,
        ← alike.causes_eq member]
      congr 1
      apply inductionHypothesis
      intro next nextMember
      rcases List.mem_append.mp nextMember with isCause | inRest
      · exact alike.inside_of_linksTo member isCause
      · exact restMembers next inRest
  | case4 seen identity rest unidentified inductionHypothesis =>
      obtain ⟨member, restMembers⟩ := List.forall_mem_cons.mp members
      rw [walk, dif_neg (by rwa [← alike.isIdentified_eq member])]
      congr 1
      exact inductionHypothesis restMembers

/-- The chain of an error inside is the same in both graphs. -/
theorem chain_eq
    (alike : first.LooksLike inside second)
    {start : ErrorId}
    (member : inside start) :
    first.chain start = second.chain start := by
  apply alike.walk_eq
  simpa using member

/-- The chain of an error inside stays inside. -/
theorem inside_of_mem_chain
    (alike : first.LooksLike inside second)
    {start identity : ErrorId}
    (member : inside start)
    (found : identity ∈ first.chain start) :
    inside identity :=
  alike.inside_of_reaches member (mem_chain_iff.mp found)

/-- Links that lead inside unfold to the same forest in both graphs. -/
theorem unfold_eq
    (alike : first.LooksLike inside second)
    {path : List ErrorId}
    {links : List Link}
    (members : ∀ link ∈ links, inside link.target) :
    first.unfold path links = second.unfold path links := by
  induction path, links using first.unfold_induction with
  | nil path =>
      simp [unfold]
  | cut path link rest cut inductionHypothesis =>
      obtain ⟨member, restMembers⟩ := List.forall_mem_cons.mp members
      have otherCut : second.isCut path link = true := by
        rw [← cut, isCut, isCut, alike.isIdentified_eq member]
      rw [unfold_cons, unfold_cons, if_pos cut, if_pos otherCut, inductionHypothesis restMembers]
  | node path link rest kept belowHypothesis restHypothesis =>
      obtain ⟨member, restMembers⟩ := List.forall_mem_cons.mp members
      have otherKept : second.isCut path link = false := by
        rw [← kept, isCut, isCut, alike.isIdentified_eq member]
      have sameExtension :
          first.extend path link.target = second.extend path link.target := by
        rw [extend, extend, alike.isIdentified_eq member]
      have belowMembers :
          ∀ deeper ∈ first.links link.target, inside deeper.target :=
        fun deeper linked => alike.inside_of_linksTo member (linksTo_of_mem_links linked)
      rw [unfold_cons, unfold_cons, if_neg (by simp [kept]), if_neg (by simp [otherKept]),
        belowHypothesis belowMembers, restHypothesis restMembers, sameExtension,
        alike.links_eq member]

/-- The cause tree of an error inside is the same in both graphs. -/
theorem causeTree_eq
    (alike : first.LooksLike inside second)
    {root : ErrorId}
    (member : inside root) :
    first.causeTree root = second.causeTree root := by
  have linksMembers : ∀ link ∈ first.links root, inside link.target :=
    fun link linked => alike.inside_of_linksTo member (linksTo_of_mem_links linked)
  have samePath : first.startPath root = second.startPath root := by
    rw [startPath, startPath, alike.isIdentified_eq member]
  rw [causeTree, causeTree, alike.unfold_eq linksMembers, samePath, alike.links_eq member]

/-- The cause tree of an error inside stays inside. -/
theorem inside_of_mem_visits
    (alike : first.LooksLike inside second)
    {root identity : ErrorId}
    (member : inside root)
    (visited : identity ∈ (first.causeTree root).visits) :
    inside identity := by
  apply alike.inside_of_mem_chain member
  rw [← List.mem_eraseDups, eraseDups_chain, List.mem_eraseDups]
  exact List.mem_cons_of_mem root visited

/-! ## Look-ups -/

/-- The first occurrence among errors inside looks alike in both graphs. -/
private theorem findSome?_rel
    {errors : List ErrorId}
    (alike : first.LooksLike inside second)
    (members : ∀ identity ∈ errors, inside identity) :
    Option.Rel Occurrence.LooksLike
      (errors.findSome? first.occurrence?) (errors.findSome? second.occurrence?) := by
  induction errors with
  | nil =>
      exact .none
  | cons identity rest inductionHypothesis =>
      obtain ⟨headInside, restInside⟩ := List.forall_mem_cons.mp members
      rw [List.findSome?_cons, List.findSome?_cons]
      rcases rel_iff.mp (alike.occurrence? headInside) with
        ⟨absent, otherAbsent⟩ | ⟨error, other, found, otherFound, occurrencesAlike⟩
      · rw [absent, otherAbsent]
        exact inductionHypothesis restInside
      · rw [found, otherFound]
        exact .some occurrencesAlike

/-- The first occurrences of chains look alike. -/
theorem firstOccurrence?
    (alike : first.LooksLike inside second)
    {start : ErrorId}
    (member : inside start) :
    Option.Rel Occurrence.LooksLike
      (first.firstOccurrence? start) (second.firstOccurrence? start) := by
  rw [Graph.firstOccurrence?, Graph.firstOccurrence?, ← alike.chain_eq member]
  exact alike.findSome?_rel fun identity found => alike.inside_of_mem_chain member found

/-- A key reads values that look alike. -/
theorem read?
    (alike : first.LooksLike inside second)
    {start : ErrorId}
    (member : inside start)
    (key : Key) :
    Option.Rel Value.LooksLike (key.read? first start) (key.read? second start) := by
  unfold Key.read?
  rcases rel_iff.mp (alike.firstOccurrence? member) with
    ⟨absent, otherAbsent⟩ | ⟨error, other, found, otherFound, occurrencesAlike⟩
  · rw [absent, otherAbsent]
    exact .none
  · rw [found, otherFound]
    exact occurrencesAlike.definition.template.fields.get? key

/-- A search finds the same when it cannot tell the errors of the set apart. -/
theorem find?_eq
    (alike : first.LooksLike inside second)
    {start : ErrorId}
    (member : inside start)
    {accepts : Node → Bool}
    (same :
      ∀ identity node other,
        inside identity →
        first.get? identity = some node →
        second.get? identity = some other →
        accepts node = accepts other) :
    first.find? accepts start = second.find? accepts start := by
  rw [Graph.find?, Graph.find?, ← alike.chain_eq member]
  apply List.find?_congr
  intro identity found
  have isInside := alike.inside_of_mem_chain member found
  rcases rel_iff.mp (alike.nodes identity isInside) with
    ⟨absent, otherAbsent⟩ | ⟨node, other, present, otherPresent, _⟩
  · rw [absent, otherAbsent]
  · rw [present, otherPresent]
    exact same identity node other isInside present otherPresent

/-- What holds of any error in a chain holds of one in both graphs. -/
private theorem any_chain_eq
    (alike : first.LooksLike inside second)
    {start : ErrorId}
    (member : inside start)
    {accepts otherAccepts : ErrorId → Bool}
    (same : ∀ identity, inside identity → accepts identity = otherAccepts identity) :
    (first.chain start).any accepts = (second.chain start).any otherAccepts := by
  rw [← alike.chain_eq member, Bool.eq_iff_iff, List.any_eq_true, List.any_eq_true]
  apply exists_congr
  intro identity
  apply and_congr_right
  intro found
  rw [same identity (alike.inside_of_mem_chain member found)]

/-- An error inside is in the chain of another one in both graphs or in none. -/
theorem isIn_eq
    (alike : first.LooksLike inside second)
    {start target : ErrorId}
    (member : inside start)
    (targetMember : inside target) :
    first.isIn target start = second.isIn target start :=
  alike.any_chain_eq member fun _ found => alike.sameError_eq found targetMember

/-- A definition claims an error inside in both graphs or in none. -/
theorem claims_eq
    (alike : first.LooksLike inside second)
    {start : ErrorId}
    (member : inside start)
    (definition : Definition) :
    definition.claims first start = definition.claims second start := by
  apply alike.any_chain_eq member
  intro identity found
  rcases rel_iff.mp (alike.occurrence? found) with
    ⟨absent, otherAbsent⟩ | ⟨error, other, present, otherPresent, occurrencesAlike⟩
  · rw [absent, otherAbsent]
  · rw [present, otherPresent, Option.any_some, Option.any_some, Definition.sameRoot,
      Definition.sameRoot, occurrencesAlike.definition.rootIdentity_eq]

/-- A resolver finds the same origin of an error inside in both graphs. -/
theorem origin?_eq
    (alike : first.LooksLike inside second)
    {start : ErrorId}
    (member : inside start)
    (resolver : Resolver) :
    resolver.origin? first start = resolver.origin? second start := by
  unfold Resolver.origin?
  rcases rel_iff.mp (alike.firstOccurrence? member) with
    ⟨absent, otherAbsent⟩ | ⟨error, other, found, otherFound, occurrencesAlike⟩
  · rw [absent, otherAbsent]
  · have sameObject : error.definition.isSame = other.definition.isSame := by
      funext definition
      rw [Definition.isSame, Definition.isSame, occurrencesAlike.definition.identity]
    have sameRoot : error.definition.sameRoot = other.definition.sameRoot := by
      funext definition
      rw [Definition.sameRoot, Definition.sameRoot, occurrencesAlike.definition.rootIdentity_eq]
    rw [found, otherFound, Option.bind_some, Option.bind_some, sameObject, sameRoot]

end Graph.LooksLike

end Fault
