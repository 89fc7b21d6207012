import Fault.Proofs.DraftReading

/-!
# Fields that were read

Of the fields that an object states none is lost: what a key of the definition reads is stored
under this key, the others are among the details, and all further fields are as the definition has
them. There is one exception. The details are a common field, so a definition may have them as a
field of its own and an object may state them. When the object also states unknown fields, these
take the place of the details that were read.
-/

namespace Fault

namespace Definition

/-- Whether fields are those of a definition with the stated fields read into them. -/
structure KeepsStated
    (definition : Definition)
    (stated : Members)
    (fields : Fields) :
    Prop where
  /-- A field that the definition has a key for is read, and found under the key that was stored
  last of its name. Only details give way, and only to unknown fields. -/
  known :
    ∀ name form key,
      (name, form) ∈ stated →
        definition.keyOf? name = some key →
        ∃ value,
          key.decode form = .ok value ∧
            ((key.identity = Builtin.details.identity → definition.unknown stated = []) →
              fields.find? key.identity = some value)
  /-- A field that the definition has no key for is found among the details. -/
  unknown :
    ∀ name form,
      (name, form) ∈ stated →
        definition.keyOf? name = none →
        fields.find? Builtin.details.identity = some (.details (definition.unknown stated)) ∧
          (definition.unknown stated).get? name = some form
  /-- A field of the definition that is not read keeps its value, unless it is the details and
  unknown fields are gathered. -/
  others :
    ∀ field ∈ definition.fields.entries,
      (field.name ∈ stated.map Prod.fst → definition.keyOf? field.name ≠ some field.key) →
        (field.key.identity = Builtin.details.identity → definition.unknown stated = []) →
        fields.find? field.key.identity = some field.value

/-! ## Keys of stated fields -/

/-- The key of a name is the key of a field of the definition. -/
theorem exists_field_of_keyOf?_eq_some
    {definition : Definition}
    {name : String}
    {key : Key}
    (hasKey : definition.keyOf? name = some key) :
    ∃ field ∈ definition.fields.entries, field.key = key ∧ field.name = name := by
  rw [keyOf?, Fields.getLast?_keysNamed] at hasKey
  obtain ⟨field, isLast, isKey⟩ := Option.map_eq_some_iff.mp hasKey
  obtain ⟨member, named⟩ := Fields.mem_of_lastNamed?_eq_some isLast
  exact ⟨field, member, isKey, named⟩

/-- The key of a stated field is the one of a field only when it was read under its name. -/
theorem keyOf?_name_eq_some
    {definition : Definition}
    {name : String}
    {key : Key}
    {field : Field}
    (hasKey : definition.keyOf? name = some key)
    (member : field ∈ definition.fields.entries)
    (same : key.identity = field.key.identity) :
    field.name = name ∧ definition.keyOf? field.name = some field.key := by
  obtain ⟨other, otherMember, rfl, named⟩ := exists_field_of_keyOf?_eq_some hasKey
  have isField : other = field := Fields.eq_of_identity_eq otherMember member same
  rw [isField] at named hasKey
  exact ⟨named, named ▸ hasKey⟩

/-- Fields of different names are read by different keys. -/
theorem nodup_identities_of_readsAs
    {definition : Definition}
    {members : Members}
    {pairs : List (Key × Value)}
    (distinct : (members.map Prod.fst).Nodup)
    (reads : List.Forall₂ definition.ReadsAs members pairs) :
    (pairs.map fun pair => pair.1.identity).Nodup := by
  induction reads with
  | nil =>
      exact List.nodup_nil
  | @cons member pair rest others readsAs restReads inductionHypothesis =>
      obtain ⟨new, restDistinct⟩ := List.nodup_cons.mp distinct
      refine List.nodup_cons.mpr ⟨fun present => ?_, inductionHypothesis restDistinct⟩
      obtain ⟨other, isOther, same⟩ := List.mem_map.mp present
      obtain ⟨later, isLater, laterReads⟩ := exists_related_of_mem_right restReads isOther
      obtain ⟨field, isField, isKey, named⟩ := exists_field_of_keyOf?_eq_some readsAs.1
      obtain ⟨laterNamed, _⟩ :=
        keyOf?_name_eq_some laterReads.1 isField (same.trans (isKey ▸ rfl))
      exact new (List.mem_map.mpr ⟨later, isLater, laterNamed.symm.trans named⟩)

/-! ## Gathered details -/

/-- Details that gather anything are found under their key. -/
theorem find?_storeAll_detailsOf_self
    (fields : Fields)
    {unknown : Members}
    (gathers : unknown ≠ []) :
    (fields.storeAll (detailsOf unknown)).find? Builtin.details.identity =
      some (.details unknown) := by
  have isFull : ¬unknown.isEmpty = true := by
    simpa using gathers
  rw [detailsOf, if_neg isFull]
  exact Fields.find?_storeAll_of_mem (by simp) List.mem_cons_self

/-- Gathered details leave the values of all other keys as they are. -/
theorem find?_storeAll_detailsOf
    (fields : Fields)
    {unknown : Members}
    {identity : Nat}
    (apart : identity = Builtin.details.identity → unknown = []) :
    (fields.storeAll (detailsOf unknown)).find? identity = fields.find? identity := by
  apply Fields.find?_storeAll_of_forall_ne
  intro pair isPair isDetails
  rw [detailsOf] at isPair
  split at isPair
  · cases isPair
  · next isFull =>
      rw [List.mem_singleton.mp isPair] at isDetails
      exact isFull (by simp [apart isDetails.symm])

/-- A definition that is derived by what stated fields are read as keeps these fields. -/
theorem keepsStated_derive
    {definition : Definition}
    {stated : Members}
    {settings : List Setting}
    (distinct : (stated.map Prod.fst).Nodup)
    (reads : definition.ReadsFields stated settings)
    (defaults : Defaults)
    (number : Nat) :
    definition.KeepsStated stated (definition.derive defaults number settings).fields := by
  obtain ⟨pairs, readsAs, rfl⟩ := reads
  have stored :
      (definition.derive defaults number
        ((pairs ++ detailsOf (definition.unknown stated)).map
          fun pair => .field pair.1 pair.2)).fields =
        (definition.fields.storeAll pairs).storeAll (detailsOf (definition.unknown stated)) := by
    rw [fields, template_derive_field, ← Fields.storeAll_append]
  rw [stored]
  constructor
  case known =>
    intro name form key isStated hasKey
    obtain ⟨pair, isPair, pairKey, read⟩ :=
      exists_related_of_mem readsAs (mem_known_iff.mpr ⟨isStated, key, hasKey⟩)
    obtain rfl : pair.1 = key := Option.some.inj (pairKey.symm.trans hasKey)
    have knownDistinct : ((definition.known stated).map Prod.fst).Nodup :=
      (List.filter_sublist.map _).nodup distinct
    refine ⟨pair.2, read, fun apart => ?_⟩
    rw [find?_storeAll_detailsOf _ apart]
    exact Fields.find?_storeAll_of_mem
      (nodup_identities_of_readsAs knownDistinct readsAs) isPair
  case unknown =>
    intro name form isStated noKey
    have isUnknown : (name, form) ∈ definition.unknown stated :=
      mem_unknown_iff.mpr ⟨isStated, noKey⟩
    have unknownDistinct : ((definition.unknown stated).map Prod.fst).Nodup :=
      (List.filter_sublist.map _).nodup distinct
    exact ⟨find?_storeAll_detailsOf_self _ (List.ne_nil_of_mem isUnknown),
      Members.get?_eq_some_of_mem unknownDistinct isUnknown⟩
  case others =>
    intro field member notRead apart
    rw [find?_storeAll_detailsOf _ apart]
    have untouched : ∀ pair ∈ pairs, pair.1.identity ≠ field.key.identity := by
      intro pair isPair same
      obtain ⟨stating, isKnown, pairKey, _⟩ := exists_related_of_mem_right readsAs isPair
      obtain ⟨named, ownKey⟩ := keyOf?_name_eq_some pairKey member same
      have isStated := (mem_known_iff.mp isKnown).1
      exact notRead (named ▸ List.mem_map_of_mem isStated) ownKey
    rw [Fields.find?_storeAll_of_forall_ne untouched]
    exact Fields.find?_of_mem member

end Definition

/-- An object that states each field once, as a map of its fields does. -/
structure Document where
  members : Members
  distinct : (members.statedFields.map Prod.fst).Nodup

/-- The fields that a document states. -/
def Document.stated (document : Document) : Members :=
  document.members.statedFields

/-- An error that is read from a document keeps the fields that the document states. -/
theorem Store.decode_keepsStated
    {store after : Store}
    {resolver : Resolver}
    {document : Document}
    {identity : ErrorId}
    (decoded : store.decode resolver (.object document.members) = .ok (identity, after)) :
    ∃ definition error,
      resolver.maker? document.members = some definition ∧
        after.graph.occurrence? identity = some error ∧
        definition.KeepsStated document.stated error.definition.fields := by
  obtain ⟨_, definition, settings, message, drafts, isObject, made, _, reads, _, grown⟩ :=
    exists_hasGrown_of_decode_eq_ok decoded
  cases isObject
  obtain ⟨error, isOccurrence⟩ := grown.exists_isOccurrenceOf
  obtain ⟨defaults, number, derived⟩ := isOccurrence.derived
  refine ⟨definition, error, made, isOccurrence.occurrence?_eq, ?_⟩
  rw [derived]
  exact Definition.keepsStated_derive document.distinct reads defaults number

/-! ## Details that give way -/

/-- A definition with details of its own. -/
def detailed : Definition :=
  .declare .standard 0 ⟨"known"⟩ [.field Builtin.details (.details [])]

/-- The details that an object states beside an unknown field. -/
def statedDetails : Members :=
  [("a", .text "1"), ("x", .text "2")]

/-- An object that states details and an unknown field. -/
def detailedForm : Members :=
  [("fields", .object [("details", .object statedDetails), ("x", .text "2")]),
    ("kind", .text "known"),
    ("message", .text "m")]

/-- What becomes of the object: the unknown field is stored over the details that it states. -/
def detailedResult : ErrorId × Store :=
  (Store.initial .standard).build <|
    .occurrence detailed
      [.field Builtin.details (.details statedDetails),
        .field Builtin.details (.details [("x", .text "2")])]
      "m" []

/-- The object is read, and the details that it states are stored before those that are gathered. -/
theorem decode_detailedForm :
    (Store.initial .standard).decode ⟨[detailed], none⟩ (.object detailedForm) =
      .ok detailedResult := by
  cbv

/-- The object as a document. -/
def detailedDocument : Document :=
  ⟨detailedForm, by decide⟩

/-- The error that is read from the document keeps what it states, the unknown field as a detail. -/
theorem decode_keepsStated_detailedForm :
    (Store.initial .standard).decode ⟨[detailed], none⟩ (.object detailedDocument.members) =
        .ok (detailedResult.1, detailedResult.2) ∧
      detailedDocument.stated = [("details", .object statedDetails), ("x", .text "2")] ∧
      ∃ definition error,
        Resolver.maker? ⟨[detailed], none⟩ detailedDocument.members = some definition ∧
          detailedResult.2.graph.occurrence? detailedResult.1 = some error ∧
          definition.KeepsStated detailedDocument.stated error.definition.fields :=
  ⟨decode_detailedForm, by cbv, Store.decode_keepsStated decode_detailedForm⟩

/-- Details that an object states can be missing from the error that is read. -/
theorem not_decode_finds_read :
    ¬∀ (store after : Store) (resolver : Resolver) (document : Document) (identity : ErrorId)
        (definition : Definition) (error : Occurrence),
      store.decode resolver (.object document.members) = .ok (identity, after) →
        resolver.maker? document.members = some definition →
        after.graph.occurrence? identity = some error →
        ∀ name form key,
          (name, form) ∈ document.stated →
            definition.keyOf? name = some key →
            ∃ value,
              key.decode form = .ok value ∧
                error.definition.fields.find? key.identity = some value := by
  intro claimed
  have maker : Resolver.maker? ⟨[detailed], none⟩ detailedForm = some detailed := by
    cbv
  obtain ⟨value, read, held⟩ :=
    claimed (.initial .standard) detailedResult.2 ⟨[detailed], none⟩ detailedDocument
      detailedResult.1 detailed _ decode_detailedForm maker rfl "details" (.object statedDetails)
      Builtin.details List.mem_cons_self (by cbv)
  have isStated : value = .details statedDetails := (Except.ok.inj read).symm
  have isGathered : value = .details [("x", .text "2")] := (Option.some.inj held).symm
  simp [statedDetails, isStated] at isGathered

end Fault
