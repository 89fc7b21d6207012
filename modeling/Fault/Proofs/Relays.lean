import Fault.Proofs.FieldTable
import Fault.Proofs.Recipes
import Fault.Proofs.WireFields
import Fault.Proofs.WireForm

/-!
# Relays

An error that was read from a form is written again and passed on to the next reader. What a reader
gathers as details is a field of its own on the way, so the next reader has to place it: when its
definition has a key for details that returns them, nothing changes from the first form on. When it
has none, the details are one more unknown field, and every reader wraps them once more.
-/

namespace Fault

namespace Resolver

/-- The form of the error that is read from a form. -/
def relay?
    (resolver : Resolver)
    (store : Store)
    (form : Json) :
    Option Json :=
  match store.decode resolver form with
  | .ok (identity, after) =>
      (after.graph.occurrence? identity).bind fun error =>
        (after.graph.toJson identity error).toOption
  | .error _ => none

/-- The form that is left of a form after it was read and written in one store after the other. -/
def relayAll?
    (resolver : Resolver) :
    List Store → Json → Option Json
  | [], form => some form
  | store :: stores, form => (resolver.relay? store form).bind (relayAll? resolver stores)

end Resolver

namespace Definition

/-- Whether the details that a definition itself stores do not get in the way of a key: they are
stored under this key, or they have a form. -/
def LeavesRoom
    (definition : Definition)
    (key : Key) :
    Prop :=
  key = Builtin.details ∨
    ∀ field ∈ definition.fields.entries,
      field.key = Builtin.details → ∃ form, field.value.toJson = .ok form

/-- Whether gathered fields come to rest: there are none, or the key that reads details returns
them. -/
def Settles
    (definition : Definition)
    (unknown : Members) :
    Prop :=
  unknown = [] ∨
    ∃ key value,
      definition.keyOf? Builtin.details.name = some key ∧
        key.decode (.object unknown) = .ok value ∧
        value.toJson = .ok (.object unknown) ∧
        definition.LeavesRoom key

/-- Whether fields are those of a definition with stated fields read into them. -/
def HasRead
    (definition : Definition)
    (stated : Members)
    (fields : Fields) :
    Prop :=
  ∃ pairs : List (Key × Value),
    List.Forall₂ definition.ReadsAs (definition.known stated) pairs ∧
      fields = (definition.fields.storeAll pairs).storeAll (detailsOf (definition.unknown stated))

/-! ## Fields that were read -/

section

variable
  {definition : Definition}
  {stated : Members}
  {pairs : List (Key × Value)}

/-- To read fields leaves the key of every name. -/
theorem key_lastNamed?_storeAll_of_readsAs
    (reads : List.Forall₂ definition.ReadsAs (definition.known stated) pairs)
    (name : String) :
    ((definition.fields.storeAll pairs).lastNamed? name).map Field.key =
      definition.keyOf? name := by
  have last :
      ∀ pair ∈ pairs,
        (definition.fields.lastNamed? pair.1.name).map Field.key = some pair.1 := by
    intro pair isPair
    obtain ⟨_, _, readsAs⟩ := exists_related_of_mem_right reads isPair
    exact key_lastNamed?_of_readsAs readsAs
  rw [Fields.key_lastNamed?_storeAll last, keyOf?_eq_map_lastNamed?]

/-- What is read from a stated field is the last field of its name. -/
theorem exists_lastNamed?_of_mem
    (reads : List.Forall₂ definition.ReadsAs (definition.known stated) pairs)
    (sorted : stated.IsSorted)
    {member : String × Json}
    (isStated : member ∈ stated)
    {key : Key}
    (ownKey : definition.keyOf? member.1 = some key) :
    ∃ value,
      key.decode member.2 = .ok value ∧
        (definition.fields.storeAll pairs).lastNamed? member.1 = some ⟨key, value⟩ := by
  obtain ⟨⟨pairKey, value⟩, isPair, hasKey, read⟩ :=
    exists_related_of_mem reads (mem_known_iff.mpr ⟨isStated, key, ownKey⟩)
  obtain rfl : pairKey = key := Option.some.inj (hasKey.symm.trans ownKey)
  obtain ⟨⟨lastKey, lastValue⟩, isLast, isKey⟩ :=
    Option.map_eq_some_iff.mp ((key_lastNamed?_storeAll_of_readsAs reads member.1).trans ownKey)
  obtain rfl : lastKey = pairKey := isKey
  have distinct := nodup_identities_of_readsAs
    ((List.filter_sublist.map _).nodup sorted.nodup) reads
  have found := Fields.find?_of_mem (Fields.mem_of_lastNamed?_eq_some isLast).1
  rw [Fields.find?_storeAll_of_mem distinct isPair] at found
  obtain rfl : value = lastValue := Option.some.inj found
  exact ⟨value, read, isLast⟩

/-- Details that gather anything are stored under their key. -/
theorem storeAll_detailsOf_eq_store
    (fields : Fields)
    {unknown : Members}
    (gathers : unknown ≠ []) :
    fields.storeAll (detailsOf unknown) = fields.store Builtin.details (.details unknown) := by
  simp [detailsOf, gathers, Fields.storeAll]

theorem storeAll_detailsOf_nil (fields : Fields) :
    fields.storeAll (detailsOf []) = fields :=
  rfl

/-- Details that gather anything are the last field of their name. -/
theorem lastNamed?_storeAll_detailsOf_self
    (fields : Fields)
    {unknown : Members}
    (gathers : unknown ≠ []) :
    (fields.storeAll (detailsOf unknown)).lastNamed? Builtin.details.name =
      some ⟨Builtin.details, .details unknown⟩ := by
  rw [storeAll_detailsOf_eq_store fields gathers]
  exact Fields.lastNamed?_store_self _ _ _

/-- Gathered details leave every field with an identity of its own. -/
theorem mem_entries_storeAll_detailsOf
    {fields : Fields}
    {field : Field}
    (member : field ∈ fields.entries)
    (otherIdentity : field.key.identity ≠ Builtin.details.identity)
    (unknown : Members) :
    field ∈ (fields.storeAll (detailsOf unknown)).entries := by
  refine Fields.mem_entries_storeAll_of_forall_ne member fun pair isPair same => ?_
  simp only [detailsOf] at isPair
  split at isPair
  · cases isPair
  · rw [List.mem_singleton.mp isPair] at same
    exact otherIdentity same.symm

/-- Gathered details leave the last field of every other name. -/
theorem lastNamed?_storeAll_detailsOf
    (fields : Fields)
    {unknown : Members}
    {name : String}
    (apart : name = Builtin.details.name → unknown = []) :
    (fields.storeAll (detailsOf unknown)).lastNamed? name = fields.lastNamed? name := by
  by_cases gathers : unknown = []
  · simp [gathers, storeAll_detailsOf_nil]
  · have differs : Builtin.details.name ≠ name := fun same => gathers (apart same.symm)
    rw [storeAll_detailsOf_eq_store _ gathers]
    refine Fields.lastNamed?_store_of_apart differs (fun other _ named same => ?_) _
    exact differs (by rw [← named, Field.name, Key.eq_details same])

/-- A field of the definition that is not read under its name stays. -/
theorem mem_entries_storeAll_of_keyOf?_ne
    (reads : List.Forall₂ definition.ReadsAs (definition.known stated) pairs)
    {field : Field}
    (member : field ∈ definition.fields.entries)
    (otherKey : definition.keyOf? field.name ≠ some field.key) :
    field ∈ (definition.fields.storeAll pairs).entries := by
  refine Fields.mem_entries_storeAll_of_forall_ne member fun pair isPair same => ?_
  obtain ⟨_, _, readsAs⟩ := exists_related_of_mem_right reads isPair
  exact otherKey (keyOf?_name_eq_some readsAs.1 member same).2

end

/-! ## The next reader -/

/-- Fields that travel are taken back by the definition that read them, when the gathered ones come
to rest. -/
theorem HasRead.takesBack
    {definition : Definition}
    {stated : Members}
    {fields : Fields}
    (hasRead : definition.HasRead stated fields)
    (travel : ∀ field ∈ fields.entries, field.Travels)
    (settles : definition.Settles (definition.unknown stated)) :
    definition.TakesBack fields := by
  obtain ⟨pairs, reads, rfl⟩ := hasRead
  set unknown := definition.unknown stated
  constructor
  case read =>
    intro name field isLast
    by_cases apart : name = Builtin.details.name → unknown = []
    · obtain ⟨value, read, renders⟩ :=
        (travel field (Fields.mem_of_lastNamed?_eq_some isLast).1).exists_read
      rw [lastNamed?_storeAll_detailsOf _ apart] at isLast
      have ownKey := key_lastNamed?_storeAll_of_readsAs reads name
      exact ⟨field.key, value, by simp [← ownKey, isLast], read, renders⟩
    · obtain ⟨rfl, gathers⟩ := Classical.not_imp.mp apart
      obtain ⟨key, value, ownKey, read, renders, _⟩ := settles.resolve_left gathers
      rw [lastNamed?_storeAll_detailsOf_self _ gathers] at isLast
      obtain rfl := Option.some.inj isLast
      exact ⟨key, value, ownKey, read, renders⟩
  case named =>
    intro field member
    by_cases apart : field.name = Builtin.details.name → unknown = []
    · have named := Fields.isSome_lastNamed?_of_mem member
      have ownKey := congrArg Option.isSome (key_lastNamed?_storeAll_of_readsAs reads field.name)
      simp only [keyOf?_eq_map_lastNamed?, Option.isSome_map, named] at ownKey
      rw [lastNamed?_storeAll_detailsOf _ apart, ownKey]
    · obtain ⟨isNamed, gathers⟩ := Classical.not_imp.mp apart
      simp [isNamed, lastNamed?_storeAll_detailsOf_self _ gathers]
  case renders =>
    intro field member
    by_cases ownKey : definition.keyOf? field.name = some field.key
    · exact .inl ownKey
    · right
      have kept := mem_entries_storeAll_of_keyOf?_ne reads member ownKey
      by_cases isDetails : field.key.identity = Builtin.details.identity
      · -- The gathered fields have taken the place of these details, the next reader keeps them.
        have isKey : field.key = Builtin.details := Key.eq_details isDetails
        rcases settles with noneGathered | ⟨key, _, hasKey, _, _, isOwn | leavesRoom⟩
        · rw [noneGathered] at travel
          exact (travel field kept).renders
        · rw [Field.name, isKey, hasKey, isOwn] at ownKey
          exact absurd rfl ownKey
        · obtain ⟨form, renders⟩ := leavesRoom field member isKey
          rw [renders, Field.form_eq renders]
      · exact (travel field (mem_entries_storeAll_detailsOf kept isDetails unknown)).renders

namespace HasRead

variable
  {definition : Definition}
  {stated : Members}
  {fields again : Fields}

/-- Gathered fields are the form of the details. -/
theorem get?_forms_details
    (hasRead : definition.HasRead stated fields)
    (gathers : definition.unknown stated ≠ []) :
    fields.forms.get? Builtin.details.name = some (.object (definition.unknown stated)) := by
  obtain ⟨pairs, _, rfl⟩ := hasRead
  rw [Fields.get?_forms, lastNamed?_storeAll_detailsOf_self _ gathers]
  rfl

/-- Every name of the fields is one that the definition has a key for, but for gathered details. -/
theorem isSome_keyOf?_of_mem_forms
    (hasRead : definition.HasRead stated fields)
    {member : String × Json}
    (isMember : member ∈ fields.forms)
    (apart : member.1 = Builtin.details.name → definition.unknown stated = []) :
    (definition.keyOf? member.1).isSome = true := by
  have found := Members.get?_eq_some_of_mem fields.isSorted_forms.nodup isMember
  obtain ⟨pairs, reads, rfl⟩ := hasRead
  rw [Fields.get?_forms, lastNamed?_storeAll_detailsOf _ apart] at found
  obtain ⟨field, isLast, _⟩ := Option.map_eq_some_iff.mp found
  simp [← key_lastNamed?_storeAll_of_readsAs reads, isLast]

/-- Without a key for details the next reader gathers the details once more. -/
theorem exists_keyOf?_details
    (hasRead : definition.HasRead stated fields)
    (gathers : definition.unknown stated ≠ [])
    (hasReadAgain : definition.HasRead fields.forms again)
    (sameForms : again.forms = fields.forms) :
    ∃ key, definition.keyOf? Builtin.details.name = some key := by
  by_contra noKey
  have isMember := Members.mem_of_get?_eq_some (hasRead.get?_forms_details gathers)
  have isUnknown := mem_unknown_iff.mpr
    ⟨isMember, Option.eq_none_iff_forall_ne_some.mpr (not_exists.mp noKey)⟩
  have formAgain := hasReadAgain.get?_forms_details (List.ne_nil_of_mem isUnknown)
  rw [sameForms, hasRead.get?_forms_details gathers] at formAgain
  -- No object is a member of itself.
  have smaller := List.sizeOf_lt_of_mem isUnknown
  rw [← Json.object.inj (Option.some.inj formAgain)] at smaller
  simp only [Prod.mk.sizeOf_spec, Json.object.sizeOf_spec] at smaller
  omega

/-- With a key for details the next reader knows every field. -/
theorem unknown_forms_eq_nil
    (hasRead : definition.HasRead stated fields)
    {key : Key}
    (ownKey : definition.keyOf? Builtin.details.name = some key) :
    definition.unknown fields.forms = [] := by
  refine List.filter_eq_nil_iff.mpr fun member isMember => ?_
  by_cases isDetails : member.1 = Builtin.details.name
  · simp [isDetails, ownKey]
  · have hasKey := hasRead.isSome_keyOf?_of_mem_forms isMember fun named =>
      absurd named isDetails
    simpa [Option.isSome_iff_ne_none] using hasKey

/-- When the next reader gets the same forms again, the gathered fields have come to rest. -/
theorem settles
    (hasRead : definition.HasRead stated fields)
    (hasReadAgain : definition.HasRead fields.forms again)
    (same : again.toMembers = .ok fields.forms) :
    definition.Settles (definition.unknown stated) := by
  by_cases gathers : definition.unknown stated = []
  · exact .inl gathers
  obtain ⟨renders, sameForms⟩ := Fields.forms_eq_of_toMembers same
  obtain ⟨key, ownKey⟩ := hasRead.exists_keyOf?_details gathers hasReadAgain sameForms
  have isForm := hasRead.get?_forms_details gathers
  obtain ⟨pairs, reads, isStored⟩ := hasReadAgain
  rw [hasRead.unknown_forms_eq_nil ownKey, storeAll_detailsOf_nil] at isStored
  obtain ⟨value, read, isLast⟩ :=
    exists_lastNamed?_of_mem reads fields.isSorted_forms (Members.mem_of_get?_eq_some isForm)
      ownKey
  rw [← isStored] at isLast
  -- What is read from the details is stored last under their name, so its form is shown there.
  have shown : some (Field.form ⟨key, value⟩) = some (.object (definition.unknown stated)) := by
    rw [← isForm, ← sameForms, Fields.get?_forms, isLast, Option.map_some]
  have rendered := renders _ (Fields.mem_of_lastNamed?_eq_some isLast).1
  rw [Option.some.inj shown] at rendered
  refine .inr ⟨key, value, ownKey, read, rendered, ?_⟩
  by_cases isOwn : key = Builtin.details
  · exact .inl isOwn
  · refine .inr fun field member isDetails => ?_
    have otherKey : definition.keyOf? field.name ≠ some field.key := by
      rw [Field.name, isDetails, ownKey]
      exact fun same => isOwn (Option.some.inj same)
    have kept := mem_entries_storeAll_of_keyOf?_ne reads member otherKey
    exact ⟨_, renders field (isStored ▸ kept)⟩

/-- What is read is one only. -/
theorem eq
    (first : definition.HasRead stated fields)
    (second : definition.HasRead stated again) :
    fields = again := by
  obtain ⟨pairs, reads, rfl⟩ := first
  obtain ⟨pairsAgain, readsAgain, rfl⟩ := second
  have unique : Relator.RightUnique definition.ReadsAs := by
    rintro member ⟨key, value⟩ ⟨otherKey, otherValue⟩ ⟨hasKey, read⟩ ⟨otherHasKey, otherRead⟩
    obtain rfl : key = otherKey := Option.some.inj (hasKey.symm.trans otherHasKey)
    obtain rfl : value = otherValue := Except.ok.inj (read.symm.trans otherRead)
    rfl
  rw [List.right_unique_forall₂' unique reads readsAgain]

end HasRead

/-- What the form of an error without causes and call stack shows, given its fields and their
forms. -/
def causelessForm
    (definition : Definition)
    (message : String)
    (fields : Fields)
    (rendered : Members) :
    WireForm where
  message := message
  kind := if definition.kind.isUnset then none else some definition.kind.label
  typeName := none
  fields := if fields.isEmpty then none else some rendered
  stack := none
  causes := []

end Definition

namespace Definition

variable
  {definition : Definition}
  {fields : Fields}
  {rendered : Members}

/-- An error without causes states in its form what its fields rendered to. -/
theorem statedFields_causelessForm
    (renders : fields.toMembers = .ok rendered)
    (message : String) :
    (definition.causelessForm message fields rendered).sorted.statedFields = rendered := by
  rw [WireForm.statedFields_sorted, causelessForm]
  cases none : fields.isEmpty with
  | false =>
      rfl
  | true =>
      rw [← (Fields.forms_eq_of_toMembers renders).2, Fields.forms_eq_nil none]
      rfl

/-- The kind that is read from the form of an error without causes is that of its definition. -/
theorem getD_kindOf?_causelessForm
    (message : String)
    (fields : Fields)
    (rendered : Members) :
    (Resolver.kindOf? (definition.causelessForm message fields rendered).sorted).getD "" =
      definition.kind.label := by
  rw [WireForm.kindOf?_sorted, causelessForm]
  cases unset : definition.kind.isUnset with
  | false =>
      rfl
  | true =>
      have isUnset : definition.kind = .unset := by
        simpa [Kind.isUnset] using unset
      simp [isUnset, Kind.unset]

end Definition

namespace Resolver

variable
  {resolver : Resolver}
  {definition : Definition}
  {members : Members}

/-- What is read from an object without causes is an error of its message and its fields. -/
theorem exists_hasRead_of_decode
    (made : resolver.maker? members = some definition)
    (unmarshaled : definition.template.marshaler = none)
    (noCauses : members.causeForms = [])
    {store after : Store}
    {identity : ErrorId}
    (decoded : store.decode resolver (.object members) = .ok (identity, after)) :
    ∃ message error,
      members.get? "message" = some (.text message) ∧
        after.graph.occurrence? identity = some error ∧
        definition.HasRead members.statedFields error.definition.fields ∧
        after.graph.toJson identity error =
          error.definition.fields.toMembers.map fun rendered =>
            .object (definition.causelessForm message error.definition.fields rendered).sorted := by
  obtain ⟨_, maker, settings, message, drafts, isObject, isMaker, told, reads, causes, grown⟩ :=
    Store.exists_hasGrown_of_decode_eq_ok decoded
  cases isObject
  obtain rfl : definition = maker := Option.some.inj (made.symm.trans isMaker)
  have noDrafts : drafts = [] := by
    have sameLength := length_of_draftAll_eq_ok causes
    simpa [noCauses] using sameLength
  have noTree : after.graph.causeTree identity = .nil := by
    subst noDrafts
    generalize after.graph.causeTree identity = below at grown
    cases grown with
    | hidden _ _ =>
        rfl
    | occurrence _ _ causesGrown =>
        cases causesGrown
        rfl
  obtain ⟨error, isOccurrence⟩ := grown.exists_isOccurrenceOf
  obtain ⟨_, sameTemplate⟩ := isOccurrence.exists_template_eq reads
  have sameKind : error.definition.kind = definition.kind := by
    rw [Definition.kind, sameTemplate]
    rfl
  have noMarshaler : error.definition.template.marshaler = none := by
    rw [sameTemplate]
    exact unmarshaled
  refine ⟨message, error, told, isOccurrence.occurrence?_eq, ?_, ?_⟩
  · obtain ⟨defaults, number, derived⟩ := isOccurrence.derived
    obtain ⟨pairs, readsAs, rfl⟩ := reads
    refine ⟨pairs, readsAs, ?_⟩
    rw [derived, Definition.fields, Definition.template_derive_field, Fields.storeAll_append]
  · simp only [Graph.toJson, noMarshaler, noTree, Graph.causesJson]
    cases rendered : error.definition.fields.toMembers with
    | error failure =>
        simp [Graph.occurrenceJson, rendered, bind, Except.bind, Except.map]
    | ok fields =>
        rw [Graph.occurrenceJson_ok rendered]
        simp [WireForm.ofOccurrence, Definition.causelessForm, isOccurrence.told,
          isOccurrence.untraced, sameKind, Except.map]

/-- An object without causes is read when it has a message and its fields are read. -/
theorem exists_decode_of_hasRead
    (made : resolver.maker? members = some definition)
    (noCauses : members.causeForms = [])
    {message : String}
    (told : members.get? "message" = some (.text message))
    {fields : Fields}
    (hasRead : definition.HasRead members.statedFields fields)
    (store : Store) :
    ∃ identity after, store.decode resolver (.object members) = .ok (identity, after) := by
  obtain ⟨pairs, reads, _⟩ := hasRead
  have noDrafts : resolver.draftAll members.causeForms = .ok [] := by
    rw [noCauses, draftAll]
  have drafted := draftOf_eq_ok_iff.mpr ⟨message, _, [], told, ⟨pairs, reads, rfl⟩, noDrafts, rfl⟩
  exact ⟨_, _, Store.decode_eq_ok_iff.mpr
    ⟨_, draft_eq_ok_iff.mpr ⟨members, definition, rfl, made, drafted⟩, rfl⟩⟩

/-- What a relay makes of an object without causes. -/
theorem relay?_eq_some_iff
    (made : resolver.maker? members = some definition)
    (unmarshaled : definition.template.marshaler = none)
    (noCauses : members.causeForms = [])
    (store : Store)
    {form : Json} :
    resolver.relay? store (.object members) = some form ↔
      ∃ message fields rendered,
        members.get? "message" = some (.text message) ∧
          definition.HasRead members.statedFields fields ∧
          fields.toMembers = .ok rendered ∧
          form = .object (definition.causelessForm message fields rendered).sorted := by
  constructor
  · intro relayed
    cases decoded : store.decode resolver (.object members) with
    | error failure =>
        simp [relay?, decoded] at relayed
    | ok result =>
        obtain ⟨message, error, told, found, hasRead, shown⟩ :=
          exists_hasRead_of_decode made unmarshaled noCauses decoded
        cases rendered : error.definition.fields.toMembers with
        | error failure =>
            simp [relay?, decoded, found, shown, rendered, Except.map, Except.toOption] at relayed
        | ok own =>
            have isForm :
                .object (definition.causelessForm message error.definition.fields own).sorted =
                  form := by
              simpa [relay?, decoded, found, shown, rendered, Except.map, Except.toOption]
                using relayed
            exact ⟨message, _, own, told, hasRead, rendered, isForm.symm⟩
  · rintro ⟨message, fields, rendered, told, hasRead, renders, rfl⟩
    obtain ⟨identity, after, decoded⟩ :=
      exists_decode_of_hasRead made noCauses told hasRead store
    obtain ⟨toldAgain, error, isTold, found, hasReadAgain, shown⟩ :=
      exists_hasRead_of_decode made unmarshaled noCauses decoded
    obtain rfl := hasRead.eq hasReadAgain
    obtain rfl : message = toldAgain := by
      simpa [told] using isTold
    simp [relay?, decoded, found, shown, renders, Except.map, Except.toOption]

/-- A definition that is found under a label is of this kind. -/
theorem label_eq_of_ofKind?
    {label : String}
    (registered : resolver.ofKind? label = some definition) :
    definition.kind.label = label := by
  simpa using List.find?_some registered

/-- The form of what was read is relayed as it is exactly when the gathered fields come to rest. -/
theorem relay?_causelessForm_iff
    {label : String}
    (registered : resolver.ofKind? label = some definition)
    (unmarshaled : definition.template.marshaler = none)
    {stated : Members}
    {fields : Fields}
    (hasRead : definition.HasRead stated fields)
    (travel : ∀ field ∈ fields.entries, field.Travels)
    (message : String)
    (store : Store) :
    resolver.relay? store
        (.object (definition.causelessForm message fields fields.forms).sorted) =
      some (.object (definition.causelessForm message fields fields.forms).sorted) ↔
        definition.Settles (definition.unknown stated) := by
  set own := definition.causelessForm message fields fields.forms
  have renders : fields.toMembers = .ok fields.forms :=
    Fields.toMembers_eq_forms fun field member => (travel field member).renders
  have states : own.sorted.statedFields = fields.forms :=
    Definition.statedFields_causelessForm renders message
  have made : resolver.maker? own.sorted = some definition := by
    rw [maker?, Definition.getD_kindOf?_causelessForm, label_eq_of_ofKind? registered,
      ofKindOrFallback?, registered]
    rfl
  rw [relay?_eq_some_iff made unmarshaled own.causeForms_sorted store, states]
  constructor
  · rintro ⟨_, again, rendered, _, hasReadAgain, rendersAgain, sameForm⟩
    have sameFields : fields.forms = rendered := by
      rw [← states, Json.object.inj sameForm, Definition.statedFields_causelessForm rendersAgain]
    exact hasRead.settles hasReadAgain (sameFields ▸ rendersAgain)
  · intro settles
    have takesBack := hasRead.takesBack travel settles
    obtain ⟨pairs, returns⟩ := takesBack.exists_returns
    obtain ⟨allKnown, noneUnknown⟩ := Definition.known_eq_self returns
    refine ⟨message, definition.fields.storeAll pairs, fields.forms, own.get?_message,
      ⟨pairs, ?_, ?_⟩, ?_, ?_⟩
    · rw [allKnown]
      exact returns.imp fun _ _ read => read.1
    · rw [noneUnknown, Definition.storeAll_detailsOf_nil]
    · rw [← takesBack.forms_storeAll returns]
      exact Fields.toMembers_eq_forms (takesBack.renders_storeAll returns)
    · simp only [own, Definition.causelessForm, takesBack.isEmpty_storeAll returns]

/-- A form that every reader leaves as it is comes through all of them. -/
theorem relayAll?_eq_self
    {form : Json}
    (stays : ∀ store, resolver.relay? store form = some form)
    (stores : List Store) :
    resolver.relayAll? stores form = some form := by
  induction stores with
  | nil =>
      rfl
  | cons store rest inductionHypothesis =>
      simp [relayAll?, stays store, inductionHypothesis]

end Resolver

/-- An error that is read from an object without causes has a form that no further reader changes,
exactly when the unknown fields of the object come to rest. -/
theorem Store.decoded_relays
    {store after : Store}
    {resolver : Resolver}
    {members : Members}
    {identity : ErrorId}
    {definition : Definition}
    (registered : resolver.ofKind? ((Resolver.kindOf? members).getD "") = some definition)
    (unmarshaled : definition.template.marshaler = none)
    (noCauses : members.causeForms = [])
    (decoded : store.decode resolver (.object members) = .ok (identity, after)) :
    ∃ error,
      after.graph.occurrence? identity = some error ∧
        ((∀ field ∈ error.definition.fields.entries, field.Travels) →
          ∃ form,
            after.graph.toJson identity error = .ok form ∧
              (∀ next,
                resolver.relay? next form = some form ↔
                  definition.Settles (definition.unknown members.statedFields)) ∧
              (definition.Settles (definition.unknown members.statedFields) →
                ∀ stores, resolver.relayAll? stores form = some form)) := by
  have made : resolver.maker? members = some definition := by
    simp [Resolver.maker?, Resolver.ofKindOrFallback?, registered]
  obtain ⟨message, error, _, found, hasRead, shown⟩ :=
    Resolver.exists_hasRead_of_decode made unmarshaled noCauses decoded
  refine ⟨error, found, fun travel => ?_⟩
  have renders : error.definition.fields.toMembers = .ok error.definition.fields.forms :=
    Fields.toMembers_eq_forms fun field member => (travel field member).renders
  have relays := fun next =>
    Resolver.relay?_causelessForm_iff registered unmarshaled hasRead travel message next
  refine ⟨_, by rw [shown, renders]; rfl, relays, fun settles => ?_⟩
  exact Resolver.relayAll?_eq_self fun next => (relays next).mpr settles

/-- The unknown field of an object stays where it is on every way through readers whose definition
has details. -/
theorem decoded_relays_detailedForm :
    Resolver.ofKind? ⟨[detailed], none⟩ ((Resolver.kindOf? detailedForm).getD "") =
        some detailed ∧
      detailed.template.marshaler = none ∧
      detailedForm.causeForms = [] ∧
      (Store.initial .standard).decode ⟨[detailed], none⟩ (.object detailedForm) =
        .ok (detailedResult.1, detailedResult.2) ∧
      detailed.unknown detailedForm.statedFields = [("x", .text "2")] ∧
      ∃ error form,
        detailedResult.2.graph.occurrence? detailedResult.1 = some error ∧
          detailedResult.2.graph.toJson detailedResult.1 error = .ok form ∧
          ∀ stores, Resolver.relayAll? ⟨[detailed], none⟩ stores form = some form := by
  have registered :
      Resolver.ofKind? ⟨[detailed], none⟩ ((Resolver.kindOf? detailedForm).getD "") =
        some detailed := by
    cbv
  have noCauses : detailedForm.causeForms = [] := by cbv
  have gathered : detailed.unknown detailedForm.statedFields = [("x", .text "2")] := by cbv
  refine ⟨registered, rfl, noCauses, decode_detailedForm, gathered, ?_⟩
  obtain ⟨error, found, relays⟩ :=
    Store.decoded_relays registered rfl noCauses decode_detailedForm
  have entries :
      error.definition.fields.entries = [⟨Builtin.details, .details [("x", .text "2")]⟩] := by
    cases found
    cbv
  have travel : ∀ field ∈ error.definition.fields.entries, field.Travels := by
    rw [entries]
    exact List.forall_mem_singleton.mpr ⟨_, _, rfl, rfl, rfl⟩
  obtain ⟨form, shown, _, rests⟩ := relays travel
  have ownKey : detailed.keyOf? Builtin.details.name = some Builtin.details := by cbv
  rw [gathered] at rests
  exact ⟨error, form, found, shown, rests (.inr ⟨_, _, ownKey, rfl, rfl, .inl rfl⟩)⟩

/-- A definition without details. -/
def terse : Definition :=
  .declare .standard 0 ⟨"known"⟩ []

/-- An object that states an unknown field. -/
def terseForm : Members :=
  [("fields", .object [("x", .text "1")]), ("kind", .text "known"), ("message", .text "m")]

/-- What becomes of the object: the unknown field is among the details. -/
def terseResult : ErrorId × Store :=
  (Store.initial .standard).build <|
    .occurrence terse [.field Builtin.details (.details [("x", .text "1")])] "m" []

/-- What the error is passed on as. -/
def terseRelay : Members :=
  [("fields", .object [("details", .object [("x", .text "1")])]),
    ("kind", .text "known"),
    ("message", .text "m")]

/-- A reader without details wraps the details that another one gathered. -/
theorem not_relay?_eq_self :
    ¬∀ (store after next : Store) (resolver : Resolver) (members : Members) (identity : ErrorId)
        (definition : Definition) (label : String) (error : Occurrence) (form : Json),
      Resolver.kindOf? members = some label →
        resolver.ofKind? label = some definition →
        definition.template.marshaler = none →
        members.get? "causes" = none →
        store.decode resolver (.object members) = .ok (identity, after) →
        after.graph.occurrence? identity = some error →
        (∀ field ∈ error.definition.fields.entries, field.Travels) →
        after.graph.toJson identity error = .ok form →
        resolver.relay? next form = some form := by
  intro claimed
  have decoded :
      (Store.initial .standard).decode ⟨[terse], none⟩ (.object terseForm) = .ok terseResult := by
    cbv
  have relayed := claimed (.initial .standard) terseResult.2 (.initial .standard) ⟨[terse], none⟩
    terseForm terseResult.1 terse "known" _ (.object terseRelay) (by cbv) (by cbv) rfl
    (by cbv) decoded rfl (List.forall_mem_singleton.mpr ⟨_, _, rfl, rfl, rfl⟩) (by cbv)
  have nested :
      Resolver.relay? ⟨[terse], none⟩ (.initial .standard) (.object terseRelay) =
        some (.object
          [("fields", .object [("details", .object [("details", .object [("x", .text "1")])])]),
            ("kind", .text "known"),
            ("message", .text "m")]) := by
    cbv
  rw [nested] at relayed
  simp [terseRelay] at relayed

end Fault
