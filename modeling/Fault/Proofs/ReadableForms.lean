import Fault.Proofs.DraftReading

/-!
# The forms that can be read

The forms that become errors make up a grammar. It looks at four members of an object and at what
these have the right shape for: a member of another name, and fields, causes or a kind of another
shape, are passed over. The kind of the outermost object has to be registered unless there is a
fallback, the kinds of its causes never have to be.
-/

namespace Fault

/-! ## Causes within causes -/

/-- The forms of causes are smaller than the object that states them. -/
theorem Members.sizeOf_lt_of_mem_causeForms
    {members : Members}
    {form : Json}
    (member : form ∈ members.causeForms) :
    sizeOf form < sizeOf members := by
  simp only [causeForms] at member
  split at member
  · next items stated =>
      have inItems := List.sizeOf_lt_of_mem member
      have inMembers := List.sizeOf_lt_of_mem (mem_of_get?_eq_some stated)
      simp only [Prod.mk.sizeOf_spec, Json.array.sizeOf_spec] at inMembers
      omega
  · simp at member

/-- What holds of an object when it holds of its causes, and of everything that is no object, holds
of every form. -/
theorem Json.cause_induction
    {motive : Json → Prop}
    (object :
      ∀ members : Members,
        (∀ form ∈ members.causeForms, motive form) → motive (.object members))
    (other : ∀ form : Json, form.members? = none → motive form) :
    ∀ form, motive form
  | .object members => object members fun form _ => cause_induction object other form
  | .null => other .null rfl
  | .boolean value => other (.boolean value) rfl
  | .number value => other (.number value) rfl
  | .text value => other (.text value) rfl
  | .array items => other (.array items) rfl
termination_by form => sizeOf form
decreasing_by
  have smaller := Members.sizeOf_lt_of_mem_causeForms ‹form ∈ Members.causeForms members›
  simp only [Json.object.sizeOf_spec]
  omega

/-! ## The grammar -/

/-- Whether every stated field that a definition has a key for is read by the last key of its
name. -/
def Definition.ReadsAll
    (definition : Definition)
    (stated : Members) :
    Prop :=
  ∀ name form key,
    (name, form) ∈ stated →
      definition.keyOf? name = some key →
      ∃ value, key.decode form = .ok value

namespace Resolver

mutual

/-- Whether an object is well-formed for the definition that makes an error of it. -/
inductive WellFormed (resolver : Resolver) : Definition → Members → Prop where
  | intro
      {definition : Definition}
      {members : Members}
      {message : String} :
      members.get? "message" = some (.text message) →
      definition.ReadsAll members.statedFields →
      (∀ form ∈ members.causeForms, resolver.IsCauseForm form) →
      resolver.WellFormed definition members

/-- Whether a form is well-formed as a cause. -/
inductive IsCauseForm (resolver : Resolver) : Json → Prop where
  | claimed
      {members : Members}
      {definition : Definition} :
      resolver.claimant? members = some definition →
      resolver.WellFormed definition members →
      resolver.IsCauseForm (.object members)
  | unclaimed
      {members : Members}
      {message : String} :
      resolver.claimant? members = none →
      members.get? "message" = some (.text message) →
      (∀ form ∈ members.causeForms, resolver.IsCauseForm form) →
      resolver.IsCauseForm (.object members)

end

/-- The kind of an object; without a string that states it, the kind is empty. -/
def statedKind (members : Members) : String :=
  (kindOf? members).getD ""

/-- Whether a form can be read as an error. -/
inductive IsReadable (resolver : Resolver) : Json → Prop where
  | registered
      {members : Members}
      {definition : Definition} :
      resolver.ofKind? (statedKind members) = some definition →
      resolver.WellFormed definition members →
      resolver.IsReadable (.object members)
  | fallback
      {members : Members}
      {definition : Definition} :
      resolver.ofKind? (statedKind members) = none →
      resolver.fallback = some definition →
      resolver.WellFormed definition members →
      resolver.IsReadable (.object members)

end Resolver

/-! ## What can be read is in the grammar, and the other way round -/

/-- Stated fields are read exactly when each known one is decoded by its key. -/
theorem Definition.exists_readsFields_iff
    {definition : Definition}
    {stated : Members} :
    (∃ settings, definition.ReadsFields stated settings) ↔ definition.ReadsAll stated := by
  constructor
  · intro ⟨_, pairs, reads, _⟩ name form key member ownKey
    have known : (name, form) ∈ definition.known stated :=
      mem_known_iff.mpr ⟨member, key, ownKey⟩
    obtain ⟨pair, _, pairKey, read⟩ := exists_related_of_mem reads known
    cases Option.some.inj (ownKey.symm.trans pairKey)
    exact ⟨pair.2, read⟩
  · intro readsAll
    have readsEach :
        ∀ member ∈ definition.known stated, ∃ pair, definition.ReadsAs member pair := by
      intro member known
      obtain ⟨isStated, key, ownKey⟩ := mem_known_iff.mp known
      obtain ⟨value, read⟩ := readsAll member.1 member.2 key isStated ownKey
      exact ⟨(key, value), ownKey, read⟩
    obtain ⟨pairs, reads⟩ := exists_forall₂_of_forall_exists readsEach
    exact ⟨_, pairs, reads, rfl⟩

namespace Resolver

variable {resolver : Resolver}

/-- Causes are read exactly when each of them is. -/
theorem exists_draftAll_iff {forms : List Json} :
    (∃ drafts, resolver.draftAll forms = .ok drafts) ↔
      ∀ form ∈ forms, ∃ draft, resolver.draftCause form = .ok draft := by
  induction forms with
  | nil =>
      simp [draftAll]
  | cons form rest inductionHypothesis =>
      simp only [List.forall_mem_cons, ← inductionHypothesis, draftAll_cons_eq_ok_iff]
      constructor
      · rintro ⟨_, draft, drafts, read, readRest, rfl⟩
        exact ⟨⟨draft, read⟩, drafts, readRest⟩
      · rintro ⟨⟨draft, read⟩, drafts, readRest⟩
        exact ⟨draft :: drafts, draft, drafts, read, readRest, rfl⟩

/-- An object is read by a definition when it has a message, and its fields and causes are read. -/
theorem exists_draftOf_eq_ok_iff
    {definition : Definition}
    {members : Members}
    {causes : Except DecodeError (List Draft)} :
    (∃ draft, draftOf definition members causes = .ok draft) ↔
      (∃ message, members.get? "message" = some (.text message)) ∧
        definition.ReadsAll members.statedFields ∧
        ∃ drafts, causes = .ok drafts := by
  simp only [draftOf_eq_ok_iff, ← Definition.exists_readsFields_iff]
  constructor
  · rintro ⟨_, message, settings, drafts, told, reads, caused, _⟩
    exact ⟨⟨message, told⟩, ⟨settings, reads⟩, drafts, caused⟩
  · rintro ⟨⟨message, told⟩, ⟨settings, reads⟩, drafts, caused⟩
    exact ⟨_, message, settings, drafts, told, reads, caused, rfl⟩

/-- An object that nothing claims is read when it has a message and its causes are read. -/
theorem exists_draftUnclaimed_eq_ok_iff
    {members : Members}
    {causes : Except DecodeError (List Draft)} :
    (∃ draft, draftUnclaimed members causes = .ok draft) ↔
      (∃ message, members.get? "message" = some (.text message)) ∧
        ∃ drafts, causes = .ok drafts := by
  simp only [draftUnclaimed_eq_ok_iff]
  constructor
  · rintro ⟨_, message, drafts, told, caused, _⟩
    exact ⟨⟨message, told⟩, drafts, caused⟩
  · rintro ⟨⟨message, told⟩, drafts, caused⟩
    exact ⟨_, message, drafts, told, caused, rfl⟩

/-- What is not an object is no cause. -/
theorem draftCause_of_not_object
    (resolver : Resolver)
    {form : Json}
    (notAnObject : form.members? = none) :
    resolver.draftCause form = .error .notAnObject := by
  cases form <;> simp_all [draftCause, Json.members?]

/-- An object is well-formed for a definition when message, fields and causes are, one by one. -/
theorem wellFormed_iff
    {definition : Definition}
    {members : Members} :
    resolver.WellFormed definition members ↔
      (∃ message, members.get? "message" = some (.text message)) ∧
        definition.ReadsAll members.statedFields ∧
        ∀ form ∈ members.causeForms, resolver.IsCauseForm form := by
  constructor
  · intro wellFormed
    cases wellFormed with
    | intro told reads causes =>
        exact ⟨⟨_, told⟩, reads, causes⟩
  · intro ⟨⟨_, told⟩, reads, causes⟩
    exact .intro told reads causes

/-- A cause is read exactly when it is well-formed as one. -/
theorem exists_draftCause_iff (form : Json) :
    (∃ draft, resolver.draftCause form = .ok draft) ↔ resolver.IsCauseForm form := by
  induction form using Json.cause_induction with
  | object members inductionHypothesis =>
      have causes :
          (∃ drafts, resolver.draftAll members.causeForms = .ok drafts) ↔
            ∀ form ∈ members.causeForms, resolver.IsCauseForm form :=
        exists_draftAll_iff.trans (forall₂_congr inductionHypothesis)
      cases claimed : resolver.claimant? members with
      | some definition =>
          simp only [draftCause_object, claimed, exists_draftOf_eq_ok_iff, causes,
            ← wellFormed_iff]
          constructor
          · exact .claimed claimed
          · intro isForm
            cases isForm with
            | claimed alsoClaimed wellFormed =>
                cases claimed.symm.trans alsoClaimed
                exact wellFormed
            | unclaimed unclaimed =>
                cases claimed.symm.trans unclaimed
      | none =>
          simp only [draftCause_object, claimed, exists_draftUnclaimed_eq_ok_iff, causes]
          constructor
          · intro ⟨⟨_, told⟩, causeForms⟩
            exact .unclaimed claimed told causeForms
          · intro isForm
            cases isForm with
            | claimed alsoClaimed =>
                cases claimed.symm.trans alsoClaimed
            | unclaimed _ told causeForms =>
                exact ⟨⟨_, told⟩, causeForms⟩
  | other form notAnObject =>
      simp only [draftCause_of_not_object resolver notAnObject, reduceCtorEq, exists_false,
        false_iff]
      intro isForm
      cases isForm <;> simp [Json.members?] at notAnObject

/-- A definition reads exactly the objects that are well-formed for it. -/
theorem exists_draftOf_iff
    {definition : Definition}
    {members : Members} :
    (∃ draft, draftOf definition members (resolver.draftAll members.causeForms) = .ok draft) ↔
      resolver.WellFormed definition members := by
  have causes :
      (∃ drafts, resolver.draftAll members.causeForms = .ok drafts) ↔
        ∀ form ∈ members.causeForms, resolver.IsCauseForm form :=
    exists_draftAll_iff.trans (forall₂_congr fun form _ => exists_draftCause_iff form)
  simp only [exists_draftOf_eq_ok_iff, causes, ← wellFormed_iff]

/-- An object is made into an error by the definition of its kind, or else by the fallback. -/
theorem maker?_eq_some_iff
    {members : Members}
    {definition : Definition} :
    resolver.maker? members = some definition ↔
      resolver.ofKind? (statedKind members) = some definition ∨
        resolver.ofKind? (statedKind members) = none ∧ resolver.fallback = some definition :=
  Option.or_eq_some_iff

/-- Nothing makes an error of an object when its kind is unknown and there is no fallback. -/
theorem maker?_eq_none_iff {members : Members} :
    resolver.maker? members = none ↔
      resolver.ofKind? (statedKind members) = none ∧ resolver.fallback = none :=
  Option.or_eq_none_iff

/-- A form is readable when it is a well-formed object for the definition that makes its errors. -/
theorem isReadable_iff {form : Json} :
    resolver.IsReadable form ↔
      ∃ members definition,
        form = .object members ∧
          resolver.maker? members = some definition ∧
          resolver.WellFormed definition members := by
  constructor
  · intro readable
    cases readable with
    | @registered members definition found wellFormed =>
        have made := maker?_eq_some_iff.mpr (.inl found)
        exact ⟨members, definition, rfl, made, wellFormed⟩
    | @fallback members definition notFound fallback wellFormed =>
        have made := maker?_eq_some_iff.mpr (.inr ⟨notFound, fallback⟩)
        exact ⟨members, definition, rfl, made, wellFormed⟩
  · rintro ⟨members, definition, rfl, made, wellFormed⟩
    rcases maker?_eq_some_iff.mp made with found | ⟨notFound, fallback⟩
    · exact .registered found wellFormed
    · exact .fallback notFound fallback wellFormed

/-- The forms that are read are those that are readable. -/
theorem exists_draft_iff {form : Json} :
    (∃ draft, resolver.draft form = .ok draft) ↔ resolver.IsReadable form := by
  simp only [isReadable_iff, draft_eq_ok_iff, ← exists_draftOf_iff]
  constructor
  · rintro ⟨draft, members, definition, isObject, made, read⟩
    exact ⟨members, definition, isObject, made, draft, read⟩
  · rintro ⟨members, definition, isObject, made, draft, read⟩
    exact ⟨draft, members, definition, isObject, made, read⟩

/-! ## What the kinds of causes do -/

/-- Whether reading does not fail at an unknown kind. -/
def KnowsKinds {α : Type} (read : Except DecodeError α) : Prop :=
  ∀ kind, read ≠ .error (.unknownKind kind)

theorem KnowsKinds.ok
    {α : Type}
    (value : α) :
    KnowsKinds (.ok value) := by
  intro kind failed
  cases failed

theorem KnowsKinds.notAnObject {α : Type} :
    KnowsKinds (.error .notAnObject : Except DecodeError α) := by
  intro kind failed
  cases failed

/-- Two steps that do not fail by an unknown kind do not do so together. -/
theorem KnowsKinds.bind
    {α β : Type}
    {first : Except DecodeError α}
    {next : α → Except DecodeError β}
    (knows : KnowsKinds first)
    (nextKnows : ∀ value, KnowsKinds (next value)) :
    KnowsKinds (first >>= next) := by
  cases first with
  | error failure =>
      intro kind failed
      exact knows kind (congrArg Except.error (Except.error.inj failed))
  | ok value =>
      exact nextKnows value

/-- To read a message does not fail by an unknown kind. -/
theorem knowsKinds_messageOf (members : Members) : KnowsKinds (messageOf members) := by
  intro kind
  cases told : (members.get? "message").bind Json.text? <;> simp [messageOf, told]

/-- To sort fields does not fail by an unknown kind. -/
theorem knowsKinds_sortFields
    (definition : Definition)
    (stated : List (String × Json)) :
    KnowsKinds (sortFields definition stated) := by
  induction stated with
  | nil =>
      exact .ok _
  | cons member rest inductionHypothesis =>
      simp only [sortFields]
      split
      · split
        · exact inductionHypothesis.bind fun _ => .ok _
        · intro kind failed
          cases failed
      · exact inductionHypothesis.bind fun _ => .ok _

/-- To read fields does not fail by an unknown kind. -/
theorem knowsKinds_fieldSettings
    (definition : Definition)
    (members : Members) :
    KnowsKinds (fieldSettings definition members) := by
  simp only [fieldSettings]
  split
  · exact (knowsKinds_sortFields definition _).bind fun _ => .ok _
  · exact .ok _

/-- To read an object by a definition fails by an unknown kind only when a cause does. -/
theorem KnowsKinds.draftOf
    {causes : Except DecodeError (List Draft)}
    (knows : KnowsKinds causes)
    (definition : Definition)
    (members : Members) :
    KnowsKinds (draftOf definition members causes) :=
  (knowsKinds_messageOf members).bind fun _ =>
    (knowsKinds_fieldSettings definition members).bind fun _ =>
      knows.bind fun _ => .ok _

/-- To read an unclaimed object fails by an unknown kind only when a cause does. -/
theorem KnowsKinds.draftUnclaimed
    {causes : Except DecodeError (List Draft)}
    (knows : KnowsKinds causes)
    (members : Members) :
    KnowsKinds (draftUnclaimed members causes) :=
  knows.bind fun _ => (knowsKinds_messageOf members).bind fun _ => .ok _

/-- To read causes fails by an unknown kind only when one of them does. -/
theorem knowsKinds_draftAll
    {forms : List Json}
    (known : ∀ form ∈ forms, KnowsKinds (resolver.draftCause form)) :
    KnowsKinds (resolver.draftAll forms) := by
  induction forms with
  | nil =>
      exact .ok _
  | cons form rest inductionHypothesis =>
      obtain ⟨first, others⟩ := List.forall_mem_cons.mp known
      exact first.bind fun _ => (inductionHypothesis others).bind fun _ => .ok _

/-- No cause reports an unknown kind. -/
theorem knowsKinds_draftCause
    (resolver : Resolver)
    (form : Json) :
    KnowsKinds (resolver.draftCause form) := by
  induction form using Json.cause_induction with
  | object members inductionHypothesis =>
      have causes := knowsKinds_draftAll inductionHypothesis
      simp only [draftCause_object]
      split
      · exact causes.draftOf _ members
      · exact causes.draftUnclaimed members
  | other form notAnObject =>
      simp only [draftCause_of_not_object resolver notAnObject]
      exact .notAnObject

/-- An object is read by the definition that makes its errors, or its kind is unknown. -/
theorem draft_object
    (resolver : Resolver)
    (members : Members) :
    resolver.draft (.object members) =
      match resolver.maker? members with
      | some definition => draftOf definition members (resolver.draftAll members.causeForms)
      | none => .error (.unknownKind (statedKind members)) := by
  simp only [draft, draftsIn_eq]
  rfl

/-- A form fails by an unknown kind exactly when it is an object that nothing makes an error of. -/
theorem draft_eq_unknownKind_iff
    {form : Json}
    {kind : String} :
    resolver.draft form = .error (.unknownKind kind) ↔
      ∃ members,
        form = .object members ∧
          kind = statedKind members ∧
          resolver.ofKind? kind = none ∧
          resolver.fallback = none := by
  constructor
  · intro failed
    cases form with
    | object members =>
        cases made : resolver.maker? members with
        | none =>
            have fails := draft_object resolver members
            simp only [made, failed, Except.error.injEq, DecodeError.unknownKind.injEq] at fails
            exact ⟨members, rfl, fails, fails ▸ maker?_eq_none_iff.mp made⟩
        | some definition =>
            have causes : KnowsKinds (resolver.draftAll (Members.causeForms members)) :=
              knowsKinds_draftAll fun form _ => knowsKinds_draftCause resolver form
            simp only [draft_object, made] at failed
            exact absurd failed (causes.draftOf definition members kind)
    | _ => simp [draft] at failed
  · rintro ⟨members, rfl, rfl, missing⟩
    simp [draft_object, maker?_eq_none_iff.mpr missing]

/-- Causes are read alike by two resolvers that read each of them alike. -/
theorem draftAll_congr
    {other : Resolver}
    {forms : List Json}
    (same : ∀ form ∈ forms, other.draftCause form = resolver.draftCause form) :
    other.draftAll forms = resolver.draftAll forms := by
  induction forms with
  | nil =>
      rfl
  | cons form rest inductionHypothesis =>
      obtain ⟨first, others⟩ := List.forall_mem_cons.mp same
      simp only [draftAll, first, inductionHypothesis others]

/-- The fallback has no part in reading a cause. -/
theorem draftCause_fallback
    (resolver : Resolver)
    (fallback : Option Definition)
    (form : Json) :
    { resolver with fallback }.draftCause form = resolver.draftCause form := by
  induction form using Json.cause_induction with
  | object members inductionHypothesis =>
      simp only [draftCause_object, draftAll_congr inductionHypothesis]
      rfl
  | other form notAnObject =>
      simp only [draftCause_of_not_object _ notAnObject]

/-! ## What is passed over -/

/-- Whether two objects state the same kind, message, fields and causes. -/
structure StatesAlike (first second : Members) : Prop where
  kind : kindOf? first = kindOf? second
  message : messageOf first = messageOf second
  fields : first.statedFields = second.statedFields
  causes : first.causeForms = second.causeForms

namespace StatesAlike

variable {first second : Members}

theorem symm (alike : StatesAlike first second) : StatesAlike second first :=
  ⟨alike.kind.symm, alike.message.symm, alike.fields.symm, alike.causes.symm⟩

/-- An object that states what a well-formed one states is well-formed. -/
theorem wellFormed
    (alike : StatesAlike first second)
    {definition : Definition}
    (wellFormed : resolver.WellFormed definition first) :
    resolver.WellFormed definition second := by
  cases wellFormed with
  | intro told reads causes =>
      have alsoTold := alike.message.symm.trans (messageOf_eq_ok_iff.mpr told)
      exact .intro (messageOf_eq_ok_iff.mp alsoTold) (alike.fields ▸ reads) (alike.causes ▸ causes)

/-- An object that states what a readable one states is readable. -/
theorem isReadable
    (alike : StatesAlike first second)
    (readable : resolver.IsReadable (.object first)) :
    resolver.IsReadable (.object second) := by
  have sameKind : statedKind first = statedKind second :=
    congrArg (fun kind => kind.getD "") alike.kind
  cases readable with
  | registered found wellFormed =>
      exact .registered (sameKind ▸ found) (alike.wellFormed wellFormed)
  | fallback notFound fallback wellFormed =>
      exact .fallback (sameKind ▸ notFound) fallback (alike.wellFormed wellFormed)

end StatesAlike

/-- Whether reading passes over a member: one of another name than a form of an error has, or a
kind, fields or causes of another shape. -/
structure IsPassedOver
    (name : String)
    (form : Json) :
    Prop where
  message : name ≠ "message"
  kind : name = "kind" → form.text? = none
  fields : name = "fields" → form.members? = none
  causes : name = "causes" → form.array? = none

/-- A member that is passed over leaves what an object states. -/
theorem IsPassedOver.statesAlike
    {name : String}
    {form : Json}
    (passedOver : IsPassedOver name form)
    {members : Members}
    (absent : members.get? name = none) :
    StatesAlike (members.insert name form) members where
  kind := by
    by_cases isKind : name = "kind"
    · subst isKind
      simp [kindOf?, Members.get?_insert, absent, passedOver.kind rfl]
    · simp [kindOf?, Members.get?_insert, isKind]
  message := by
    simp [messageOf, Members.get?_insert, passedOver.message]
  fields := by
    by_cases isFields : name = "fields"
    · subst isFields
      have misshapen := passedOver.fields rfl
      simp only [Members.statedFields, Members.get?_insert, absent]
      cases form <;> simp_all [Json.members?]
    · simp [Members.statedFields, Members.get?_insert, isFields]
  causes := by
    by_cases isCauses : name = "causes"
    · subst isCauses
      have misshapen := passedOver.causes rfl
      simp only [Members.causeForms, Members.get?_insert, absent]
      cases form <;> simp_all [Json.array?]
    · simp [Members.causeForms, Members.get?_insert, isCauses]

end Resolver

/-! ## What is read -/

/-- The forms that a store decodes are those that are readable. -/
theorem Store.exists_decode_iff
    {store : Store}
    {resolver : Resolver}
    {form : Json} :
    (∃ result, store.decode resolver form = .ok result) ↔ resolver.IsReadable form := by
  have read_iff :
      (∃ result, store.decode resolver form = .ok result) ↔
        ∃ draft, resolver.draft form = .ok draft := by
    simp only [decode_eq_ok_iff]
    exact ⟨fun ⟨_, draft, drafted, _⟩ => ⟨draft, drafted⟩,
      fun ⟨draft, drafted⟩ => ⟨_, draft, drafted, rfl⟩⟩
  exact read_iff.trans Resolver.exists_draft_iff

/-- To decode a form fails when reading it does, and for the same reason. -/
theorem Store.decode_eq_error_iff
    {store : Store}
    {resolver : Resolver}
    {form : Json}
    {failure : DecodeError} :
    store.decode resolver form = .error failure ↔ resolver.draft form = .error failure := by
  cases drafted : resolver.draft form <;> simp [decode, drafted, Except.map]

/-- A form is read exactly when it is in the grammar. An unknown kind is reported exactly for the
kind of the outermost object, when neither a definition nor a fallback makes an error of it; no
cause reports one, and the fallback changes nothing about causes. A member that is passed over
changes nothing about whether an object is read. -/
theorem Store.decode_accepts
    (store : Store)
    (resolver : Resolver) :
    (∀ form,
      (∃ result, store.decode resolver form = .ok result) ↔ resolver.IsReadable form) ∧
    (∀ form kind,
      store.decode resolver form = .error (.unknownKind kind) ↔
        ∃ members,
          form = .object members ∧
            kind = Resolver.statedKind members ∧
            resolver.ofKind? kind = none ∧
            resolver.fallback = none) ∧
    (∀ cause kind, resolver.draftCause cause ≠ .error (.unknownKind kind)) ∧
    (∀ fallback cause,
      { resolver with fallback }.draftCause cause = resolver.draftCause cause) ∧
    (∀ (members : Members) name form,
      members.get? name = none →
      Resolver.IsPassedOver name form →
      ((∃ result, store.decode resolver (.object (members.insert name form)) = .ok result) ↔
        ∃ result, store.decode resolver (.object members) = .ok result)) := by
  refine ⟨fun _ => exists_decode_iff, ?_, ?_, ?_, ?_⟩
  · intro form kind
    exact decode_eq_error_iff.trans Resolver.draft_eq_unknownKind_iff
  · exact Resolver.knowsKinds_draftCause resolver
  · exact Resolver.draftCause_fallback resolver
  · intro members name form absent passedOver
    have alike := passedOver.statesAlike absent
    have readable_iff :
        resolver.IsReadable (.object (members.insert name form)) ↔
          resolver.IsReadable (.object members) :=
      ⟨alike.isReadable, alike.symm.isReadable⟩
    exact exists_decode_iff.trans (readable_iff.trans exists_decode_iff.symm)

/-- Misshapen fields are passed over, and the fallback makes the outer error but not its cause. -/
example (definition : Definition) :
    Resolver.draft ⟨[], some definition⟩
        (.object
          [("causes", .array [.object [("kind", .text "k"), ("message", .text "inner")]]),
            ("fields", .null),
            ("message", .text "outer")]) =
      .ok (.occurrence definition [] "outer" [.unclaimed "inner" (some "k") []]) :=
  rfl

end Fault
