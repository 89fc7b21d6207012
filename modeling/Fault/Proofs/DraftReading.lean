import Fault.Proofs.DraftGrowth

/-!
# What makes a form readable

A form becomes a draft exactly when it is an object with a message, every field that the definition
has a key for is read by the last key of its name, and all its causes become drafts. The draft then
stores what was read, in the order of the form, and behind it the unknown fields as details.
-/

namespace Fault

/-- A computation of two steps succeeds when both steps do, the second on the value of the first. -/
theorem bind_eq_ok_iff
    {ε α β : Type}
    {first : Except ε α}
    {next : α → Except ε β}
    {result : β} :
    first >>= next = .ok result ↔ ∃ value, first = .ok value ∧ next value = .ok result := by
  cases first with
  | error failure =>
      simp [bind, Except.bind]
  | ok value =>
      simp [bind, Except.bind]

/-! ## Lists that are related one by one -/

/-- In related lists every member of the first one is related to a member of the second one. -/
theorem exists_related_of_mem
    {α β : Type}
    {related : α → β → Prop}
    {first : List α}
    {second : List β}
    (relates : List.Forall₂ related first second)
    {member : α}
    (isMember : member ∈ first) :
    ∃ other ∈ second, related member other := by
  induction relates with
  | nil =>
      cases isMember
  | cons head _ inductionHypothesis =>
      rcases List.mem_cons.mp isMember with isHead | inRest
      · exact ⟨_, List.mem_cons_self, isHead ▸ head⟩
      · obtain ⟨other, isOther, relatesOther⟩ := inductionHypothesis inRest
        exact ⟨other, List.mem_cons_of_mem _ isOther, relatesOther⟩

/-- In related lists every member of the second one is related to a member of the first one. -/
theorem exists_related_of_mem_right
    {α β : Type}
    {related : α → β → Prop}
    {first : List α}
    {second : List β}
    (relates : List.Forall₂ related first second)
    {other : β}
    (isOther : other ∈ second) :
    ∃ member ∈ first, related member other :=
  exists_related_of_mem (List.Forall₂.flip (R := flip related) relates) isOther

/-- When every item is related to something, the items are related to a list. -/
theorem exists_forall₂_of_forall_exists
    {α β : Type}
    {related : α → β → Prop}
    {items : List α}
    (relates : ∀ item ∈ items, ∃ other, related item other) :
    ∃ others, List.Forall₂ related items others := by
  induction items with
  | nil =>
      exact ⟨[], .nil⟩
  | cons item items inductionHypothesis =>
      obtain ⟨⟨other, first⟩, rest⟩ := List.forall_mem_cons.mp relates
      obtain ⟨others, later⟩ := inductionHypothesis rest
      exact ⟨other :: others, .cons first later⟩

/-- What is related to the elements of a list, one by one, is related at every place. -/
theorem exists_getElem?_of_forall₂
    {α β : Type}
    {related : α → β → Prop}
    {firsts : List α}
    {seconds : List β}
    {index : Nat}
    {first : α}
    (all : List.Forall₂ related firsts seconds)
    (placed : firsts[index]? = some first) :
    ∃ second, seconds[index]? = some second ∧ related first second := by
  obtain ⟨inBounds, rfl⟩ := List.getElem?_eq_some_iff.mp placed
  have alsoInBounds : index < seconds.length := all.length_eq ▸ inBounds
  exact ⟨seconds[index], List.getElem?_eq_getElem alsoInBounds,
    all.get inBounds alsoInBounds⟩

/-! ## What an object states -/

namespace Members

/-- The fields that an object states. -/
def statedFields (members : Members) : Members :=
  match members.get? "fields" with
  | some (.object fields) => fields
  | _ => []

/-- The forms of the causes that an object states. -/
def causeForms (members : Members) : List Json :=
  match members.get? "causes" with
  | some (.array items) => items
  | _ => []

end Members

namespace Definition

/-- The key that reads the fields of a name. -/
def keyOf?
    (definition : Definition)
    (name : String) :
    Option Key :=
  (definition.fields.keysNamed name).getLast?

/-- The stated fields that a definition has a key for. -/
def known
    (definition : Definition)
    (stated : Members) :
    Members :=
  stated.filter fun member => (definition.keyOf? member.1).isSome

/-- The stated fields that a definition has no key for. -/
def unknown
    (definition : Definition)
    (stated : Members) :
    Members :=
  stated.filter fun member => (definition.keyOf? member.1).isNone

/-- The known fields are those that the definition has a key for. -/
theorem mem_known_iff
    {definition : Definition}
    {stated : Members}
    {member : String × Json} :
    member ∈ definition.known stated ↔
      member ∈ stated ∧ ∃ key, definition.keyOf? member.1 = some key := by
  rw [known, List.mem_filter, Option.isSome_iff_exists]

/-- The unknown fields are those that the definition has no key for. -/
theorem mem_unknown_iff
    {definition : Definition}
    {stated : Members}
    {member : String × Json} :
    member ∈ definition.unknown stated ↔
      member ∈ stated ∧ definition.keyOf? member.1 = none := by
  rw [unknown, List.mem_filter, Option.isNone_iff_eq_none]

/-- Whether a key and a value are what a stated field is read as. -/
def ReadsAs
    (definition : Definition)
    (member : String × Json)
    (pair : Key × Value) :
    Prop :=
  definition.keyOf? member.1 = some pair.1 ∧ pair.1.decode member.2 = .ok pair.2

/-- The details that gather unknown fields, when there are any. -/
def detailsOf (unknown : Members) : List (Key × Value) :=
  if unknown.isEmpty then [] else [(Builtin.details, .details unknown)]

/-- Whether settings store what stated fields are read as, and the unknown ones as details. -/
def ReadsFields
    (definition : Definition)
    (stated : Members)
    (settings : List Setting) :
    Prop :=
  ∃ pairs : List (Key × Value),
    List.Forall₂ definition.ReadsAs (definition.known stated) pairs ∧
      settings =
        (pairs ++ detailsOf (definition.unknown stated)).map
          fun pair => .field pair.1 pair.2

/-- Deriving by what stated fields are read as changes nothing but the fields. -/
theorem ReadsFields.template_derive
    {definition : Definition}
    {stated : Members}
    {settings : List Setting}
    (reads : definition.ReadsFields stated settings)
    (defaults : Defaults)
    (number : Nat) :
    ∃ fields,
      (definition.derive defaults number settings).template =
        { definition.template with fields := fields } := by
  obtain ⟨pairs, _, rfl⟩ := reads
  exact ⟨_, template_derive_field defaults number definition _⟩

end Definition

namespace Graph.IsOccurrenceOf

variable
  {graph : Graph}
  {definition : Definition}
  {stated : Members}
  {settings : List Setting}
  {message : String}
  {identity : ErrorId}
  {error : Occurrence}

/-- An error that was made with stated fields has the template of its definition but for the
fields. -/
theorem exists_template_eq
    (isOccurrence : graph.IsOccurrenceOf definition settings message identity error)
    (reads : definition.ReadsFields stated settings) :
    ∃ fields, error.definition.template = { definition.template with fields := fields } := by
  obtain ⟨defaults, number, derived⟩ := isOccurrence.derived
  rw [derived]
  exact reads.template_derive defaults number

/-- Fields that are read leave the boundary of a definition as it is. -/
theorem isBoundary_eq
    (isOccurrence : graph.IsOccurrenceOf definition settings message identity error)
    (reads : definition.ReadsFields stated settings) :
    error.definition.isBoundary = definition.isBoundary := by
  obtain ⟨fields, sameTemplate⟩ := isOccurrence.exists_template_eq reads
  rw [Definition.isBoundary, sameTemplate]
  rfl

/-- An occurrence of a definition that was derived is of the same family. -/
theorem sameRoot
    (isOccurrence : graph.IsOccurrenceOf definition settings message identity error) :
    error.definition.sameRoot definition = true := by
  obtain ⟨defaults, number, derived⟩ := isOccurrence.derived
  rw [derived]
  exact Definition.sameRoot_derive defaults number definition settings

end Graph.IsOccurrenceOf

namespace Resolver

/-- An object has a message when it states a text under this name. -/
theorem messageOf_eq_ok_iff
    {members : Members}
    {message : String} :
    messageOf members = .ok message ↔ members.get? "message" = some (.text message) := by
  unfold messageOf
  cases found : members.get? "message" with
  | none =>
      simp
  | some form =>
      cases form <;> simp [Json.text?]

/-! ## Fields -/

/-- A field without a key is set aside for the details. -/
theorem sortFields_cons_of_unknown_iff
    {definition : Definition}
    {name : String}
    {form : Json}
    {rest : List (String × Json)}
    {settings : List Setting}
    {unknown : Members}
    (noKey : definition.keyOf? name = none) :
    sortFields definition ((name, form) :: rest) = .ok (settings, unknown) ↔
      ∃ others,
        sortFields definition rest = .ok (settings, others) ∧ unknown = (name, form) :: others := by
  rw [Definition.keyOf?] at noKey
  rw [sortFields, noKey]
  simp only [bind_eq_ok_iff, Prod.exists, Except.ok.injEq, Prod.mk.injEq]
  constructor
  · rintro ⟨_, others, sorted, rfl, rfl⟩
    exact ⟨others, sorted, rfl⟩
  · rintro ⟨others, sorted, rfl⟩
    exact ⟨settings, others, sorted, rfl, rfl⟩

/-- A field with a key is decoded by this key and becomes a setting. -/
theorem sortFields_cons_of_known_iff
    {definition : Definition}
    {name : String}
    {form : Json}
    {rest : List (String × Json)}
    {settings : List Setting}
    {unknown : Members}
    {key : Key}
    (ownKey : definition.keyOf? name = some key) :
    sortFields definition ((name, form) :: rest) = .ok (settings, unknown) ↔
      ∃ value others,
        key.decode form = .ok value ∧
          sortFields definition rest = .ok (others, unknown) ∧
          settings = .field key value :: others := by
  rw [Definition.keyOf?] at ownKey
  rw [sortFields, ownKey]
  cases read : key.decode form with
  | error misfit =>
      simp [read]
  | ok value =>
      simp only [read, bind_eq_ok_iff, Prod.exists, Except.ok.injEq, Prod.mk.injEq]
      constructor
      · rintro ⟨others, _, sorted, rfl, rfl⟩
        exact ⟨value, others, rfl, sorted, rfl⟩
      · rintro ⟨_, others, rfl, sorted, rfl⟩
        exact ⟨others, unknown, sorted, rfl, rfl⟩

/-- Fields are sorted when each known one is decoded by its key; the others are gathered in order.
-/
theorem sortFields_eq_ok_iff
    {definition : Definition}
    {members : List (String × Json)}
    {settings : List Setting}
    {unknown : Members} :
    sortFields definition members = .ok (settings, unknown) ↔
      unknown = definition.unknown members ∧
        ∃ pairs,
          List.Forall₂ definition.ReadsAs (definition.known members) pairs ∧
            settings = pairs.map fun pair => .field pair.1 pair.2 := by
  induction members generalizing settings unknown with
  | nil =>
      simp [sortFields, Definition.unknown, Definition.known, and_comm]
  | cons member rest inductionHypothesis =>
      obtain ⟨name, form⟩ := member
      cases hasKey : definition.keyOf? name with
      | none =>
          have isUnknown :
              definition.unknown ((name, form) :: rest) =
                (name, form) :: definition.unknown rest := by
            simp [Definition.unknown, hasKey]
          have notKnown : definition.known ((name, form) :: rest) = definition.known rest := by
            simp [Definition.known, hasKey]
          rw [sortFields_cons_of_unknown_iff hasKey, isUnknown, notKnown]
          constructor
          · rintro ⟨others, sorted, rfl⟩
            obtain ⟨rfl, stored⟩ := inductionHypothesis.mp sorted
            exact ⟨rfl, stored⟩
          · rintro ⟨rfl, stored⟩
            exact ⟨_, inductionHypothesis.mpr ⟨rfl, stored⟩, rfl⟩
      | some key =>
          have notUnknown :
              definition.unknown ((name, form) :: rest) = definition.unknown rest := by
            simp [Definition.unknown, hasKey]
          have isKnown :
              definition.known ((name, form) :: rest) = (name, form) :: definition.known rest := by
            simp [Definition.known, hasKey]
          rw [sortFields_cons_of_known_iff hasKey, notUnknown, isKnown]
          constructor
          · rintro ⟨value, others, read, sorted, rfl⟩
            obtain ⟨rfl, pairs, reads, rfl⟩ := inductionHypothesis.mp sorted
            exact ⟨rfl, (key, value) :: pairs, .cons ⟨hasKey, read⟩ reads, rfl⟩
          · rintro ⟨rfl, _, reads, rfl⟩
            cases reads with
            | @cons _ pair _ pairs readsAs reads =>
                obtain ⟨pairKey, read⟩ := readsAs
                obtain rfl : key = pair.1 := Option.some.inj (hasKey.symm.trans pairKey)
                exact ⟨pair.2, _, read, inductionHypothesis.mpr ⟨rfl, pairs, reads, rfl⟩, rfl⟩

/-- The settings of an object are those that its stated fields are read as. -/
theorem fieldSettings_eq_ok_iff
    {definition : Definition}
    {members : Members}
    {settings : List Setting} :
    fieldSettings definition members = .ok settings ↔
      definition.ReadsFields members.statedFields settings := by
  have noneStated :
      definition.ReadsFields [] settings ↔ settings = [] := by
    simp [Definition.ReadsFields, Definition.known, Definition.unknown, Definition.detailsOf]
  unfold fieldSettings
  split
  · next fields stated =>
      have states : members.statedFields = fields := by
        rw [Members.statedFields, stated]
      simp only [states, bind_eq_ok_iff, Prod.exists, Except.ok.injEq, sortFields_eq_ok_iff]
      have stored :
          ∀ pairs : List (Key × Value),
            (pairs ++ Definition.detailsOf (definition.unknown fields)).map
                (fun pair => Setting.field pair.1 pair.2) =
              pairs.map (fun pair => Setting.field pair.1 pair.2) ++
                if (definition.unknown fields).isEmpty then []
                else [.field Builtin.details (.details (definition.unknown fields))] := by
        intro pairs
        rw [Definition.detailsOf, List.map_append]
        split <;> rfl
      constructor
      · rintro ⟨_, _, ⟨rfl, pairs, reads, rfl⟩, rfl⟩
        exact ⟨pairs, reads, (stored pairs).symm⟩
      · rintro ⟨pairs, reads, rfl⟩
        exact ⟨_, _, ⟨rfl, pairs, reads, rfl⟩, (stored pairs).symm⟩
  · next notStated =>
      have states : members.statedFields = [] := by
        unfold Members.statedFields
        split
        · next fields stated => exact absurd stated (notStated fields)
        · rfl
      rw [states, noneStated]
      simp [eq_comm]

/-! ## Causes -/

/-- The causes that are read are those that the object states. -/
theorem draftsIn_eq
    (resolver : Resolver)
    (members : Members) :
    resolver.draftsIn members = resolver.draftAll members.causeForms := by
  have fromForm :
      ∀ form : Json, resolver.draftsFrom form = resolver.draftAll (form.array?.getD []) := by
    intro form
    cases form <;> simp [draftsFrom, draftAll, Json.array?]
  induction members with
  | nil =>
      simp [draftsIn, Members.causeForms, Members.get?, draftAll]
  | cons member rest inductionHypothesis =>
      obtain ⟨name, form⟩ := member
      rw [draftsIn]
      by_cases isCauses : name = "causes"
      · rw [if_pos isCauses, fromForm, Members.causeForms, Members.get?_cons, if_pos isCauses]
        cases form <;> rfl
      · rw [if_neg isCauses, inductionHypothesis, Members.causeForms, Members.causeForms,
          Members.get?_cons, if_neg isCauses]

/-- A draft of a definition is read from an object with a message, fields and causes that are read.
-/
theorem draftOf_eq_ok_iff
    {definition : Definition}
    {members : Members}
    {causes : Except DecodeError (List Draft)}
    {draft : Draft} :
    draftOf definition members causes = .ok draft ↔
      ∃ message settings drafts,
        members.get? "message" = some (.text message) ∧
          definition.ReadsFields members.statedFields settings ∧
          causes = .ok drafts ∧
          draft = .occurrence definition settings message drafts := by
  simp only [draftOf, bind_eq_ok_iff, messageOf_eq_ok_iff, fieldSettings_eq_ok_iff,
    Except.ok.injEq]
  constructor
  · rintro ⟨message, told, settings, reads, drafts, caused, rfl⟩
    exact ⟨message, settings, drafts, told, reads, caused, rfl⟩
  · rintro ⟨message, settings, drafts, told, reads, caused, rfl⟩
    exact ⟨message, told, settings, reads, drafts, caused, rfl⟩

/-- An unclaimed draft is read from an object with a message and causes that are read. -/
theorem draftUnclaimed_eq_ok_iff
    {members : Members}
    {causes : Except DecodeError (List Draft)}
    {draft : Draft} :
    draftUnclaimed members causes = .ok draft ↔
      ∃ message drafts,
        members.get? "message" = some (.text message) ∧
          causes = .ok drafts ∧
          draft = .unclaimed message (typeOf? members) drafts := by
  simp only [draftUnclaimed, bind_eq_ok_iff, messageOf_eq_ok_iff, Except.ok.injEq]
  constructor
  · rintro ⟨drafts, caused, message, told, rfl⟩
    exact ⟨message, drafts, told, caused, rfl⟩
  · rintro ⟨message, drafts, told, caused, rfl⟩
    exact ⟨drafts, caused, message, told, rfl⟩

/-- The registered definition that claims an object by its kind. -/
def claimant?
    (resolver : Resolver)
    (members : Members) :
    Option Definition :=
  (kindOf? members).bind resolver.ofKind?

/-- A cause is read by the definition that claims it, or as an unclaimed error. -/
theorem draftCause_object
    (resolver : Resolver)
    (members : Members) :
    resolver.draftCause (.object members) =
      match resolver.claimant? members with
      | some definition => draftOf definition members (resolver.draftAll members.causeForms)
      | none => draftUnclaimed members (resolver.draftAll members.causeForms) := by
  rw [draftCause, draftsIn_eq]
  rfl

/-- A cause is read as an occurrence exactly when a definition claims it and can read it. -/
theorem draftCause_eq_ok_occurrence_iff
    {resolver : Resolver}
    {form : Json}
    {definition : Definition}
    {settings : List Setting}
    {message : String}
    {drafts : List Draft} :
    resolver.draftCause form = .ok (.occurrence definition settings message drafts) ↔
      ∃ members : Members,
        form = .object members ∧
          resolver.claimant? members = some definition ∧
          members.get? "message" = some (.text message) ∧
          definition.ReadsFields members.statedFields settings ∧
          resolver.draftAll members.causeForms = .ok drafts := by
  constructor
  · intro read
    cases form with
    | object members =>
        rw [draftCause_object] at read
        cases claimed : resolver.claimant? members with
        | some claimant =>
            rw [claimed] at read
            obtain ⟨_, _, _, told, reads, causes, same⟩ := draftOf_eq_ok_iff.mp read
            cases same
            exact ⟨members, rfl, claimed, told, reads, causes⟩
        | none =>
            rw [claimed] at read
            obtain ⟨_, _, _, _, same⟩ := draftUnclaimed_eq_ok_iff.mp read
            cases same
    | _ => simp [draftCause] at read
  · rintro ⟨members, rfl, claimed, told, reads, causes⟩
    rw [draftCause_object, claimed]
    exact draftOf_eq_ok_iff.mpr ⟨message, settings, drafts, told, reads, causes, rfl⟩

/-- A cause is read as an unclaimed error exactly when no definition claims it. -/
theorem draftCause_eq_ok_unclaimed_iff
    {resolver : Resolver}
    {form : Json}
    {message : String}
    {typeName : Option String}
    {drafts : List Draft} :
    resolver.draftCause form = .ok (.unclaimed message typeName drafts) ↔
      ∃ members : Members,
        form = .object members ∧
          resolver.claimant? members = none ∧
          members.get? "message" = some (.text message) ∧
          typeName = typeOf? members ∧
          resolver.draftAll members.causeForms = .ok drafts := by
  constructor
  · intro read
    cases form with
    | object members =>
        rw [draftCause_object] at read
        cases claimed : resolver.claimant? members with
        | some claimant =>
            rw [claimed] at read
            obtain ⟨_, _, _, _, _, _, same⟩ := draftOf_eq_ok_iff.mp read
            cases same
        | none =>
            rw [claimed] at read
            obtain ⟨_, _, told, causes, same⟩ := draftUnclaimed_eq_ok_iff.mp read
            cases same
            exact ⟨members, rfl, claimed, told, rfl, causes⟩
    | _ => simp [draftCause] at read
  · rintro ⟨members, rfl, claimed, told, rfl, causes⟩
    rw [draftCause_object, claimed]
    exact draftUnclaimed_eq_ok_iff.mpr ⟨message, drafts, told, causes, rfl⟩

/-- Causes are read one after the other, and all of them have to be. -/
theorem draftAll_cons_eq_ok_iff
    {resolver : Resolver}
    {form : Json}
    {forms : List Json}
    {drafts : List Draft} :
    resolver.draftAll (form :: forms) = .ok drafts ↔
      ∃ first others,
        resolver.draftCause form = .ok first ∧
          resolver.draftAll forms = .ok others ∧
          drafts = first :: others := by
  simp only [draftAll, bind_eq_ok_iff, Except.ok.injEq]
  constructor
  · rintro ⟨first, firstRead, others, othersRead, rfl⟩
    exact ⟨first, others, firstRead, othersRead, rfl⟩
  · rintro ⟨first, others, firstRead, othersRead, rfl⟩
    exact ⟨first, firstRead, others, othersRead, rfl⟩

theorem length_of_draftAll_eq_ok
    {resolver : Resolver}
    {forms : List Json}
    {drafts : List Draft}
    (read : resolver.draftAll forms = .ok drafts) :
    drafts.length = forms.length := by
  induction forms generalizing drafts with
  | nil =>
      cases read
      rfl
  | cons form forms inductionHypothesis =>
      obtain ⟨_, others, _, othersRead, rfl⟩ := draftAll_cons_eq_ok_iff.mp read
      rw [List.length_cons, List.length_cons, inductionHypothesis othersRead]

/-- The definition that makes the error of an object: the one of its kind, or the fallback. -/
def maker?
    (resolver : Resolver)
    (members : Members) :
    Option Definition :=
  resolver.ofKindOrFallback? ((kindOf? members).getD "")

/-- A form is read exactly when it is an object and the definition that makes its errors reads it.
-/
theorem draft_eq_ok_iff
    {resolver : Resolver}
    {form : Json}
    {draft : Draft} :
    resolver.draft form = .ok draft ↔
      ∃ (members : Members) (definition : Definition),
        form = .object members ∧
          resolver.maker? members = some definition ∧
          draftOf definition members (resolver.draftAll members.causeForms) = .ok draft := by
  cases form with
  | object members =>
      rw [Resolver.draft, draftsIn_eq]
      cases made : resolver.maker? members with
      | none =>
          have unknown : resolver.ofKindOrFallback? ((kindOf? members).getD "") = none := made
          simp [unknown, made]
      | some definition =>
          have known :
              resolver.ofKindOrFallback? ((kindOf? members).getD "") = some definition := made
          simp [known, made]
  | _ => simp [Resolver.draft]

end Resolver

namespace Store

/-- To decode a form is to read a draft and to build it. -/
theorem decode_eq_ok_iff
    {store : Store}
    {resolver : Resolver}
    {form : Json}
    {result : ErrorId × Store} :
    store.decode resolver form = .ok result ↔
      ∃ draft, resolver.draft form = .ok draft ∧ result = store.build draft := by
  unfold decode
  cases resolver.draft form <;> simp [Except.map, eq_comm]

/-- A form that is read is an object, and becomes an error of the definition that makes it, with
the message, the fields and the causes that it states. -/
theorem exists_hasGrown_of_decode_eq_ok
    {store after : Store}
    {resolver : Resolver}
    {form : Json}
    {identity : ErrorId}
    (decoded : store.decode resolver form = .ok (identity, after)) :
    ∃ (members : Members) (definition : Definition) (settings : List Setting)
        (message : String) (drafts : List Draft),
      form = .object members ∧
        resolver.maker? members = some definition ∧
        members.get? "message" = some (.text message) ∧
        definition.ReadsFields members.statedFields settings ∧
        resolver.draftAll members.causeForms = .ok drafts ∧
        after.graph.HasGrown (.occurrence definition settings message drafts) identity
          (after.graph.causeTree identity) := by
  obtain ⟨draft, drafted, isBuilt⟩ := decode_eq_ok_iff.mp decoded
  obtain ⟨members, definition, isObject, made, read⟩ := Resolver.draft_eq_ok_iff.mp drafted
  obtain ⟨message, settings, drafts, told, fields, causes, rfl⟩ :=
    Resolver.draftOf_eq_ok_iff.mp read
  obtain ⟨rfl, rfl⟩ := Prod.ext_iff.mp isBuilt
  exact ⟨members, definition, settings, message, drafts, isObject, made, told, fields, causes,
    hasGrown_causeTree store _⟩

end Store

end Fault
