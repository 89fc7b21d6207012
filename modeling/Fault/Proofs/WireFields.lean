import Fault.Proofs.DecodedFields

/-!
# Fields that travel

A field travels when it renders to a form that its own key reads, as a value that renders to the
same form again. A definition takes fields back when it reads the form of the last field of every
name in this way; it takes its own fields back when they travel. The forms of such fields are read
without any unknown ones, and what is read renders to the very same forms: of fields of one name the
one stored last is the one that is written, read and stored again.
-/

namespace Fault

namespace Field

/-- Whether a field renders to a form that its key reads as a value of the same form. -/
def Travels (field : Field) : Prop :=
  ∃ form value,
    field.value.toJson = .ok form ∧
      field.key.decode form = .ok value ∧
      value.toJson = .ok form

/-- A field that travels renders to its form. -/
theorem Travels.renders
    {field : Field}
    (travels : field.Travels) :
    field.value.toJson = .ok field.form := by
  obtain ⟨form, _, renders, _, _⟩ := travels
  rw [renders, form_eq renders]

/-- The form of a field that travels is read as a value with the same form. -/
theorem Travels.exists_read
    {field : Field}
    (travels : field.Travels) :
    ∃ value, field.key.decode field.form = .ok value ∧ value.toJson = .ok field.form := by
  obtain ⟨form, value, renders, read, rendersAgain⟩ := travels
  rw [form_eq renders]
  exact ⟨value, read, rendersAgain⟩

end Field

namespace Fields

/-- Empty fields have no forms. -/
theorem forms_eq_nil
    {fields : Fields}
    (none : fields.isEmpty = true) :
    fields.forms = [] := by
  rw [forms, List.isEmpty_iff.mp none]
  rfl

end Fields

namespace Definition

/-- Whether a value is read from a stated field, and renders to the form that the field states. -/
def Returns
    (definition : Definition)
    (member : String × Json)
    (pair : Key × Value) :
    Prop :=
  definition.ReadsAs member pair ∧ pair.2.toJson = .ok member.2

/-- Whether a definition takes the forms of fields back: the form of the last field of a name is
read as a value of the same form, and every field of the definition is either read anew or renders,
and has its name among the fields. -/
structure TakesBack
    (definition : Definition)
    (fields : Fields) :
    Prop where
  read :
    ∀ name field,
      fields.lastNamed? name = some field →
        ∃ key value,
          definition.keyOf? name = some key ∧
            key.decode field.form = .ok value ∧
            value.toJson = .ok field.form
  named :
    ∀ field ∈ definition.fields.entries, (fields.lastNamed? field.name).isSome = true
  renders :
    ∀ field ∈ definition.fields.entries,
      definition.keyOf? field.name = some field.key ∨ field.value.toJson = .ok field.form

/-- The key of a name is that of its last field. -/
theorem keyOf?_eq_map_lastNamed?
    (definition : Definition)
    (name : String) :
    definition.keyOf? name = (definition.fields.lastNamed? name).map Field.key := by
  rw [keyOf?, Fields.getLast?_keysNamed]

/-- A definition takes back its own fields when they travel. -/
theorem takesBack_self
    {definition : Definition}
    (travel : ∀ field ∈ definition.fields.entries, field.Travels) :
    definition.TakesBack definition.fields where
  read name field isLast := by
    obtain ⟨value, read, rendersAgain⟩ :=
      (travel field (Fields.mem_of_lastNamed?_eq_some isLast).1).exists_read
    exact ⟨field.key, value, by simp [keyOf?_eq_map_lastNamed?, isLast], read,
      rendersAgain⟩
  named _ member := Fields.isSome_lastNamed?_of_mem member
  renders field member := .inr (travel field member).renders

/-- Each form of fields is read by the key of its name. -/
theorem TakesBack.exists_returns
    {definition : Definition}
    {fields : Fields}
    (takesBack : definition.TakesBack fields) :
    ∃ pairs, List.Forall₂ definition.Returns fields.forms pairs := by
  apply exists_forall₂_of_forall_exists
  intro member isMember
  have found := Members.get?_eq_some_of_mem fields.isSorted_forms.nodup isMember
  rw [Fields.get?_forms] at found
  obtain ⟨field, isLast, isForm⟩ := Option.map_eq_some_iff.mp found
  obtain ⟨key, value, ownKey, read, rendersAgain⟩ := takesBack.read _ _ isLast
  rw [isForm] at read rendersAgain
  exact ⟨(key, value), ⟨ownKey, read⟩, rendersAgain⟩

/-- A definition that takes fields back knows all of them. -/
theorem known_eq_self
    {definition : Definition}
    {stated : Members}
    {pairs : List (Key × Value)}
    (returns : List.Forall₂ definition.Returns stated pairs) :
    definition.known stated = stated ∧ definition.unknown stated = [] := by
  have hasKey : ∀ member ∈ stated, ∃ key, definition.keyOf? member.1 = some key := by
    intro member isMember
    obtain ⟨pair, _, ⟨ownKey, _⟩, _⟩ := exists_related_of_mem returns isMember
    exact ⟨pair.1, ownKey⟩
  constructor
  · refine List.filter_eq_self.mpr fun member isMember => ?_
    exact Option.isSome_iff_exists.mpr (hasKey member isMember)
  · refine List.filter_eq_nil_iff.mpr fun member isMember => ?_
    obtain ⟨key, ownKey⟩ := hasKey member isMember
    simp [ownKey]

/-- A field is read by a key of its name. -/
theorem name_eq_of_readsAs
    {definition : Definition}
    {member : String × Json}
    {pair : Key × Value}
    (readsAs : definition.ReadsAs member pair) :
    pair.1.name = member.1 := by
  obtain ⟨field, _, isKey, named⟩ := exists_field_of_keyOf?_eq_some readsAs.1
  rw [← isKey]
  exact named

/-- A key that reads a name is that of the last field of this name. -/
theorem key_lastNamed?_of_readsAs
    {definition : Definition}
    {member : String × Json}
    {pair : Key × Value}
    (readsAs : definition.ReadsAs member pair) :
    (definition.fields.lastNamed? pair.1.name).map Field.key = some pair.1 := by
  rw [name_eq_of_readsAs readsAs, ← keyOf?_eq_map_lastNamed?]
  exact readsAs.1

/-- Fields that are read back keep their names. -/
theorem names_eq
    {definition : Definition}
    {stated : Members}
    {pairs : List (Key × Value)}
    (returns : List.Forall₂ definition.Returns stated pairs) :
    (pairs.map fun pair => pair.1.name) = stated.map Prod.fst := by
  induction returns with
  | nil =>
      rfl
  | cons first _ inductionHypothesis =>
      rw [List.map_cons, List.map_cons, inductionHypothesis, name_eq_of_readsAs first.1]

namespace TakesBack

variable
  {definition : Definition}
  {fields : Fields}
  {pairs : List (Key × Value)}

/-- A name among the forms of fields is one that something was read for. -/
theorem exists_pair_of_lastNamed?
    (returns : List.Forall₂ definition.Returns fields.forms pairs)
    {name : String}
    {field : Field}
    (isLast : fields.lastNamed? name = some field) :
    ∃ pair ∈ pairs, definition.Returns (name, field.form) pair := by
  have found : fields.forms.get? name = some field.form := by
    simp [Fields.get?_forms, isLast]
  exact exists_related_of_mem returns (Members.mem_of_get?_eq_some found)

/-- Storing what was read from the forms of fields gives these forms again. -/
theorem forms_storeAll
    (takesBack : definition.TakesBack fields)
    (returns : List.Forall₂ definition.Returns fields.forms pairs) :
    (definition.fields.storeAll pairs).forms = fields.forms := by
  have sorted := fields.isSorted_forms
  have distinct : (pairs.map fun pair => pair.1.name).Nodup := by
    rw [names_eq returns]
    exact sorted.nodup
  have stating :
      ∀ pair ∈ pairs, ∃ member ∈ fields.forms, definition.Returns member pair :=
    fun pair isPair =>
      exists_related_of_mem_right returns isPair
  have last :
      ∀ pair ∈ pairs,
        (definition.fields.lastNamed? pair.1.name).map Field.key = some pair.1 := by
    intro pair isPair
    obtain ⟨_, _, readsAs, _⟩ := stating pair isPair
    exact key_lastNamed?_of_readsAs readsAs
  refine (Fields.isSorted_forms _).eq_of_get?_eq sorted fun name => ?_
  rw [Fields.get?_forms, Fields.lastNamed?_storeAll last distinct]
  cases found : pairs.find? fun pair => pair.1.name == name with
  | none =>
      have notRead : ∀ pair ∈ pairs, pair.1.name ≠ name := by
        simpa using found
      have absent : fields.lastNamed? name = none := by
        refine Option.eq_none_iff_forall_ne_some.mpr fun field isLast => ?_
        obtain ⟨pair, isPair, readsAs, _⟩ := exists_pair_of_lastNamed? returns isLast
        exact notRead pair isPair (name_eq_of_readsAs readsAs)
      have notOwn : definition.fields.lastNamed? name = none := by
        refine Option.eq_none_iff_forall_ne_some.mpr fun field isLast => ?_
        obtain ⟨member, named⟩ := Fields.mem_of_lastNamed?_eq_some isLast
        have isNamed := takesBack.named field member
        simp [named, absent] at isNamed
      simp [Fields.get?_forms, absent, notOwn]
  | some pair =>
      obtain ⟨member, isMember, readsAs, renders⟩ := stating pair (List.mem_of_find?_eq_some found)
      have named : member.1 = name := by
        rw [← name_eq_of_readsAs readsAs]
        simpa using List.find?_some found
      rw [← named, Members.get?_eq_some_of_mem sorted.nodup isMember]
      exact congrArg some (Field.form_eq renders)

/-- All fields render when what was read is stored. -/
theorem renders_storeAll
    (takesBack : definition.TakesBack fields)
    (returns : List.Forall₂ definition.Returns fields.forms pairs) :
    ∀ field ∈ (definition.fields.storeAll pairs).entries,
      field.value.toJson = .ok field.form := by
  intro field member
  have ofPair : (field.key, field.value) ∈ pairs → field.value.toJson = .ok field.form := by
    intro isPair
    obtain ⟨_, _, _, renders⟩ := exists_related_of_mem_right returns isPair
    rw [renders, Field.form_eq renders]
  rcases Fields.mem_entries_storeAll member with kept | isRead
  · rcases takesBack.renders field kept with ownKey | renders
    · -- The key of the field is the one that reads its name, so the field was read anew.
      obtain ⟨named, isLast⟩ := Option.isSome_iff_exists.mp (takesBack.named field kept)
      obtain ⟨⟨key, value⟩, isPair, ⟨pairKey, _⟩, _⟩ := exists_pair_of_lastNamed? returns isLast
      obtain rfl : key = field.key := Option.some.inj (pairKey.symm.trans ownKey)
      have distinct :=
        nodup_identities_of_readsAs fields.isSorted_forms.nodup (returns.imp fun _ _ read => read.1)
      have stored : (definition.fields.storeAll pairs).find? field.key.identity = some value :=
        Fields.find?_storeAll_of_mem distinct isPair
      have same : field.value = value :=
        Option.some.inj ((Fields.find?_of_mem member).symm.trans stored)
      exact ofPair (same ▸ isPair)
    · exact renders
  · exact ofPair isRead

/-- Fields that were taken back are empty when the first ones were. -/
theorem isEmpty_storeAll
    (takesBack : definition.TakesBack fields)
    (returns : List.Forall₂ definition.Returns fields.forms pairs) :
    (definition.fields.storeAll pairs).isEmpty = fields.isEmpty := by
  rw [Fields.isEmpty_storeAll]
  cases entries : fields.entries with
  | nil =>
      have none : fields.isEmpty = true := by simp [Fields.isEmpty, entries]
      have nothing : ∀ name, fields.lastNamed? name = Option.none := by
        simp [Fields.lastNamed?, entries]
      have noOwn : definition.fields.isEmpty = true := by
        refine List.isEmpty_iff.mpr (List.eq_nil_iff_forall_not_mem.mpr fun field member => ?_)
        simpa [nothing] using takesBack.named field member
      rw [Fields.forms_eq_nil none] at returns
      cases returns
      simp [none, noOwn]
  | cons field rest =>
      have member : field ∈ fields.entries := by simp [entries]
      obtain ⟨last, isLast⟩ :=
        Option.isSome_iff_exists.mp (Fields.isSome_lastNamed?_of_mem member)
      obtain ⟨pair, isPair, _⟩ := exists_pair_of_lastNamed? returns isLast
      have some : pairs.isEmpty = false := by
        simpa using List.ne_nil_of_mem isPair
      simp [some, Fields.isEmpty, entries]

end TakesBack

/-- Whether settings are what the forms of the fields of a definition are read as, and a definition
that is derived by them has fields of the same forms. -/
structure IsRestoredBy
    (definition : Definition)
    (settings : List Setting) :
    Prop where
  reads : definition.ReadsFields definition.fields.forms settings
  renders :
    ∀ defaults number,
      (definition.derive defaults number settings).fields.toMembers =
        .ok definition.fields.forms
  isEmpty_eq :
    ∀ defaults number,
      (definition.derive defaults number settings).fields.isEmpty = definition.fields.isEmpty

/-- Fields that travel can be restored by settings. -/
theorem exists_isRestoredBy
    {definition : Definition}
    (travel : ∀ field ∈ definition.fields.entries, field.Travels) :
    ∃ settings, definition.IsRestoredBy settings := by
  have takesBack := takesBack_self travel
  obtain ⟨pairs, returns⟩ := takesBack.exists_returns
  obtain ⟨allKnown, noneUnknown⟩ := known_eq_self returns
  have stored :
      ∀ defaults number,
        (definition.derive defaults number
            (pairs.map fun pair => .field pair.1 pair.2)).fields =
          definition.fields.storeAll pairs := by
    intro defaults number
    rw [fields, template_derive_field]
  refine ⟨pairs.map fun pair => .field pair.1 pair.2, ⟨pairs, ?_, ?_⟩, ?_, ?_⟩
  · rw [allKnown]
    exact returns.imp fun _ _ read => read.1
  · rw [noneUnknown, detailsOf, if_pos List.isEmpty_nil, List.append_nil]
  · intro defaults number
    rw [stored, ← takesBack.forms_storeAll returns]
    exact Fields.toMembers_eq_forms (takesBack.renders_storeAll returns)
  · intro defaults number
    rw [stored]
    exact takesBack.isEmpty_storeAll returns

end Definition

end Fault
