import Fault.Proofs.MemberOrder
import Fault.Definition.Basic

/-!
# Storing fields

Storing under a key sets the value of this key and of no other one, and makes it the last field of
its name. A definition that is derived by fields alone has its fields with these stored over them;
everything else about it stays, and whatever the settings are, the root stays too.
-/

namespace Fault

namespace Field

/-- The form of a field, null when there is none. -/
def form (field : Field) : Json :=
  match field.value.toJson with
  | .ok form => form
  | .error _ => .null

/-- The form of a field that renders is what it renders to. -/
theorem form_eq
    {field : Field}
    {form : Json}
    (renders : field.value.toJson = .ok form) :
    field.form = form := by
  rw [Field.form, renders]

end Field

namespace Fields

/-- The field of a name that was stored last. -/
def lastNamed?
    (fields : Fields)
    (name : String) :
    Option Field :=
  (fields.entries.filter fun field => field.name == name).getLast?

/-- Store values under keys, one after the other. -/
def storeAll
    (fields : Fields)
    (pairs : List (Key × Value)) :
    Fields :=
  pairs.foldl (fun stored pair => stored.store pair.1 pair.2) fields

/-- The last key of a name is the key of the last field of this name. -/
theorem getLast?_keysNamed
    (fields : Fields)
    (name : String) :
    (fields.keysNamed name).getLast? = (fields.lastNamed? name).map Field.key :=
  List.getLast?_map

/-- The last field of a name is a field of this name. -/
theorem mem_of_lastNamed?_eq_some
    {fields : Fields}
    {name : String}
    {field : Field}
    (isLast : fields.lastNamed? name = some field) :
    field ∈ fields.entries ∧ field.name = name := by
  have member := List.mem_filter.mp (List.mem_of_getLast? isLast)
  exact ⟨member.1, by simpa using member.2⟩

/-- There is a last field of the name of any field. -/
theorem isSome_lastNamed?_of_mem
    {fields : Fields}
    {field : Field}
    (member : field ∈ fields.entries) :
    (fields.lastNamed? field.name).isSome = true := by
  simpa [lastNamed?] using ⟨field, member, rfl⟩

/-- Two fields of one identity are the same field. -/
theorem eq_of_identity_eq
    {fields : Fields}
    {first second : Field}
    (firstMember : first ∈ fields.entries)
    (secondMember : second ∈ fields.entries)
    (same : first.key.identity = second.key.identity) :
    first = second :=
  List.inj_on_of_nodup_map fields.distinct firstMember secondMember same

/-! ## What is stored under a key -/

/-- To store a value shows at the identity of its key only. -/
theorem find?_store
    (fields : Fields)
    (key : Key)
    (value : Value)
    (identity : Nat) :
    (fields.store key value).find? identity =
      if key.identity = identity then some value else fields.find? identity := by
  simp only [find?, store, List.find?_append, List.find?_filter]
  by_cases same : key.identity = identity
  · have absent :
        (fields.entries.find? fun field =>
          decide ((field.key.identity != key.identity) = true ∧
            (field.key.identity == identity) = true)) = none := by
      rw [List.find?_eq_none]
      intro field _
      simp [same]
    rw [absent, if_pos same]
    simp [same]
  · have kept :
        (fun field : Field =>
          decide ((field.key.identity != key.identity) = true ∧
            (field.key.identity == identity) = true)) =
          fun field => field.key.identity == identity := by
      funext field
      by_cases asked : field.key.identity = identity
      · simp [asked, Ne.symm same]
      · simp [asked]
    rw [kept, if_neg same]
    simp [same]

/-- A field is found under the identity of its key. -/
theorem find?_of_mem
    {fields : Fields}
    {field : Field}
    (member : field ∈ fields.entries) :
    fields.find? field.key.identity = some field.value := by
  cases found : fields.entries.find? fun other => other.key.identity == field.key.identity with
  | none =>
      have differs := List.find?_eq_none.mp found field member
      simp at differs
  | some other =>
      have same : other.key.identity = field.key.identity := by
        simpa using List.find?_some found
      have isField := eq_of_identity_eq (List.mem_of_find?_eq_some found) member same
      rw [find?, found, isField]
      rfl

theorem storeAll_append
    (fields : Fields)
    (first second : List (Key × Value)) :
    fields.storeAll (first ++ second) = (fields.storeAll first).storeAll second :=
  List.foldl_append

/-- Under an identity stands the value that was stored last under it. -/
theorem find?_storeAll
    (fields : Fields)
    (pairs : List (Key × Value))
    (identity : Nat) :
    (fields.storeAll pairs).find? identity =
      ((pairs.reverse.find? fun pair => pair.1.identity == identity).map Prod.snd).or
        (fields.find? identity) := by
  induction pairs generalizing fields with
  | nil =>
      simp [storeAll]
  | cons pair rest inductionHypothesis =>
      calc
        (fields.storeAll (pair :: rest)).find? identity
        _ = ((rest.reverse.find? fun later => later.1.identity == identity).map Prod.snd).or
              ((fields.store pair.1 pair.2).find? identity) :=
            inductionHypothesis (fields.store pair.1 pair.2)
        _ = (((pair :: rest).reverse.find? fun later => later.1.identity == identity).map
              Prod.snd).or (fields.find? identity) := by
            by_cases same : pair.1.identity = identity <;>
              simp [find?_store, List.find?_append, same]

/-- Storings under other identities leave the value as it is. -/
theorem find?_storeAll_of_forall_ne
    {fields : Fields}
    {pairs : List (Key × Value)}
    {identity : Nat}
    (others : ∀ pair ∈ pairs, pair.1.identity ≠ identity) :
    (fields.storeAll pairs).find? identity = fields.find? identity := by
  have absent : (pairs.reverse.find? fun pair => pair.1.identity == identity) = none :=
    List.find?_eq_none.mpr (by simpa using others)
  simp [find?_storeAll, absent]

/-- When no key occurs twice, every key has the value that was stored under it. -/
theorem find?_storeAll_of_mem
    {fields : Fields}
    {pairs : List (Key × Value)}
    {key : Key}
    {value : Value}
    (distinct : (pairs.map fun pair => pair.1.identity).Nodup)
    (member : (key, value) ∈ pairs) :
    (fields.storeAll pairs).find? key.identity = some value := by
  cases found : pairs.reverse.find? fun pair => pair.1.identity == key.identity with
  | none =>
      have differs := List.find?_eq_none.mp found (key, value) (List.mem_reverse.mpr member)
      simp at differs
  | some last =>
      have lastMember : last ∈ pairs :=
        List.mem_reverse.mp (List.mem_of_find?_eq_some found)
      have same : last.1.identity = key.identity := by
        simpa using List.find?_some found
      have isPair : last = (key, value) :=
        List.inj_on_of_nodup_map distinct lastMember member same
      simp [find?_storeAll, found, isPair]

/-! ## What there is after storing -/

/-- A field that is there after storings was there before or was stored. -/
theorem mem_entries_storeAll
    {fields : Fields}
    {pairs : List (Key × Value)}
    {field : Field}
    (member : field ∈ (fields.storeAll pairs).entries) :
    field ∈ fields.entries ∨ (field.key, field.value) ∈ pairs := by
  induction pairs generalizing fields with
  | nil =>
      exact .inl member
  | cons pair rest inductionHypothesis =>
      have laterMember : field ∈ ((fields.store pair.1 pair.2).storeAll rest).entries := member
      rcases inductionHypothesis laterMember with stored | inRest
      · rcases List.mem_append.mp stored with kept | isNew
        · exact .inl (List.mem_filter.mp kept).1
        · rw [List.mem_singleton.mp isNew]
          exact .inr List.mem_cons_self
      · exact .inr (List.mem_cons_of_mem _ inRest)

/-- A field stays when nothing is stored under its key. -/
theorem mem_entries_storeAll_of_forall_ne
    {fields : Fields}
    {pairs : List (Key × Value)}
    {field : Field}
    (member : field ∈ fields.entries)
    (others : ∀ pair ∈ pairs, pair.1.identity ≠ field.key.identity) :
    field ∈ (fields.storeAll pairs).entries := by
  induction pairs generalizing fields with
  | nil =>
      exact member
  | cons pair rest inductionHypothesis =>
      obtain ⟨differs, restDiffer⟩ := List.forall_mem_cons.mp others
      have kept : field ∈ (fields.store pair.1 pair.2).entries :=
        List.mem_append.mpr (.inl (List.mem_filter.mpr ⟨member, by simpa using differs.symm⟩))
      exact inductionHypothesis kept restDiffer

/-- Fields are empty after storings when they were and nothing was stored. -/
theorem isEmpty_storeAll
    (fields : Fields)
    (pairs : List (Key × Value)) :
    (fields.storeAll pairs).isEmpty = (fields.isEmpty && pairs.isEmpty) := by
  induction pairs generalizing fields with
  | nil =>
      rw [List.isEmpty_nil, Bool.and_true]
      rfl
  | cons pair rest inductionHypothesis =>
      have stored : (fields.store pair.1 pair.2).isEmpty = false := by
        simp [isEmpty, store]
      have laterStored := inductionHypothesis (fields.store pair.1 pair.2)
      rw [stored, Bool.false_and] at laterStored
      rw [List.isEmpty_cons, Bool.and_false]
      exact laterStored

/-! ## What was stored last under a name -/

/-- A field that was just stored is the last one of its name. -/
theorem lastNamed?_store_self
    (fields : Fields)
    (key : Key)
    (value : Value) :
    (fields.store key value).lastNamed? key.name = some ⟨key, value⟩ := by
  simp [lastNamed?, store, Field.name]

/-- Storing leaves the last field of every other name, when no field of that name has the key. -/
theorem lastNamed?_store_of_apart
    {fields : Fields}
    {key : Key}
    {name : String}
    (differs : key.name ≠ name)
    (apart :
      ∀ other ∈ fields.entries, other.name = name → other.key.identity ≠ key.identity)
    (value : Value) :
    (fields.store key value).lastNamed? name = fields.lastNamed? name := by
  have stored : (key.name == name) = false := by
    simpa using differs
  simp only [lastNamed?, store, List.filter_append, List.filter_filter, Field.name] at apart ⊢
  rw [List.filter_cons, if_neg (by simp [stored]), List.filter_nil, List.append_nil]
  congr 1
  apply List.filter_congr
  intro other otherMember
  by_cases named : other.key.name = name
  · simp [named, apart other otherMember named]
  · simp [named]

/-- A key that is there already moves to the end of its own name only. -/
theorem lastNamed?_store_of_ne
    {fields : Fields}
    {field : Field}
    {name : String}
    (member : field ∈ fields.entries)
    (differs : field.name ≠ name)
    (value : Value) :
    (fields.store field.key value).lastNamed? name = fields.lastNamed? name := by
  refine lastNamed?_store_of_apart differs (fun other otherMember named same => ?_) value
  rw [eq_of_identity_eq otherMember member same] at named
  exact differs named

/-- Storing again under the last keys of some names leaves the last key of every name. -/
theorem key_lastNamed?_storeAll
    {fields : Fields}
    {pairs : List (Key × Value)}
    (last : ∀ pair ∈ pairs, (fields.lastNamed? pair.1.name).map Field.key = some pair.1)
    (name : String) :
    ((fields.storeAll pairs).lastNamed? name).map Field.key =
      (fields.lastNamed? name).map Field.key := by
  induction pairs generalizing fields with
  | nil =>
      rfl
  | cons pair rest inductionHypothesis =>
      obtain ⟨ownLast, restLast⟩ := List.forall_mem_cons.mp last
      have unchanged :
          ∀ name,
            ((fields.store pair.1 pair.2).lastNamed? name).map Field.key =
              (fields.lastNamed? name).map Field.key := by
        intro name
        obtain ⟨field, isLast, ownKey⟩ := Option.map_eq_some_iff.mp ownLast
        by_cases named : pair.1.name = name
        · simp [← named, lastNamed?_store_self, ownLast]
        · rw [← ownKey] at named ⊢
          simp [lastNamed?_store_of_ne (mem_of_lastNamed?_eq_some isLast).1 named]
      calc ((fields.storeAll (pair :: rest)).lastNamed? name).map Field.key
          = ((fields.store pair.1 pair.2).lastNamed? name).map Field.key :=
            inductionHypothesis fun later member => (unchanged _).trans (restLast later member)
        _ = (fields.lastNamed? name).map Field.key := unchanged name

/-- Storing again under the last keys of some names sets the last fields of these names. -/
theorem lastNamed?_storeAll
    {fields : Fields}
    {pairs : List (Key × Value)}
    (last : ∀ pair ∈ pairs, (fields.lastNamed? pair.1.name).map Field.key = some pair.1)
    (distinct : (pairs.map fun pair => pair.1.name).Nodup)
    (name : String) :
    (fields.storeAll pairs).lastNamed? name =
      ((pairs.find? fun pair => pair.1.name == name).map fun pair => ⟨pair.1, pair.2⟩).or
        (fields.lastNamed? name) := by
  induction pairs generalizing fields with
  | nil =>
      rfl
  | cons pair rest inductionHypothesis =>
      obtain ⟨⟨field, isLast, ownKey⟩, restLast⟩ :=
        (List.forall_mem_cons.mp last).imp_left Option.map_eq_some_iff.mp
      obtain ⟨new, restDistinct⟩ := List.nodup_cons.mp distinct
      have member := (mem_of_lastNamed?_eq_some isLast).1
      have unchanged :
          ∀ other, other ≠ pair.1.name →
            (fields.store pair.1 pair.2).lastNamed? other = fields.lastNamed? other := by
        intro other differs
        rw [← ownKey] at differs ⊢
        exact lastNamed?_store_of_ne member (Ne.symm differs) pair.2
      have stillLast :
          ∀ later ∈ rest,
            ((fields.store pair.1 pair.2).lastNamed? later.1.name).map Field.key =
              some later.1 := by
        intro later laterMember
        have differs : later.1.name ≠ pair.1.name := by
          intro same
          exact new (List.mem_map.mpr ⟨later, laterMember, same⟩)
        rw [unchanged _ differs]
        exact restLast later laterMember
      have stored := inductionHypothesis stillLast restDistinct
      rw [show fields.storeAll (pair :: rest) = (fields.store pair.1 pair.2).storeAll rest from rfl,
        stored]
      by_cases named : pair.1.name = name
      · subst named
        have absent : (rest.find? fun later => later.1.name == pair.1.name) = none := by
          rw [List.find?_eq_none]
          intro later laterMember same
          exact new (List.mem_map.mpr ⟨later, laterMember, by simpa using same⟩)
        rw [absent, lastNamed?_store_self, List.find?_cons_of_pos (by simp)]
        rfl
      · rw [unchanged name (Ne.symm named), List.find?_cons_of_neg (by simpa using named)]

/-! ## Fields as members -/

/-- The forms of fields by name; of fields of one name the one stored last stays. -/
def forms (fields : Fields) : Members :=
  Members.ofList (fields.entries.map fun field => (field.name, field.form))

/-- The forms of fields stand in the order of their names. -/
theorem isSorted_forms (fields : Fields) :
    fields.forms.IsSorted :=
  Members.isSorted_ofList _

/-- When all fields render, the fields as members are their forms by name. -/
theorem toMembers_eq_forms
    {fields : Fields}
    (renders : ∀ field ∈ fields.entries, field.value.toJson = .ok field.form) :
    fields.toMembers = .ok fields.forms := by
  have rendered :
      ∀ (members : Members) (entries : List Field),
        (∀ field ∈ entries, field.value.toJson = .ok field.form) →
          toMembersFrom members entries =
            .ok ((entries.map fun field => (field.name, field.form)).foldl
              (fun sorted member => sorted.insert member.1 member.2) members) := by
    intro members entries renders
    induction entries generalizing members with
    | nil =>
        rfl
    | cons field rest inductionHypothesis =>
        obtain ⟨first, others⟩ := List.forall_mem_cons.mp renders
        rw [toMembersFrom, first]
        exact inductionHypothesis _ others
  exact rendered [] fields.entries renders

/-- Under each name stands the form of the field that was stored last. -/
theorem get?_forms
    (fields : Fields)
    (name : String) :
    fields.forms.get? name = (fields.lastNamed? name).map Field.form := by
  rw [forms, Members.get?_ofList, ← List.map_reverse, lastNamed?, List.getLast?_filter,
    Members.get?, List.find?_map, Option.map_map]
  rfl

end Fields

/-! ## Deriving by fields -/

/-- Settings that only store values change nothing but the fields. -/
theorem Template.applyAll_field
    (defaults : Defaults)
    (template : Template)
    (pairs : List (Key × Value)) :
    template.applyAll defaults (pairs.map fun pair => .field pair.1 pair.2) =
      { template with fields := template.fields.storeAll pairs } := by
  induction pairs generalizing template with
  | nil =>
      rfl
  | cons pair rest inductionHypothesis =>
      calc
        template.applyAll defaults ((pair :: rest).map fun pair => .field pair.1 pair.2)
        _ = ((Setting.field pair.1 pair.2).apply defaults template).applyAll defaults
              (rest.map fun pair => .field pair.1 pair.2) := rfl
        _ = { (Setting.field pair.1 pair.2).apply defaults template with
              fields :=
                ((Setting.field pair.1 pair.2).apply defaults template).fields.storeAll rest } :=
            inductionHypothesis _
        _ = { template with fields := template.fields.storeAll (pair :: rest) } := by
            rw [Setting.apply]
            rfl

namespace Definition

/-- The template of a derived definition is that of the first one with the settings applied. -/
theorem template_derive
    (defaults : Defaults)
    (identity : Nat)
    (definition : Definition)
    (settings : List Setting) :
    (definition.derive defaults identity settings).template =
      definition.template.applyAll defaults settings := by
  cases settings with
  | nil =>
      rfl
  | cons setting rest =>
      rfl

/-- Deriving by fields stores them and leaves the rest of the template. -/
theorem template_derive_field
    (defaults : Defaults)
    (identity : Nat)
    (definition : Definition)
    (pairs : List (Key × Value)) :
    (definition.derive defaults identity
        (pairs.map fun pair => .field pair.1 pair.2)).template =
      { definition.template with fields := definition.fields.storeAll pairs } := by
  rw [template_derive, Template.applyAll_field]
  rfl

/-- The root of a definition is a root. -/
theorem isRoot_root (definition : Definition) :
    definition.root.isRoot = true := by
  unfold root isRoot
  cases origin : definition.origin with
  | none =>
      simp [origin]
  | some found =>
      rfl

/-- Roots never chain: a derived definition has the root of the one that it was derived from. -/
theorem root_derive
    (defaults : Defaults)
    (identity : Nat)
    (definition : Definition)
    (settings : List Setting) :
    (definition.derive defaults identity settings).root = definition.root := by
  cases settings with
  | nil =>
      rfl
  | cons setting rest =>
      have noOrigin : definition.root.origin = none :=
        Option.isNone_iff_eq_none.mp definition.isRoot_root
      calc
        (definition.derive defaults identity (setting :: rest)).root =
            ⟨definition.root.identity, definition.root.template, none⟩ := rfl
        _ = definition.root := by rw [← noOrigin]

/-- A derived definition is of the family that it was derived in. -/
theorem sameRoot_derive
    (defaults : Defaults)
    (identity : Nat)
    (definition : Definition)
    (settings : List Setting) :
    (definition.derive defaults identity settings).sameRoot definition = true := by
  rw [sameRoot, rootIdentity, root_derive]
  exact beq_self_eq_true definition.rootIdentity

end Definition

end Fault
