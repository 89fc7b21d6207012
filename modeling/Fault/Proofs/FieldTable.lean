import Fault.Proofs.FieldStore

/-!
# Fields in a table

Fields can be kept in a hash table by the identities of their keys. A table enumerates its entries
in an order of its own, so every entry carries a stamp, the number of the storing that put it there,
and whoever looks at the fields sorts them anew. What is seen this way is always the list of the
fields: whatever order the table enumerates its entries in, the stamps bring them back into the
order in which their keys were stored last. Stamps that are words of a machine do so as long as they
are not used up.
-/

namespace Fault

/-! ## Tables -/

/-- Numbers that storings are counted with. -/
class Stamping (Stamp : Type) where
  first : Stamp
  next : Stamp → Stamp
  toNat : Stamp → Nat
  toNat_first : toNat first = 0

/-- Storings counted without a limit. -/
instance : Stamping Nat where
  first := 0
  next stamp := stamp + 1
  toNat stamp := stamp
  toNat_first := rfl

/-- Storings counted in words, which start again behind the last word. -/
instance : Stamping UInt64 where
  first := 0
  next stamp := stamp + 1
  toNat stamp := stamp.toNat
  toNat_first := rfl

/-- Whether the stamps of a type rise with each one of a number of storings. -/
def Stamping.Lasts
    (Stamp : Type)
    [Stamping Stamp]
    (count : Nat) :
    Prop :=
  ∀ stamp : Stamp, toNat stamp < count → toNat (next stamp) = toNat stamp + 1

/-- A field in a table, with the number of the storing that put it there. -/
structure StampedField (Stamp : Type) where
  field : Field
  stamp : Stamp

/-- The identity that a table finds a field by. -/
def StampedField.identity
    {Stamp : Type}
    (stamped : StampedField Stamp) :
    Nat :=
  stamped.field.key.identity

/-- Fields by the identities of their keys, and the stamp of the last storing. -/
structure FieldTable (Stamp : Type) where
  entries : Std.HashMap Nat (StampedField Stamp)
  latest : Stamp

section

variable
  {Stamp : Type}
  [Stamping Stamp]

namespace FieldTable

/-- The table without fields. -/
def empty : FieldTable Stamp :=
  ⟨∅, Stamping.first⟩

/-- Store a value under a key, with the next stamp. -/
def store
    (table : FieldTable Stamp)
    (key : Key)
    (value : Value) :
    FieldTable Stamp where
  entries := table.entries.insert key.identity ⟨⟨key, value⟩, Stamping.next table.latest⟩
  latest := Stamping.next table.latest

/-- Store values under keys, one after the other. -/
def storeAll
    (table : FieldTable Stamp)
    (pairs : List (Key × Value)) :
    FieldTable Stamp :=
  pairs.foldl (fun stored pair => stored.store pair.1 pair.2) table

/-- The value stored under an identity, whatever its type. -/
def find?
    (table : FieldTable Stamp)
    (identity : Nat) :
    Option Value :=
  table.entries[identity]?.map fun stamped => stamped.field.value

/-- Whether something is stored under a key. -/
def contains
    (table : FieldTable Stamp)
    (key : Key) :
    Bool :=
  table.entries.contains key.identity

/-- The number of fields. -/
def size (table : FieldTable Stamp) : Nat :=
  table.entries.size

/-- Whether a list holds the entries of a table, each once, in any order. -/
def Enumerates
    (table : FieldTable Stamp)
    (enumerated : List (StampedField Stamp)) :
    Prop :=
  enumerated.Perm (table.entries.toList.map Prod.snd)

end FieldTable

namespace StampedField

/-- Whether a field does not carry a later stamp than another one. -/
def notLater (first second : StampedField Stamp) : Bool :=
  Stamping.toNat first.stamp ≤ Stamping.toNat second.stamp

/-- Enumerated fields in the order of their stamps. -/
def inOrder (enumerated : List (StampedField Stamp)) : List Field :=
  (enumerated.mergeSort notLater).map field

/-- The keys of a name among enumerated fields, in the order of their stamps. -/
def keysNamed
    (enumerated : List (StampedField Stamp))
    (name : String) :
    List Key :=
  (inOrder (enumerated.filter fun stamped => stamped.field.name == name)).map Field.key

/-- Enumerated fields by name; fields of one name stay in the order of their stamps. -/
def sorted (enumerated : List (StampedField Stamp)) : List Field :=
  (inOrder enumerated).mergeSort fun first second => first.name ≤ second.name

/-- Enumerated fields as members by name, put in the order of their stamps. -/
def toMembers (enumerated : List (StampedField Stamp)) : Except Json.Failure Members :=
  Fields.toMembersFrom [] (inOrder enumerated)

end StampedField

/-! ## What can be seen of fields -/

/-- All that can be seen of stored fields. -/
structure FieldView where
  find? : Nat → Option Value
  contains : Key → Bool
  size : Nat
  inOrder : List Field
  sorted : List Field
  keysNamed : String → List Key
  toMembers : Except Json.Failure Members

/-- What is seen of fields that are kept as a list. -/
def Fields.fieldView (fields : Fields) : FieldView where
  find? := fields.find?
  contains := fields.contains
  size := fields.size
  inOrder := fields.entries
  sorted := fields.sorted
  keysNamed := fields.keysNamed
  toMembers := fields.toMembers

/-- What is seen of fields that are kept in a table, when it enumerates its entries in an order. -/
def FieldTable.fieldView
    (table : FieldTable Stamp)
    (enumerated : List (StampedField Stamp)) :
    FieldView where
  find? := table.find?
  contains := table.contains
  size := table.size
  inOrder := StampedField.inOrder enumerated
  sorted := StampedField.sorted enumerated
  keysNamed := StampedField.keysNamed enumerated
  toMembers := StampedField.toMembers enumerated

/-! ## Stamps recover the order -/

/-- Whether a table keeps certain fields: they stand in the order of their stamps, no stamp is
later than the last one, and every field is found under its identity. -/
structure FieldTable.Keeps
    (table : FieldTable Stamp)
    (fields : Fields)
    (stamped : List (StampedField Stamp)) :
    Prop where
  entries : stamped.map StampedField.field = fields.entries
  increasing : (stamped.map fun entry => Stamping.toNat entry.stamp).Pairwise (· < ·)
  bounded : ∀ entry ∈ stamped, Stamping.toNat entry.stamp ≤ Stamping.toNat table.latest
  found_iff :
    ∀ identity entry,
      table.entries[identity]? = some entry ↔ entry ∈ stamped ∧ entry.identity = identity

namespace StampedField

theorem notLater_trans
    (first second third : StampedField Stamp)
    (firstNotLater : notLater first second = true)
    (secondNotLater : notLater second third = true) :
    notLater first third = true := by
  simp only [notLater, decide_eq_true_eq] at firstNotLater secondNotLater ⊢
  exact Nat.le_trans firstNotLater secondNotLater

theorem notLater_total (first second : StampedField Stamp) :
    (notLater first second || notLater second first) = true := by
  simpa [notLater] using Nat.le_total _ _

/-- Stamps that increase are restored by sorting, however the fields were shuffled. -/
theorem inOrder_of_perm
    {enumerated stamped : List (StampedField Stamp)}
    (shuffled : enumerated.Perm stamped)
    (increasing : (stamped.map fun entry => Stamping.toNat entry.stamp).Pairwise (· < ·)) :
    inOrder enumerated = stamped.map field := by
  have sortedPerm : (enumerated.mergeSort notLater).Perm stamped :=
    (List.mergeSort_perm _ _).trans shuffled
  have inOrder :
      (enumerated.mergeSort notLater).Pairwise fun first second => notLater first second = true :=
    List.pairwise_mergeSort notLater_trans notLater_total enumerated
  have rising :
      stamped.Pairwise fun first second => notLater first second = true :=
    (List.pairwise_map.mp increasing).imp fun earlier => decide_eq_true (Nat.le_of_lt earlier)
  have noTies :
      ∀ first second : StampedField Stamp,
        first ∈ stamped →
          second ∈ stamped →
          Stamping.toNat first.stamp = Stamping.toNat second.stamp →
          first = second := by
    intro first second firstMember secondMember same
    exact List.inj_on_of_nodup_map (increasing.imp Nat.ne_of_lt) firstMember secondMember same
  have restored : enumerated.mergeSort notLater = stamped := by
    refine List.Perm.eq_of_pairwise ?_ inOrder rising sortedPerm
    intro first second firstMember secondMember firstNotLater secondNotLater
    exact noTies first second (sortedPerm.mem_iff.mp firstMember) secondMember
      (Nat.le_antisymm (of_decide_eq_true firstNotLater) (of_decide_eq_true secondNotLater))
  exact congrArg (List.map field) restored

end StampedField

namespace FieldTable

theorem keeps_empty : (empty : FieldTable Stamp).Keeps .empty [] where
  entries := rfl
  increasing := .nil
  bounded _ member := nomatch member
  found_iff identity entry := by
    simp [empty]

namespace Keeps

variable
  {table : FieldTable Stamp}
  {fields : Fields}
  {stamped : List (StampedField Stamp)}

/-- Storing takes the entry of the key out of its place and puts a new one behind all others. -/
theorem store
    (keeps : table.Keeps fields stamped)
    (rises : Stamping.toNat table.latest < Stamping.toNat (Stamping.next table.latest))
    (key : Key)
    (value : Value) :
    (table.store key value).Keeps (fields.store key value)
      (stamped.filter (fun entry => entry.identity != key.identity) ++
        [⟨⟨key, value⟩, Stamping.next table.latest⟩]) where
  entries := by
    simp [Fields.store, ← keeps.entries, List.filter_map, Function.comp_def,
      StampedField.identity]
  increasing := by
    refine List.pairwise_map.mpr (List.pairwise_append.mpr
      ⟨(List.pairwise_map.mp keeps.increasing).filter _, List.pairwise_singleton _ _, ?_⟩)
    intro entry member added isAdded
    rw [List.mem_singleton.mp isAdded]
    exact Nat.lt_of_le_of_lt (keeps.bounded entry (List.mem_of_mem_filter member)) rises
  bounded := by
    intro entry member
    rcases List.mem_append.mp member with kept | isAdded
    · exact Nat.le_trans (keeps.bounded entry (List.mem_of_mem_filter kept)) (Nat.le_of_lt rises)
    · rw [List.mem_singleton.mp isAdded]
      exact Nat.le_refl _
  found_iff identity entry := by
    have found :
        (table.store key value).entries[identity]? =
          if key.identity = identity then some ⟨⟨key, value⟩, Stamping.next table.latest⟩
          else table.entries[identity]? := by
      simp [FieldTable.store, Std.HashMap.getElem?_insert]
    by_cases same : key.identity = identity
    · subst same
      simp only [found, if_pos, Option.some.injEq, List.mem_append, List.mem_filter,
        List.mem_singleton]
      constructor
      · intro isAdded
        exact ⟨.inr isAdded.symm, by simp [← isAdded, StampedField.identity]⟩
      · rintro ⟨⟨_, differs⟩ | isAdded, named⟩
        · simp [named] at differs
        · exact isAdded.symm
    · simp only [found, if_neg same, keeps.found_iff, List.mem_append, List.mem_filter,
        List.mem_singleton]
      constructor
      · rintro ⟨member, rfl⟩
        exact ⟨.inl ⟨member, by simpa using Ne.symm same⟩, rfl⟩
      · rintro ⟨⟨member, _⟩ | isAdded, named⟩
        · exact ⟨member, named⟩
        · simp [isAdded, StampedField.identity, same] at named

/-- Stamps that last for the storings to come keep the order through all of them. -/
theorem exists_storeAll
    (keeps : table.Keeps fields stamped)
    {count : Nat}
    (lasts : Stamping.Lasts Stamp count)
    (pairs : List (Key × Value))
    (enough : Stamping.toNat table.latest + pairs.length ≤ count) :
    ∃ later, (table.storeAll pairs).Keeps (fields.storeAll pairs) later := by
  induction pairs generalizing table fields stamped with
  | nil =>
      exact ⟨stamped, keeps⟩
  | cons pair rest inductionHypothesis =>
      rw [List.length_cons] at enough
      have risen := lasts table.latest (by omega)
      refine inductionHypothesis (keeps.store (by omega) pair.1 pair.2) ?_
      change Stamping.toNat (Stamping.next table.latest) + rest.length ≤ count
      omega

/-- The entries of a table have different identities, as its fields have. -/
theorem distinct (keeps : table.Keeps fields stamped) :
    (stamped.map StampedField.identity).Nodup := by
  have ofFields := fields.distinct
  rw [← keeps.entries, List.map_map] at ofFields
  exact ofFields

/-- What a table enumerates is what it keeps, in some order. -/
theorem perm
    (keeps : table.Keeps fields stamped)
    {enumerated : List (StampedField Stamp)}
    (enumerates : table.Enumerates enumerated) :
    enumerated.Perm stamped := by
  have ownIdentity :
      ∀ entry ∈ table.entries.toList, entry.2.identity = entry.1 := by
    intro entry member
    have found := Std.HashMap.mem_toList_iff_getElem?_eq_some.mp member
    exact ((keeps.found_iff _ _).mp found).2
  have enumeratedDistinct : (table.entries.toList.map Prod.snd).Nodup := by
    apply List.Nodup.of_map StampedField.identity
    have identities :
        (table.entries.toList.map Prod.snd).map StampedField.identity =
          table.entries.toList.map Prod.fst := by
      rw [List.map_map]
      exact List.map_congr_left ownIdentity
    have distinct := Std.HashMap.distinct_keys_toList (m := table.entries)
    rw [identities, List.nodup_iff_pairwise_ne, List.pairwise_map]
    simpa using distinct
  have sameMembers :
      ∀ entry, entry ∈ table.entries.toList.map Prod.snd ↔ entry ∈ stamped := by
    intro entry
    constructor
    · intro member
      obtain ⟨⟨identity, _⟩, found, rfl⟩ := List.mem_map.mp member
      exact ((keeps.found_iff _ _).mp (Std.HashMap.mem_toList_iff_getElem?_eq_some.mp found)).1
    · intro member
      have found := (keeps.found_iff entry.identity entry).mpr ⟨member, rfl⟩
      exact List.mem_map.mpr
        ⟨(entry.identity, entry), Std.HashMap.mem_toList_iff_getElem?_eq_some.mpr found, rfl⟩
  have distinct : stamped.Nodup := keeps.distinct.of_map
  exact enumerates.trans
    ((List.perm_ext_iff_of_nodup enumeratedDistinct distinct).mpr sameMembers)

/-- A value is found in a table when it is found among its fields. -/
theorem find?_eq
    (keeps : table.Keeps fields stamped)
    (identity : Nat) :
    table.find? identity = fields.find? identity := by
  have member_iff :
      ∀ field, field ∈ fields.entries ↔ ∃ entry ∈ stamped, entry.field = field := by
    simp [← keeps.entries]
  cases found : table.entries[identity]? with
  | none =>
      have absent : ∀ field ∈ fields.entries, ¬field.key.identity = identity := by
        intro field member same
        obtain ⟨entry, kept, rfl⟩ := (member_iff field).mp member
        have isFound := (keeps.found_iff identity entry).mpr ⟨kept, same⟩
        simp [found] at isFound
      have notFound :
          (fields.entries.find? fun field => field.key.identity == identity) = none :=
        List.find?_eq_none.mpr (by simpa using absent)
      simp [FieldTable.find?, Fields.find?, found, notFound]
  | some entry =>
      obtain ⟨member, rfl⟩ := (keeps.found_iff identity entry).mp found
      calc
        table.find? entry.identity
        _ = some entry.field.value := by
            simp [FieldTable.find?, found]
        _ = fields.find? entry.identity :=
            (Fields.find?_of_mem ((member_iff entry.field).mpr ⟨entry, member, rfl⟩)).symm

/-- Whatever order a table enumerates its entries in, all that is seen of it is seen of the list of
its fields. -/
theorem fieldView_eq
    (keeps : table.Keeps fields stamped)
    {enumerated : List (StampedField Stamp)}
    (enumerates : table.Enumerates enumerated) :
    table.fieldView enumerated = fields.fieldView := by
  have shuffled := keeps.perm enumerates
  have inOrder : StampedField.inOrder enumerated = fields.entries :=
    (StampedField.inOrder_of_perm shuffled keeps.increasing).trans keeps.entries
  have find? : table.find? = fields.find? :=
    funext keeps.find?_eq
  have contains : table.contains = fields.contains := by
    funext key
    simp [FieldTable.contains, Fields.contains, ← keeps.find?_eq, FieldTable.find?]
  have size : table.size = fields.size := by
    calc
      table.size = enumerated.length := by
        simp [FieldTable.size, enumerates.length_eq]
      _ = stamped.length := shuffled.length_eq
      _ = fields.size := by
        simp [Fields.size, ← keeps.entries]
  have keysNamed : StampedField.keysNamed enumerated = fields.keysNamed := by
    funext name
    have named :=
      StampedField.inOrder_of_perm
        (shuffled.filter fun entry => entry.field.name == name)
        (List.pairwise_map.mpr
          ((List.pairwise_map.mp keeps.increasing).filter fun entry => entry.field.name == name))
    simp [StampedField.keysNamed, Fields.keysNamed, named, ← keeps.entries, List.filter_map,
      Function.comp_def]
  simp [FieldTable.fieldView, Fields.fieldView, StampedField.sorted, StampedField.toMembers,
    Fields.sorted, Fields.toMembers, inOrder, find?, contains, size, keysNamed]

end Keeps

end FieldTable

end

/-! ## What storings leave behind -/

namespace Fields

/-- The fields that storings leave behind: the last one for each key, in the order of these. -/
def lastStored : List (Key × Value) → List Field
  | [] => []
  | (key, value) :: rest =>
      if rest.any fun later => later.1.identity == key.identity then
        lastStored rest
      else
        ⟨key, value⟩ :: lastStored rest

/-- Storings leave the fields that they do not replace, and behind them the last one for each key.
-/
theorem entries_storeAll
    (fields : Fields)
    (pairs : List (Key × Value)) :
    (fields.storeAll pairs).entries =
      (fields.entries.filter fun field =>
        !pairs.any fun pair => pair.1.identity == field.key.identity) ++ lastStored pairs := by
  induction pairs generalizing fields with
  | nil =>
      simp [storeAll, lastStored]
  | cons pair rest inductionHypothesis =>
      obtain ⟨key, value⟩ := pair
      have outsideBoth :
          (fields.entries.filter fun field =>
            !((key, value) :: rest).any fun later => later.1.identity == field.key.identity) =
            (fields.entries.filter fun field => field.key.identity != key.identity).filter
              fun field => !rest.any fun later => later.1.identity == field.key.identity := by
        rw [List.filter_filter]
        apply List.filter_congr
        intro field _
        simp [Bool.and_comm, bne, Bool.beq_comm]
      calc
        (fields.storeAll ((key, value) :: rest)).entries
        _ = ((fields.store key value).entries.filter fun field =>
              !rest.any fun later => later.1.identity == field.key.identity) ++
              lastStored rest :=
            inductionHypothesis (fields.store key value)
        _ = (fields.entries.filter fun field =>
              !((key, value) :: rest).any fun later => later.1.identity == field.key.identity) ++
              lastStored ((key, value) :: rest) := by
            rw [outsideBoth]
            cases again : rest.any fun later => later.1.identity == key.identity <;>
              simp [store, lastStored, again]

/-- A value is found under an identity when there is a field of it. -/
theorem isSome_find?_iff
    {fields : Fields}
    {identity : Nat} :
    (fields.find? identity).isSome = true ↔
      ∃ field ∈ fields.entries, field.key.identity = identity := by
  simp [find?, List.find?_isSome]

/-- A value is found under an identity when something was stored under it. -/
theorem isSome_find?_storeAll_iff
    {pairs : List (Key × Value)}
    {identity : Nat} :
    ((empty.storeAll pairs).find? identity).isSome = true ↔
      ∃ pair ∈ pairs, pair.1.identity = identity := by
  have nothing : empty.find? identity = none :=
    rfl
  simp [find?_storeAll, nothing, List.find?_isSome]

/-- There are as many fields as there are keys that something was stored under. -/
theorem size_storeAll (pairs : List (Key × Value)) :
    (empty.storeAll pairs).size = (pairs.map fun pair => pair.1.identity).toFinset.card := by
  have sameIdentities :
      ((empty.storeAll pairs).entries.map fun field => field.key.identity).toFinset =
        (pairs.map fun pair => pair.1.identity).toFinset := by
    ext identity
    have stored :
        (∃ field ∈ (empty.storeAll pairs).entries, field.key.identity = identity) ↔
          ∃ pair ∈ pairs, pair.1.identity = identity :=
      isSome_find?_iff.symm.trans isSome_find?_storeAll_iff
    simpa using stored
  calc
    (empty.storeAll pairs).size
    _ = ((empty.storeAll pairs).entries.map fun field => field.key.identity).length := by
        simp [size]
    _ = ((empty.storeAll pairs).entries.map fun field => field.key.identity).toFinset.card :=
        (List.toFinset_card_of_nodup (empty.storeAll pairs).distinct).symm
    _ = (pairs.map fun pair => pair.1.identity).toFinset.card := by
        rw [sameIdentities]

/-! ## Sorting by name -/

/-- Whether a list is another one in the order of names, with fields of one name in the order in
which they stood. -/
structure IsSortOf
    (sorted entries : List Field) :
    Prop where
  perm : sorted.Perm entries
  ordered : sorted.Pairwise fun first second => first.name ≤ second.name
  stable :
    ∀ name,
      (sorted.filter fun field => field.name == name) =
        entries.filter fun field => field.name == name

/-- Whether the name of a field is not after that of another one. -/
def notAfter (first second : Field) : Bool :=
  first.name ≤ second.name

theorem notAfter_trans
    (first second third : Field)
    (firstNotAfter : notAfter first second = true)
    (secondNotAfter : notAfter second third = true) :
    notAfter first third = true := by
  simp only [notAfter, decide_eq_true_eq] at firstNotAfter secondNotAfter ⊢
  exact le_trans firstNotAfter secondNotAfter

theorem notAfter_total (first second : Field) :
    (notAfter first second || notAfter second first) = true := by
  simpa [notAfter] using le_total first.name second.name

/-- Sorting by name leaves fields of one name in the order in which they were stored. -/
theorem sorted_isSortOf (fields : Fields) :
    IsSortOf fields.sorted fields.entries where
  perm := List.mergeSort_perm _ _
  ordered := by
    have ordered : fields.sorted.Pairwise fun first second => notAfter first second = true :=
      List.pairwise_mergeSort notAfter_trans notAfter_total fields.entries
    simpa [notAfter] using ordered
  stable name := by
    have perm : fields.sorted.Perm fields.entries :=
      List.mergeSort_perm _ _
    -- Fields of one name are in order as they stand, so sorting leaves them as they stand.
    have alike :
        (fields.entries.filter fun field => field.name == name).Pairwise
          fun first second => notAfter first second = true := by
      apply List.pairwise_of_forall_mem_list
      intro first member second otherMember
      have named : first.name = name := by
        simpa using (List.mem_filter.mp member).2
      have otherNamed : second.name = name := by
        simpa using (List.mem_filter.mp otherMember).2
      simp [notAfter, named, otherNamed]
    have kept :
        (fields.entries.filter fun field => field.name == name).Sublist fields.sorted :=
      List.sublist_mergeSort notAfter_trans notAfter_total alike List.filter_sublist
    have among :
        (fields.entries.filter fun field => field.name == name).Sublist
          (fields.sorted.filter fun field => field.name == name) := by
      simpa [List.filter_filter] using kept.filter fun field => field.name == name
    exact (among.eq_of_length (perm.filter _).length_eq.symm).symm

/-! ## Rendering -/

/-- Members are rendered field by field, and the first failure ends it. -/
theorem toMembersFrom_cons
    (members : Members)
    (first : Field)
    (rest : List Field) :
    toMembersFrom members (first :: rest) =
      match first.value.toJson with
      | .ok form => toMembersFrom (members.insert first.name form) rest
      | .error failure => .error failure := by
  cases rendered : first.value.toJson <;>
    simp [toMembersFrom, rendered, bind, Except.bind]

/-- Why a field has no form, when it has none. -/
def failure? (field : Field) : Option Json.Failure :=
  match field.value.toJson with
  | .ok _ => none
  | .error failure => some failure

/-- Members fail at the first field that has no form. -/
theorem toMembersFrom_eq_error_iff
    {members : Members}
    {entries : List Field}
    {failure : Json.Failure} :
    toMembersFrom members entries = .error failure ↔
      entries.findSome? failure? = some failure := by
  induction entries generalizing members with
  | nil =>
      simp [toMembersFrom]
  | cons first rest inductionHypothesis =>
      cases rendered : first.value.toJson with
      | error own =>
          simp [toMembersFrom_cons, failure?, rendered]
      | ok form =>
          simp [toMembersFrom_cons, failure?, rendered, inductionHypothesis]

/-- When members are rendered, every field is. -/
theorem renders_of_toMembersFrom_eq_ok
    {members result : Members}
    {entries : List Field}
    (rendered : toMembersFrom members entries = .ok result) :
    ∀ field ∈ entries, ∃ form, field.value.toJson = .ok form := by
  induction entries generalizing members with
  | nil =>
      simp
  | cons first rest inductionHypothesis =>
      cases own : first.value.toJson with
      | error failure =>
          simp [toMembersFrom_cons, own] at rendered
      | ok form =>
          simp only [toMembersFrom_cons, own] at rendered
          exact List.forall_mem_cons.mpr ⟨⟨form, own⟩, inductionHypothesis rendered⟩

/-- Fields that render to members render one by one, and the members are their forms. -/
theorem forms_eq_of_toMembers
    {fields : Fields}
    {members : Members}
    (rendered : fields.toMembers = .ok members) :
    (∀ field ∈ fields.entries, field.value.toJson = .ok field.form) ∧ fields.forms = members := by
  have renders : ∀ field ∈ fields.entries, field.value.toJson = .ok field.form := by
    intro field member
    obtain ⟨form, renders⟩ := renders_of_toMembersFrom_eq_ok rendered field member
    rw [renders, Field.form_eq renders]
  exact ⟨renders, Except.ok.inj ((toMembers_eq_forms renders).symm.trans rendered)⟩

/-- When all fields have forms, the members stand in the order of their names, and under each name
stands the form of the last field of this name. -/
theorem exists_toMembers_of_renders
    {fields : Fields}
    (renders : ∀ field ∈ fields.entries, ∃ form, field.value.toJson = .ok form) :
    ∃ members : Members,
      fields.toMembers = .ok members ∧
        members.IsSorted ∧
        ∀ name,
          members.get? name =
            (fields.lastNamed? name).bind fun field => field.value.toJson.toOption := by
  have ownForm : ∀ field ∈ fields.entries, field.value.toJson = .ok field.form := by
    intro field member
    obtain ⟨form, rendered⟩ := renders field member
    rw [rendered, Field.form_eq rendered]
  refine ⟨fields.forms, toMembers_eq_forms ownForm, fields.isSorted_forms, ?_⟩
  intro name
  cases isLast : fields.lastNamed? name with
  | none =>
      simp [get?_forms, isLast]
  | some field =>
      have rendered := ownForm field (mem_of_lastNamed?_eq_some isLast).1
      simp [get?_forms, isLast, rendered, Except.toOption]

/-- Fields have members exactly when all of them have forms, also those whose names are taken by
later ones. -/
theorem toMembers_eq_ok_iff
    {fields : Fields}
    {members : Members} :
    fields.toMembers = .ok members ↔
      (∀ field ∈ fields.entries, ∃ form, field.value.toJson = .ok form) ∧
        members.IsSorted ∧
        ∀ name,
          members.get? name =
            (fields.lastNamed? name).bind fun field => field.value.toJson.toOption := by
  constructor
  · intro rendered
    have renders := renders_of_toMembersFrom_eq_ok rendered
    obtain ⟨sorted, isSorted, inOrder, found⟩ := exists_toMembers_of_renders renders
    cases isSorted.symm.trans rendered
    exact ⟨renders, inOrder, found⟩
  · intro ⟨renders, inOrder, found⟩
    obtain ⟨sorted, isSorted, alsoInOrder, alsoFound⟩ := exists_toMembers_of_renders renders
    have same : sorted = members :=
      alsoInOrder.eq_of_get?_eq inOrder fun name => (alsoFound name).trans (found name).symm
    exact same ▸ isSorted

/-! ## Fields as a list by key -/

/-- Put a value into a list by key: a field of the key is removed, and the new one appended. -/
def putLast
    (entries : List Field)
    (pair : Key × Value) :
    List Field :=
  entries.filter (fun field => field.key.identity != pair.1.identity) ++ [⟨pair.1, pair.2⟩]

/-- To store is to take the field of the key out of the list and to append the new one. -/
theorem entries_storeAll_eq_foldl
    (fields : Fields)
    (pairs : List (Key × Value)) :
    (fields.storeAll pairs).entries = pairs.foldl putLast fields.entries :=
  (List.foldl_hom entries fun _ _ => rfl).symm

end Fields

/-- Whether what is seen of fields is what storings one after the other leave behind in a list by
key. -/
structure FieldView.Shows
    (view : FieldView)
    (pairs : List (Key × Value)) :
    Prop where
  inOrder : view.inOrder = pairs.foldl Fields.putLast []
  /-- Fields stand in the order of the last storings of their keys. -/
  lastStored : view.inOrder = Fields.lastStored pairs
  find? :
    ∀ identity,
      view.find? identity =
        (pairs.reverse.find? fun pair => pair.1.identity == identity).map Prod.snd
  contains :
    ∀ key, view.contains key = true ↔ ∃ pair ∈ pairs, pair.1.identity = key.identity
  size : view.size = (pairs.map fun pair => pair.1.identity).toFinset.card
  sorted : Fields.IsSortOf view.sorted view.inOrder
  keysNamed :
    ∀ name,
      view.keysNamed name =
        (view.inOrder.filter fun field => field.name == name).map Field.key
  toMembers_error :
    ∀ failure,
      view.toMembers = .error failure ↔
        view.inOrder.findSome? Fields.failure? = some failure
  toMembers_ok :
    ∀ members,
      view.toMembers = .ok members ↔
        (∀ field ∈ view.inOrder, ∃ form, field.value.toJson = .ok form) ∧
          members.IsSorted ∧
          ∀ name,
            members.get? name =
              (view.inOrder.filter fun field => field.name == name).getLast?.bind
                fun field => field.value.toJson.toOption

/-- Stored fields show what the storings leave behind. -/
theorem Fields.fieldView_shows (pairs : List (Key × Value)) :
    (empty.storeAll pairs).fieldView.Shows pairs where
  inOrder := entries_storeAll_eq_foldl empty pairs
  lastStored := entries_storeAll empty pairs
  find? identity := by
    simpa [fieldView, empty, find?] using find?_storeAll empty pairs identity
  contains _ := isSome_find?_storeAll_iff
  size := size_storeAll pairs
  sorted := sorted_isSortOf (empty.storeAll pairs)
  keysNamed _ := rfl
  toMembers_error _ := toMembersFrom_eq_error_iff
  toMembers_ok _ := toMembers_eq_ok_iff

namespace FieldTable

/-- Whether a table with stamps of a type shows what storings leave behind in a list by key,
whatever order it enumerates its entries in. -/
def ShowsStored
    (Stamp : Type)
    [Stamping Stamp]
    (pairs : List (Key × Value)) :
    Prop :=
  ∀ enumerated : List (StampedField Stamp),
    (empty.storeAll pairs).Enumerates enumerated →
      (empty.storeAll pairs).fieldView enumerated = (Fields.empty.storeAll pairs).fieldView ∧
        ((empty.storeAll pairs).fieldView enumerated).Shows pairs

/-- Stamps that last for all storings show what these leave behind. -/
theorem showsStored_of_lasts
    {Stamp : Type}
    [Stamping Stamp]
    {pairs : List (Key × Value)}
    (lasts : Stamping.Lasts Stamp pairs.length) :
    ShowsStored Stamp pairs := by
  intro enumerated enumerates
  have enough : Stamping.toNat (empty : FieldTable Stamp).latest + pairs.length ≤ pairs.length := by
    rw [empty, Stamping.toNat_first, Nat.zero_add]
  obtain ⟨stamped, keeps⟩ := keeps_empty.exists_storeAll lasts pairs enough
  have same := keeps.fieldView_eq enumerates
  exact ⟨same, same ▸ Fields.fieldView_shows pairs⟩

theorem lasts_nat (count : Nat) : Stamping.Lasts Nat count :=
  fun _ _ => rfl

/-- Words last for as many storings as there are words behind the first one. -/
theorem lasts_uint64
    {count : Nat}
    (fits : count < UInt64.size) :
    Stamping.Lasts UInt64 count := by
  intro stamp earlier
  have small : stamp.toNat < count := earlier
  change (stamp + 1).toNat = stamp.toNat + 1
  rw [UInt64.toNat_add, UInt64.toNat_one]
  exact Nat.mod_eq_of_lt (by unfold UInt64.size at fits; omega)

/-- Whatever is stored under keys, and whatever order a table enumerates its entries in, what is
seen of the table is what is seen of the fields, and it is what the storings leave behind in a list
by key: for storings that are counted without a limit, and for those that are counted in words, as
long as there are fewer of them than words. -/
theorem fieldView_storeAll (pairs : List (Key × Value)) :
    ShowsStored Nat pairs ∧ (pairs.length < UInt64.size → ShowsStored UInt64 pairs) := by
  constructor
  · exact showsStored_of_lasts (lasts_nat pairs.length)
  · intro fits
    exact showsStored_of_lasts (lasts_uint64 fits)

/-- Three storings under two keys of one name, counted in words and enumerated from the last slot of
the table to the first: the key that was stored under again is the last one of its name. -/
theorem fieldView_storeAll_two_keys :
    let first : Key := .made 0 "n" .boolean
    let second : Key := .made 1 "n" .text
    let pairs := [(first, .boolean true), (second, .text "x"), (first, .boolean false)]
    let table : FieldTable UInt64 := empty.storeAll pairs
    let view := table.fieldView (table.entries.toList.map Prod.snd).reverse
    pairs.length < UInt64.size ∧
      view.inOrder = [⟨second, .text "x"⟩, ⟨first, .boolean false⟩] ∧
      view.keysNamed "n" = [second, first] ∧
      view.find? first.identity = some (.boolean false) ∧
      view.size = 2 := by
  intro first second pairs table view
  have fits : pairs.length < UInt64.size := by
    decide
  have enumerates : table.Enumerates (table.entries.toList.map Prod.snd).reverse :=
    List.reverse_perm _
  obtain ⟨same, shows⟩ := (fieldView_storeAll pairs).2 fits _ enumerates
  have keysNamed : view.keysNamed "n" = [second, first] :=
    congrFun (congrArg FieldView.keysNamed same) "n"
  exact ⟨fits, shows.inOrder, keysNamed, shows.find? _, shows.size⟩

end FieldTable

end Fault
