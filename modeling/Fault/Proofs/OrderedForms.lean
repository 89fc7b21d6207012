import Fault.Log.Value
import Fault.Proofs.DraftReading
import Fault.Proofs.FieldTable

/-!
# Forms in order

The members of every object stand in the order of their names, however deep the object lies. A form
of this kind is not changed by its way through a log value: all its scalars have a log value of
their own, and to put members in order again leaves them where they are.
-/

namespace Fault

namespace Members

/-- Members in order are those that are put into this order. -/
theorem IsSorted.ofList_eq_self
    {members : Members}
    (sorted : members.IsSorted) :
    ofList members = members :=
  (isSorted_ofList members).eq_of_get?_eq sorted (get?_ofList_of_nodup sorted.nodup)

/-- A member of sorted members is one of those that were inserted. -/
theorem mem_of_mem_ofList
    {members : List (String × Json)}
    {member : String × Json}
    (present : member ∈ ofList members) :
    member ∈ members := by
  induction members using List.reverseRecOn with
  | nil =>
      cases present
  | append_singleton front last inductionHypothesis =>
      rw [ofList_concat] at present
      rcases eq_or_mem_of_mem_insert present with isLast | inFront
      · exact isLast ▸ List.mem_append_right front (List.mem_singleton_self last)
      · exact List.mem_append_left _ (inductionHypothesis inFront)

end Members

namespace Json

/-- Whether the members of a form and of all forms within stand in the order of their names. -/
inductive IsOrdered : Json → Prop where
  | null : IsOrdered .null
  | boolean (value : Bool) : IsOrdered (.boolean value)
  | number (value : JsonNumber) : IsOrdered (.number value)
  | text (value : String) : IsOrdered (.text value)
  | array
      {items : List Json} :
      (∀ item ∈ items, IsOrdered item) →
      IsOrdered (.array items)
  | object
      {members : Members} :
      members.IsSorted →
      (∀ member ∈ members, IsOrdered member.2) →
      IsOrdered (.object members)

/-- Members that are inserted into an object stand in order when their forms do. -/
theorem isOrdered_ofMembers
    {members : List (String × Json)}
    (ordered : ∀ member ∈ members, member.2.IsOrdered) :
    (ofMembers members).IsOrdered :=
  .object (Members.isSorted_ofList members) fun member present =>
    ordered member (Members.mem_of_mem_ofList present)

/-- An integer becomes a number, or null when it does not fit. -/
theorem getD_ofInt?_cases (value : Int) :
    (ofInt? value).getD .null = .null ∨ ∃ number, (ofInt? value).getD .null = .number number := by
  cases fits : JsonInteger.ofInt? value with
  | none =>
      exact .inl (by simp [ofInt?, fits])
  | some integer =>
      exact .inr ⟨.integer integer, by simp [ofInt?, fits]⟩

/-- An integer is written in order, as it holds no objects. -/
theorem isOrdered_getD_ofInt? (value : Int) :
    ((ofInt? value).getD .null).IsOrdered := by
  rcases getD_ofInt?_cases value with isNull | ⟨number, isNumber⟩
  · simpa only [isNull] using .null
  · simpa only [isNumber] using .number number

/-- A natural number is written in order. -/
theorem isOrdered_ofNat (value : Nat) :
    (ofNat value).IsOrdered :=
  isOrdered_getD_ofInt? value

end Json

namespace LogValue

/-! ## Through a log value -/

theorem ofItems_eq_map (items : List Json) :
    ofItems items = items.map ofJson := by
  induction items with
  | nil =>
      simp [ofItems]
  | cons item rest inductionHypothesis =>
      simp [ofItems, inductionHypothesis]

theorem ofMembers_eq_map (members : List (String × Json)) :
    ofMembers members = members.map fun member => (member.1, ofJson member.2) := by
  induction members with
  | nil =>
      simp [ofMembers]
  | cons member rest inductionHypothesis =>
      simp [ofMembers, inductionHypothesis]

theorem toItems_eq_map (items : List LogValue) :
    toItems items = items.map toJson := by
  induction items with
  | nil =>
      simp [toItems]
  | cons item rest inductionHypothesis =>
      simp [toItems, inductionHypothesis]

theorem toMembers_eq_map (attributes : List (String × LogValue)) :
    toMembers attributes = attributes.map fun pair => (pair.1, pair.2.toJson) := by
  induction attributes with
  | nil =>
      simp [toMembers]
  | cons pair rest inductionHypothesis =>
      simp [toMembers, inductionHypothesis]

/-- An integer goes through a log value unchanged. -/
theorem toJson_ofInteger (integer : JsonInteger) :
    (ofInteger integer).toJson = .number (.integer integer) := by
  have own : Json.ofInt? integer.value = some (.number (.integer integer)) := by
    simp [Json.ofInt?, JsonInteger.ofInt?, integer.lower, integer.upper]
  have lower := integer.lower
  have upper := integer.upper
  simp only [ofInteger]
  split
  · next small =>
      have same : (Int64.ofInt integer.value).toInt = integer.value :=
        Int64.toInt_ofInt_of_le (by omega) (by omega)
      simp [toJson, intJson, same, own]
  · next large =>
      have same : ((UInt64.ofNat integer.value.toNat).toNat : Int) = integer.value := by
        rw [UInt64.toNat_ofNat_of_lt' (by simp [UInt64.size]; omega)]
        omega
      simp only [toJson, uintJson, Json.ofNat, same, own, Option.getD_some]

/-- A form in order is the form of its log value. -/
theorem toJson_ofJson
    {form : Json}
    (ordered : form.IsOrdered) :
    (ofJson form).toJson = form := by
  induction ordered with
  | null =>
      simp [ofJson, toJson]
  | boolean value =>
      simp [ofJson, toJson]
  | number value =>
      cases value with
      | integer integer =>
          simpa [ofJson] using toJson_ofInteger integer
      | double value =>
          simp [ofJson, toJson, Json.ofFloating]
  | text value =>
      simp [ofJson, toJson]
  | @array items _ inductionHypothesis =>
      have same : items.map (fun item => (ofJson item).toJson) = items.map id :=
        List.map_congr_left inductionHypothesis
      simpa [ofJson, toJson, ofItems_eq_map, toItems_eq_map, Function.comp_def] using same
  | @object members sorted _ inductionHypothesis =>
      have same :
          members.map (fun member => (member.1, (ofJson member.2).toJson)) = members.map id :=
        List.map_congr_left fun member present => by
          simp [inductionHypothesis member present]
      rw [List.map_id] at same
      simp [ofJson, toJson, ofMembers_eq_map, toMembers_eq_map, Function.comp_def, same,
        Json.ofMembers, sorted.ofList_eq_self]

end LogValue

/-! ## The forms of fields -/

/-- Whether the data of a value stands in order. Only two types hold data of any form. -/
def Value.IsOrdered : Value → Prop
  | .json form => form.IsOrdered
  | .details members => Json.IsOrdered (.object members)
  | _ => True

namespace Value

/-- An integer that renders does so in order. -/
theorem isOrdered_integerJson
    {value : Int}
    {form : Json}
    (renders : integerJson value = .ok form) :
    form.IsOrdered := by
  cases fits : JsonInteger.ofInt? value with
  | none =>
      simp [integerJson, Json.ofInt?, fits] at renders
  | some integer =>
      simp only [integerJson, Json.ofInt?, fits, Option.map_some, Except.ok.injEq] at renders
      exact renders ▸ .number _

/-- A map of integers that renders does so in order. -/
theorem isOrdered_integerMapJson
    {entries : List (String × Int)}
    {members : List (String × Json)}
    (renders : integerMapJson entries = .ok members) :
    ∀ member ∈ members, member.2.IsOrdered := by
  induction entries generalizing members with
  | nil =>
      cases renders
      simp
  | cons entry rest inductionHypothesis =>
      simp only [integerMapJson, bind_eq_ok_iff, Except.ok.injEq] at renders
      obtain ⟨form, own, others, restRenders, rfl⟩ := renders
      exact List.forall_mem_cons.mpr
        ⟨isOrdered_integerJson own, inductionHypothesis restRenders⟩

/-- A value in order renders to a form in order. -/
theorem isOrdered_of_toJson
    {value : Value}
    {form : Json}
    (ordered : value.IsOrdered)
    (renders : value.toJson = .ok form) :
    form.IsOrdered := by
  cases value with
  | integer type value =>
      exact isOrdered_integerJson renders
  | optionalInteger value =>
      cases value with
      | none =>
          cases renders
          exact .null
      | some value =>
          exact isOrdered_integerJson renders
  | integerMap entries =>
      simp only [toJson, bind_eq_ok_iff, Except.ok.injEq] at renders
      obtain ⟨members, rendered, rfl⟩ := renders
      exact Json.isOrdered_ofMembers (isOrdered_integerMapJson rendered)
  | floating value =>
      cases renders
      cases value <;> first | exact .null | exact .number _
  | texts items =>
      cases renders
      refine .array fun item member => ?_
      obtain ⟨text, _, rfl⟩ := List.mem_map.mp member
      exact .text text
  | duration value =>
      simp only [toJson, Except.ok.injEq] at renders
      subst renders
      apply Json.isOrdered_ofMembers
      simp [Json.isOrdered_ofNat]
  | picky value =>
      simp only [toJson] at renders
      split at renders
      · cases renders
      · cases renders
        exact .text value
  | json form =>
      cases renders
      exact ordered
  | details members =>
      cases renders
      exact ordered
  | _ =>
      cases renders
      first | exact .text _ | exact .boolean _ | exact .null

end Value

/-- Fields in order render to members in order. -/
theorem Fields.isOrdered_of_toMembers
    {fields : Fields}
    {members : Members}
    (ordered : ∀ field ∈ fields.entries, field.value.IsOrdered)
    (rendered : fields.toMembers = .ok members) :
    Json.IsOrdered (.object members) := by
  obtain ⟨renders, rfl⟩ := forms_eq_of_toMembers rendered
  refine Json.isOrdered_ofMembers fun member present => ?_
  obtain ⟨field, isField, rfl⟩ := List.mem_map.mp present
  exact Value.isOrdered_of_toJson (ordered field isField) (renders field isField)

/-- An error with fields as they are kept: objects in them stand in the order of their names. -/
structure OrderedOccurrence extends Occurrence where
  ordered : ∀ field ∈ definition.fields.entries, field.value.IsOrdered

end Fault
