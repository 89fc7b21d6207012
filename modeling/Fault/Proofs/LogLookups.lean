import Fault.Proofs.ParsedForms

/-!
# Log values are looked up like their forms

A group of a log value may hold a key several times, its form holds every name once. Both answer
with the attribute that was added last: what a key leads to in a group has the form that its name
leads to in the form of the group. The same goes for every path of keys and places, so that a log
value and its form are looked up alike however deep they are nested. Forms in order are exactly
the forms of log values, and on the way through a log value none of them changes.
-/

namespace Fault

/-- A step into a value: to what stands under a key, or to the item at a place. -/
inductive PathStep where
  | key (name : String)
  | place (index : Nat)
  deriving DecidableEq, Repr

namespace Json

/-- What a step leads to in a form. -/
def step? (form : Json) : PathStep → Option Json
  | .key name => form.member? name
  | .place index => form.array?.bind fun items => items[index]?

/-- What a path leads to in a form. -/
def at? (form : Json) : List PathStep → Option Json
  | [] => some form
  | step :: path => (form.step? step).bind fun inner => inner.at? path

/-- No step leads into an integer. -/
theorem step?_getD_ofInt?
    (value : Int)
    (step : PathStep) :
    ((ofInt? value).getD .null).step? step = none := by
  rcases getD_ofInt?_cases value with isNull | ⟨number, isNumber⟩
  · cases step <;> simp [isNull, step?, member?, members?, array?]
  · cases step <;> simp [isNumber, step?, member?, members?, array?]

end Json

namespace LogValue

/-- What a step leads to in a log value. -/
def step? (value : LogValue) : PathStep → Option LogValue
  | .key name => value.get? name
  | .place index =>
      match value with
      | .list items => items[index]?
      | _ => none

/-- What a path leads to in a log value. -/
def at? (value : LogValue) : List PathStep → Option LogValue
  | [] => some value
  | step :: path => (value.step? step).bind fun inner => inner.at? path

/-! ## Groups that were put together -/

/-- Add attributes to a group, one after the other. -/
def addAll
    (value : LogValue)
    (attributes : List (String × LogValue)) :
    LogValue :=
  attributes.foldl (fun grown pair => grown.add pair.1 pair.2) value

/-- The value that is the last one to be added under a key. -/
def lastAdded?
    (attributes : List (String × LogValue))
    (key : String) :
    Option LogValue :=
  (attributes.filter fun pair => pair.1 == key).getLast?.map Prod.snd

/-- Attributes that are added to a group come behind its own. -/
theorem addAll_group (earlier later : List (String × LogValue)) :
    (group earlier).addAll later = group (earlier ++ later) := by
  induction later generalizing earlier with
  | nil =>
      simp [addAll]
  | cons pair later inductionHypothesis =>
      simpa [addAll, add] using inductionHypothesis (earlier ++ [pair])

/-- A group finds the attribute of a key that was added last. -/
theorem get?_group
    (attributes : List (String × LogValue))
    (key : String) :
    (group attributes).get? key = lastAdded? attributes key := by
  simp only [get?, lastAdded?, List.getLast?_eq_head?_reverse, ← List.filter_reverse,
    List.head?_filter]

/-! ## Forms of log values -/

mutual

/-- The form of a log value stands in order. -/
theorem isOrdered_toJson (value : LogValue) :
    value.toJson.IsOrdered := by
  cases value with
  | null =>
      simpa only [toJson] using .null
  | boolean value =>
      simpa only [toJson] using .boolean value
  | int value =>
      simpa only [toJson, intJson] using Json.isOrdered_getD_ofInt? value.toInt
  | uint value =>
      simpa only [toJson, uintJson] using Json.isOrdered_ofNat value.toNat
  | floating value =>
      cases value with
      | nan =>
          simpa only [toJson] using .null
      | infinite negative =>
          simpa only [toJson] using .null
      | finite value =>
          simpa only [toJson] using .number (.double value)
  | text value =>
      simpa only [toJson] using .text value
  | list items =>
      simpa only [toJson] using .array (isOrdered_toItems items)
  | group attributes =>
      simpa only [toJson] using Json.isOrdered_ofMembers (isOrdered_toMembers attributes)

theorem isOrdered_toItems (items : List LogValue) :
    ∀ item ∈ toItems items, item.IsOrdered := by
  cases items with
  | nil =>
      simp [toItems]
  | cons item items =>
      simpa only [toItems] using
        List.forall_mem_cons.mpr ⟨isOrdered_toJson item, isOrdered_toItems items⟩

theorem isOrdered_toMembers (attributes : List (String × LogValue)) :
    ∀ member ∈ toMembers attributes, member.2.IsOrdered := by
  rcases attributes with _ | ⟨⟨key, value⟩, attributes⟩
  · simp [toMembers]
  · simp only [toMembers]
    exact List.forall_mem_cons.mpr ⟨isOrdered_toJson value, isOrdered_toMembers attributes⟩

end

/-! ## Look-ups -/

/-- To write attributes and to look one up can be done in either order. -/
theorem get?_map_toJson
    (attributes : List (String × LogValue))
    (key : String) :
    Members.get? (attributes.map fun pair => (pair.1, pair.2.toJson)) key =
      (attributes.find? fun pair => pair.1 == key).map fun pair => pair.2.toJson := by
  simp [Members.get?, List.find?_map, Function.comp_def, beq_eq_decide]

/-- What a key leads to in a group has the form that its name leads to in the form of the group. -/
theorem member?_toJson_group
    (attributes : List (String × LogValue))
    (key : String) :
    (group attributes).toJson.member? key = ((group attributes).get? key).map toJson := by
  simp only [toJson, toMembers_eq_map, Json.ofMembers, Json.member?, Json.members?,
    Option.bind_some, Members.get?_ofList, ← List.map_reverse, get?_map_toJson, get?,
    Option.map_map, Function.comp_def]

/-- A step leads to a value in a log value and to the form of this value in the form. -/
theorem step?_toJson
    (value : LogValue)
    (step : PathStep) :
    value.toJson.step? step = (value.step? step).map toJson := by
  cases value with
  | group attributes =>
      cases step with
      | key name =>
          exact member?_toJson_group attributes name
      | place index =>
          simp [toJson, step?, Json.step?, Json.ofMembers, Json.array?]
  | list items =>
      cases step with
      | key name =>
          simp [toJson, step?, get?, Json.step?, Json.member?, Json.members?]
      | place index =>
          simp [toJson, step?, Json.step?, Json.array?, toItems_eq_map]
  | int value =>
      cases step <;>
        simpa only [toJson, intJson, step?, get?, Option.map_none] using
          Json.step?_getD_ofInt? value.toInt _
  | uint value =>
      cases step <;>
        simpa only [toJson, uintJson, Json.ofNat, step?, get?, Option.map_none] using
          Json.step?_getD_ofInt? value.toNat _
  | floating value =>
      cases value <;> cases step <;>
        simp [toJson, Json.ofFloating, step?, get?, Json.step?, Json.member?, Json.members?,
          Json.array?]
  | _ =>
      cases step <;>
        simp [toJson, step?, get?, Json.step?, Json.member?, Json.members?, Json.array?]

/-- A path leads to a value in a log value and to the form of this value in the form. -/
theorem at?_toJson
    (value : LogValue)
    (path : List PathStep) :
    value.toJson.at? path = (value.at? path).map toJson := by
  induction path generalizing value with
  | nil =>
      simp [at?, Json.at?]
  | cons step path inductionHypothesis =>
      simp only [at?, Json.at?, step?_toJson, Option.bind_map, Option.map_bind,
        Function.comp_def, inductionHypothesis]

/-! ## Agreement -/

/-- Exactly the forms in order do not change on the way through a log value. -/
theorem toJson_ofJson_iff (form : Json) :
    (ofJson form).toJson = form ↔ form.IsOrdered := by
  constructor
  · intro same
    exact same ▸ isOrdered_toJson (ofJson form)
  · exact toJson_ofJson

/-- Whether a group and its form hold what was added to it: the last value of every key. -/
structure HoldsLast
    (group : LogValue)
    (attributes : List (String × LogValue)) :
    Prop where
  /-- The form is in order, so no object in it holds a name twice. -/
  isOrdered : group.toJson.IsOrdered
  isObject : ∃ members, group.toJson = .object members
  last : ∀ key, group.get? key = lastAdded? attributes key
  /-- A key leads to a value in the group exactly when its name leads to the form of this value. -/
  member?_iff :
    ∀ key form,
      group.toJson.member? key = some form ↔
        ∃ value, group.get? key = some value ∧ value.toJson = form
  /-- So do paths, which lead on into the values that were added. -/
  at?_iff :
    ∀ path form,
      group.toJson.at? path = some form ↔
        ∃ value, group.at? path = some value ∧ value.toJson = form

/-- Forms in order, and no others, are the forms of their log values; so are all forms that are read
from text. Under every key, a group and its form hold what was added to the group last. -/
theorem toJson_readsAlike :
    (∀ form : Json, (ofJson form).toJson = form ↔ form.IsOrdered) ∧
      (∀ text form, Json.parse text = .ok form → (ofJson form).toJson = form) ∧
      ∀ attributes : List (String × LogValue),
        (emptyGroup.addAll attributes).HoldsLast attributes := by
  refine ⟨toJson_ofJson_iff, fun text form read => toJson_ofJson (Json.isOrdered_of_parse read),
    fun attributes => ?_⟩
  have isGroup : emptyGroup.addAll attributes = group attributes := by
    simpa [emptyGroup] using addAll_group [] attributes
  rw [isGroup]
  constructor
  case isOrdered =>
    exact isOrdered_toJson (group attributes)
  case isObject =>
    exact ⟨Members.ofList (toMembers attributes), by simp only [toJson, Json.ofMembers]⟩
  case last =>
    exact get?_group attributes
  case member?_iff =>
    intro key form
    rw [member?_toJson_group, Option.map_eq_some_iff]
  case at?_iff =>
    intro path form
    rw [at?_toJson, Option.map_eq_some_iff]

/-- A text with integers at both ends of their range, and with a name that is stated twice. -/
def boundaryText : String :=
  "\x7b\"b\": [18446744073709551615, 9223372036854775808, -9223372036854775808], \"a\": " ++
    "\x7b\"x\": 1, \"x\": null\x7d\x7d"

/-- The form of the text. -/
def boundaryForm : Json :=
  .object
    [("a", .object [("x", .null)]),
      ("b", .array
        [.number (.integer ⟨18_446_744_073_709_551_615, by decide, by decide⟩),
          .number (.integer ⟨9_223_372_036_854_775_808, by decide, by decide⟩),
          .number (.integer ⟨-9_223_372_036_854_775_808, by decide, by decide⟩)])]

/-- The text with numbers at the bounds is parsed, and read back as it was. -/
theorem toJson_readsAlike_boundaryText :
    Json.parse boundaryText = .ok boundaryForm ∧
      (ofJson boundaryForm).toJson = boundaryForm := by
  have read : Json.parse boundaryText = .ok boundaryForm := by
    cbv
  exact ⟨read, toJson_readsAlike.2.1 boundaryText boundaryForm read⟩

end LogValue

end Fault
