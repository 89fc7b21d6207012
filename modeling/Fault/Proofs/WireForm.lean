import Fault.Proofs.DraftReading
import Fault.Render.Json

/-!
# Forms of errors

The form of an error is an object of at most six members, and what is absent is left out. Each
member is read back as it was written: the kind, the name of the type, the fields and the causes
of a form are those that its object states.

Call stacks are taken out of a form at every error that it shows: at its own and at those of its
causes, but in no field.
-/

namespace Fault

namespace Json

mutual

/-- The form of an error without the call stacks of the error and of its causes. -/
def withoutStacks : Json → Json
  | .object members => .object (membersWithoutStacks members)
  | form => form

/-- The members of an error without its call stack and those of its causes. -/
def membersWithoutStacks : List (String × Json) → List (String × Json)
  | [] => []
  | (name, form) :: rest =>
      if name = "stack" then membersWithoutStacks rest
      else if name = "causes" then (name, causesWithoutStacks form) :: membersWithoutStacks rest
      else (name, form) :: membersWithoutStacks rest

/-- The causes of an error without call stacks. -/
def causesWithoutStacks : Json → Json
  | .array items => .array (itemsWithoutStacks items)
  | form => form

/-- The forms of errors without call stacks. -/
def itemsWithoutStacks : List Json → List Json
  | [] => []
  | item :: items => withoutStacks item :: itemsWithoutStacks items

end

/-- Without stacks a form shows what it did, but for the stack itself and inside its causes. -/
theorem get?_membersWithoutStacks
    (members : Members)
    (name : String) :
    Members.get? (membersWithoutStacks members) name =
      if name = "stack" then none
      else if name = "causes" then (members.get? name).map causesWithoutStacks
      else members.get? name := by
  induction members with
  | nil =>
      simp [membersWithoutStacks, Members.get?]
  | cons member rest inductionHypothesis =>
      obtain ⟨own, form⟩ := member
      rw [membersWithoutStacks, Members.get?_cons]
      by_cases isOwn : own = name
      · subst isOwn
        by_cases isStack : own = "stack"
        · rw [if_pos isStack, inductionHypothesis, if_pos isStack, if_pos isStack]
        · by_cases isCauses : own = "causes"
          · rw [if_neg isStack, if_pos isCauses, Members.get?_cons]
            simp [isCauses]
          · rw [if_neg isStack, if_neg isCauses, Members.get?_cons]
            simp [isStack, isCauses]
      · rw [if_neg isOwn, ← inductionHypothesis]
        split
        · rfl
        · split <;> rw [Members.get?_cons, if_neg isOwn]

/-- To leave out stacks keeps the order of members. -/
theorem isSorted_membersWithoutStacks
    {members : Members}
    (sorted : members.IsSorted) :
    Members.IsSorted (membersWithoutStacks members) := by
  have named :
      (membersWithoutStacks members).map Prod.fst =
        (members.map Prod.fst).filter fun name => name != "stack" := by
    clear sorted
    induction members with
    | nil =>
        rfl
    | cons member rest inductionHypothesis =>
        obtain ⟨name, form⟩ := member
        rw [membersWithoutStacks]
        by_cases isStack : name = "stack"
        · simp [isStack, inductionHypothesis]
        · by_cases isCauses : name = "causes" <;> simp [isStack, isCauses, inductionHypothesis]
  rw [Members.IsSorted, named]
  exact List.Pairwise.filter _ sorted

/-- To leave out stacks leaves as many items. -/
theorem isEmpty_itemsWithoutStacks (items : List Json) :
    (itemsWithoutStacks items).isEmpty = items.isEmpty := by
  cases items <;> rfl

end Json

/-- What the form of an error shows. -/
structure WireForm where
  message : String
  kind : Option String
  typeName : Option String
  fields : Option Members
  stack : Option Json
  causes : List Json

namespace WireForm

/-- The members of a form. -/
def members (form : WireForm) : List (String × Json) :=
  [("message", Json.text form.message)] ++
  form.kind.toList.map (fun label => ("kind", Json.text label)) ++
  form.typeName.toList.map (fun name => ("type", Json.text name)) ++
  form.fields.toList.map (fun fields => ("fields", Json.object fields)) ++
  form.stack.toList.map (fun stack => ("stack", stack)) ++
  (if form.causes.isEmpty then [] else [("causes", Json.array form.causes)])

/-- The members of a form in the order of their names. -/
def sorted (form : WireForm) : Members :=
  Members.ofList form.members

/-- The form without its call stack and those of its causes. -/
def withoutStacks (form : WireForm) : WireForm :=
  { form with stack := none, causes := Json.itemsWithoutStacks form.causes }

/-- No name occurs twice in a form. -/
theorem nodup_names (form : WireForm) :
    (form.members.map Prod.fst).Nodup := by
  have present :
      ∀ {α : Type} (value : Option α) (name : String) (shown : α → Json),
        ((value.toList.map fun present => (name, shown present)).map Prod.fst).Sublist
          [name] := by
    intro α value name shown
    cases value <;> simp
  have caused :
      ((if form.causes.isEmpty then [] else [("causes", Json.array form.causes)]).map
        Prod.fst).Sublist ["causes"] := by
    split <;> simp
  have all :
      (form.members.map Prod.fst).Sublist
        (["message"] ++ ["kind"] ++ ["type"] ++ ["fields"] ++ ["stack"] ++ ["causes"]) := by
    simp only [members, List.map_append]
    exact (((((List.Sublist.refl _).append (present _ _ _)).append (present _ _ _)).append
      (present _ _ _)).append (present _ _ _)).append caused
  exact all.nodup (by decide)

/-- Under each name stands what the form shows by it. -/
theorem get?_sorted
    (form : WireForm)
    (name : String) :
    form.sorted.get? name =
      if "message" = name then some (.text form.message)
      else if "kind" = name then form.kind.map .text
      else if "type" = name then form.typeName.map .text
      else if "fields" = name then form.fields.map .object
      else if "stack" = name then form.stack
      else if "causes" = name then
        if form.causes.isEmpty then none else some (.array form.causes)
      else none := by
  have caused :
      Members.get? (if form.causes.isEmpty then [] else [("causes", .array form.causes)]) name =
        if "causes" = name then
          if form.causes.isEmpty then none else some (.array form.causes)
        else none := by
    split
    · simp [Members.get?]
    · exact Members.get?_cons "causes" (.array form.causes) [] name
  have stacked :
      Members.get? (form.stack.toList.map fun stack => ("stack", stack)) name =
        if "stack" = name then form.stack else none := by
    rw [Members.get?_toList_map, Option.map_id']
  rw [sorted, Members.get?_ofList_of_nodup form.nodup_names]
  simp only [members, Members.get?_append, Members.get?_toList_map, stacked, caused,
    Members.get?_cons]
  by_cases isMessage : "message" = name
  · simp [isMessage]
  by_cases isKind : "kind" = name
  · subst isKind
    simp [Members.get?]
  by_cases isType : "type" = name
  · subst isType
    simp [Members.get?]
  by_cases isFields : "fields" = name
  · subst isFields
    simp [Members.get?]
  by_cases isStack : "stack" = name
  · subst isStack
    simp [Members.get?]
  · simp [isMessage, isKind, isType, isFields, isStack, Members.get?]

/-- The members of a form stand in the order of their names. -/
theorem isSorted_sorted (form : WireForm) :
    form.sorted.IsSorted :=
  Members.isSorted_ofList form.members

/-- Without call stacks the object of a form is the object of the form without them. -/
theorem membersWithoutStacks_sorted (form : WireForm) :
    Json.membersWithoutStacks form.sorted = form.withoutStacks.sorted := by
  refine (Json.isSorted_membersWithoutStacks form.isSorted_sorted).eq_of_get?_eq
    form.withoutStacks.isSorted_sorted fun name => ?_
  rw [Json.get?_membersWithoutStacks, get?_sorted, get?_sorted]
  by_cases isStack : name = "stack"
  · subst isStack
    rfl
  by_cases isCauses : name = "causes"
  · subst isCauses
    simp only [withoutStacks, Json.isEmpty_itemsWithoutStacks]
    cases form.causes.isEmpty <;> rfl
  · simp [withoutStacks, isStack, Ne.symm isStack, isCauses, Ne.symm isCauses]

/-! ## Reading a form back -/

/-- A form states its message. -/
theorem get?_message (form : WireForm) :
    form.sorted.get? "message" = some (.text form.message) := by
  rw [get?_sorted]
  rfl

/-- A form states its kind. -/
theorem kindOf?_sorted (form : WireForm) :
    Resolver.kindOf? form.sorted = form.kind := by
  rw [Resolver.kindOf?, get?_sorted]
  cases form.kind <;> rfl

/-- A form states its type, or else its kind. -/
theorem typeOf?_sorted (form : WireForm) :
    Resolver.typeOf? form.sorted = form.typeName.or form.kind := by
  rw [Resolver.typeOf?, get?_sorted, get?_sorted]
  cases form.typeName <;> cases form.kind <;> rfl

/-- A form states its fields. -/
theorem statedFields_sorted (form : WireForm) :
    form.sorted.statedFields = form.fields.getD [] := by
  rw [Members.statedFields, get?_sorted]
  cases form.fields <;> rfl

/-- A form states its causes. -/
theorem causeForms_sorted (form : WireForm) :
    form.sorted.causeForms = form.causes := by
  rw [Members.causeForms, get?_sorted]
  cases form.causes <;> rfl

/-! ## The forms of a graph -/

/-- What the form of an occurrence shows, given its fields and the forms of its causes. -/
def ofOccurrence
    (error : Occurrence)
    (fields : Members)
    (causes : List Json) :
    WireForm where
  message := error.message
  kind := if error.definition.kind.isUnset then none else some error.definition.kind.label
  typeName := none
  fields := if error.definition.fields.isEmpty then none else some fields
  stack := if error.stack.isEmpty then none else some error.stack.toJson
  causes := causes

/-- What the form of any other error shows, given the forms of its causes. -/
def ofPlain
    (message : String)
    (typeName : Option String)
    (causes : List Json) :
    WireForm where
  message := message
  kind := none
  typeName := typeName
  fields := none
  stack := none
  causes := causes

end WireForm

namespace Graph

/-- A member that can be absent is written when it is there. -/
private theorem toList_map_unless
    {α : Type}
    (absent : Bool)
    (name : String)
    (value : α)
    (shown : α → Json) :
    ((if absent then none else some value).toList.map fun present => (name, shown present)) =
      if absent then [] else [(name, shown value)] := by
  cases absent <;> rfl

/-- An occurrence is written as its form when its fields and causes render. -/
theorem occurrenceJson_ok
    {error : Occurrence}
    {fields : Members}
    (rendered : error.definition.fields.toMembers = .ok fields)
    (causes : List Json) :
    occurrenceJson error (.ok causes) =
      .ok (.object (WireForm.ofOccurrence error fields causes).sorted) := by
  have stacked :=
    toList_map_unless error.stack.isEmpty "stack" error.stack.toJson fun stack => stack
  simp only [WireForm.sorted, WireForm.members, WireForm.ofOccurrence, toList_map_unless, stacked,
    Option.toList_none, List.map_nil, List.append_nil]
  rw [occurrenceJson, rendered]
  rfl

/-- Any other error is written as its form when its causes render. -/
theorem plainJson_ok
    (graph : Graph)
    (link : Link)
    (causes : List Json) :
    graph.plainJson link (.ok causes) =
      .ok (.object
        (WireForm.ofPlain (graph.message link.target) (graph.shownType link) causes).sorted) := by
  simp only [WireForm.sorted, WireForm.members, WireForm.ofPlain, Option.toList_none,
    List.map_nil, List.append_nil]
  rfl

end Graph

end Fault
