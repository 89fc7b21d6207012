import Fault.Proofs.FieldTable
import Fault.Proofs.TreePaths
import Fault.Render.Json

/-!
# Why an error has no form

An error has no JSON form when some error on the way has none: the error itself, or an occurrence
of its tree. The way goes through the tree in order, a cause before its own causes, and does not go
below an occurrence that a marshaler renders. Of several failures the first one on the way is
reported, and of one occurrence the failure of its first field, whether a later field of the same
name hides the value of this field or not.
-/

namespace Fault

/-- Why something could not be done, when it could not. -/
def failureOf
    {ε α : Type} :
    Except ε α → Option ε
  | .ok _ => none
  | .error failure => some failure

/-- A computation has a failure when it ends with it. -/
theorem failureOf_eq_some_iff
    {ε α : Type}
    {result : Except ε α}
    {failure : ε} :
    failureOf result = some failure ↔ result = .error failure := by
  cases result <;> simp [failureOf]

/-- What is done first fails first. -/
theorem failureOf_bind
    {ε α β : Type}
    {first : Except ε α}
    {next : α → Except ε β}
    {later : Option ε}
    (continues : ∀ value, failureOf (next value) = later) :
    failureOf (first >>= next) = (failureOf first).or later := by
  cases first with
  | error failure =>
      rfl
  | ok value =>
      exact continues value

/-- What cannot fail adds no failure. -/
theorem failureOf_bind_ok
    {ε α β : Type}
    {first : Except ε α}
    (next : α → β) :
    failureOf (first >>= fun value => .ok (next value)) = failureOf first := by
  cases first <;> rfl

/-- The first thing that is found in a list is found in its head or in its tail. -/
theorem findSome?_cons_eq_or
    {α β : Type}
    (find : α → Option β)
    (item : α)
    (items : List α) :
    (item :: items).findSome? find = (find item).or (items.findSome? find) := by
  cases found : find item <;> simp [found]

namespace Fields

/-- A field fails when its value has no form. -/
theorem failure?_eq_some_iff
    {field : Field}
    {failure : Json.Failure} :
    failure? field = some failure ↔ field.value.toJson = .error failure := by
  cases rendered : field.value.toJson <;> simp [failure?, rendered]

/-- A field does not fail when its value has a form. -/
theorem failure?_eq_none_iff {field : Field} :
    failure? field = none ↔ ∃ form, field.value.toJson = .ok form := by
  cases rendered : field.value.toJson <;> simp [failure?, rendered]

/-- Fields fail as the first one of them that fails. -/
theorem failureOf_toMembers (fields : Fields) :
    failureOf fields.toMembers = fields.entries.findSome? failure? := by
  ext failure
  exact failureOf_eq_some_iff.trans toMembersFrom_eq_error_iff

end Fields

namespace Graph

/-! ## The way through a tree -/

/-- Whether an error is an occurrence that a marshaler renders. -/
def isMarshaled
    (graph : Graph)
    (identity : ErrorId) :
    Bool :=
  (graph.occurrence? identity).any fun error => error.definition.template.marshaler.isSome

/-- Whether a path goes below no occurrence that a marshaler renders; it may end at one. -/
def isOpen
    (graph : Graph)
    (path : List Link) :
    Bool :=
  path.dropLast.all fun link => !graph.isMarshaled link.target

/-- The occurrences that are rendered of a list of causes, in the order of the tree. -/
def renderedIn
    (graph : Graph)
    (forest : Forest) :
    List Occurrence :=
  (forest.places.filter fun place => graph.isOpen place.1).filterMap fun place =>
    graph.occurrence? place.2.link.target

/-- The occurrences that are rendered for the form of an error: itself, and those of its tree
unless a marshaler renders it. -/
def rendered
    (graph : Graph)
    (root : ErrorId)
    (error : Occurrence) :
    List Occurrence :=
  error ::
    if error.definition.template.marshaler.isSome then
      []
    else
      graph.renderedIn (graph.causeTree root)

/-- Only an occurrence that no marshaler renders leads on to the paths below it. -/
theorem filter_isOpen_below
    (graph : Graph)
    (link : Link)
    (below : Forest) :
    (below.places.map fun place => (link :: place.1, place.2)).filter
        (fun place => graph.isOpen place.1) =
      if graph.isMarshaled link.target then
        []
      else
        (below.places.filter fun place => graph.isOpen place.1).map
          fun place => (link :: place.1, place.2) := by
  have opens :
      ∀ place ∈ below.places,
        graph.isOpen (link :: place.1) =
          (!graph.isMarshaled link.target && graph.isOpen place.1) := by
    intro place member
    have nonempty : place.1 ≠ [] :=
      ne_nil_of_mem_paths (Forest.mem_paths_iff.mpr ⟨place.2, member⟩)
    simp [isOpen, List.dropLast_cons_of_ne_nil nonempty]
  cases marshaled : graph.isMarshaled link.target with
  | true =>
      have closed :
          (below.places.filter fun place => graph.isOpen (link :: place.1)) = [] :=
        List.filter_eq_nil_iff.mpr fun place member => by simp [opens place member, marshaled]
      simp [List.filter_map, Function.comp_def, closed]
  | false =>
      have sameFilter :
          (below.places.filter fun place => graph.isOpen (link :: place.1)) =
            below.places.filter fun place => graph.isOpen place.1 :=
        List.filter_congr fun place member => by simp [opens place member, marshaled]
      simp [List.filter_map, Function.comp_def, sameFilter]

/-- Errors are rendered in order: an error, what is below it unless a marshaler stands for it, and
the rest. -/
theorem renderedIn_node
    (graph : Graph)
    (link : Link)
    (reentered : Bool)
    (below rest : Forest) :
    graph.renderedIn (.node link reentered below rest) =
      (graph.occurrence? link.target).toList ++
        (if graph.isMarshaled link.target then [] else graph.renderedIn below) ++
        graph.renderedIn rest := by
  have shown :
      ∀ places : List (List Link × Branch),
        (places.map fun place => (link :: place.1, place.2)).filterMap
            (fun place => graph.occurrence? place.2.link.target) =
          places.filterMap fun place => graph.occurrence? place.2.link.target := by
    intro places
    simp [List.filterMap_map]
  have ownOpen : graph.isOpen [link] = true := rfl
  simp only [renderedIn, Forest.places, List.cons_append, List.filter_cons, ownOpen, if_true,
    List.filter_append, filter_isOpen_below, List.filterMap_cons, List.filterMap_append]
  cases graph.occurrence? link.target <;> cases graph.isMarshaled link.target <;>
    simp [shown]

/-! ## Failures on the way -/

/-- Why an occurrence itself has no form, whatever the forms of its causes are. -/
def ownFailure?
    (graph : Graph)
    (error : Occurrence) :
    Option Json.Failure :=
  match error.definition.template.marshaler with
  | some marshal => failureOf (marshal (graph.snapshot error))
  | none => error.definition.fields.entries.findSome? Fields.failure?

/-- The form of an occurrence fails by a field, or else by its causes. -/
theorem failureOf_occurrenceJson
    (error : Occurrence)
    (causes : Except Json.Failure (List Json)) :
    failureOf (occurrenceJson error causes) =
      (error.definition.fields.entries.findSome? Fields.failure?).or (failureOf causes) := by
  rw [occurrenceJson, failureOf_bind fun _ => failureOf_bind_ok _, Fields.failureOf_toMembers]

/-- The form of any other error fails by its causes only. -/
theorem failureOf_plainJson
    (graph : Graph)
    (link : Link)
    (causes : Except Json.Failure (List Json)) :
    failureOf (graph.plainJson link causes) = failureOf causes :=
  failureOf_bind_ok _

/-- A cause fails by itself, or at one of its own causes when it shows them. -/
theorem failureOf_causeJson
    (graph : Graph)
    (link : Link)
    (causes : Except Json.Failure (List Json)) :
    failureOf (graph.causeJson link causes) =
      ((graph.occurrence? link.target).bind graph.ownFailure?).or
        (if graph.isMarshaled link.target then none else failureOf causes) := by
  cases found : graph.occurrence? link.target with
  | none =>
      simp [causeJson, isMarshaled, found, failureOf_plainJson]
  | some error =>
      cases marshaler : error.definition.template.marshaler with
      | none =>
          simp [causeJson, isMarshaled, ownFailure?, found, marshaler, failureOf_occurrenceJson]
      | some marshal =>
          simp [causeJson, isMarshaled, ownFailure?, found, marshaler]

/-- The causes of a list fail at the first occurrence on the way through their trees that fails. -/
theorem failureOf_causesJson
    (graph : Graph)
    (forest : Forest) :
    failureOf (graph.causesJson forest) =
      (graph.renderedIn forest).findSome? graph.ownFailure? := by
  induction forest with
  | nil =>
      rfl
  | cut target rest inductionHypothesis =>
      exact inductionHypothesis
  | node link reentered below rest belowHypothesis restHypothesis =>
      have own := graph.failureOf_causeJson link (graph.causesJson below)
      have others :
          failureOf (graph.causesJson (.node link reentered below rest)) =
            (failureOf (graph.causeJson link (graph.causesJson below))).or
              (failureOf (graph.causesJson rest)) :=
        failureOf_bind fun _ => failureOf_bind_ok _
      have ownFound :
          (graph.occurrence? link.target).toList.findSome? graph.ownFailure? =
            (graph.occurrence? link.target).bind graph.ownFailure? := by
        cases graph.occurrence? link.target <;> simp [findSome?_cons_eq_or]
      rw [others, own, belowHypothesis, restHypothesis, renderedIn_node, List.findSome?_append,
        List.findSome?_append, ownFound]
      cases graph.isMarshaled link.target <;> rfl

/-- An error fails at the first occurrence on the way that fails. -/
theorem failureOf_toJson
    (graph : Graph)
    (root : ErrorId)
    (error : Occurrence) :
    failureOf (graph.toJson root error) =
      (graph.rendered root error).findSome? graph.ownFailure? := by
  cases marshaler : error.definition.template.marshaler with
  | none =>
      simp [toJson, rendered, ownFailure?, marshaler, failureOf_occurrenceJson,
        failureOf_causesJson, findSome?_cons_eq_or]
  | some marshal =>
      simp [toJson, rendered, ownFailure?, marshaler, findSome?_cons_eq_or]

/-! ## The failure that is reported -/

/-- Whether an occurrence itself has no form: its marshaler fails, or it has none and some field has
no form, be it one that is hidden by a later field of the same name. -/
inductive Fails (graph : Graph) (error : Occurrence) : Prop where
  | marshaler
      {marshal : Marshaler}
      {failure : Json.Failure} :
      error.definition.template.marshaler = some marshal →
      marshal (graph.snapshot error) = .error failure →
      graph.Fails error
  | field
      {field : Field}
      {failure : Json.Failure} :
      error.definition.template.marshaler = none →
      field ∈ error.definition.fields.entries →
      field.value.toJson = .error failure →
      graph.Fails error

/-- Whether a failure is the one of an occurrence itself: that of its marshaler, or that of its
first field that has no form. -/
inductive FailsBy (graph : Graph) (error : Occurrence) : Json.Failure → Prop where
  | marshaler
      {marshal : Marshaler}
      {failure : Json.Failure} :
      error.definition.template.marshaler = some marshal →
      marshal (graph.snapshot error) = .error failure →
      graph.FailsBy error failure
  | field
      {earlier later : List Field}
      {field : Field}
      {failure : Json.Failure} :
      error.definition.template.marshaler = none →
      error.definition.fields.entries = earlier ++ field :: later →
      (∀ other ∈ earlier, ∃ form, other.value.toJson = .ok form) →
      field.value.toJson = .error failure →
      graph.FailsBy error failure

/-- The own failure of an error is the one that it fails by. -/
theorem ownFailure?_eq_some_iff
    {graph : Graph}
    {error : Occurrence}
    {failure : Json.Failure} :
    graph.ownFailure? error = some failure ↔ graph.FailsBy error failure := by
  constructor
  · intro fails
    cases marshaler : error.definition.template.marshaler with
    | some marshal =>
        simp only [ownFailure?, marshaler, failureOf_eq_some_iff] at fails
        exact .marshaler marshaler fails
    | none =>
        simp only [ownFailure?, marshaler] at fails
        obtain ⟨earlier, field, later, entries, own, others⟩ :=
          List.findSome?_eq_some_iff.mp fails
        exact .field marshaler entries
          (fun other member => Fields.failure?_eq_none_iff.mp (others other member))
          (Fields.failure?_eq_some_iff.mp own)
  · intro fails
    cases fails with
    | marshaler marshaler own =>
        simp [ownFailure?, marshaler, own, failureOf]
    | @field earlier later field _ marshaler entries others own =>
        simp only [ownFailure?, marshaler]
        exact List.findSome?_eq_some_iff.mpr ⟨earlier, field, later, entries,
          Fields.failure?_eq_some_iff.mpr own,
          fun other member => Fields.failure?_eq_none_iff.mpr (others other member)⟩

/-- An error has a failure of its own when it fails. -/
theorem isSome_ownFailure?_iff
    {graph : Graph}
    {error : Occurrence} :
    (graph.ownFailure? error).isSome = true ↔ graph.Fails error := by
  constructor
  · intro found
    obtain ⟨failure, isFailure⟩ := Option.isSome_iff_exists.mp found
    cases ownFailure?_eq_some_iff.mp isFailure with
    | marshaler marshaler own =>
        exact .marshaler marshaler own
    | field marshaler entries _ own =>
        exact .field marshaler (by simp [entries]) own
  · intro fails
    cases fails with
    | marshaler marshaler own =>
        simp [ownFailure?, marshaler, own, failureOf]
    | @field field failure marshaler member own =>
        simp only [ownFailure?, marshaler, List.findSome?_isSome_iff]
        exact ⟨field, member, by simp [Fields.failure?_eq_some_iff.mpr own]⟩

/-- An error has no form exactly when some occurrence on the way has none, and the failure is the
one of the first such occurrence. -/
theorem toJson_failsFirst
    (graph : Graph)
    (root : ErrorId)
    (error : Occurrence) :
    ((∃ failure, graph.toJson root error = .error failure) ↔
      ∃ visited ∈ graph.rendered root error, graph.Fails visited) ∧
    ∀ failure,
      graph.toJson root error = .error failure ↔
        ∃ before visited after,
          graph.rendered root error = before ++ visited :: after ∧
            (∀ earlier ∈ before, ¬graph.Fails earlier) ∧
            graph.FailsBy visited failure := by
  have reported : ∀ failure,
      graph.toJson root error = .error failure ↔
        (graph.rendered root error).findSome? graph.ownFailure? = some failure := by
    intro failure
    rw [← failureOf_toJson, failureOf_eq_some_iff]
  constructor
  · simp only [reported, ← Option.isSome_iff_exists, List.findSome?_isSome_iff,
      isSome_ownFailure?_iff]
  · intro failure
    have passes : ∀ earlier : Occurrence,
        graph.ownFailure? earlier = none ↔ ¬graph.Fails earlier := by
      intro earlier
      rw [← isSome_ownFailure?_iff, Option.not_isSome_iff_eq_none]
    simp only [reported, List.findSome?_eq_some_iff, ownFailure?_eq_some_iff, passes]
    constructor
    · intro ⟨before, visited, after, isList, own, others⟩
      exact ⟨before, visited, after, isList, others, own⟩
    · intro ⟨before, visited, after, isList, others, own⟩
      exact ⟨before, visited, after, isList, own, others⟩

end Graph

end Fault
