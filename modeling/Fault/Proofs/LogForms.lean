import Fault.Proofs.BuiltGraphs
import Fault.Proofs.OrderedForms
import Fault.Proofs.ShownStacks

/-!
# Log values and forms

The log value of an error and its form are made apart from each other: the form by the cause tree,
from which links are cut, the log value by the direct causes and their texts. For errors without
renderers both show the same. The log value has the message, the kind and the fields of the form,
the first frame of its call stack, and the messages of its causes. It is there also when the form is
not: a note takes the place of fields that do not render, and causes that do not render leave no
trace.
-/

namespace Fault

/-- What the log value of an occurrence shows. -/
structure LogForm where
  message : String
  kind : Option String
  fields : Option Json
  origin : Option Json
  causes : List String

namespace LogForm

/-- The members of the form of a log value. -/
def members (log : LogForm) : List (String × Json) :=
  [("message", Json.text log.message)] ++
  log.kind.toList.map (fun label => ("kind", Json.text label)) ++
  log.fields.toList.map (fun fields => ("fields", fields)) ++
  log.origin.toList.map (fun frame => ("origin", frame)) ++
  (if log.causes.isEmpty then [] else [("causes", Json.array (log.causes.map .text))])

/-- The names of the members. -/
def names : List String :=
  ["message", "kind", "fields", "origin", "causes"]

/-- The members in the order of their names. -/
def sorted (log : LogForm) : Members :=
  Members.ofList log.members

/-- The members of a log value have some of the names, in the order of these. -/
theorem sublist_names (log : LogForm) :
    (log.members.map Prod.fst).Sublist names := by
  have present :
      ∀ {α : Type} (value : Option α) (name : String) (shown : α → Json),
        ((value.toList.map fun present => (name, shown present)).map Prod.fst).Sublist
          [name] := by
    intro α value name shown
    cases value <;> simp
  have caused :
      ((if log.causes.isEmpty then [] else [("causes", Json.array (log.causes.map .text))]).map
        Prod.fst).Sublist ["causes"] := by
    split <;> simp
  simp only [members, List.map_append]
  exact ((((List.Sublist.refl _).append (present _ _ _)).append (present _ _ _)).append
    (present _ _ _)).append caused

/-- No name occurs twice in a log value. -/
theorem nodup_names (log : LogForm) :
    (log.members.map Prod.fst).Nodup :=
  log.sublist_names.nodup (by decide)

/-- Under each name stands what the log value shows by it. -/
theorem get?_sorted
    (log : LogForm)
    (name : String) :
    log.sorted.get? name =
      if "message" = name then some (.text log.message)
      else if "kind" = name then log.kind.map .text
      else if "fields" = name then log.fields
      else if "origin" = name then log.origin
      else if "causes" = name then
        if log.causes.isEmpty then none else some (.array (log.causes.map .text))
      else none := by
  have caused :
      Members.get?
          (if log.causes.isEmpty then [] else [("causes", .array (log.causes.map .text))]) name =
        if "causes" = name then
          if log.causes.isEmpty then none else some (.array (log.causes.map .text))
        else none := by
    split
    · simp [Members.get?]
    · exact Members.get?_cons "causes" (.array (log.causes.map .text)) [] name
  have found :
      ∀ (value : Option Json) (own : String),
        Members.get? (value.toList.map fun shown => (own, shown)) name =
          if own = name then value else none := by
    intro value own
    rw [Members.get?_toList_map, Option.map_id']
  rw [sorted, Members.get?_ofList_of_nodup log.nodup_names]
  simp only [members, Members.get?_append, Members.get?_toList_map, found, caused,
    Members.get?_cons]
  by_cases isMessage : "message" = name
  · simp [isMessage]
  by_cases isKind : "kind" = name
  · subst isKind
    simp [Members.get?]
  by_cases isFields : "fields" = name
  · subst isFields
    simp [Members.get?]
  by_cases isOrigin : "origin" = name
  · subst isOrigin
    simp [Members.get?]
  · simp [isMessage, isKind, isFields, isOrigin, Members.get?]

/-- In sorted order the members have the same names. -/
theorem mem_names_of_mem_sorted
    {log : LogForm}
    {member : String × Json}
    (present : member ∈ log.sorted) :
    member.1 ∈ names :=
  log.sublist_names.subset (List.mem_map_of_mem (Members.mem_of_mem_ofList present))

/-- What the log value of an occurrence shows, given the form of its fields. -/
def ofOccurrence
    (graph : Graph)
    (error : Occurrence)
    (fields : Json) :
    LogForm where
  message := error.message
  kind := if error.definition.kind.isUnset then none else some error.definition.kind.label
  fields := if error.definition.fields.isEmpty then none else some fields
  origin := error.stack.head?.map Frame.toJson
  causes := (graph.occurrenceLinks error).map fun link => graph.message link.target

end LogForm

/-- Fields fail to render when one of them does. -/
theorem Fields.exists_toMembers_eq_error
    {fields : Fields}
    {field : Field}
    (member : field ∈ fields.entries)
    {own : Json.Failure}
    (fails : field.value.toJson = .error own) :
    ∃ failure, fields.toMembers = .error failure := by
  have found : (failure? field).isSome = true := by
    simp [failure?, fails]
  obtain ⟨failure, isFirst⟩ :=
    Option.isSome_iff_exists.mp (List.findSome?_isSome_iff.mpr ⟨field, member, found⟩)
  exact ⟨failure, toMembersFrom_eq_error_iff.mpr isFirst⟩

/-- A template is not rendered when it has none of the three renderers. -/
theorem Template.isRendered_eq_false_iff {template : Template} :
    template.isRendered = false ↔
      template.formatter = none ∧ template.marshaler = none ∧ template.logValuer = none := by
  simp [isRendered, and_assoc]

namespace Graph

/-! ## The log value -/

/-- A frame is logged as it is in a form. -/
theorem toJson_frameLog (frame : Frame) :
    (frameLog frame).toJson = frame.toJson := by
  simp only [frameLog, LogValue.toJson, LogValue.toMembers_eq_map, List.map_cons, List.map_nil,
    LogValue.uintJson, UInt32.toNat_toUInt64, Frame.toJson]

/-- A standard log value is written as the members that the log form lists. -/
theorem toJson_standardLog
    (graph : Graph)
    (error : Occurrence) :
    (graph.standardLog error).toJson =
      .object
        (LogForm.ofOccurrence graph error (fieldsLog error.definition.fields).toJson).sorted := by
  have origin :
      (error.stack.head?.toList.map fun frame => ("origin", frameLog frame)).map
          (fun pair => (pair.1, pair.2.toJson)) =
        (error.stack.head?.map Frame.toJson).toList.map fun frame => ("origin", frame) := by
    cases shown : error.stack with
    | nil =>
        rfl
    | cons frame rest =>
        simp [toJson_frameLog]
  have caused :
      (if ((graph.occurrenceLinks error).map Link.target).isEmpty then []
        else
          [("causes",
            LogValue.list (((graph.occurrenceLinks error).map Link.target).map fun cause =>
              .text (graph.message cause)))]).map (fun pair => (pair.1, pair.2.toJson)) =
        if ((graph.occurrenceLinks error).map fun link => graph.message link.target).isEmpty then []
        else
          [("causes", .array
            (((graph.occurrenceLinks error).map fun link => graph.message link.target).map
              .text))] := by
    cases none : (graph.occurrenceLinks error).isEmpty <;>
      simp [none, LogValue.toJson, LogValue.toItems_eq_map, Function.comp_def]
  simp only [standardLog, LogValue.toJson, LogValue.toMembers_eq_map, Json.ofMembers,
    LogForm.sorted, List.map_append, origin, caused]
  congr 2
  simp only [LogForm.members, LogForm.ofOccurrence]
  cases error.definition.kind.isUnset <;>
    cases error.definition.fields.isEmpty <;>
      simp [LogValue.toJson]

/-! ## The forms of causes -/

/-- No link of an occurrence is cut from its own tree. -/
theorem links_causeTree
    {graph : Graph}
    {root : ErrorId}
    {error : Occurrence}
    (built : graph.IsBuilt)
    (found : graph.get? root = some (.occurrence error)) :
    (graph.causeTree root).branches.map Branch.link = graph.occurrenceLinks error := by
  have isLinks : graph.links root = graph.occurrenceLinks error := by
    simp [links, found]
  have kept : ∀ link ∈ graph.occurrenceLinks error,
      graph.isCut (graph.startPath root) link = false := by
    intro link member
    have earlier := built.holdsEarlier.index_lt_of_mem_occurrenceLinks found member
    have absent : link.target ≠ root := fun same => by simp [same] at earlier
    simp only [isCut, startPath]
    split <;> simp [absent]
  have unmarked :
      ∀ (targets : List ErrorId) (forest : Forest),
        (forest.mark targets).branches.map Branch.link = forest.branches.map Branch.link := by
    intro targets forest
    simp [Forest.branches_mark, Function.comp_def, Branch.mark]
  simp only [causeTree, unmarked, branches_unfold, isLinks]
  exact List.filter_eq_self.mpr fun link member => by simp [kept link member]

/-- The message of an occurrence without a formatter is its own. -/
theorem message_of_occurrence
    {graph : Graph}
    {identity : ErrorId}
    {error : Occurrence}
    (isOccurrence : graph.occurrence? identity = some error)
    (unformatted : error.definition.template.formatter = none) :
    graph.message identity = error.message := by
  have shown : graph.block? .display identity = some (Text.Block.ofString error.message) := by
    simp [block?_of_occurrence isOccurrence, occurrenceText, unformatted, standardText]
  exact (message_of_block?_eq_some shown).trans (Text.Block.toText_ofString error.message)

/-- Where the messages of all errors end, they are what is found. -/
theorem map_message_of_forall₂_block?
    {graph : Graph}
    {identities : List ErrorId}
    {blocks : List Text.Block}
    (found :
      List.Forall₂ (fun identity block => graph.block? .display identity = some block)
        identities blocks) :
    identities.map graph.message = blocks.map Text.Block.toText := by
  induction found with
  | nil =>
      rfl
  | cons first _ inductionHypothesis =>
      simp only [List.map_cons, message_of_block?_eq_some first, inductionHypothesis]

/-- A cause shows its message in its form, when it has no renderers. -/
theorem message_of_causeJson
    {graph : Graph}
    {link : Link}
    {causes : Except Json.Failure (List Json)}
    {item : Json}
    (unrendered :
      ∀ cause,
        graph.occurrence? link.target = some cause →
          cause.definition.template.isRendered = false)
    (rendered : graph.causeJson link causes = .ok item) :
    item.member? "message" = some (.text (graph.message link.target)) := by
  cases isOccurrence : graph.occurrence? link.target with
  | none =>
      simp only [causeJson, isOccurrence] at rendered
      obtain ⟨items, rfl, _⟩ := bind_eq_ok_iff.mp rendered
      rw [plainJson_ok] at rendered
      obtain rfl := Except.ok.inj rendered
      exact WireForm.get?_message _
  | some cause =>
      obtain ⟨unformatted, unmarshaled, _⟩ :=
        Template.isRendered_eq_false_iff.mp (unrendered cause isOccurrence)
      simp only [causeJson, isOccurrence, unmarshaled] at rendered
      obtain ⟨fields, fieldsRendered, further⟩ := bind_eq_ok_iff.mp rendered
      obtain ⟨items, rfl, _⟩ := bind_eq_ok_iff.mp further
      rw [occurrenceJson_ok fieldsRendered] at rendered
      obtain rfl := Except.ok.inj rendered
      rw [message_of_occurrence isOccurrence unformatted]
      exact WireForm.get?_message _

/-! ## Agreement -/

end Graph

/-- Whether the members of a log value are those that a form calls for. -/
structure Members.AgreesWith (log form : Members) : Prop where
  message :
    ∃ text,
      form.get? "message" = some (.text text) ∧ log.get? "message" = some (.text text)
  kind : log.get? "kind" = form.get? "kind"
  fields : log.get? "fields" = form.get? "fields"
  /-- The origin is the first frame of the call stack. -/
  origin :
    (form.get? "stack" = none ∧ log.get? "origin" = none) ∨
      ∃ first rest,
        form.get? "stack" = some (.array (first :: rest)) ∧ log.get? "origin" = some first
  /-- The causes are the messages of the causes, in their order. -/
  causes :
    (form.get? "causes" = none ∧ log.get? "causes" = none) ∨
      ∃ items messages,
        form.get? "causes" = some (.array items) ∧
          log.get? "causes" = some (.array messages) ∧
          List.Forall₂ (fun item message => item.member? "message" = some message) items messages

namespace Graph

/-- What the log value of an error shows: always the error itself, and what its form shows when
there is one. -/
structure LogShows
    (graph : Graph)
    (root : ErrorId)
    (error : Occurrence)
    (log : Members) :
    Prop where
  isSorted : log.IsSorted
  names : ∀ member ∈ log, member.1 ∈ LogForm.names
  message : log.get? "message" = some (.text error.message)
  kind :
    log.get? "kind" =
      if error.definition.kind.isUnset then none else some (.text error.definition.kind.label)
  origin : log.get? "origin" = error.stack.head?.map Frame.toJson
  causes :
    log.get? "causes" =
      if (graph.causes root).isEmpty then none
      else some (.array ((graph.causes root).map fun cause => .text (graph.message cause)))
  /-- When the messages of the causes end, they are the texts that the causes show. -/
  causeTexts :
    ∀ blocks,
      List.Forall₂ (fun cause block => graph.block? .display cause = some block)
          (graph.causes root) blocks →
        log.get? "causes" =
          if blocks.isEmpty then none
          else some (.array (blocks.map fun block => .text block.toText))
  agrees :
    ∀ form,
      graph.toJson root error = .ok form →
        ∃ members, form = .object members ∧ log.AgreesWith members
  /-- When a field does not render, there is no form, and a note takes the place of the fields. -/
  ownFailure :
    ∀ field ∈ error.definition.fields.entries, ∀ own,
      field.value.toJson = .error own →
        ∃ failure,
          graph.toJson root error = .error failure ∧
            log.get? "fields" = some (.text ("!ERROR: " ++ failure.text))
  /-- When only a cause does not render, the fields are shown. -/
  causeFailure :
    ∀ failure fields,
      graph.toJson root error = .error failure →
        error.definition.fields.toMembers = .ok fields →
        log.get? "fields" =
          if error.definition.fields.isEmpty then none else some (.object fields)

/-- The log value of what a form shows agrees with the form. -/
theorem agreesWith_sorted
    {graph : Graph}
    {error : Occurrence}
    {fields : Members}
    {items : List Json}
    (told :
      List.Forall₂
        (fun link item => Json.member? item "message" = some (.text (graph.message link.target)))
        (graph.occurrenceLinks error) items) :
    (LogForm.ofOccurrence graph error (.object fields)).sorted.AgreesWith
      (WireForm.ofOccurrence error fields items).sorted where
  message := ⟨error.message, by simp [WireForm.get?_sorted, WireForm.ofOccurrence],
    by simp [LogForm.get?_sorted, LogForm.ofOccurrence]⟩
  kind := by
    simp [WireForm.get?_sorted, WireForm.ofOccurrence, LogForm.get?_sorted, LogForm.ofOccurrence]
  fields := by
    cases none : error.definition.fields.isEmpty <;>
      simp [WireForm.get?_sorted, WireForm.ofOccurrence, LogForm.get?_sorted,
        LogForm.ofOccurrence, none]
  origin := by
    cases stack : error.stack with
    | nil =>
        simp [WireForm.get?_sorted, WireForm.ofOccurrence, LogForm.get?_sorted,
          LogForm.ofOccurrence, stack]
    | cons frame rest =>
        refine .inr ⟨frame.toJson, rest.map Frame.toJson, ?_, ?_⟩ <;>
          simp [WireForm.get?_sorted, WireForm.ofOccurrence, LogForm.get?_sorted,
            LogForm.ofOccurrence, stack, Stack.toJson]
  causes := by
    cases linked : graph.occurrenceLinks error with
    | nil =>
        rw [linked] at told
        cases told
        simp [WireForm.get?_sorted, WireForm.ofOccurrence, LogForm.get?_sorted,
          LogForm.ofOccurrence, linked]
    | cons link rest =>
        rw [linked] at told
        have some : items ≠ [] := by
          rintro rfl
          cases told
        refine .inr ⟨items, (link :: rest).map fun link => .text (graph.message link.target),
          ?_, ?_, ?_⟩
        · simp [WireForm.get?_sorted, WireForm.ofOccurrence, some]
        · simp [LogForm.get?_sorted, LogForm.ofOccurrence, linked]
        · exact List.forall₂_map_right_iff.mpr told.flip

/-- Fields that render are logged as their members. -/
theorem toJson_fieldsLog_of_ok
    {fields : Fields}
    {members : Members}
    (ordered : ∀ field ∈ fields.entries, field.value.IsOrdered)
    (rendered : fields.toMembers = .ok members) :
    (fieldsLog fields).toJson = .object members := by
  simpa [fieldsLog, rendered] using
    LogValue.toJson_ofJson (fields.isOrdered_of_toMembers ordered rendered)

/-- The forms of the direct causes show their messages. -/
theorem forall₂_message_of_causesJson
    {graph : Graph}
    {root : ErrorId}
    {error : Occurrence}
    (built : graph.IsBuilt)
    (found : graph.get? root = some (.occurrence error))
    (unrendered :
      ∀ cause ∈ graph.causes root, ∀ held,
        graph.occurrence? cause = some held → held.definition.template.isRendered = false)
    {items : List Json}
    (rendered : graph.causesJson (graph.causeTree root) = .ok items) :
    List.Forall₂
      (fun link item => Json.member? item "message" = some (.text (graph.message link.target)))
      (graph.occurrenceLinks error) items := by
  have isLinks := links_causeTree built found
  have isCause : ∀ branch ∈ (graph.causeTree root).branches,
      branch.link.target ∈ graph.causes root := by
    intro branch member
    have inLinks : branch.link ∈ graph.occurrenceLinks error :=
      isLinks ▸ List.mem_map_of_mem member
    simpa [causes, links, found] using ⟨branch.link, inLinks, rfl⟩
  have each := (List.forall₂_and_left _ _).mpr ⟨isCause, forall₂_of_causesJson rendered⟩
  rw [← isLinks]
  exact List.forall₂_map_left_iff.mpr
    (each.imp fun _ _ shown => message_of_causeJson (unrendered _ shown.1) shown.2)

/-- The log value of an error agrees with its form, and is there when the form is not. -/
theorem logValue_shows
    {graph : Graph}
    {root : ErrorId}
    {error : OrderedOccurrence}
    (built : graph.IsBuilt)
    (isOccurrence : graph.occurrence? root = some error.toOccurrence)
    (unrendered : error.definition.template.isRendered = false)
    (causesUnrendered :
      ∀ cause ∈ graph.causes root, ∀ held,
        graph.occurrence? cause = some held → held.definition.template.isRendered = false) :
    ∃ log,
      (graph.logValue error.toOccurrence).toJson = .object log ∧
        graph.LogShows root error.toOccurrence log := by
  have found := get?_of_occurrence?_eq_some isOccurrence
  obtain ⟨_, unmarshaled, unvalued⟩ := Template.isRendered_eq_false_iff.mp unrendered
  have isLog : (graph.logValue error.toOccurrence).toJson =
      .object
        (LogForm.ofOccurrence graph error.toOccurrence
          (fieldsLog error.definition.fields).toJson).sorted := by
    simpa [logValue, unvalued] using toJson_standardLog graph error.toOccurrence
  have shownCauses :
      (LogForm.ofOccurrence graph error.toOccurrence
            (fieldsLog error.definition.fields).toJson).sorted.get?
          "causes" =
        if (graph.causes root).isEmpty then none
        else some (.array ((graph.causes root).map fun cause => .text (graph.message cause))) := by
    simp [LogForm.get?_sorted, LogForm.ofOccurrence, Graph.causes, links, found,
      Function.comp_def]
  refine ⟨_, isLog, ?_⟩
  constructor
  case isSorted =>
    exact Members.isSorted_ofList _
  case names =>
    exact fun _ => LogForm.mem_names_of_mem_sorted
  case message =>
    simp [LogForm.get?_sorted, LogForm.ofOccurrence]
  case kind =>
    cases unset : error.definition.kind.isUnset <;>
      simp [LogForm.get?_sorted, LogForm.ofOccurrence, unset]
  case origin =>
    simp [LogForm.get?_sorted, LogForm.ofOccurrence]
  case causes =>
    exact shownCauses
  case causeTexts =>
    intro blocks shown
    have sameTexts := congrArg (List.map Json.text) (map_message_of_forall₂_block? shown)
    rw [List.map_map, List.map_map] at sameTexts
    have sameEmpty : (graph.causes root).isEmpty = blocks.isEmpty := by
      rw [Bool.eq_iff_iff, List.isEmpty_iff_length_eq_zero, List.isEmpty_iff_length_eq_zero,
        shown.length_eq]
    rw [shownCauses, sameEmpty]
    exact congrArg _ (congrArg _ (congrArg Json.array sameTexts))
  case agrees =>
    intro form rendered
    obtain ⟨fields, items, fieldsRendered, itemsRendered, rfl⟩ :=
      exists_form_of_toJson_eq_ok unmarshaled rendered
    rw [toJson_fieldsLog_of_ok error.ordered fieldsRendered]
    exact ⟨_, rfl, agreesWith_sorted
      (forall₂_message_of_causesJson built found causesUnrendered itemsRendered)⟩
  case ownFailure =>
    intro field member own fails
    obtain ⟨failure, fieldsFail⟩ := Fields.exists_toMembers_eq_error member fails
    have shown : error.definition.fields.isEmpty = false := by
      simpa [Fields.isEmpty] using List.ne_nil_of_mem member
    refine ⟨failure, ?_, ?_⟩
    · simp [toJson, unmarshaled, occurrenceJson, fieldsFail, bind, Except.bind]
    · simp [LogForm.get?_sorted, LogForm.ofOccurrence, shown, fieldsLog, fieldsFail,
        LogValue.toJson]
  case causeFailure =>
    intro failure fields _ fieldsRendered
    rw [toJson_fieldsLog_of_ok error.ordered fieldsRendered]
    simp [LogForm.get?_sorted, LogForm.ofOccurrence]

end Graph

/-- A program that joins a marker and an error. -/
def joiningProgram : Program :=
  .run .standard
    [.marker ⟨"Unit", "unit", "Unit"⟩,
      .declare ⟨"inner"⟩ [],
      .create 0 [⟨"read", "io.rs", 3⟩] "inner",
      .declare ⟨"outer"⟩ [.field Builtin.details (.details [("a", .text "1")])],
      .join 1 [⟨"main", "main.rs", 7⟩, ⟨"start", "main.rs", 1⟩] [⟨0⟩, ⟨1⟩]]

/-- Details of one text stand in order. -/
theorem Value.isOrdered_details_singleton
    (name content : String) :
    Value.IsOrdered (.details [(name, .text content)]) :=
  .object (List.pairwise_singleton _ _) (List.forall_mem_singleton.mpr (.text content))

/-- The error that the program ends with. -/
def joiningError : OrderedOccurrence where
  definition :=
    .declare .standard 1 ⟨"outer"⟩ [.field Builtin.details (.details [("a", .text "1")])]
  message := "unit\ninner"
  cause := .joined ⟨2⟩
  stack := [⟨"main", "main.rs", 7⟩, ⟨"start", "main.rs", 1⟩]
  ordered := List.forall_mem_singleton.mpr (Value.isOrdered_details_singleton "a" "1")

/-- An object of the kind of this error, with a cause that nothing claims. -/
def joinedForm : Json :=
  .object
    [("causes", .array [.object [("message", .text "gone")]]),
      ("fields", .object [("details", .object [("b", .text "2")])]),
      ("kind", .text "outer"),
      ("message", .text "read")]

/-- What becomes of the object after the program. -/
def joinedResult : ErrorId × Store :=
  joiningProgram.store.build <|
    .occurrence joiningError.definition [.field Builtin.details (.details [("b", .text "2")])]
      "read" [.unclaimed "gone" none []]

/-- The error that is read from the object. -/
def joinedError : OrderedOccurrence where
  definition :=
    (joiningProgram.store.derive joiningError.definition
      [.field Builtin.details (.details [("b", .text "2")])]).1
  message := "read"
  cause := .single ⟨4⟩ none
  stack := []
  ordered := List.forall_mem_singleton.mpr (Value.isOrdered_details_singleton "b" "2")

/-- The log values of a joined error and of one that was read after it show what they hold. -/
theorem logValue_shows_joiningError :
    joiningProgram.graph.IsBuilt ∧
      joiningProgram.graph.occurrence? ⟨3⟩ = some joiningError.toOccurrence ∧
      joiningProgram.graph.causes ⟨3⟩ = [⟨0⟩, ⟨1⟩] ∧
      (∃ log,
        (joiningProgram.graph.logValue joiningError.toOccurrence).toJson = .object log ∧
          joiningProgram.graph.LogShows ⟨3⟩ joiningError.toOccurrence log) ∧
      joiningProgram.store.decode ⟨[joiningError.definition], none⟩ joinedForm =
        .ok (⟨5⟩, joinedResult.2) ∧
      joinedResult.2.graph.occurrence? ⟨5⟩ = some joinedError.toOccurrence ∧
      joinedResult.2.graph.causes ⟨5⟩ = [⟨4⟩] ∧
      ∃ log,
        (joinedResult.2.graph.logValue joinedError.toOccurrence).toJson = .object log ∧
          joinedResult.2.graph.LogShows ⟨5⟩ joinedError.toOccurrence log := by
  have built : joiningProgram.graph.IsBuilt := Program.isBuilt_run _ _
  have isOccurrence : joiningProgram.graph.occurrence? ⟨3⟩ = some joiningError.toOccurrence := by
    cbv
  have isCause : joiningProgram.graph.causes ⟨3⟩ = [⟨0⟩, ⟨1⟩] := by
    cbv
  have decoded :
      joiningProgram.store.decode ⟨[joiningError.definition], none⟩ joinedForm =
        .ok (⟨5⟩, joinedResult.2) := by
    cbv
  have isRead : joinedResult.2.graph.occurrence? ⟨5⟩ = some joinedError.toOccurrence := by
    cbv
  have isGone : joinedResult.2.graph.causes ⟨5⟩ = [⟨4⟩] := by
    cbv
  refine ⟨built, isOccurrence, isCause, Graph.logValue_shows built isOccurrence rfl ?_,
    decoded, isRead, isGone,
    Graph.logValue_shows (Store.isBuilt_of_decode built decoded) isRead rfl ?_⟩
  · intro cause member held found
    rw [isCause] at member
    rcases List.mem_pair.mp member with rfl | rfl
    · have noOccurrence : joiningProgram.graph.occurrence? ⟨0⟩ = none := by
        cbv
      cases noOccurrence.symm.trans found
    · have isHeld :
          joiningProgram.graph.occurrence? ⟨1⟩ =
            some ⟨.declare .standard 0 ⟨"inner"⟩ [], "inner", .none, [⟨"read", "io.rs", 3⟩]⟩ := by
        cbv
      obtain rfl := Option.some.inj (isHeld.symm.trans found)
      rfl
  · intro cause member held found
    rw [isGone, List.mem_singleton] at member
    subst member
    have noOccurrence : joinedResult.2.graph.occurrence? ⟨4⟩ = none := by
      cbv
    cases noOccurrence.symm.trans found

end Fault
