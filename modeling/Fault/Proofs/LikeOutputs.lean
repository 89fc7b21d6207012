import Fault.Proofs.Likeness
import Fault.Proofs.TextSteps
import Fault.Render.Dump
import Fault.Render.Json
import Fault.Render.Log

/-!
# Errors that look alike are shown alike

In two graphs that look alike on a set of errors, every error of the set has the same outputs: the
same texts, also where a text never ends, the same JSON form or failure, the same log value, and the
same dumps of its links and of its tree. A text can show texts of other errors, but only of those
that the error exposes or that a tree leads to, and those belong to the set.
-/

namespace Fault

open Fault.Text (Block)

namespace Detailed

/-- Fields that look alike are listed in the same lines. -/
theorem fieldsLines_eq
    {first second : Fields}
    (alike : first.LooksLike second) :
    fieldsLines first = fieldsLines second := by
  have lines : first.entries.map fieldLines = second.entries.map fieldLines := by
    apply alike.map_eq
    intro field other fieldsAlike
    rw [fieldLines, fieldLines, fieldsAlike.text_eq]
  rw [fieldsLines, fieldsLines, alike.isEmpty_eq, List.flatMap_def, List.flatMap_def, lines]

/-- Occurrences that look alike have the same detailed text over the same entries. -/
theorem occurrence_eq
    {error other : Occurrence}
    (alike : error.LooksLike other)
    (entries : List Block)
    (truncated : Bool) :
    occurrence error entries truncated = occurrence other entries truncated := by
  have template := alike.definition.template
  have fields : fieldsLines error.definition.fields = fieldsLines other.definition.fields :=
    fieldsLines_eq template.fields
  have kind : error.definition.kind = other.definition.kind :=
    template.kind
  rw [occurrence, occurrence, alike.message, kind, fields, alike.stack]

end Detailed

namespace Graph.LooksLike

variable {inside : ErrorId → Prop} {first second : Graph}

/-! ## What renderers see -/

/-- A renderer sees the same of the occurrences of an identity. -/
theorem snapshot_eq
    (alike : first.LooksLike inside second)
    {identity : ErrorId}
    (member : inside identity)
    {error other : Occurrence}
    (found : first.get? identity = some (.occurrence error))
    (otherFound : second.get? identity = some (.occurrence other))
    (rendered : error.definition.template.isRendered = true) :
    first.snapshot error = second.snapshot other := by
  have occurrencesAlike := alike.looksLike_of_get? member found otherFound
  have kind : error.definition.kind = other.definition.kind :=
    occurrencesAlike.definition.template.kind
  have fields : error.definition.fields = other.definition.fields :=
    alike.fields_eq identity error other member found otherFound rendered
  rw [snapshot, snapshot, kind, occurrencesAlike.message, fields, occurrencesAlike.stack,
    alike.occurrenceLinks_eq member found otherFound]

/-! ## Texts -/

section

variable {text otherText : Verb → ErrorId → Option Block}

/-- The entries of a forest are the same when the texts of its errors are. -/
theorem entries_eq
    (alike : first.LooksLike inside second)
    (same : ∀ verb identity, inside identity → text verb identity = otherText verb identity)
    {forest : Forest}
    (members : ∀ identity ∈ forest.visits, inside identity) :
    first.entries text forest = second.entries otherText forest := by
  induction forest with
  | nil =>
      rfl
  | cut target rest inductionHypothesis =>
      exact inductionHypothesis members
  | node link reentered below rest belowHypothesis restHypothesis =>
      obtain ⟨member, belowMembers, restMembers⟩ := Forest.forall_mem_visits_node.mp members
      rw [entries, entries, restHypothesis restMembers, belowHypothesis belowMembers,
        same .display link.target member, same .alternate link.target member]
      rcases rel_iff.mp (alike.occurrence? member) with
        ⟨absent, otherAbsent⟩ | ⟨error, other, found, otherFound, occurrencesAlike⟩
      · rw [absent, otherAbsent]
      · rw [found, otherFound]
        simp only [occurrencesAlike.definition.template.formatter,
          Detailed.occurrence_eq occurrencesAlike]

/-- The standard text of an occurrence is the same when the texts of its causes are. -/
theorem standardText_eq
    (alike : first.LooksLike inside second)
    (same : ∀ verb identity, inside identity → text verb identity = otherText verb identity)
    {identity : ErrorId}
    (member : inside identity)
    {error other : Occurrence}
    (occurrencesAlike : error.LooksLike other)
    (verb : Verb) :
    first.standardText text identity error verb =
      second.standardText otherText identity other verb := by
  have nested :
      first.entries text (first.causeTree identity) =
        second.entries otherText (first.causeTree identity) :=
    alike.entries_eq same fun _ visited => alike.inside_of_mem_visits member visited
  cases verb with
  | display =>
      rw [standardText, standardText, occurrencesAlike.message]
  | alternate =>
      simp only [standardText, ← alike.causeTree_eq member, nested,
        Detailed.occurrence_eq occurrencesAlike]
  | debug =>
      simp only [standardText, ← alike.causeTree_eq member, nested,
        Detailed.occurrence_eq occurrencesAlike]

/-- The text of an occurrence is the same when the texts of its causes are. -/
theorem occurrenceText_eq
    (alike : first.LooksLike inside second)
    (same : ∀ verb identity, inside identity → text verb identity = otherText verb identity)
    {identity : ErrorId}
    (member : inside identity)
    {error other : Occurrence}
    (found : first.get? identity = some (.occurrence error))
    (otherFound : second.get? identity = some (.occurrence other))
    (verb : Verb) :
    first.occurrenceText text identity error verb =
      second.occurrenceText otherText identity other verb := by
  have occurrencesAlike := alike.looksLike_of_get? member found otherFound
  have standard := alike.standardText_eq same member occurrencesAlike
  unfold occurrenceText
  rw [← occurrencesAlike.definition.template.formatter]
  cases formatter : error.definition.template.formatter with
  | none =>
      exact standard verb
  | some format =>
      have rendered : error.definition.template.isRendered = true := by
        simp [Template.isRendered, formatter]
      simp only [alike.snapshot_eq member found otherFound rendered, standard]

/-- What is found for all members is the same when it is for each. -/
private theorem mapM_eq
    {find otherFind : ErrorId → Option Block}
    {members : List ErrorId}
    (same : ∀ identity ∈ members, find identity = otherFind identity) :
    members.mapM find = members.mapM otherFind := by
  induction members with
  | nil =>
      rfl
  | cons identity rest inductionHypothesis =>
      obtain ⟨head, others⟩ := List.forall_mem_cons.mp same
      rw [List.mapM_cons, List.mapM_cons, head, inductionHypothesis others]

/-- In any number of steps the same text is found in both graphs. -/
theorem text?_eq
    (alike : first.LooksLike inside second)
    (steps : Nat)
    (verb : Verb)
    {identity : ErrorId}
    (member : inside identity) :
    first.text? steps verb identity = second.text? steps verb identity := by
  induction steps generalizing verb identity with
  | zero =>
      rfl
  | succ steps inductionHypothesis =>
      have same :
          ∀ verb identity,
            inside identity → first.text? steps verb identity = second.text? steps verb identity :=
        fun verb _ => inductionHypothesis verb
      rcases alike.get?_cases member with
        ⟨absent, otherAbsent⟩ | ⟨error, other, found, otherFound, _⟩ |
          ⟨node, found, otherFound, plain⟩
      · rw [text?, text?, absent, otherAbsent]
      · rw [text?, text?, found, otherFound]
        exact alike.occurrenceText_eq same member found otherFound verb
      · have shown : ∀ other ∈ node.exposed, inside other :=
          fun other => alike.closed identity node other member found
        rw [text?, text?, found, otherFound]
        cases node with
        | occurrence error =>
            simp [Node.occurrence?] at plain
        | joined members =>
            have gatheredSame :
                members.mapM (first.text? steps .display) =
                  members.mapM (second.text? steps .display) :=
              mapM_eq fun other gathered => same .display other (shown other gathered)
            simp only [joinedText, gatheredSame]
        | recovered panic =>
            rfl
        | unclaimed cause =>
            cases verb with
            | debug =>
                cases source : cause.cause with
                | none =>
                    simp only [unclaimedText, source]
                | some inner =>
                    have innerSame :=
                      same .debug inner (shown inner (by simp [Node.exposed, source]))
                    simp only [unclaimedText, source, innerSame]
            | display =>
                rfl
            | alternate =>
                rfl
        | foreign error =>
            simp only [foreignText]
            congr 1
            apply List.map_congr_left
            intro piece pieceMember
            cases piece with
            | text content =>
                rfl
            | error other inner =>
                exact same other inner (shown inner (ForeignPiece.mem_exposed pieceMember))
        | marker error =>
            rfl

end

/-- Texts are the same, and end in one graph exactly when they do in the other. -/
theorem block?_eq
    (alike : first.LooksLike inside second)
    (verb : Verb)
    {identity : ErrorId}
    (member : inside identity) :
    first.block? verb identity = second.block? verb identity := by
  apply Option.ext
  intro block
  simp only [block?_eq_some_iff, alike.text?_eq _ verb member]

/-- The messages of errors are the same in both graphs. -/
theorem message_eq
    (alike : first.LooksLike inside second)
    {identity : ErrorId}
    (member : inside identity) :
    first.message identity = second.message identity := by
  rw [message, message, text, text, alike.block?_eq .display member]

/-! ## JSON forms -/

/-- Occurrences that look alike have the same form over the same causes. -/
theorem occurrenceJson_eq
    {error other : Occurrence}
    (occurrencesAlike : error.LooksLike other)
    (causes : Except Json.Failure (List Json)) :
    occurrenceJson error causes = occurrenceJson other causes := by
  have template := occurrencesAlike.definition.template
  have members : error.definition.fields.toMembers = other.definition.fields.toMembers :=
    template.fields.toMembers_eq
  have isEmpty : error.definition.fields.isEmpty = other.definition.fields.isEmpty :=
    template.fields.isEmpty_eq
  have kind : error.definition.kind = other.definition.kind :=
    template.kind
  simp only [occurrenceJson, members, isEmpty, kind, occurrencesAlike.message,
    occurrencesAlike.stack]

/-- The type that a link shows is the same in both graphs. -/
theorem shownType_eq
    (alike : first.LooksLike inside second)
    {link : Link}
    (member : inside link.target) :
    first.shownType link = second.shownType link := by
  unfold shownType
  rcases alike.get?_cases member with
    ⟨absent, otherAbsent⟩ | ⟨error, other, found, otherFound, _⟩ | ⟨node, found, otherFound, _⟩
  · rw [absent, otherAbsent]
  · rw [found, otherFound]
  · rw [found, otherFound]

/-- The form of a cause is the same in both graphs. -/
theorem causeJson_eq
    (alike : first.LooksLike inside second)
    {link : Link}
    (member : inside link.target)
    (causes : Except Json.Failure (List Json)) :
    first.causeJson link causes = second.causeJson link causes := by
  unfold causeJson
  rcases alike.get?_cases member with
    ⟨absent, otherAbsent⟩ | ⟨error, other, found, otherFound, occurrencesAlike⟩ |
      ⟨node, found, otherFound, plain⟩
  · simp only [Graph.occurrence?, absent, otherAbsent, Option.bind_none, plainJson,
      alike.message_eq member, alike.shownType_eq member]
  · simp only [Graph.occurrence?, found, otherFound, Option.bind_some, Node.occurrence?,
      ← occurrencesAlike.definition.template.marshaler]
    cases marshaler : error.definition.template.marshaler with
    | none =>
        exact occurrenceJson_eq occurrencesAlike causes
    | some marshal =>
        have rendered : error.definition.template.isRendered = true := by
          simp [Template.isRendered, marshaler]
        exact congrArg marshal (alike.snapshot_eq member found otherFound rendered)
  · simp only [Graph.occurrence?, found, otherFound, Option.bind_some, plain, plainJson,
      alike.message_eq member, alike.shownType_eq member]

/-- The forms of a forest are the same in both graphs. -/
theorem causesJson_eq
    (alike : first.LooksLike inside second)
    {forest : Forest}
    (members : ∀ identity ∈ forest.visits, inside identity) :
    first.causesJson forest = second.causesJson forest := by
  induction forest with
  | nil =>
      rfl
  | cut target rest inductionHypothesis =>
      exact inductionHypothesis members
  | node link reentered below rest belowHypothesis restHypothesis =>
      obtain ⟨member, belowMembers, restMembers⟩ := Forest.forall_mem_visits_node.mp members
      rw [causesJson, causesJson, belowHypothesis belowMembers, restHypothesis restMembers,
        alike.causeJson_eq member]

/-- The form of an error is the same in both graphs. -/
theorem toJson_eq
    (alike : first.LooksLike inside second)
    {identity : ErrorId}
    (member : inside identity)
    {error other : Occurrence}
    (found : first.get? identity = some (.occurrence error))
    (otherFound : second.get? identity = some (.occurrence other)) :
    first.toJson identity error = second.toJson identity other := by
  have occurrencesAlike := alike.looksLike_of_get? member found otherFound
  have causes :
      first.causesJson (first.causeTree identity) =
        second.causesJson (second.causeTree identity) := by
    rw [← alike.causeTree_eq member]
    exact alike.causesJson_eq fun _ visited => alike.inside_of_mem_visits member visited
  unfold toJson
  rw [← occurrencesAlike.definition.template.marshaler, causes]
  cases marshaler : error.definition.template.marshaler with
  | none =>
      exact occurrenceJson_eq occurrencesAlike _
  | some marshal =>
      have rendered : error.definition.template.isRendered = true := by
        simp [Template.isRendered, marshaler]
      exact congrArg marshal (alike.snapshot_eq member found otherFound rendered)

/-! ## Log values -/

/-- The log value of an error is the same in both graphs. -/
theorem logValue_eq
    (alike : first.LooksLike inside second)
    {identity : ErrorId}
    (member : inside identity)
    {error other : Occurrence}
    (found : first.get? identity = some (.occurrence error))
    (otherFound : second.get? identity = some (.occurrence other)) :
    first.logValue error = second.logValue other := by
  have occurrencesAlike := alike.looksLike_of_get? member found otherFound
  have template := occurrencesAlike.definition.template
  unfold logValue
  rw [← template.logValuer]
  cases logValuer : error.definition.template.logValuer with
  | some value =>
      have rendered : error.definition.template.isRendered = true := by
        simp [Template.isRendered, logValuer]
      exact congrArg value (alike.snapshot_eq member found otherFound rendered)
  | none =>
      have links : first.links identity = first.occurrenceLinks error := by
        simp [Graph.links, found]
      have causesInside :
          ∀ cause ∈ (first.occurrenceLinks error).map Link.target, inside cause := by
        rw [← links]
        exact fun cause linked => alike.inside_of_linksTo member linked
      have messages :
          ((first.occurrenceLinks error).map Link.target).map
              (fun cause => LogValue.text (first.message cause)) =
            ((first.occurrenceLinks error).map Link.target).map
              fun cause => LogValue.text (second.message cause) := by
        apply List.map_congr_left
        intro cause isCause
        rw [alike.message_eq (causesInside cause isCause)]
      have kind : error.definition.kind = other.definition.kind :=
        template.kind
      have isEmpty : error.definition.fields.isEmpty = other.definition.fields.isEmpty :=
        template.fields.isEmpty_eq
      have fields : fieldsLog error.definition.fields = fieldsLog other.definition.fields := by
        have members : error.definition.fields.toMembers = other.definition.fields.toMembers :=
          template.fields.toMembers_eq
        rw [fieldsLog, fieldsLog, members]
      simp only [standardLog, kind, isEmpty, fields, occurrencesAlike.message,
        occurrencesAlike.stack, messages,
        ← alike.occurrenceLinks_eq member found otherFound]

/-- The severity of an error is the same in both graphs. -/
theorem severity_eq
    (alike : first.LooksLike inside second)
    {identity : ErrorId}
    (member : inside identity) :
    first.severity identity = second.severity identity := by
  unfold severity
  rcases rel_iff.mp (alike.read? member Builtin.logLevel) with
    ⟨absent, otherAbsent⟩ | ⟨value, other, found, otherFound, valuesAlike⟩
  · rw [absent, otherAbsent]
  · rw [found, otherFound]
    cases valuesAlike <;> rfl

/-! ## Dumps -/

/-- The links of an error are dumped alike in both graphs. -/
theorem linksDump_eq
    (alike : first.LooksLike inside second)
    {identity : ErrorId}
    (member : inside identity) :
    first.linksDump identity = second.linksDump identity := by
  rw [linksDump, linksDump, ← alike.links_eq member]
  congr 1
  apply List.map_congr_left
  intro link linked
  have target : inside link.target :=
    alike.inside_of_linksTo member (linksTo_of_mem_links linked)
  rw [linkDump, linkDump, alike.message_eq target]

/-- The nodes of a tree are dumped alike in both graphs. -/
theorem nodeDumps_eq
    (alike : first.LooksLike inside second)
    {forest : Forest}
    (members : ∀ identity ∈ forest.visits, inside identity) :
    first.nodeDumps forest = second.nodeDumps forest := by
  induction forest with
  | nil =>
      rfl
  | cut target rest inductionHypothesis =>
      exact inductionHypothesis members
  | node link reentered below rest belowHypothesis restHypothesis =>
      obtain ⟨member, belowMembers, restMembers⟩ := Forest.forall_mem_visits_node.mp members
      rw [nodeDumps, nodeDumps, belowHypothesis belowMembers, restHypothesis restMembers, nodeDump,
        nodeDump, alike.message_eq member]

end Graph.LooksLike

/-! ## All outputs -/

/-- Whether an error has the same outputs in two graphs. -/
structure Graph.SameOutputs
    (first second : Graph)
    (error : ErrorId) :
    Prop where
  chain : first.chain error = second.chain error
  causes : first.causes error = second.causes error
  source : first.source? error = second.source? error
  /-- The tree of causes, with all its flags. -/
  tree : first.causeTree error = second.causeTree error
  /-- The texts; there is none where a text never ends. -/
  text : ∀ verb, first.block? verb error = second.block? verb error
  /-- The JSON form, or the failure to render it. -/
  json :
    (first.occurrence? error).map (first.toJson error) =
      (second.occurrence? error).map (second.toJson error)
  jsonText :
    (first.occurrence? error).map (first.toJsonText error) =
      (second.occurrence? error).map (second.toJsonText error)
  logValue :
    (first.occurrence? error).map first.logValue = (second.occurrence? error).map second.logValue
  /-- The event that reports the error, with the text of its log value. -/
  event :
    (first.occurrence? error).map (fun found => first.event found (first.severity error)) =
      (second.occurrence? error).map fun found => second.event found (second.severity error)
  linksDump : first.linksDump error = second.linksDump error
  treeDump :
    first.forestDump (first.causeTree error) = second.forestDump (second.causeTree error)
  claims : ∀ definition : Definition, definition.claims first error = definition.claims second error
  origin : ∀ resolver : Resolver, resolver.origin? first error = resolver.origin? second error

/-- In graphs that look alike on a set of errors, the errors of the set have the same outputs. -/
theorem Graph.LooksLike.sameOutputs
    {inside : ErrorId → Prop}
    {first second : Graph}
    (alike : first.LooksLike inside second)
    {error : ErrorId}
    (member : inside error) :
    first.SameOutputs second error := by
  have tree := alike.causeTree_eq member
  -- The outputs of occurrences are there in both graphs or in none.
  have outputs :
      ∀ {α : Type} (output otherOutput : Occurrence → α),
        (∀ found other,
          first.get? error = some (.occurrence found) →
          second.get? error = some (.occurrence other) →
          output found = otherOutput other) →
        (first.occurrence? error).map output = (second.occurrence? error).map otherOutput := by
    intro α output otherOutput same
    rcases rel_iff.mp (alike.occurrence? member) with
      ⟨absent, otherAbsent⟩ | ⟨found, other, present, otherPresent, _⟩
    · rw [absent, otherAbsent]
      rfl
    · have sameOutput :=
        same found other (get?_of_occurrence?_eq_some present)
          (get?_of_occurrence?_eq_some otherPresent)
      rw [present, otherPresent, Option.map_some, Option.map_some, sameOutput]
  have json :
      ∀ found other,
        first.get? error = some (.occurrence found) →
        second.get? error = some (.occurrence other) →
        first.toJson error found = second.toJson error other :=
    fun found other => alike.toJson_eq member
  refine
    { chain := alike.chain_eq member, causes := alike.causes_eq member
      source := alike.source?_eq member, tree := tree
      text := fun verb => alike.block?_eq verb member, json := outputs _ _ json
      jsonText := outputs _ _ ?_, logValue := outputs _ _ ?_, event := outputs _ _ ?_
      linksDump := alike.linksDump_eq member, treeDump := ?_
      claims := alike.claims_eq member, origin := alike.origin?_eq member }
  · intro found other present otherPresent
    rw [toJsonText, toJsonText, json found other present otherPresent]
  · intro found other present otherPresent
    exact alike.logValue_eq member present otherPresent
  · intro found other present otherPresent
    have occurrencesAlike := alike.looksLike_of_get? member present otherPresent
    have kind : found.definition.kind = other.definition.kind :=
      occurrencesAlike.definition.template.kind
    rw [event, event, alike.logValue_eq member present otherPresent, kind,
      occurrencesAlike.message, alike.severity_eq member]
  · rw [forestDump, forestDump, ← tree]
    rw [alike.nodeDumps_eq fun _ visited => alike.inside_of_mem_visits member visited]

end Fault
