import Fault.Proofs.SharedTrees
import Fault.Proofs.TextSteps
import Fault.Proofs.WireForm

/-!
# Renderings inside renderings

An error that stands among the causes of another one is shown there as it is shown alone: its
detailed text stands line by line behind the label of its place, and its JSON form is an element of
the array of causes. The trees that the two are rendered from are built on different paths; where no
cycle is reached they are the same tree.
-/

namespace Fault

open Fault.Text (Block)

/-! ## The section of causes stands as it is -/

/-- A text with a visible character has something left when its end is trimmed. -/
theorem Text.trimEnd_ne_nil
    {text : List Char}
    {character : Char}
    (member : character ∈ text)
    (visible : isBlank character = false) :
    trimEnd text ≠ [] := by
  have kept : text.reverse.dropWhile isBlank ≠ [] := by
    intro dropped
    have blank := List.dropWhile_eq_nil_iff.mp dropped character (List.mem_reverse.mpr member)
    simp [visible] at blank
  simpa [trimEnd] using kept

/-- Nothing is dropped from a block that ends in lines with something on them. -/
theorem Text.Block.dropEmptyEnd_append
    (front : Block)
    {last : Block}
    (nonempty : last ≠ [])
    (filled : ∀ line ∈ last, line ≠ []) :
    dropEmptyEnd (front ++ last) = front ++ last := by
  obtain ⟨others, line, rfl⟩ := (List.eq_nil_or_concat' last).resolve_left nonempty
  have isFilled : line.isEmpty = false := by
    simpa using filled line (by simp)
  simp [dropEmptyEnd, isFilled]

/-- Indented lines have something on them when label and padding have. -/
theorem Text.Block.ne_nil_of_mem_indent
    {label padding : List Char}
    {character : Char}
    {block : Block}
    {line : List Char}
    (labelled : character ∈ label)
    (visible : isBlank character = false)
    (padded : padding ≠ [])
    (member : line ∈ indent label padding block) :
    line ≠ [] := by
  have nonempty : label ≠ [] :=
    List.ne_nil_of_mem labelled
  unfold indent at member
  split at member
  · rw [List.mem_singleton.mp member]
    exact trimEnd_ne_nil labelled visible
  · rcases List.mem_cons.mp member with isFirst | later
    · simp [isFirst, nonempty]
    · obtain ⟨rest, _, rfl⟩ := List.mem_map.mp later
      simp [padded]

namespace Detailed

/-- No line of an entry is empty. -/
theorem ne_nil_of_mem_entriesLines
    {number : Nat}
    {entries : List Block}
    {line : List Char}
    (member : line ∈ entriesLines number entries) :
    line ≠ [] := by
  induction entries generalizing number with
  | nil =>
      simp [entriesLines] at member
  | cons entry rest inductionHypothesis =>
      have bracket : '[' ∈ label number := by
        simp [label]
      have padded : List.replicate (label number).length ' ' ≠ [] := by
        simp [label]
      rcases List.mem_append.mp member with own | inRest
      · exact Text.Block.ne_nil_of_mem_indent bracket (by decide) padded own
      · exact inductionHypothesis inRest

/-- The lines of a cause at its place in a list of causes. -/
theorem entriesLines_eq_append
    {entries : List Block}
    {index : Nat}
    {entry : Block}
    (number : Nat)
    (placed : entries[index]? = some entry) :
    entriesLines number entries =
      entriesLines number (entries.take index) ++
        Block.indent (label (number + index))
          (List.replicate (label (number + index)).length ' ') entry ++
        entriesLines (number + index + 1) (entries.drop (index + 1)) := by
  induction entries generalizing number index with
  | nil =>
      simp at placed
  | cons first rest inductionHypothesis =>
      cases index with
      | zero =>
          obtain rfl : first = entry := by
            simpa using placed
          simp [entriesLines]
      | succ index =>
          have later := inductionHypothesis (number + 1) (by simpa using placed)
          have sameNumber : number + 1 + index = number + (index + 1) := by
            omega
          simp [entriesLines, later, sameNumber]

/-- The lines of a detailed text before the causes: the message and, when there are causes, the
sections above theirs. -/
def opening (error : Occurrence) : Block :=
  Block.ofString error.message ++
    separator ::
      (kindLines error.definition.kind ++ fieldsLines error.definition.fields ++
        stackLines error.stack)

/-- A detailed text with causes is its opening and the lines of the causes, of which none is
dropped. -/
theorem occurrence_eq_opening_append
    (error : Occurrence)
    {entries : List Block}
    (nonempty : entries ≠ []) :
    occurrence error entries false =
      opening error ++ causesHeadline entries.length false :: entriesLines 1 entries := by
  have filled :
      ∀ line ∈ causesHeadline entries.length false :: entriesLines 1 entries, line ≠ [] := by
    have headline : causesHeadline entries.length false ≠ [] := by
      simp [causesHeadline]
    exact List.forall_mem_cons.mpr ⟨headline, fun _ => ne_nil_of_mem_entriesLines⟩
  have shown : causesLines entries false =
      causesHeadline entries.length false :: entriesLines 1 entries := by
    simp [causesLines, nonempty]
  simp only [occurrence, withSections, shown,
    Block.dropEmptyEnd_append _ (List.cons_ne_nil _ _) filled]
  simp [opening]

end Detailed

/-! ## Forms at a path of places -/

/-- The form at a path of places: from each form to one of its causes. -/
def Json.causeAt? : Json → List Nat → Option Json
  | form, [] => some form
  | form, index :: path =>
      (((form.member? "causes").bind Json.array?).bind fun items => items[index]?).bind
        fun cause => causeAt? cause path

/-- The causes that are found in a form are those that it was made of. -/
theorem WireForm.causeAt?_sorted
    (form : WireForm)
    (index : Nat)
    (path : List Nat) :
    (Json.object form.sorted).causeAt? (index :: path) =
      form.causes[index]?.bind fun cause => cause.causeAt? path := by
  have stated : form.sorted.get? "causes" =
      if form.causes.isEmpty then none else some (.array form.causes) :=
    form.get?_sorted "causes"
  simp only [Json.causeAt?, Json.member?, Json.members?, Option.bind_some, stated]
  cases form.causes with
  | nil =>
      rfl
  | cons first others =>
      rfl

/-! ## Texts of causes -/

namespace Graph

/-- Entries are found when the first cause has one and the others have theirs. -/
theorem entries_node_eq_some_iff
    {graph : Graph}
    {text : Verb → ErrorId → Option Block}
    {link : Link}
    {reentered : Bool}
    {below rest : Forest}
    {entries : List Block} :
    graph.entries text (.node link reentered below rest) = some entries ↔
      ∃ first others,
        graph.entries text (.node link reentered below .nil) = some [first] ∧
          graph.entries text rest = some others ∧
          entries = first :: others := by
  simp only [Graph.entries, Option.bind_eq_some_iff, Option.map_eq_some_iff, Option.some.injEq]
  constructor
  · rintro ⟨first, entry, others, restFound, rfl⟩
    exact ⟨first, others, ⟨first, entry, [], rfl, rfl⟩, restFound, rfl⟩
  · rintro ⟨first, others, ⟨_, entry, _, rfl, same⟩, restFound, rfl⟩
    cases same
    exact ⟨first, entry, others, restFound, rfl⟩

/-- The entries of a list of causes are those of its links, each above the tree of its error. -/
theorem forall₂_of_entries_treeOver
    {graph : Graph}
    {text : Verb → ErrorId → Option Block}
    {links : List Link}
    {entries : List Block}
    (found : graph.entries text (graph.treeOver links) = some entries) :
    List.Forall₂ (fun link entry => graph.entries text (graph.treeOver [link]) = some [entry])
      links entries := by
  induction links generalizing entries with
  | nil =>
      cases found
      exact .nil
  | cons link rest inductionHypothesis =>
      obtain ⟨first, others, entry, restFound, rfl⟩ := entries_node_eq_some_iff.mp found
      exact .cons entry (inductionHypothesis restFound)

/-- The steps that are allowed are enough: one more finds the same. -/
theorem text?_textDepth_succ
    (graph : Graph)
    (verb : Verb)
    (identity : ErrorId) :
    graph.text? (graph.textDepth + 1) verb identity = graph.block? verb identity := by
  ext block
  constructor
  · intro found
    exact block?_eq_some_iff.mpr ⟨_, found⟩
  · intro found
    exact text?_of_le (Nat.le_succ _) found

/-- The text of an occurrence is made of texts that are found the same way. -/
theorem block?_of_occurrence
    {graph : Graph}
    {identity : ErrorId}
    {error : Occurrence}
    (isOccurrence : graph.occurrence? identity = some error)
    (verb : Verb) :
    graph.block? verb identity = graph.occurrenceText graph.block? identity error verb := by
  have node := get?_of_occurrence?_eq_some isOccurrence
  calc
    graph.block? verb identity
    _ = graph.text? (graph.textDepth + 1) verb identity :=
        (graph.text?_textDepth_succ verb identity).symm
    _ = graph.occurrenceText graph.block? identity error verb := by
        simp only [text?, node]
        rfl

/-- The detailed text of an occurrence without a formatter is made of the entries of its causes. -/
theorem block?_of_occurrence_of_not_formatted
    {graph : Graph}
    {identity : ErrorId}
    {error : Occurrence}
    (isOccurrence : graph.occurrence? identity = some error)
    (unformatted : error.definition.template.formatter = none) :
    graph.block? .alternate identity =
      (graph.entries graph.block? (graph.causeTree identity)).map fun entries =>
        Detailed.occurrence error entries (graph.causeTree identity).isTruncated := by
  simp [block?_of_occurrence isOccurrence, occurrenceText, unformatted, standardText]

/-- An occurrence is shown among the causes of an error by its own detailed text. -/
theorem block?_of_entries_treeOver
    {graph : Graph}
    {link : Link}
    {error : Occurrence}
    {entry : Block}
    (isOccurrence : graph.occurrence? link.target = some error)
    (found : graph.entries graph.block? (graph.treeOver [link]) = some [entry]) :
    graph.block? .alternate link.target = some entry := by
  simp only [treeOver, Graph.entries, isOccurrence, Option.bind_eq_some_iff,
    Option.map_eq_some_iff, Option.some.injEq] at found
  obtain ⟨_, shown, _, rfl, same⟩ := found
  cases same
  cases formatter : error.definition.template.formatter with
  | some format =>
      simpa [formatter] using shown
  | none =>
      rw [block?_of_occurrence_of_not_formatted isOccurrence formatter]
      simpa [formatter] using shown

/-! ## Forms of causes -/

/-- Each cause of a list has a form of its own. -/
theorem forall₂_of_causesJson
    {graph : Graph}
    {forest : Forest}
    {items : List Json}
    (rendered : graph.causesJson forest = .ok items) :
    List.Forall₂
      (fun branch item =>
        graph.causeJson branch.link (graph.causesJson branch.below) = .ok item)
      forest.branches items := by
  induction forest generalizing items with
  | nil =>
      cases rendered
      exact .nil
  | cut target rest inductionHypothesis =>
      exact inductionHypothesis rendered
  | node link reentered below rest _ restHypothesis =>
      obtain ⟨item, own, others⟩ := bind_eq_ok_iff.mp rendered
      obtain ⟨later, restRendered, same⟩ := bind_eq_ok_iff.mp others
      cases same
      exact .cons own (restHypothesis restRendered)

/-- The form of an occurrence among causes is its own form. -/
theorem causeJson_of_occurrence
    {graph : Graph}
    {link : Link}
    {error : Occurrence}
    (isOccurrence : graph.occurrence? link.target = some error) :
    graph.causeJson link (graph.causesJson (graph.causeTree link.target)) =
      graph.toJson link.target error := by
  simp [causeJson, toJson, isOccurrence]

/-- The form of an occurrence is made of its fields and of the forms of its causes. -/
theorem exists_form_of_toJson_eq_ok
    {graph : Graph}
    {identity : ErrorId}
    {error : Occurrence}
    {form : Json}
    (noMarshaler : error.definition.template.marshaler = none)
    (rendered : graph.toJson identity error = .ok form) :
    ∃ fields items,
      error.definition.fields.toMembers = .ok fields ∧
        graph.causesJson (graph.causeTree identity) = .ok items ∧
        form = .object (WireForm.ofOccurrence error fields items).sorted := by
  simp only [toJson, noMarshaler] at rendered
  have parts := rendered
  obtain ⟨fields, fieldsRendered, further⟩ := bind_eq_ok_iff.mp parts
  obtain ⟨items, itemsRendered, _⟩ := bind_eq_ok_iff.mp further
  rw [itemsRendered, occurrenceJson_ok fieldsRendered] at rendered
  exact ⟨fields, items, fieldsRendered, itemsRendered, (Except.ok.inj rendered).symm⟩

/-! ## Renderings at a path of places -/

/-- Whether a path of places leads from an error to an occurrence, over occurrences that have
neither a formatter nor a marshaler. -/
inductive LeadsTo (graph : Graph) : ErrorId → List Nat → ErrorId → Prop where
  | here
      {identity : ErrorId}
      {error : Occurrence} :
      graph.occurrence? identity = some error →
      graph.LeadsTo identity [] identity
  | through
      {identity cause last : ErrorId}
      {error : Occurrence}
      {index : Nat}
      {path : List Nat} :
      graph.occurrence? identity = some error →
      error.definition.template.formatter = none →
      error.definition.template.marshaler = none →
      (graph.causes identity)[index]? = some cause →
      graph.LeadsTo cause path last →
      graph.LeadsTo identity (index :: path) last

/-- A path of places starts at an occurrence. -/
theorem LeadsTo.exists_occurrence
    {graph : Graph}
    {identity last : ErrorId}
    {path : List Nat}
    (leads : graph.LeadsTo identity path last) :
    ∃ error, graph.occurrence? identity = some error := by
  cases leads with
  | here isOccurrence =>
      exact ⟨_, isOccurrence⟩
  | through isOccurrence =>
      exact ⟨_, isOccurrence⟩

/-- Whether a text of an error shows another text at a path of places. A cause is shown behind the
opening of the error, below as many causes as its place tells, with a label before its first line
and padding before every other one. -/
inductive ShowsAt (graph : Graph) : ErrorId → Block → List Nat → Block → Prop where
  | whole
      {identity : ErrorId}
      {shown : Block} :
      graph.ShowsAt identity shown [] shown
  | cause
      {identity cause : ErrorId}
      {error : Occurrence}
      {entries : List Block}
      {entry own : Block}
      {index : Nat}
      {path : List Nat} :
      graph.occurrence? identity = some error →
      entries.length = (graph.causes identity).length →
      (graph.causes identity)[index]? = some cause →
      entries[index]? = some entry →
      graph.ShowsAt cause entry path own →
      graph.ShowsAt identity
        (Detailed.opening error ++
          Detailed.causesHeadline entries.length false ::
            (Detailed.entriesLines 1 (entries.take index) ++
              Block.indent (Detailed.label (1 + index))
                (List.replicate (Detailed.label (1 + index)).length ' ') entry ++
              Detailed.entriesLines (1 + index + 1) (entries.drop (index + 1))))
        (index :: path) own

/-- A direct cause is the target of the link at its place. -/
theorem exists_link_of_getElem?_causes
    {graph : Graph}
    {identity cause : ErrorId}
    {index : Nat}
    (placed : (graph.causes identity)[index]? = some cause) :
    ∃ link,
      (graph.links identity)[index]? = some link ∧
        link ∈ graph.links identity ∧
        link.target = cause := by
  obtain ⟨link, isLink, leads⟩ :=
    Option.map_eq_some_iff.mp (List.getElem?_map.symm.trans placed)
  exact ⟨link, isLink, List.mem_of_getElem? isLink, leads⟩

/-- The text of an error shows each of its causes that is an occurrence by the text of the cause. -/
theorem showsAt_of_block?_eq_some
    {graph : Graph}
    {identity cause : ErrorId}
    {error causeError : Occurrence}
    {index : Nat}
    {shown : Block}
    (isOccurrence : graph.occurrence? identity = some error)
    (unformatted : error.definition.template.formatter = none)
    (noCycle : graph.ReachesNoCycle identity)
    (placed : (graph.causes identity)[index]? = some cause)
    (causeIsOccurrence : graph.occurrence? cause = some causeError)
    (found : graph.block? .alternate identity = some shown) :
    ∃ entry,
      graph.block? .alternate cause = some entry ∧
        ∀ path own,
          graph.ShowsAt cause entry path own →
            graph.ShowsAt identity shown (index :: path) own := by
  obtain ⟨link, isLink, member, rfl⟩ := exists_link_of_getElem?_causes placed
  rw [block?_of_occurrence_of_not_formatted isOccurrence unformatted,
    causeTree_eq_treeOver noCycle, isTruncated_treeOver] at found
  obtain ⟨entries, entriesFound, rfl⟩ := Option.map_eq_some_iff.mp found
  have all := forall₂_of_entries_treeOver entriesFound
  obtain ⟨entry, isEntry, ownEntry⟩ := exists_getElem?_of_forall₂ all isLink
  have nonempty : entries ≠ [] :=
    List.ne_nil_of_mem (List.mem_of_getElem? isEntry)
  have sameLength : entries.length = (graph.causes identity).length := by
    simp [causes, all.length_eq]
  refine ⟨entry, block?_of_entries_treeOver causeIsOccurrence ownEntry, ?_⟩
  intro path own shows
  rw [Detailed.occurrence_eq_opening_append error nonempty,
    Detailed.entriesLines_eq_append 1 isEntry]
  exact .cause isOccurrence sameLength placed isEntry shows

/-- The form of an error holds the form of each of its causes that is an occurrence. -/
theorem exists_form_of_cause
    {graph : Graph}
    {identity cause : ErrorId}
    {error causeError : Occurrence}
    {index : Nat}
    {form : Json}
    (noMarshaler : error.definition.template.marshaler = none)
    (noCycle : graph.ReachesNoCycle identity)
    (placed : (graph.causes identity)[index]? = some cause)
    (causeIsOccurrence : graph.occurrence? cause = some causeError)
    (rendered : graph.toJson identity error = .ok form) :
    ∃ item,
      graph.toJson cause causeError = .ok item ∧
        ∀ path, form.causeAt? (index :: path) = item.causeAt? path := by
  obtain ⟨link, isLink, member, rfl⟩ := exists_link_of_getElem?_causes placed
  obtain ⟨fields, items, _, itemsRendered, rfl⟩ :=
    exists_form_of_toJson_eq_ok noMarshaler rendered
  rw [causeTree_eq_treeOver noCycle] at itemsRendered
  have each := forall₂_of_causesJson itemsRendered
  rw [branches_treeOver, List.forall₂_map_left_iff] at each
  obtain ⟨item, isItem, ownItem⟩ := exists_getElem?_of_forall₂ each isLink
  refine ⟨item, causeJson_of_occurrence causeIsOccurrence ▸ ownItem, ?_⟩
  intro path
  simp [WireForm.causeAt?_sorted, WireForm.ofOccurrence, isItem]

/-- Where no cycle is reached, every occurrence that a path of places leads to is shown there as it
is shown alone: by its own detailed text, line by line, and by its own JSON form. -/
theorem embedded_agrees
    {graph : Graph}
    {start last : ErrorId}
    {path : List Nat}
    {first error : Occurrence}
    (leads : graph.LeadsTo start path last)
    (noCycle : graph.ReachesNoCycle start)
    (isFirst : graph.occurrence? start = some first)
    (isLast : graph.occurrence? last = some error) :
    (∀ shown,
      graph.block? .alternate start = some shown →
        ∃ own,
          graph.block? .alternate last = some own ∧ graph.ShowsAt start shown path own) ∧
    (∀ form,
      graph.toJson start first = .ok form →
        ∃ own,
          graph.toJson last error = .ok own ∧ form.causeAt? path = some own) := by
  induction leads generalizing first with
  | here _ =>
      obtain rfl : first = error := Option.some.inj (isFirst.symm.trans isLast)
      exact ⟨fun shown found => ⟨shown, found, .whole⟩,
        fun form rendered => ⟨form, rendered, rfl⟩⟩
  | @through identity cause last found index path isFound unformatted noMarshaler placed leads
      inductionHypothesis =>
      obtain rfl : found = first := Option.some.inj (isFound.symm.trans isFirst)
      obtain ⟨causeError, causeIsOccurrence⟩ := leads.exists_occurrence
      have causeNoCycle : graph.ReachesNoCycle cause := by
        obtain ⟨link, _, member, rfl⟩ := exists_link_of_getElem?_causes placed
        exact noCycle.links link member
      obtain ⟨texts, forms⟩ := inductionHypothesis causeNoCycle causeIsOccurrence isLast
      constructor
      · intro shown isShown
        obtain ⟨entry, isEntry, shows⟩ :=
          showsAt_of_block?_eq_some isFound unformatted noCycle placed causeIsOccurrence isShown
        obtain ⟨own, isOwn, within⟩ := texts entry isEntry
        exact ⟨own, isOwn, shows path own within⟩
      · intro form rendered
        obtain ⟨item, itemRendered, holds⟩ :=
          exists_form_of_cause noMarshaler noCycle placed causeIsOccurrence rendered
        obtain ⟨own, isOwn, within⟩ := forms item itemRendered
        exact ⟨own, isOwn, (holds path).trans within⟩

/-- A definition without a call stack and with the given settings. -/
def nestedDefinition
    (identity : Nat)
    (settings : List Setting) :
    Definition :=
  .declare .standard identity ⟨"nested"⟩ (.noTrace :: settings)

/-- The innermost of three occurrences; it has renderers of its own. -/
def innermost : Occurrence :=
  ⟨nestedDefinition 0 [.formatter Formatter.bracketed, .marshaler Marshaler.short], "inner",
    .none, []⟩

/-- The outermost of three occurrences. -/
def outermost : Occurrence :=
  ⟨nestedDefinition 2 [], "outer", .single ⟨1⟩ none, []⟩

/-- Three occurrences, each inside the next one. -/
def nestedGraph : Graph where
  nodes :=
    #[.occurrence innermost,
      .occurrence ⟨nestedDefinition 1 [], "middle", .single ⟨0⟩ none, []⟩,
      .occurrence outermost]

/-- In the nested graph every link leads to an earlier error, so there are no cycles. -/
theorem linksTo_nestedGraph
    (error cause : ErrorId)
    (linked : nestedGraph.LinksTo error cause) :
    cause.index < error.index := by
  obtain ⟨index⟩ := error
  match index with
  | 0 => cases linked
  | 1 =>
      have isInner : cause = ⟨0⟩ := List.mem_singleton.mp linked
      simp [isInner]
  | 2 =>
      have isMiddle : cause = ⟨1⟩ := List.mem_singleton.mp linked
      simp [isMiddle]
  | index + 3 => cases linked

/-- The innermost occurrence is shown inside the outermost one as it is shown alone. -/
theorem embedded_agrees_nestedGraph :
    ∃ shown own form item,
      nestedGraph.block? .alternate ⟨2⟩ = some shown ∧
        nestedGraph.block? .alternate ⟨0⟩ = some own ∧
        nestedGraph.ShowsAt ⟨2⟩ shown [0, 0] own ∧
        nestedGraph.toJson ⟨2⟩ outermost = .ok form ∧
        nestedGraph.toJson ⟨0⟩ innermost = .ok item ∧
        form.causeAt? [0, 0] = some item := by
  have leads : nestedGraph.LeadsTo ⟨2⟩ [0, 0] ⟨0⟩ :=
    .through rfl rfl rfl rfl (.through rfl rfl rfl rfl (.here rfl))
  obtain ⟨texts, forms⟩ :=
    embedded_agrees leads (reachesNoCycle_of_earlier linksTo_nestedGraph _) rfl rfl
  have ends : (nestedGraph.block? .alternate ⟨2⟩).isSome = true := by
    cbv
  have renders : (nestedGraph.toJson ⟨2⟩ outermost).toOption.isSome = true := by
    cbv
  obtain ⟨shown, isShown⟩ := Option.isSome_iff_exists.mp ends
  obtain ⟨own, isOwn, shows⟩ := texts shown isShown
  cases rendered : nestedGraph.toJson ⟨2⟩ outermost with
  | error failure =>
      simp [rendered, Except.toOption] at renders
  | ok form =>
      obtain ⟨item, isItem, holds⟩ := forms form rendered
      exact ⟨shown, own, form, item, isShown, isOwn, shows, rfl, isItem, holds⟩

end Graph

end Fault
