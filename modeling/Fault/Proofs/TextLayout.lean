import Fault.Proofs.Embedding
import Fault.Proofs.Segments

/-!
# The layout of detailed texts

Nothing that an error carries can pass for a section of its detailed text. Behind the message and
the line of dashes, the lines that do not start with a space are the headlines of the sections and
nothing else, whatever messages, fields and causes contain. Behind the headline of the causes, the
lines that start with two spaces and a bracket are the first lines of the entries and nothing else,
and without label and padding an entry is what is shown for its cause, line by line.
-/

namespace Fault

open Fault.Text (Block)

namespace Text

/-- To trim a text with one visible character before a space takes the space only. -/
theorem trimEnd_append_blank
    {text : List Char}
    {character : Char}
    (visible : isBlank character = false) :
    trimEnd (text ++ [character, ' ']) = text ++ [character] := by
  have blank : isBlank ' ' = true := by
    decide
  simp [trimEnd, blank, visible]

namespace Block

/-- A text that is not empty has lines. -/
theorem lines_ofList_ne_nil
    {text : List Char}
    (nonempty : text ≠ []) :
    lines (ofList text) ≠ [] := by
  intro noLines
  have same := toList_ofList text
  cases segments : ofList text with
  | nil =>
      exact ofList_ne_nil text segments
  | cons segment rest =>
      rw [segments] at noLines same
      cases rest with
      | nil =>
          have empty : segment = [] := by
            simpa [lines] using noLines
          exact nonempty (same.symm.trans empty)
      | cons second others =>
          cases noLines

/-- A block is dropped nothing from when all its lines have something on them. -/
theorem dropEmptyEnd_eq_self
    {block : Block}
    (filled : ∀ line ∈ block, line ≠ []) :
    dropEmptyEnd block = block := by
  cases block with
  | nil =>
      rfl
  | cons line rest =>
      exact dropEmptyEnd_append [] (List.cons_ne_nil line rest) filled

end Block

end Text

/-- Groups of lines that start with the only line of their own that passes a test are found again
by this test. -/
theorem splitBy_flatten_of_starts
    {α : Type}
    {starts : α → Bool}
    {groups : List (List α)}
    (each :
      ∀ group ∈ groups,
      ∃ first rest,
        group = first :: rest ∧ starts first = true ∧ ∀ line ∈ rest, starts line = false) :
    groups.flatten.splitBy (fun _ next => !starts next) = groups ∧
      groups.map List.head? = (groups.flatten.filter starts).map some := by
  induction groups with
  | nil =>
      exact ⟨rfl, rfl⟩
  | cons group groups inductionHypothesis =>
      obtain ⟨⟨first, rest, rfl, isStart, others⟩, later⟩ := List.forall_mem_cons.mp each
      obtain ⟨split, heads⟩ := inductionHypothesis later
      have chained : (first :: rest).IsChain fun _ next => (!starts next) = true := by
        apply List.Pairwise.isChain
        refine List.pairwise_cons.mpr ⟨fun line member => by simp [others line member], ?_⟩
        exact List.pairwise_of_forall_mem_list fun _ _ line member => by simp [others line member]
      constructor
      · rw [List.flatten_cons, List.splitBy_append, split,
          List.splitBy_of_isChain (List.cons_ne_nil _ _) chained]
        · rfl
        · intro last _ next isNext
          cases groups with
          | nil =>
              cases isNext
          | cons group groups =>
              obtain ⟨⟨start, _, rfl, alsoStart, _⟩, _⟩ := List.forall_mem_cons.mp later
              cases isNext
              simp [alsoStart]
      · have dropped : rest.filter starts = [] := by
          simpa using others
        simp [isStart, dropped, heads]

namespace Detailed

/-! ## Lines -/

/-- Whether a line starts with a space. -/
def isIndented (line : List Char) : Bool :=
  line.head? == some ' '

/-- Whether a line starts with two spaces and a bracket. -/
def startsEntry (line : List Char) : Bool :=
  "  [".toList.isPrefixOf line

/-- The headlines of the sections of an error, for a number of causes. -/
def headlines
    (error : Occurrence)
    (count : Nat)
    (truncated : Bool) :
    Block :=
  (if error.definition.kind.isUnset then
    []
  else
    [("kind: " ++ error.definition.kind.label).toList]) ++
  (if error.definition.fields.isEmpty then [] else ["fields:".toList]) ++
  (if error.stack.isEmpty then [] else ["stack:".toList]) ++
  (if count = 0 ∧ truncated = false then [] else [causesHeadline count truncated])

/-- Whether lines are the entry of a number for lines that are shown: behind the label and behind
as wide a padding, or the bare label when there are no lines to show. -/
inductive IsEntry (number : Nat) : Block → Block → Prop where
  | bare :
      IsEntry number ["  [".toList ++ Text.natural number ++ "]".toList] []
  | filled
      (first : List Char)
      (rest : Block) :
      IsEntry number
        ((label number ++ first) ::
          rest.map (List.replicate (label number).length ' ' ++ ·))
        (first :: rest)

/-- The lines that are put under the headline of the causes, entry by entry. -/
def entryGroups
    (number : Nat)
    (entries : List Block) :
    List Block :=
  (entries.zipIdx number).map fun numbered =>
    Block.indent (label numbered.2) (List.replicate (label numbered.2).length ' ') numbered.1

/-- An indented entry is an entry of its number, whatever its lines are. -/
theorem isEntry_indent
    (number : Nat)
    (entry : Block) :
    IsEntry number
      (Block.indent (label number) (List.replicate (label number).length ' ') entry)
      (Block.lines entry) := by
  unfold Block.indent
  cases Block.lines entry with
  | nil =>
      have trimmed :
          Text.trimEnd (label number) = "  [".toList ++ Text.natural number ++ "]".toList :=
        Text.trimEnd_append_blank (by decide)
      simp only [trimmed]
      exact .bare
  | cons first rest =>
      exact .filled first rest

/-- An entry starts with the only line of its own that starts like an entry, and all its lines are
indented. -/
theorem IsEntry.exists_cons
    {number : Nat}
    {group shown : Block}
    (isEntry : IsEntry number group shown) :
    (∃ first rest,
      group = first :: rest ∧
        startsEntry first = true ∧ ∀ line ∈ rest, startsEntry line = false) ∧
      ∀ line ∈ group, isIndented line = true := by
  have wide : ∃ more, List.replicate (label number).length ' ' = ' ' :: ' ' :: ' ' :: more := by
    refine ⟨List.replicate ((label number).length - 3) ' ', ?_⟩
    simp [label, List.replicate_succ]
  cases isEntry with
  | bare =>
      exact ⟨⟨_, [], rfl, rfl, by simp⟩, by simp [isIndented]⟩
  | filled first rest =>
      obtain ⟨more, isPadding⟩ := wide
      rw [isPadding]
      refine ⟨⟨_, _, rfl, rfl, ?_⟩, List.forall_mem_cons.mpr ⟨rfl, ?_⟩⟩
      · exact List.forall_mem_map.mpr fun _ _ => rfl
      · exact List.forall_mem_map.mpr fun _ _ => rfl

/-- The lines of entries are the groups of all entries in a row. -/
theorem entriesLines_eq_flatten
    (number : Nat)
    (entries : List Block) :
    entriesLines number entries = (entryGroups number entries).flatten := by
  induction entries generalizing number with
  | nil =>
      rfl
  | cons entry rest inductionHypothesis =>
      simp [entriesLines, entryGroups, inductionHypothesis]

/-- Every group of lines is the entry of some number. -/
theorem exists_isEntry_of_mem_entryGroups
    {number : Nat}
    {entries : List Block}
    {group : Block}
    (member : group ∈ entryGroups number entries) :
    ∃ index shown, IsEntry index group shown := by
  obtain ⟨numbered, _, isGroup⟩ := List.mem_map.mp member
  exact ⟨numbered.2, Block.lines numbered.1, isGroup ▸ isEntry_indent numbered.2 numbered.1⟩

/-- The group of an entry stands at its place, with its number in front. -/
theorem getElem?_entryGroups
    {entries : List Block}
    {index : Nat}
    {entry : Block}
    (placed : entries[index]? = some entry) :
    (entryGroups 1 entries)[index]? =
      some (Block.indent (label (index + 1)) (List.replicate (label (index + 1)).length ' ')
        entry) := by
  simp [entryGroups, List.getElem?_map, placed, Nat.add_comm]

/-! ## Sections -/

/-- The lines of a section: its headline, and indented lines below it. -/
def IsSection
    (headline : List Char)
    (lines : Block) :
    Prop :=
  ∃ below,
    lines = headline :: below ∧
      isIndented headline = false ∧
      headline ≠ [] ∧
      ∀ line ∈ below, isIndented line = true

/-- An indented line is not empty. -/
theorem ne_nil_of_isIndented
    {line : List Char}
    (indented : isIndented line = true) :
    line ≠ [] := by
  rintro rfl
  cases indented

namespace IsSection

variable {headline : List Char} {lines : Block}

/-- A section has no empty lines. -/
theorem ne_nil
    (isSection : IsSection headline lines) :
    ∀ line ∈ lines, line ≠ [] := by
  obtain ⟨below, rfl, _, nonempty, indented⟩ := isSection
  exact List.forall_mem_cons.mpr
    ⟨nonempty, fun line member => ne_nil_of_isIndented (indented line member)⟩

/-- Only the headline of a section is not indented. -/
theorem filter_eq
    (isSection : IsSection headline lines) :
    lines.filter (fun line => !isIndented line) = [headline] := by
  obtain ⟨below, rfl, isHeadline, _, indented⟩ := isSection
  have dropped : below.filter (fun line => !isIndented line) = [] := by
    simpa using indented
  simp [isHeadline, dropped]

end IsSection

/-- Whether lines are a section, or missing. -/
def IsOptionalSection
    (missing : Prop)
    [Decidable missing]
    (headline : List Char)
    (lines : Block) :
    Prop :=
  if missing then lines = [] else IsSection headline lines

namespace IsOptionalSection

variable {missing : Prop} [Decidable missing] {headline : List Char} {lines : Block}

/-- A section that may be missing is left out or shown as a whole. -/
theorem optional
    (isSection : ¬missing → IsSection headline lines) :
    IsOptionalSection missing headline (if missing then [] else lines) := by
  unfold IsOptionalSection
  split
  · rfl
  · next present =>
      exact isSection present

/-- A section that may be missing is missing or there. -/
theorem cases
    (isOptional : IsOptionalSection missing headline lines) :
    (missing ∧ lines = []) ∨ (¬missing ∧ IsSection headline lines) := by
  unfold IsOptionalSection at isOptional
  split at isOptional
  · next isMissing =>
      exact .inl ⟨isMissing, isOptional⟩
  · next present =>
      exact .inr ⟨present, isOptional⟩

/-- A section that may be missing has no empty lines. -/
theorem ne_nil
    (isOptional : IsOptionalSection missing headline lines) :
    ∀ line ∈ lines, line ≠ [] := by
  obtain ⟨_, rfl⟩ | ⟨_, isSection⟩ := isOptional.cases
  · exact List.forall_mem_nil _
  · exact isSection.ne_nil

/-- Only the headline of a section that may be missing is not indented. -/
theorem filter_eq
    (isOptional : IsOptionalSection missing headline lines) :
    lines.filter (fun line => !isIndented line) = if missing then [] else [headline] := by
  obtain ⟨isMissing, rfl⟩ | ⟨present, isSection⟩ := isOptional.cases
  · rw [if_pos isMissing, List.filter_nil]
  · rw [if_neg present, isSection.filter_eq]

/-- A section without a headline is missing. -/
theorem eq_nil_of_filter_eq_nil
    (isOptional : IsOptionalSection missing headline lines)
    (noHeadline : lines.filter (fun line => !isIndented line) = []) :
    lines = [] := by
  obtain ⟨_, isEmpty⟩ | ⟨_, isSection⟩ := isOptional.cases
  · exact isEmpty
  · cases isSection.filter_eq.symm.trans noHeadline

/-- No other line of a section than its headline starts without a space. -/
theorem not_mem
    (isOptional : IsOptionalSection missing headline lines)
    {other : List Char}
    (isHeadline : isIndented other = false)
    (differs : other ≠ headline) :
    other ∉ lines := by
  intro member
  obtain ⟨_, rfl⟩ | ⟨_, below, rfl, _, _, indented⟩ := isOptional.cases
  · cases member
  · rcases List.mem_cons.mp member with isHead | inBelow
    · exact differs isHead
    · cases isHeadline.symm.trans (indented other inBelow)

/-- A section starts with its headline. -/
theorem isIndented_head?
    (isOptional : IsOptionalSection missing headline lines) :
    ∀ line ∈ lines.head?, isIndented line = false := by
  intro line isHead
  obtain ⟨_, rfl⟩ | ⟨_, below, rfl, isHeadline, _⟩ := isOptional.cases
  · cases isHead
  · cases isHead
    exact isHeadline

end IsOptionalSection

/-- The kind is a section of one line, unless it is unset. -/
theorem isOptionalSection_kindLines
    {kind : Kind}
    (oneLine : '\n' ∉ kind.label.toList) :
    IsOptionalSection (kind.isUnset = true) ("kind: " ++ kind.label).toList (kindLines kind) := by
  refine .optional fun _ => ?_
  have unbroken : '\n' ∉ ("kind: " ++ kind.label).toList := by
    simpa using oneLine
  refine ⟨[], Block.ofList_of_not_mem unbroken, ?_, ?_, List.forall_mem_nil _⟩
  · simp [isIndented]
  · simp

/-- All lines of a field are indented, whatever the text of its value is. -/
theorem isIndented_of_mem_fieldLines
    {field : Field}
    {line : List Char}
    (member : line ∈ fieldLines field) :
    isIndented line = true := by
  have nonempty : Block.lines (Block.ofString field.text) ≠ [] := by
    apply Block.lines_ofList_ne_nil
    simp [Field.text]
  obtain ⟨first, rest, isLines⟩ := List.exists_cons_of_ne_nil nonempty
  rw [fieldLines, Block.indent, isLines] at member
  rcases List.mem_cons.mp member with rfl | later
  · rfl
  · obtain ⟨further, _, rfl⟩ := List.mem_map.mp later
    rfl

/-- The fields are a section, unless there are none. -/
theorem isOptionalSection_fieldsLines (fields : Fields) :
    IsOptionalSection (fields.isEmpty = true) "fields:".toList (fieldsLines fields) := by
  refine .optional fun _ => ⟨_, rfl, rfl, by decide, fun line member => ?_⟩
  obtain ⟨field, _, inField⟩ := List.mem_flatMap.mp member
  exact isIndented_of_mem_fieldLines inField

/-- A frame takes up two lines when its function and its file take up one each. -/
theorem frameLines_eq
    {frame : Frame}
    (function : '\n' ∉ frame.function.toList)
    (file : '\n' ∉ frame.file.toList) :
    frameLines frame =
      [("  " ++ frame.function).toList, ("    " ++ frame.position).toList] := by
  have functionLine :
      Block.ofString ("  " ++ frame.function) = [("  " ++ frame.function).toList] :=
    Block.ofList_of_not_mem (by simpa using function)
  have positionLine :
      Block.ofString ("    " ++ frame.position) = [("    " ++ frame.position).toList] := by
    apply Block.ofList_of_not_mem
    simp [Frame.position, Text.showNat, Text.lineFeed_not_mem_natural, file]
  rw [frameLines, functionLine, positionLine]
  rfl

theorem isIndented_of_mem_frame
    {frame : Frame}
    {line : List Char}
    (member : line ∈ [("  " ++ frame.function).toList, ("    " ++ frame.position).toList]) :
    isIndented line = true := by
  simp only [List.mem_cons, List.not_mem_nil, or_false] at member
  rcases member with rfl | rfl <;> simp [isIndented]

/-- The stack is a section, unless it is empty. -/
theorem isOptionalSection_stackLines
    {stack : Stack}
    (oneLine :
      ∀ frame ∈ stack, '\n' ∉ frame.function.toList ∧ '\n' ∉ frame.file.toList) :
    IsOptionalSection (stack.isEmpty = true) "stack:".toList (stackLines stack) := by
  refine .optional fun _ => ⟨_, rfl, rfl, by decide, fun line member => ?_⟩
  obtain ⟨frame, isFrame, inFrame⟩ := List.mem_flatMap.mp member
  obtain ⟨function, file⟩ := oneLine frame isFrame
  rw [frameLines_eq function file] at inFrame
  exact isIndented_of_mem_frame inFrame

/-- All lines of entries are indented. -/
theorem isIndented_of_mem_entriesLines
    {entries : List Block}
    {line : List Char}
    (member : line ∈ entriesLines 1 entries) :
    isIndented line = true := by
  rw [entriesLines_eq_flatten] at member
  obtain ⟨group, inGroups, inGroup⟩ := List.mem_flatten.mp member
  obtain ⟨_, _, isEntry⟩ := exists_isEntry_of_mem_entryGroups inGroups
  exact isEntry.exists_cons.2 line inGroup

/-- The causes are a section, unless there are none and none was cut. -/
theorem isOptionalSection_causesLines
    (entries : List Block)
    (truncated : Bool) :
    IsOptionalSection (entries.length = 0 ∧ truncated = false)
      (causesHeadline entries.length truncated) (causesLines entries truncated) := by
  have sameCondition :
      (entries.isEmpty && !truncated) = true ↔ entries.length = 0 ∧ truncated = false := by
    simp
  unfold IsOptionalSection causesLines
  simp only [sameCondition]
  split
  · rfl
  · refine ⟨_, rfl, ?_, ?_, fun _ => isIndented_of_mem_entriesLines⟩
    · simp [causesHeadline, isIndented]
    · simp [causesHeadline]

/-- The entries of causes stand below a headline. -/
theorem causesLines_eq_cons
    {entries : List Block}
    {truncated : Bool}
    (present : ¬(entries.length = 0 ∧ truncated = false)) :
    causesLines entries truncated =
      causesHeadline entries.length truncated :: entriesLines 1 entries := by
  have condition : (entries.isEmpty && !truncated) = false := by
    simpa using present
  simp only [causesLines, condition, Bool.false_eq_true, if_false]

/-! ## Laid out texts -/

/-- The lines of a text. -/
def linesOf (text : String) : Block :=
  Block.lines (Block.ofString text)

/-- How lines behind the headline of the causes show renderings: each by an entry of its own, which
starts with the only line that starts like one. -/
structure ShowsEntries
    (lines : Block)
    (renderings : List String) :
    Prop where
  indented : ∀ line ∈ lines, isIndented line = true
  /-- The lines that start like an entry are the first lines of the groups they split the lines
  into. -/
  starts :
    (lines.splitBy fun _ next => !startsEntry next).map List.head? =
      (lines.filter startsEntry).map some
  /-- There are as many of them as renderings. -/
  counted : (lines.filter startsEntry).length = renderings.length
  /-- Each group is the entry of its number for the lines of its rendering. -/
  entries :
    ∀ index group rendering,
      (lines.splitBy fun _ next => !startsEntry next)[index]? = some group →
        renderings[index]? = some rendering →
        IsEntry (index + 1) group (linesOf rendering)

/-- How a body shows the sections of an error and the renderings of its causes. -/
structure ShowsSections
    (error : Occurrence)
    (renderings : List String)
    (truncated : Bool)
    (body : String) :
    Prop where
  /-- The lines that do not start with a space are the headlines. -/
  heads :
    (Block.ofString body).filter (fun line => !isIndented line) =
      headlines error renderings.length truncated
  causes :
    ¬(renderings.length = 0 ∧ truncated = false) →
      ∃ above below,
        Block.ofString body = above ++ causesHeadline renderings.length truncated :: below ∧
          ShowsEntries below renderings

/-- How a detailed text is laid out: the message alone, or the message and the sections below a line
of dashes. -/
inductive IsLaidOut
    (error : Occurrence)
    (renderings : List String)
    (truncated : Bool) :
    String → Prop where
  | message :
      headlines error renderings.length truncated = [] →
      IsLaidOut error renderings truncated error.message
  | sections
      {body : String} :
      headlines error renderings.length truncated ≠ [] →
      ShowsSections error renderings truncated body →
      IsLaidOut error renderings truncated (error.message ++ "\n---\n" ++ body)

/-- The lines of entries show the entries, each under its number. -/
theorem showsEntries_entriesLines
    {entries : List Block}
    (areSplit : ∀ entry ∈ entries, Block.IsSplit entry) :
    ShowsEntries (entriesLines 1 entries) (entries.map Block.toText) := by
  have each :
      ∀ group ∈ entryGroups 1 entries,
      ∃ first rest,
        group = first :: rest ∧
          startsEntry first = true ∧ ∀ line ∈ rest, startsEntry line = false := by
    intro group inGroups
    obtain ⟨_, _, isEntry⟩ := exists_isEntry_of_mem_entryGroups inGroups
    exact isEntry.exists_cons.1
  obtain ⟨split, heads⟩ := splitBy_flatten_of_starts each
  rw [← entriesLines_eq_flatten] at split heads
  refine ⟨fun _ => isIndented_of_mem_entriesLines, split ▸ heads, ?_, ?_⟩
  · have sameLength := congrArg List.length heads
    simpa [entryGroups] using sameLength.symm
  · intro index group rendering isGroup isRendering
    rw [List.getElem?_map] at isRendering
    obtain ⟨entry, isEntry, rfl⟩ := Option.map_eq_some_iff.mp isRendering
    rw [split, getElem?_entryGroups isEntry] at isGroup
    cases isGroup
    have sameLines : linesOf (Block.toText entry) = Block.lines entry := by
      rw [linesOf, Block.ofString, Block.toText, String.toList_ofList]
      exact Block.lines_ofList_toList (areSplit entry (List.mem_of_getElem? isEntry))
    rw [sameLines]
    exact isEntry_indent (index + 1) entry

/-- The text of sections below a message. -/
theorem toText_append_separator
    (message : String)
    {sections : Block}
    (present : sections ≠ []) :
    Block.toText (Block.ofString message ++ separator :: sections) =
      message ++ "\n---\n" ++ Block.toText sections := by
  have below : Block.toList (separator :: sections) = separator ++ '\n' :: Block.toList sections :=
    Block.toList_append (List.cons_ne_nil separator []) present
  have whole :
      Block.toList (Block.ofString message ++ separator :: sections) =
        message.toList ++ '\n' :: (separator ++ '\n' :: Block.toList sections) := by
    rw [Block.ofString, Block.toList_append (Block.ofList_ne_nil _) (List.cons_ne_nil _ _), below,
      Block.toList_ofList]
  rw [Block.toText, whole]
  apply String.toList_inj.mp
  simp [Block.toText, separator]

/-- Whether neither the kind nor a frame of an error has a line feed. -/
structure HasPlainLines (error : Occurrence) : Prop where
  kind : '\n' ∉ error.definition.kind.label.toList
  frames : ∀ frame ∈ error.stack, '\n' ∉ frame.function.toList ∧ '\n' ∉ frame.file.toList

namespace HasPlainLines

variable {error : Occurrence}

/-- No line of the sections is empty. -/
theorem ne_nil_of_mem_sections
    (plain : HasPlainLines error)
    (entries : List Block)
    (truncated : Bool) :
    ∀ line ∈ sections error entries truncated, line ≠ [] := by
  simp only [sections, List.forall_mem_append]
  exact ⟨⟨⟨(isOptionalSection_kindLines plain.kind).ne_nil,
    (isOptionalSection_fieldsLines _).ne_nil⟩,
    (isOptionalSection_stackLines plain.frames).ne_nil⟩,
    (isOptionalSection_causesLines entries truncated).ne_nil⟩

/-- The lines that are not indented are the headlines, in their order. -/
theorem filter_sections
    (plain : HasPlainLines error)
    (entries : List Block)
    (truncated : Bool) :
    (sections error entries truncated).filter (fun line => !isIndented line) =
      headlines error entries.length truncated := by
  simp only [sections, List.filter_append, (isOptionalSection_kindLines plain.kind).filter_eq,
    (isOptionalSection_fieldsLines _).filter_eq,
    (isOptionalSection_stackLines plain.frames).filter_eq,
    (isOptionalSection_causesLines entries truncated).filter_eq, headlines]

/-- Without headlines there are no sections. -/
theorem sections_eq_nil
    (plain : HasPlainLines error)
    {entries : List Block}
    {truncated : Bool}
    (noHeadlines : headlines error entries.length truncated = []) :
    sections error entries truncated = [] := by
  rw [← plain.filter_sections] at noHeadlines
  simp only [sections, List.filter_append, List.append_eq_nil_iff] at noHeadlines
  obtain ⟨⟨⟨noKind, noFields⟩, noStack⟩, noCauses⟩ := noHeadlines
  rw [sections, (isOptionalSection_kindLines plain.kind).eq_nil_of_filter_eq_nil noKind,
    (isOptionalSection_fieldsLines _).eq_nil_of_filter_eq_nil noFields,
    (isOptionalSection_stackLines plain.frames).eq_nil_of_filter_eq_nil noStack,
    (isOptionalSection_causesLines entries truncated).eq_nil_of_filter_eq_nil noCauses]
  rfl

/-- A detailed text is the message alone, or the message and the sections below a line of dashes;
nothing is dropped at its end. -/
theorem occurrence_eq
    (plain : HasPlainLines error)
    (entries : List Block)
    (truncated : Bool) :
    occurrence error entries truncated =
      if (sections error entries truncated).isEmpty then
        Block.ofString error.message
      else
        Block.ofString error.message ++ separator :: sections error entries truncated := by
  change withSections _ (sections error entries truncated) = _
  rw [withSections, Block.dropEmptyEnd_eq_self (plain.ne_nil_of_mem_sections entries truncated)]

/-- The body of a detailed text shows the sections and the renderings of the causes. -/
theorem showsSections
    (plain : HasPlainLines error)
    {entries : List Block}
    (areSplit : ∀ entry ∈ entries, Block.IsSplit entry)
    {truncated : Bool}
    (nonempty : sections error entries truncated ≠ []) :
    ShowsSections error (entries.map Block.toText) truncated
      (Block.toText (sections error entries truncated)) := by
  have segments :
      Block.ofString (Block.toText (sections error entries truncated)) =
        sections error entries truncated :=
    Block.ofString_toText nonempty (isSplit_sections error areSplit truncated)
  refine ⟨?_, fun hasCauses => ?_⟩
  · rw [segments, plain.filter_sections, List.length_map]
  · rw [List.length_map] at hasCauses
    refine ⟨kindLines error.definition.kind ++ fieldsLines error.definition.fields ++
      stackLines error.stack, entriesLines 1 entries, ?_, showsEntries_entriesLines areSplit⟩
    rw [segments, sections, causesLines_eq_cons hasCauses, List.length_map]

/-- The detailed text of an error is laid out. -/
theorem isLaidOut
    (plain : HasPlainLines error)
    {entries : List Block}
    (areSplit : ∀ entry ∈ entries, Block.IsSplit entry)
    (truncated : Bool) :
    IsLaidOut error (entries.map Block.toText) truncated
      (Block.toText (occurrence error entries truncated)) := by
  have heads :
      headlines error (entries.map Block.toText).length truncated =
        (sections error entries truncated).filter fun line => !isIndented line := by
    rw [plain.filter_sections, List.length_map]
  rw [plain.occurrence_eq]
  split
  · next empty =>
      rw [Block.toText_ofString]
      exact .message (by rw [heads, List.isEmpty_iff.mp empty, List.filter_nil])
  · next present =>
      have nonempty : sections error entries truncated ≠ [] := by
        simpa using present
      rw [toText_append_separator error.message nonempty]
      refine .sections (fun noHeadlines => nonempty ?_) (plain.showsSections areSplit nonempty)
      rw [List.length_map] at noHeadlines
      exact plain.sections_eq_nil noHeadlines

end HasPlainLines

end Detailed

/-! ## Renderings of causes -/

namespace Graph

/-- What is shown for a cause in the detailed text of an error above it. -/
def shown?
    (graph : Graph)
    (branch : Branch) :
    Option Block :=
  match graph.occurrence? branch.link.target with
  | some error =>
      if error.definition.template.formatter.isSome then
        graph.block? .alternate branch.link.target
      else
        (graph.entries graph.block? branch.below).map fun causes =>
          Detailed.occurrence error causes branch.below.isTruncated
  | none =>
      (graph.block? .display branch.link.target).bind fun message =>
        (graph.entries graph.block? branch.below).map fun causes =>
          Detailed.plain message causes branch.below.isTruncated

/-- The text of what is shown for a cause. -/
def rendering?
    (graph : Graph)
    (branch : Branch) :
    Option String :=
  (graph.shown? branch).map Block.toText

/-- Entries are found when the text of every branch is. -/
theorem entries_eq_some_iff
    {graph : Graph}
    {forest : Forest}
    {blocks : List Block} :
    graph.entries graph.block? forest = some blocks ↔
      List.Forall₂ (fun branch block => graph.shown? branch = some block) forest.branches
        blocks := by
  induction forest generalizing blocks with
  | nil =>
      simp [Graph.entries, Forest.branches, eq_comm]
  | cut target rest inductionHypothesis =>
      exact inductionHypothesis
  | node link reentered below rest belowHypothesis restHypothesis =>
      have unrolled :
          graph.entries graph.block? (.node link reentered below rest) =
            (graph.shown? ⟨link, reentered, below⟩).bind fun first =>
              (graph.entries graph.block? rest).map fun others => first :: others := by
        rfl
      simp only [unrolled, Option.bind_eq_some_iff, Option.map_eq_some_iff, restHypothesis,
        Forest.branches, List.forall₂_cons_left_iff]
      constructor
      · rintro ⟨first, firstShown, others, othersShown, rfl⟩
        exact ⟨first, others, firstShown, othersShown, rfl⟩
      · rintro ⟨first, others, firstShown, othersShown, rfl⟩
        exact ⟨first, firstShown, others, othersShown, rfl⟩

/-- All causes have entries exactly when something is shown for each. -/
theorem isSome_entries_iff
    {graph : Graph}
    {forest : Forest} :
    (graph.entries graph.block? forest).isSome = true ↔
      ∀ branch ∈ forest.branches, (graph.rendering? branch).isSome = true := by
  simp only [rendering?, Option.isSome_map]
  constructor
  · intro found branch member
    obtain ⟨blocks, isFound⟩ := Option.isSome_iff_exists.mp found
    obtain ⟨block, _, isShown⟩ := exists_related_of_mem (entries_eq_some_iff.mp isFound) member
    exact Option.isSome_iff_exists.mpr ⟨block, isShown⟩
  · intro shown
    obtain ⟨blocks, each⟩ :=
      exists_forall₂_of_forall_exists fun branch member =>
        Option.isSome_iff_exists.mp (shown branch member)
    exact Option.isSome_iff_exists.mpr ⟨blocks, entries_eq_some_iff.mpr each⟩

/-- The renderings of the causes of an error are the texts of their entries. -/
theorem eq_map_toText_of_entries_eq_some
    {graph : Graph}
    {forest : Forest}
    {blocks : List Block}
    (found : graph.entries graph.block? forest = some blocks)
    {renderings : List String}
    (each :
      List.Forall₂ (fun branch rendering => graph.rendering? branch = some rendering)
        forest.branches renderings) :
    renderings = blocks.map Block.toText := by
  have areRendered :
      List.Forall₂ (fun branch rendering => graph.rendering? branch = some rendering)
        forest.branches (blocks.map Block.toText) := by
    refine List.forall₂_map_right_iff.mpr ((entries_eq_some_iff.mp found).imp ?_)
    intro branch block isShown
    rw [rendering?, isShown, Option.map_some]
  exact List.right_unique_forall₂'
    (fun _ _ _ first second => Option.some.inj (first.symm.trans second)) each areRendered

/-- The detailed text of an error without a formatter, and without line feeds in its kind and its
frames, exists when all renderings of its causes do, and shows nothing but them and its sections in
the places that are theirs. -/
theorem text_isLaidOut
    {graph : Graph}
    {identity : ErrorId}
    {error : Occurrence}
    (isOccurrence : graph.occurrence? identity = some error)
    (unformatted : error.definition.template.formatter = none)
    (plain : Detailed.HasPlainLines error) :
    let tree := graph.causeTree identity
    ((graph.block? .alternate identity).isSome = true ↔
        ∀ branch ∈ tree.branches, (graph.rendering? branch).isSome = true) ∧
      ∀ renderings,
        List.Forall₂ (fun branch rendering => graph.rendering? branch = some rendering)
            tree.branches renderings →
          Detailed.IsLaidOut error renderings tree.isTruncated
            (graph.text .alternate identity) := by
  intro tree
  have shown := block?_of_occurrence_of_not_formatted isOccurrence unformatted
  constructor
  · rw [shown, Option.isSome_map]
    exact isSome_entries_iff
  · intro renderings each
    have exist : ∀ branch ∈ tree.branches, (graph.rendering? branch).isSome = true := by
      intro branch member
      obtain ⟨rendering, _, isRendering⟩ := exists_related_of_mem each member
      rw [isRendering, Option.isSome_some]
    obtain ⟨blocks, found⟩ := Option.isSome_iff_exists.mp (isSome_entries_iff.mpr exist)
    have isFound :
        graph.block? .alternate identity =
          some (Detailed.occurrence error blocks tree.isTruncated) := by
      rw [shown, found, Option.map_some]
    rw [eq_map_toText_of_entries_eq_some found each, text_of_block?_eq_some isFound]
    exact plain.isLaidOut (FindsSplit.entries graph.findsSplit_block? found) tree.isTruncated

/-- An error whose message looks like sections. -/
def impostor : Occurrence :=
  ⟨nestedDefinition 0 [], "inner\n---\ncauses: (9 errors)\n  [9] x", .none, []⟩

/-- An error around it, with a value of two lines. -/
def deceived : Occurrence :=
  ⟨nestedDefinition 1 [.field (.made 0 "note" .block) (.block "a\nstack:")], "outer",
    .single ⟨0⟩ none, []⟩

/-- The two errors. -/
def deceivingGraph : Graph :=
  ⟨#[.occurrence impostor, .occurrence deceived]⟩

/-- The deceiving text is laid out as any other: the sections that its texts forge stay inside its
own. -/
theorem text_isLaidOut_deceivingGraph :
    deceivingGraph.occurrence? ⟨1⟩ = some deceived ∧
      deceived.definition.template.formatter = none ∧
      Detailed.HasPlainLines deceived ∧
      ∃ renderings,
        renderings.length = 1 ∧
          Detailed.IsLaidOut deceived renderings (deceivingGraph.causeTree ⟨1⟩).isTruncated
            (deceivingGraph.text .alternate ⟨1⟩) := by
  have isOccurrence : deceivingGraph.occurrence? ⟨1⟩ = some deceived := rfl
  have plain : Detailed.HasPlainLines deceived := ⟨by decide, by decide⟩
  obtain ⟨ends_iff, laidOut⟩ := text_isLaidOut isOccurrence rfl plain
  have ends : (deceivingGraph.block? .alternate ⟨1⟩).isSome = true := by
    cbv
  obtain ⟨renderings, each⟩ :=
    exists_forall₂_of_forall_exists fun branch member =>
      Option.isSome_iff_exists.mp (ends_iff.mp ends branch member)
  have oneCause : (deceivingGraph.causeTree ⟨1⟩).branches.length = 1 := by
    cbv
  exact ⟨isOccurrence, rfl, plain, renderings, each.length_eq.symm.trans oneCause,
    laidOut renderings each⟩

end Graph

end Fault
