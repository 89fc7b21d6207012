import Fault.Proofs.TextSteps

/-!
# Segments without line feeds

A block stands for a text by its segments. As long as no segment holds a line feed, nothing is lost
between the two: to split the text at its line feeds gives the segments back. Every text that is
rendered is such a block, whatever the messages, the fields and the formatters put into it.
-/

namespace Fault

namespace Text

/-- To trim a text takes characters away only. -/
theorem trimEnd_subset (text : List Char) : trimEnd text ⊆ text := by
  intro character member
  have inReverse := (List.dropWhile_sublist isBlank).subset (List.mem_reverse.mp member)
  exact List.mem_reverse.mp inReverse

/-- A number is written on one line. -/
theorem lineFeed_not_mem_natural (number : Nat) : '\n' ∉ natural number := by
  intro member
  have isDigit := Nat.isDigit_of_mem_toDigits (by decide) (by decide) member
  simp at isDigit

namespace Block

/-- Whether no segment of a block holds a line feed. -/
def IsSplit (block : Block) : Prop :=
  ∀ segment ∈ block, '\n' ∉ segment

theorem isSplit_cons_iff
    {segment : List Char}
    {rest : Block} :
    IsSplit (segment :: rest) ↔ '\n' ∉ segment ∧ IsSplit rest :=
  List.forall_mem_cons

/-! ## Segments and texts -/

/-- Text behind a line feed goes on in the next line. -/
theorem ofList_append_cons
    {segment : List Char}
    (unbroken : '\n' ∉ segment)
    (rest : List Char) :
    ofList (segment ++ '\n' :: rest) = segment :: ofList rest := by
  induction segment with
  | nil =>
      simp [ofList]
  | cons character others inductionHypothesis =>
      simp only [List.mem_cons, not_or] at unbroken
      obtain ⟨differs, othersUnbroken⟩ := unbroken
      simp [ofList, inductionHypothesis othersUnbroken, Ne.symm differs]

/-- Text without a line feed is one line. -/
theorem ofList_of_not_mem
    {text : List Char}
    (unbroken : '\n' ∉ text) :
    ofList text = [text] := by
  induction text with
  | nil =>
      rfl
  | cons character rest inductionHypothesis =>
      simp only [List.mem_cons, not_or] at unbroken
      obtain ⟨differs, restUnbroken⟩ := unbroken
      simp [ofList, inductionHypothesis restUnbroken, Ne.symm differs]

/-- The segments of a text are what its block has, when no segment holds a line feed. -/
theorem ofList_toList
    {block : Block}
    (nonempty : block ≠ [])
    (isSplit : IsSplit block) :
    ofList (toList block) = block := by
  induction block with
  | nil =>
      exact absurd rfl nonempty
  | cons segment rest inductionHypothesis =>
      obtain ⟨unbroken, restSplit⟩ := isSplit_cons_iff.mp isSplit
      cases rest with
      | nil =>
          exact ofList_of_not_mem unbroken
      | cons second others =>
          calc
            ofList (toList (segment :: second :: others))
            _ = segment :: ofList (toList (second :: others)) :=
                ofList_append_cons unbroken _
            _ = segment :: second :: others := by
                rw [inductionHypothesis (List.cons_ne_nil _ _) restSplit]

/-- Split lines are read back from their text. -/
theorem ofString_toText
    {block : Block}
    (nonempty : block ≠ [])
    (isSplit : IsSplit block) :
    ofString (toText block) = block := by
  rw [ofString, toText, String.toList_ofList, ofList_toList nonempty isSplit]

/-- Split lines show the same lines when they are read back from their characters. -/
theorem lines_ofList_toList
    {block : Block}
    (isSplit : IsSplit block) :
    lines (ofList (toList block)) = lines block := by
  cases block with
  | nil =>
      rfl
  | cons segment rest =>
      rw [ofList_toList (List.cons_ne_nil _ _) isSplit]

/-- The text of two blocks, one below the other. -/
theorem toList_append
    {first second : Block}
    (nonempty : first ≠ [])
    (secondNonempty : second ≠ []) :
    toList (first ++ second) = toList first ++ '\n' :: toList second := by
  induction first with
  | nil =>
      exact absurd rfl nonempty
  | cons segment rest inductionHypothesis =>
      cases rest with
      | nil =>
          obtain ⟨next, others, rfl⟩ := List.exists_cons_of_ne_nil secondNonempty
          rfl
      | cons next others =>
          calc
            toList (segment :: next :: others ++ second)
            _ = segment ++ '\n' :: toList (next :: others ++ second) := rfl
            _ = toList (segment :: next :: others) ++ '\n' :: toList second := by
                rw [inductionHypothesis (List.cons_ne_nil _ _)]
                simp [toList]

/-! ## What keeps segments free of line feeds -/

/-- The lines of a text are split. -/
theorem isSplit_ofList (text : List Char) : IsSplit (ofList text) := by
  induction text with
  | nil =>
      simp [ofList, IsSplit]
  | cons character rest inductionHypothesis =>
      rw [ofList]
      split
      · exact isSplit_cons_iff.mpr ⟨by simp, inductionHypothesis⟩
      · next differs =>
          obtain ⟨first, others, segments⟩ := List.exists_cons_of_ne_nil (ofList_ne_nil rest)
          rw [segments] at inductionHypothesis ⊢
          obtain ⟨unbroken, othersSplit⟩ := isSplit_cons_iff.mp inductionHypothesis
          exact isSplit_cons_iff.mpr ⟨by simp [Ne.symm differs, unbroken], othersSplit⟩

theorem isSplit_ofString (text : String) : IsSplit (ofString text) :=
  isSplit_ofList text.toList

namespace IsSplit

variable {first second block : Block}

/-- Split lines in a row are split. -/
theorem append
    (isSplit : IsSplit first)
    (secondSplit : IsSplit second) :
    IsSplit (first ++ second) :=
  List.forall_mem_append.mpr ⟨isSplit, secondSplit⟩

theorem cons
    {segment : List Char}
    (unbroken : '\n' ∉ segment)
    (isSplit : IsSplit block) :
    IsSplit (segment :: block) :=
  isSplit_cons_iff.mpr ⟨unbroken, isSplit⟩

/-- A section that is left out on a condition. -/
theorem optional
    (missing : Prop)
    [Decidable missing]
    (isSplit : IsSplit block) :
    IsSplit (if missing then [] else block) := by
  split
  · exact List.forall_mem_nil _
  · exact isSplit

/-- Lines are split when those of every item are. -/
theorem flatMap
    {α : Type}
    {items : List α}
    {blockOf : α → Block}
    (areSplit : ∀ item ∈ items, IsSplit (blockOf item)) :
    IsSplit (items.flatMap blockOf) := by
  intro segment member
  obtain ⟨item, inItems, inBlock⟩ := List.mem_flatMap.mp member
  exact areSplit item inItems segment inBlock

theorem flatten
    {blocks : List Block}
    (areSplit : ∀ block ∈ blocks, IsSplit block) :
    IsSplit blocks.flatten := by
  intro segment member
  obtain ⟨block, inBlocks, inBlock⟩ := List.mem_flatten.mp member
  exact areSplit block inBlocks segment inBlock

/-- Lines stay split when texts are put behind one another. -/
theorem join
    (isSplit : IsSplit first)
    (secondSplit : IsSplit second) :
    IsSplit (Block.join first second) := by
  fun_induction Block.join first second with
  | case1 second =>
      exact secondSplit
  | case2 last =>
      exact isSplit
  | case3 last head rest =>
      obtain ⟨headUnbroken, restSplit⟩ := isSplit_cons_iff.mp secondSplit
      have lastUnbroken := isSplit last (List.mem_singleton_self last)
      exact restSplit.cons (by simp [lastUnbroken, headUnbroken])
  | case4 segment rest second _ _ inductionHypothesis =>
      obtain ⟨unbroken, restSplit⟩ := isSplit_cons_iff.mp isSplit
      exact (inductionHypothesis restSplit secondSplit).cons unbroken

/-- The lines that are shown of split ones are split. -/
theorem lines (isSplit : IsSplit block) : IsSplit (Block.lines block) := by
  fun_induction Block.lines block with
  | case1 =>
      exact isSplit
  | case2 last empty =>
      simp [IsSplit]
  | case3 last filled =>
      exact isSplit
  | case4 segment rest several inductionHypothesis =>
      obtain ⟨unbroken, restSplit⟩ := isSplit_cons_iff.mp isSplit
      refine (inductionHypothesis restSplit).cons fun member => unbroken ?_
      unfold dropReturn at member
      split at member
      · exact List.mem_of_mem_dropLast member
      · exact member

/-- Split lines stay split when they are indented by labels without line feeds. -/
theorem indent
    {label padding : List Char}
    (labelUnbroken : '\n' ∉ label)
    (paddingUnbroken : '\n' ∉ padding)
    (isSplit : IsSplit block) :
    IsSplit (Block.indent label padding block) := by
  have linesSplit := isSplit.lines
  unfold Block.indent
  split
  · exact List.forall_mem_singleton.mpr fun member => labelUnbroken (trimEnd_subset label member)
  · next head rest isLines =>
      rw [isLines] at linesSplit
      obtain ⟨headUnbroken, restSplit⟩ := isSplit_cons_iff.mp linesSplit
      refine cons (by simp [labelUnbroken, headUnbroken]) ?_
      exact List.forall_mem_map.mpr fun line member => by
        simp [paddingUnbroken, restSplit line member]

/-- Split lines stay split when empty ones are dropped from their end. -/
theorem dropEmptyEnd (isSplit : IsSplit block) : IsSplit (Block.dropEmptyEnd block) := by
  intro segment member
  have inReverse := (List.dropWhile_sublist List.isEmpty).subset (List.mem_reverse.mp member)
  exact isSplit segment (List.mem_reverse.mp inReverse)

end IsSplit

end Block

end Text

open Fault.Text (Block)

/-! ## Detailed texts -/

namespace Detailed

theorem lineFeed_not_mem_label (number : Nat) : '\n' ∉ label number := by
  simp [label, Text.lineFeed_not_mem_natural]

/-- The lines of a kind are split, whatever the kind is. -/
theorem isSplit_kindLines (kind : Kind) : Block.IsSplit (kindLines kind) :=
  (Block.isSplit_ofString _).optional (kind.isUnset = true)

/-- The lines of fields are split, whatever their names and values are. -/
theorem isSplit_fieldsLines (fields : Fields) : Block.IsSplit (fieldsLines fields) := by
  have each : ∀ field ∈ fields.entries, Block.IsSplit (fieldLines field) := fun field _ =>
    (Block.isSplit_ofString field.text).indent (by decide) (by decide)
  have headed : Block.IsSplit ("fields:".toList :: fields.entries.flatMap fieldLines) :=
    (Block.IsSplit.flatMap each).cons (by decide)
  exact headed.optional (fields.isEmpty = true)

/-- The lines of a stack are split, whatever its frames are. -/
theorem isSplit_stackLines (stack : Stack) : Block.IsSplit (stackLines stack) := by
  have each : ∀ frame ∈ stack, Block.IsSplit (frameLines frame) := fun _ _ =>
    (Block.isSplit_ofString _).append (Block.isSplit_ofString _)
  have headed : Block.IsSplit ("stack:".toList :: stack.flatMap frameLines) :=
    (Block.IsSplit.flatMap each).cons (by decide)
  exact headed.optional (stack.isEmpty = true)

/-- The lines of entries are split when the entries are. -/
theorem isSplit_entriesLines
    (number : Nat)
    {entries : List Block}
    (areSplit : ∀ entry ∈ entries, Block.IsSplit entry) :
    Block.IsSplit (entriesLines number entries) := by
  induction entries generalizing number with
  | nil =>
      simp [entriesLines, Block.IsSplit]
  | cons entry rest inductionHypothesis =>
      obtain ⟨entrySplit, restSplit⟩ := List.forall_mem_cons.mp areSplit
      have padding : '\n' ∉ List.replicate (label number).length ' ' := by
        simp
      exact (entrySplit.indent (lineFeed_not_mem_label number) padding).append
        (inductionHypothesis (number + 1) restSplit)

/-- The headline of the causes is on one line. -/
theorem lineFeed_not_mem_causesHeadline
    (count : Nat)
    (truncated : Bool) :
    '\n' ∉ causesHeadline count truncated := by
  unfold causesHeadline Text.showNat
  cases truncated <;> by_cases single : count = 1 <;>
    simp [single, Text.lineFeed_not_mem_natural]

/-- The lines of the causes are split when the entries are. -/
theorem isSplit_causesLines
    {entries : List Block}
    (areSplit : ∀ entry ∈ entries, Block.IsSplit entry)
    (truncated : Bool) :
    Block.IsSplit (causesLines entries truncated) := by
  have headed :=
    (isSplit_entriesLines 1 areSplit).cons
      (lineFeed_not_mem_causesHeadline entries.length truncated)
  exact headed.optional ((entries.isEmpty && !truncated) = true)

/-- A message and sections that are split are so together. -/
theorem isSplit_withSections
    {message sections : Block}
    (messageSplit : Block.IsSplit message)
    (sectionsSplit : Block.IsSplit sections) :
    Block.IsSplit (withSections message sections) := by
  have bodySplit := sectionsSplit.dropEmptyEnd
  simp only [withSections]
  split
  · exact messageSplit
  · exact messageSplit.append (bodySplit.cons (by simp [separator]))

/-- The sections of an occurrence, above one another. -/
def sections
    (error : Occurrence)
    (entries : List Block)
    (truncated : Bool) :
    Block :=
  kindLines error.definition.kind ++ fieldsLines error.definition.fields ++
    stackLines error.stack ++ causesLines entries truncated

/-- The sections of an error are split when the entries of its causes are. -/
theorem isSplit_sections
    (error : Occurrence)
    {entries : List Block}
    (areSplit : ∀ entry ∈ entries, Block.IsSplit entry)
    (truncated : Bool) :
    Block.IsSplit (sections error entries truncated) :=
  (((isSplit_kindLines _).append (isSplit_fieldsLines _)).append (isSplit_stackLines _)).append
    (isSplit_causesLines areSplit truncated)

end Detailed

/-! ## All texts -/

namespace Graph

/-- Whether no text that is found has a segment with a line feed. -/
def FindsSplit (text : Verb → ErrorId → Option Block) : Prop :=
  ∀ {verb identity block}, text verb identity = some block → Block.IsSplit block

/-- The entries that are made of split texts are split. -/
theorem FindsSplit.entries
    {graph : Graph}
    {text : Verb → ErrorId → Option Block}
    {forest : Forest}
    {blocks : List Block}
    (finds : FindsSplit text)
    (found : graph.entries text forest = some blocks) :
    ∀ block ∈ blocks, Block.IsSplit block := by
  induction forest generalizing blocks with
  | nil =>
      cases found
      simp
  | cut target rest inductionHypothesis =>
      exact inductionHypothesis found
  | node link reentered below rest belowHypothesis restHypothesis =>
      rw [Graph.entries] at found
      obtain ⟨first, entry, tail⟩ := Option.bind_eq_some_iff.mp found
      obtain ⟨others, restFound, rfl⟩ := Option.map_eq_some_iff.mp tail
      refine List.forall_mem_cons.mpr ⟨?_, restHypothesis restFound⟩
      cases target : graph.occurrence? link.target with
      | none =>
          simp only [target, Option.bind_eq_some_iff, Option.map_eq_some_iff] at entry
          obtain ⟨message, messageFound, causes, belowFound, rfl⟩ := entry
          exact Detailed.isSplit_withSections (finds messageFound)
            (Detailed.isSplit_causesLines (belowHypothesis belowFound) _)
      | some error =>
          simp only [target] at entry
          split at entry
          · exact finds entry
          · obtain ⟨causes, belowFound, rfl⟩ := Option.map_eq_some_iff.mp entry
            exact Detailed.isSplit_withSections (Block.isSplit_ofString _)
              (Detailed.isSplit_sections error (belowHypothesis belowFound) _)

/-- A standard text that is made of split texts is split. -/
theorem FindsSplit.standardText
    {graph : Graph}
    {text : Verb → ErrorId → Option Block}
    {identity : ErrorId}
    {error : Occurrence}
    {verb : Verb}
    {block : Block}
    (finds : FindsSplit text)
    (found : graph.standardText text identity error verb = some block) :
    Block.IsSplit block := by
  cases verb with
  | display =>
      cases found
      exact Block.isSplit_ofString _
  | alternate | debug =>
      obtain ⟨nested, nestedFound, rfl⟩ := Option.map_eq_some_iff.mp found
      exact Detailed.isSplit_withSections (Block.isSplit_ofString _)
        (Detailed.isSplit_sections error (finds.entries nestedFound) _)

/-- Texts that are put together are split when each of them is. -/
theorem isSplit_concat
    {texts : List (Option Block)}
    {block : Block}
    (areSplit : ∀ text ∈ texts, ∀ part, text = some part → Block.IsSplit part)
    (found : concat texts = some block) :
    Block.IsSplit block := by
  induction texts generalizing block with
  | nil =>
      cases found
      simp [Block.IsSplit]
  | cons text rest inductionHypothesis =>
      obtain ⟨textSplit, restSplit⟩ := List.forall_mem_cons.mp areSplit
      obtain ⟨first, firstFound, tail⟩ := Option.bind_eq_some_iff.mp found
      obtain ⟨second, secondFound, rfl⟩ := Option.map_eq_some_iff.mp tail
      exact (textSplit first firstFound).join (inductionHypothesis restSplit secondFound)

/-- The text of an occurrence that is made of split texts is split. -/
theorem FindsSplit.occurrenceText
    {graph : Graph}
    {text : Verb → ErrorId → Option Block}
    {identity : ErrorId}
    {error : Occurrence}
    {verb : Verb}
    {block : Block}
    (finds : FindsSplit text)
    (found : graph.occurrenceText text identity error verb = some block) :
    Block.IsSplit block := by
  unfold Graph.occurrenceText at found
  split at found
  · exact finds.standardText found
  · refine isSplit_concat (List.forall_mem_map.mpr fun piece _ part partFound => ?_) found
    cases piece with
    | text content =>
        cases partFound
        exact Block.isSplit_ofString content
    | standard other =>
        exact finds.standardText partFound

/-- The messages that are found among split texts are split. -/
theorem FindsSplit.messages
    {text : Verb → ErrorId → Option Block}
    {members : List ErrorId}
    {messages : List Block}
    (finds : FindsSplit text)
    (found : members.mapM (text .display) = some messages) :
    ∀ message ∈ messages, Block.IsSplit message := by
  induction members generalizing messages with
  | nil =>
      cases found
      exact List.forall_mem_nil _
  | cons member rest inductionHypothesis =>
      simp only [List.mapM_cons, Option.bind_eq_bind, Option.bind_eq_some_iff,
        Option.pure_def, Option.some.injEq] at found
      obtain ⟨first, firstFound, others, othersFound, rfl⟩ := found
      exact List.forall_mem_cons.mpr ⟨finds firstFound, inductionHypothesis othersFound⟩

/-- The text of joined errors is split when their messages are. -/
theorem FindsSplit.joinedText
    {text : Verb → ErrorId → Option Block}
    {members : List ErrorId}
    {verb : Verb}
    {block : Block}
    (finds : FindsSplit text)
    (found : joinedText text members verb = some block) :
    Block.IsSplit block := by
  obtain ⟨messages, messagesFound, rfl⟩ := Option.map_eq_some_iff.mp found
  cases verb with
  | debug =>
      exact Block.isSplit_ofList _
  | display | alternate =>
      exact Block.IsSplit.flatten (finds.messages messagesFound)

/-- The text of a foreign error is split when the texts that it shows are. -/
theorem FindsSplit.foreignText
    {text : Verb → ErrorId → Option Block}
    {error : Foreign}
    {verb : Verb}
    {block : Block}
    (finds : FindsSplit text)
    (found : foreignText text error verb = some block) :
    Block.IsSplit block := by
  refine isSplit_concat (List.forall_mem_map.mpr fun piece _ part partFound => ?_) found
  cases piece with
  | text content =>
      cases partFound
      exact Block.isSplit_ofString content
  | error other inner =>
      exact finds partFound

/-- The text of an unclaimed error is split. -/
theorem isSplit_unclaimedText
    {text : Verb → ErrorId → Option Block}
    {cause : Unclaimed}
    {verb : Verb}
    {block : Block}
    (found : unclaimedText text cause verb = some block) :
    Block.IsSplit block := by
  cases verb with
  | display | alternate =>
      cases found
      exact Block.isSplit_ofString _
  | debug =>
      simp only [unclaimedText, Option.bind_eq_bind] at found
      split at found <;>
        obtain ⟨_, _, same⟩ := Option.bind_eq_some_iff.mp found <;>
        rw [← Option.some.inj same] <;>
        exact Block.isSplit_ofList _

/-- No text of any error has a segment with a line feed. -/
theorem findsSplit_text?
    (graph : Graph)
    (steps : Nat) :
    FindsSplit (graph.text? steps) := by
  induction steps with
  | zero =>
      intro verb identity block found
      cases found
  | succ steps inductionHypothesis =>
      intro verb identity block found
      rw [text?] at found
      cases present : graph.get? identity with
      | none =>
          rw [present] at found
          cases found
          simp [Block.IsSplit]
      | some node =>
          rw [present] at found
          cases node with
          | occurrence error =>
              exact inductionHypothesis.occurrenceText found
          | joined members =>
              exact inductionHypothesis.joinedText found
          | recovered panic =>
              cases found
              cases verb <;> exact Block.isSplit_ofList _
          | unclaimed cause =>
              exact isSplit_unclaimedText found
          | foreign error =>
              exact inductionHypothesis.foreignText found
          | marker error =>
              cases found
              cases verb <;> exact Block.isSplit_ofList _

/-- All texts of a graph are split. -/
theorem findsSplit_block? (graph : Graph) : FindsSplit graph.block? :=
  graph.findsSplit_text? graph.textDepth

end Graph

end Fault
