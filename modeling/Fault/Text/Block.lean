import Fault.Text.Blank

/-!
# Blocks of lines

A text that is put together line by line is kept as the list of its segments, the pieces between
line feeds. Indenting a block then touches the front of each segment only, and a text that is
nested many levels deep is never copied as a whole.

Segments and lines differ at the end of a text and before a line feed: a final line feed opens no
further line, and a carriage return before a line feed belongs to the line end.
-/

namespace Fault.Text

/-- A text as its segments, the pieces between line feeds; a block that stands for a text is not
empty. -/
abbrev Block := List (List Char)

namespace Block

/-- The segments of a text. -/
def ofList : List Char → Block
  | [] => [[]]
  | character :: rest =>
      if character = '\n' then
        [] :: ofList rest
      else
        match ofList rest with
        | [] => [[character]]
        | first :: others => (character :: first) :: others

/-- The segments of a string. -/
def ofString (text : String) : Block :=
  ofList text.toList

/-- The text of a block. -/
def toList : Block → List Char
  | [] => []
  | [last] => last
  | segment :: rest => segment ++ '\n' :: toList rest

/-- The text of a block as a string. -/
def toText (block : Block) : String :=
  String.ofList (toList block)

theorem ofList_ne_nil (text : List Char) :
    ofList text ≠ [] := by
  cases text with
  | nil =>
      simp [ofList]
  | cons character rest =>
      rw [ofList]
      split
      · simp
      · split <;> simp

theorem toList_ofList (text : List Char) :
    toList (ofList text) = text := by
  induction text with
  | nil =>
      rfl
  | cons character rest inductionHypothesis =>
      obtain ⟨first, others, segments⟩ := List.exists_cons_of_ne_nil (ofList_ne_nil rest)
      rw [ofList, segments]
      rw [segments] at inductionHypothesis
      split
      · next isBreak =>
          rw [isBreak, ← inductionHypothesis]
          rfl
      · rw [← inductionHypothesis]
        cases others <;> rfl

/-- No text is lost in its segments. -/
theorem toText_ofString (text : String) :
    toText (ofString text) = text := by
  rw [toText, ofString, toList_ofList, String.ofList_toList]

/-- The block of one text followed by another: the last segment of the first grows. -/
def join : Block → Block → Block
  | [], second => second
  | [last], [] => [last]
  | [last], first :: rest => (last ++ first) :: rest
  | segment :: rest, second => segment :: join rest second

/-- One segment without the carriage return at its end. -/
def dropReturn (segment : List Char) : List Char :=
  if segment.getLast? = some '\r' then segment.dropLast else segment

/-- The lines of a block. -/
def lines : Block → Block
  | [] => []
  | [last] => if last.isEmpty then [] else [last]
  | segment :: rest => dropReturn segment :: lines rest

/-- A block with a label before its first line and padding before every other one; a text without
lines leaves the label alone. -/
def indent
    (label padding : List Char)
    (block : Block) :
    Block :=
  match lines block with
  | [] => [trimEnd label]
  | first :: rest => (label ++ first) :: rest.map (padding ++ ·)

/-- A block without the empty segments at its end. -/
def dropEmptyEnd (block : Block) : Block :=
  (block.reverse.dropWhile List.isEmpty).reverse

end Block

end Fault.Text
