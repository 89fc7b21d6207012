import Fault.Graph.Forest

/-!
# Detailed text

The detailed text of an error is its message and, below a line of dashes, one section each for the
kind, the fields, the call stack and the causes. Sections without content are left out, and a
message without sections stands alone. Whatever is nested is indented, so that no line of it can
be taken for the start of a section.
-/

namespace Fault.Detailed

open Fault.Text (Block)

/-- The line between a message and its sections. -/
def separator : List Char :=
  "---".toList

/-- The section of a kind. -/
def kindLines (kind : Kind) : Block :=
  if kind.isUnset then [] else Block.ofString ("kind: " ++ kind.label)

/-- The lines of a field; the further lines of its value are indented more deeply. -/
def fieldLines (field : Field) : Block :=
  Block.indent "  ".toList "    ".toList (Block.ofString field.text)

/-- The section of the fields. -/
def fieldsLines (fields : Fields) : Block :=
  if fields.isEmpty then [] else "fields:".toList :: fields.entries.flatMap fieldLines

/-- The lines of a frame. -/
def frameLines (frame : Frame) : Block :=
  Block.ofString ("  " ++ frame.function) ++ Block.ofString ("    " ++ frame.position)

/-- The section of a call stack. -/
def stackLines (stack : Stack) : Block :=
  if stack.isEmpty then [] else "stack:".toList :: stack.flatMap frameLines

/-- The label of a cause, counted from one. -/
def label (number : Nat) : List Char :=
  "  [".toList ++ Text.natural number ++ "] ".toList

/-- The lines of causes, each behind its label and as deep as the label is wide. -/
def entriesLines (number : Nat) : List Block → Block
  | [] => []
  | entry :: entries =>
      Block.indent (label number) (List.replicate (label number).length ' ') entry ++
        entriesLines (number + 1) entries

/-- The headline of the causes: how many there are, and whether a link was cut. -/
def causesHeadline (count : Nat) (truncated : Bool) : List Char :=
  let noun := if count = 1 then " error" else " errors"
  ("causes: (" ++ Text.showNat count ++ noun ++
    (if truncated then ", cycle truncated)" else ")")).toList

/-- The section of the causes. -/
def causesLines (entries : List Block) (truncated : Bool) : Block :=
  if entries.isEmpty && !truncated then
    []
  else
    causesHeadline entries.length truncated :: entriesLines 1 entries

/-- A message above sections; empty lines at the end are dropped, and so are empty sections. -/
def withSections (message sections : Block) : Block :=
  let body := Block.dropEmptyEnd sections
  if body.isEmpty then message else message ++ separator :: body

/-- The detailed text of an occurrence, given the texts of its causes. -/
def occurrence
    (error : Occurrence)
    (entries : List Block)
    (truncated : Bool) :
    Block :=
  withSections (Block.ofString error.message)
    (kindLines error.definition.kind ++ fieldsLines error.definition.fields ++
      stackLines error.stack ++ causesLines entries truncated)

/-- The detailed text of any other error, which has no sections but its causes. -/
def plain
    (message : Block)
    (entries : List Block)
    (truncated : Bool) :
    Block :=
  withSections message (causesLines entries truncated)

end Fault.Detailed
