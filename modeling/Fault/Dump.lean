import Fault.Text.Block
import Fault.Text.Quoted
import Fault.Text.Integer

/-!
# Dumps

A dump shows a value by its structure: lists, mappings, tuples and records of named fields, with
plain text at the leaves. It has two written forms, one on a single line and one with an entry
per line, indented by four places a level.
-/

namespace Fault

open Fault.Text (Block)

/-- The structure of a value as it is shown to a developer. -/
inductive Dump where
  /-- A text that is written as it is. -/
  | text (content : String)
  /-- A dump behind a label. -/
  | labelled (label : String) (content : Dump)
  | list (items : List Dump)
  /-- Entries with the keys in their written form. -/
  | mapping (entries : List (String × Dump))
  | tuple (name : String) (items : List Dump)
  | record (name : String) (fields : List (String × Dump))

namespace Dump

/-- The dump of a string, in quotes. -/
def quoted (content : String) : Dump :=
  .text (Text.quote content)

/-- The dump of a truth value. -/
def boolean (value : Bool) : Dump :=
  .text (if value then "true" else "false")

/-- The dump of a natural number. -/
def natural (value : Nat) : Dump :=
  .text (Text.showNat value)

/-- The dump of an integer. -/
def integer (value : Int) : Dump :=
  .text (Text.showInt value)

/-- The dump of a value that may be absent. -/
def optional : Option Dump → Dump
  | none => .text "None"
  | some content => .tuple "Some" [content]

mutual

/-- The form on one line. -/
def compact : Dump → List Char
  | .text content => content.toList
  | .labelled label content => label.toList ++ compact content
  | .list items => '[' :: compactItems items ++ [']']
  | .mapping entries => '\x7b' :: compactEntries entries ++ ['\x7d']
  | .tuple name items => name.toList ++ '(' :: compactItems items ++ [')']
  | .record name [] => name.toList
  | .record name (field :: fields) =>
      name.toList ++ [' ', '\x7b', ' '] ++ compactEntries (field :: fields) ++ [' ', '\x7d']

/-- Items on one line with commas between them. -/
def compactItems : List Dump → List Char
  | [] => []
  | [last] => compact last
  | item :: items => compact item ++ ',' :: ' ' :: compactItems items

/-- Entries on one line with commas between them. -/
def compactEntries : List (String × Dump) → List Char
  | [] => []
  | [(key, last)] => key.toList ++ ':' :: ' ' :: compact last
  | (key, value) :: entries =>
      key.toList ++ ':' :: ' ' :: compact value ++ ',' :: ' ' :: compactEntries entries

end

/-- The lines of one entry: four places to the right, with a comma at the end. -/
def entryLines (content : Block) : Block :=
  (Block.join content [[',']]).map ([' ', ' ', ' ', ' '] ++ ·)

/-- Lines between an opening and a closing bracket; without lines the brackets meet. -/
def enclose
    (opening closing : List Char)
    (content : Block) :
    Block :=
  if content.isEmpty then [opening ++ closing] else opening :: content ++ [closing]

mutual

/-- The form with an entry per line. -/
def pretty : Dump → Block
  | .text content => Block.ofString content
  | .labelled label content => Block.join (Block.ofString label) (pretty content)
  | .list items => enclose ['['] [']'] (prettyItems items)
  | .mapping entries => enclose ['\x7b'] ['\x7d'] (prettyEntries entries)
  | .tuple name items => enclose (name.toList ++ ['(']) [')'] (prettyItems items)
  | .record name [] => [name.toList]
  | .record name (field :: fields) =>
      enclose (name.toList ++ [' ', '\x7b']) ['\x7d'] (prettyEntries (field :: fields))

/-- The lines of all items. -/
def prettyItems : List Dump → Block
  | [] => []
  | item :: items => entryLines (pretty item) ++ prettyItems items

/-- The lines of all entries. -/
def prettyEntries : List (String × Dump) → Block
  | [] => []
  | (key, value) :: entries =>
      entryLines (Block.join (Block.ofString (key ++ ": ")) (pretty value)) ++
        prettyEntries entries

end

/-- The form on one line as a string. -/
def compactText (dump : Dump) : String :=
  String.ofList (compact dump)

/-- The form with an entry per line as a string. -/
def prettyText (dump : Dump) : String :=
  Block.toText (pretty dump)

end Dump

end Fault
