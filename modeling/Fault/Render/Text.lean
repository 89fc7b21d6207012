import Fault.Render.Detailed
import Fault.Graph.Chain

/-!
# Texts of errors

Every error has three texts, one for each verb. The texts of foreign errors and of definitions
with a formatter can contain texts of further errors, and nothing keeps such texts from going in
circles. The text of an error is therefore found by a bounded number of nested steps: as a text
depends on nothing but the error and the verb, nesting that goes deeper than there are errors and
verbs has come back to where it was, and never ends.
-/

namespace Fault

open Fault.Text (Block)

namespace Graph

/-- What a renderer sees of an occurrence. -/
def snapshot
    (graph : Graph)
    (occurrence : Occurrence) :
    Snapshot where
  kind := occurrence.definition.kind
  message := occurrence.message
  fields := occurrence.definition.fields
  stack := occurrence.stack
  causes := (graph.occurrenceLinks occurrence).length

/-- The texts of the causes of a list inside a detailed text, given the texts of further errors.
An occurrence is shown with all its sections, unless its definition has a formatter; any other
error is shown by its message and its causes. -/
def entries
    (graph : Graph)
    (text : Verb → ErrorId → Option Block) :
    Forest → Option (List Block)
  | .nil => some []
  | .cut _ rest => graph.entries text rest
  | .node link _ below rest =>
      let entry :=
        match graph.occurrence? link.target with
        | some error =>
            if error.definition.template.formatter.isSome then
              text .alternate link.target
            else
              (graph.entries text below).map fun causes =>
                Detailed.occurrence error causes below.isTruncated
        | none =>
            (text .display link.target).bind fun message =>
              (graph.entries text below).map fun causes =>
                Detailed.plain message causes below.isTruncated
      entry.bind fun first => (graph.entries text rest).map fun others => first :: others

/-- The standard text of an occurrence, given the texts of further errors. -/
def standardText
    (graph : Graph)
    (text : Verb → ErrorId → Option Block)
    (identity : ErrorId)
    (error : Occurrence) :
    Verb → Option Block
  | .display => some (Block.ofString error.message)
  | _ =>
      let tree := graph.causeTree identity
      (graph.entries text tree).map fun nested =>
        Detailed.occurrence error nested tree.isTruncated

/-- Texts one after the other, when all of them are there. -/
def concat (texts : List (Option Block)) : Option Block :=
  texts.foldr
    (fun text rest => text.bind fun first => rest.map fun second => Block.join first second)
    (some [[]])

/-- The text of an occurrence, given the texts of further errors. -/
def occurrenceText
    (graph : Graph)
    (text : Verb → ErrorId → Option Block)
    (identity : ErrorId)
    (error : Occurrence)
    (verb : Verb) :
    Option Block :=
  match error.definition.template.formatter with
  | none => graph.standardText text identity error verb
  | some format =>
      concat <| (format (graph.snapshot error) verb).map fun piece =>
        match piece with
        | .text content => some (Block.ofString content)
        | .standard other => graph.standardText text identity error other

/-- The text of joined errors: their messages on lines of their own, or a list of them. -/
def joinedText
    (text : Verb → ErrorId → Option Block)
    (members : List ErrorId)
    (verb : Verb) :
    Option Block :=
  (members.mapM (text .display)).map fun messages =>
    match verb with
    | .debug =>
        let quoted := messages.map fun message => Dump.quoted message.toText
        Block.ofList (Dump.list quoted).compact
    | _ => messages.flatten

/-- The text of a recovered panic. -/
def recoveredText
    (panic : Recovered) :
    Verb → Block
  | .debug =>
      Block.ofList <| Dump.compact <| .record "PanicError"
        [("message", .quoted panic.message), ("error", .boolean panic.error.isSome)]
  | _ => Block.ofString panic.message

/-- The text of a cause that no definition claims. -/
def unclaimedText
    (text : Verb → ErrorId → Option Block)
    (cause : Unclaimed) :
    Verb → Option Block
  | .debug => do
      let inner ←
        match cause.cause with
        | none => some none
        | some identity => (text .debug identity).map fun block => some (Dump.text block.toText)
      some <| Block.ofList <| Dump.compact <| .record "DecodedCause"
        [("message", .quoted cause.message),
          ("type_name", .optional (cause.typeName.map Dump.quoted)),
          ("cause", .optional inner)]
  | _ => some (Block.ofString cause.message)

/-- The text of a foreign error. -/
def foreignText
    (text : Verb → ErrorId → Option Block)
    (error : Foreign)
    (verb : Verb) :
    Option Block :=
  concat <| (error.form verb).map fun piece =>
    match piece with
    | .text content => some (Block.ofString content)
    | .error other identity => text other identity

/-- The text of a marker. -/
def markerText
    (error : Marker) :
    Verb → Block
  | .debug => Block.ofString error.shown
  | _ => Block.ofString error.message

/-- The text of an error, when it is found in a number of nested steps. -/
def text?
    (graph : Graph)
    (steps : Nat)
    (verb : Verb)
    (identity : ErrorId) :
    Option Block :=
  match steps with
  | 0 => none
  | steps + 1 =>
      match graph.get? identity with
      | some (.occurrence error) =>
          graph.occurrenceText (graph.text? steps) identity error verb
      | some (.joined members) => joinedText (graph.text? steps) members verb
      | some (.recovered panic) => some (recoveredText panic verb)
      | some (.unclaimed cause) => unclaimedText (graph.text? steps) cause verb
      | some (.foreign error) => foreignText (graph.text? steps) error verb
      | some (.marker error) => some (markerText error verb)
      | none => some [[]]

/-- A depth of nesting that no text without circles exceeds: three verbs for each error. -/
def textDepth (graph : Graph) : Nat :=
  3 * graph.size + 2

/-- The text of an error, unless it never ends. -/
def block?
    (graph : Graph)
    (verb : Verb)
    (identity : ErrorId) :
    Option Block :=
  graph.text? graph.textDepth verb identity

/-- The text of an error as a string; a text that never ends is left empty. -/
def text
    (graph : Graph)
    (verb : Verb)
    (identity : ErrorId) :
    String :=
  ((graph.block? verb identity).map Block.toText).getD ""

/-- The message of an error. -/
def message
    (graph : Graph)
    (identity : ErrorId) :
    String :=
  graph.text .display identity

/-- A text that ends is the lines that were found. -/
theorem text_of_block?_eq_some
    {graph : Graph}
    {verb : Verb}
    {identity : ErrorId}
    {block : Block}
    (found : graph.block? verb identity = some block) :
    graph.text verb identity = block.toText := by
  rw [text, found, Option.map_some, Option.getD_some]

/-- A message that ends is the lines that were found. -/
theorem message_of_block?_eq_some
    {graph : Graph}
    {identity : ErrorId}
    {block : Block}
    (found : graph.block? .display identity = some block) :
    graph.message identity = block.toText :=
  text_of_block?_eq_some found

/-- Whether two handles lead to the same error: occurrences and other errors with data by
identity, markers by their messages. -/
def sameError
    (graph : Graph)
    (first second : ErrorId) :
    Bool :=
  match graph.get? first, graph.get? second with
  | some (.marker firstError), some (.marker secondError) =>
      firstError.message == secondError.message
  | some (.marker _), _ => false
  | _, some (.marker _) => false
  | _, _ => first == second

/-- Whether an error itself is in a chain. -/
def isIn
    (graph : Graph)
    (target start : ErrorId) :
    Bool :=
  (graph.chain start).any fun identity => graph.sameError identity target

end Graph

end Fault
