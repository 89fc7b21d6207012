import Fault.Kind
import Fault.Field.Fields
import Fault.Log.Value
import Fault.Stack

/-!
# Renderers

A definition can replace each of the three outputs of its errors: the texts, the JSON form and the
log value. A renderer sees a snapshot of the error. A formatter answers with pieces, so that it
can fall back to the standard text of any verb.
-/

namespace Fault

/-- Which text of an error is asked for. -/
inductive Verb where
  /-- The message. -/
  | display
  /-- The detailed text. -/
  | alternate
  /-- The text for developers. -/
  | debug
  deriving DecidableEq, Repr

/-- The name of a verb. -/
def Verb.name : Verb → String
  | .display => "Display"
  | .alternate => "Alternate"
  | .debug => "Debug"

/-- What a renderer sees of an error. -/
structure Snapshot where
  kind : Kind
  message : String
  fields : Fields
  stack : Stack
  causes : Nat

/-- A piece of a text: literal, or the standard text of a verb. -/
inductive Piece where
  | text (content : String)
  | standard (verb : Verb)

/-- A replacement for the texts of an error. -/
abbrev Formatter := Snapshot → Verb → List Piece

/-- A replacement for the JSON form of an error. -/
abbrev Marshaler := Snapshot → Except Json.Failure Json

/-- A replacement for the log value of an error. -/
abbrev LogValuer := Snapshot → LogValue

namespace Formatter

/-- The kind in brackets before the message, whatever is asked for. -/
def bracketed : Formatter := fun error _ =>
  [.text ("[" ++ error.kind.label ++ "] " ++ error.message)]

/-- The name of the verb before the message, both in angle brackets. -/
def tagged : Formatter := fun error verb =>
  [.text ("<" ++ verb.name ++ ":" ++ error.message ++ ">")]

/-- A short detailed text; the other texts are standard. -/
def alternateOnly : Formatter := fun error verb =>
  match verb with
  | .alternate => [.text ("ALT " ++ error.kind.label ++ "\n" ++ error.message)]
  | other => [.standard other]

/-- A short text for developers; the other texts are standard. -/
def debugOnly : Formatter := fun error verb =>
  match verb with
  | .debug => [.text ("DBG " ++ error.message)]
  | other => [.standard other]

/-- The detailed text as message, and the message for the other two. -/
def swapped : Formatter := fun _ verb =>
  match verb with
  | .display => [.standard .alternate]
  | _ => [.standard .display]

end Formatter

namespace Marshaler

/-- The message and the kind under short names. -/
def short : Marshaler := fun error =>
  .ok (Json.ofMembers [("m", .text error.message), ("k", .text error.kind.label)])

/-- The fields alone. -/
def fieldsOnly : Marshaler := fun error =>
  error.fields.toMembers.map Json.object

/-- A failure that names the kind. -/
def failing : Marshaler := fun error =>
  .error (Json.Failure.ofText ("cannot render " ++ error.kind.label))

/-- Null, whatever the error. -/
def null : Marshaler := fun _ =>
  .ok .null

end Marshaler

namespace LogValuer

/-- The message alone. -/
def message : LogValuer := fun error =>
  .text error.message

/-- A group of the message and the number of causes. -/
def counted : LogValuer := fun error =>
  .group [("msg", .text error.message), ("n", .uint (UInt64.ofNat error.causes))]

/-- One value for every error. -/
def constant (value : LogValue) : LogValuer := fun _ =>
  value

end LogValuer

end Fault
