import Fault.Graph.Links

/-!
# Foreign errors

Common forms of errors of other origins: a message alone, a message before the message of an inner
error, and an error that shows the texts of an occurrence as its own.
-/

namespace Fault.Foreign

/-- An error with a message; its text for developers is given. -/
def saying (typeName message shown : String) : Foreign where
  typeName := typeName
  form
    | .debug => [.text shown]
    | _ => [.text message]
  source := none

/-- The text for developers of a named value that holds one string. -/
def shownAs (name content : String) : String :=
  name ++ "(" ++ Text.quote content ++ ")"

/-- An error with a message before the message of an inner error, which is its source. -/
def enclosing (typeName message : String) (inner : ErrorId) : Foreign where
  typeName := typeName
  form := fun _ => [.text message, .text ": ", .error .display inner]
  source := some inner

/-- An error that holds an inner error, which is its source, and tells nothing of it. -/
def holding (typeName message : String) (inner : ErrorId) : Foreign where
  typeName := typeName
  form := fun _ => [.text message]
  source := some inner

/-- The name of the type of errors of input and output. -/
def systemType : String :=
  "std::io::error::Error"

/-- The kind of errors of input and output that something is missing. -/
def notFound : String :=
  "NotFound"

/-- The kind of errors of input and output that have no kind of their own. -/
def otherKind : String :=
  "Other"

/-- The text for developers of an error of input and output begins with its kind. -/
def shownKind (kind : String) : String :=
  "Custom \x7b kind: " ++ kind ++ ", error: "

/-- An error of input and output with a message. -/
def system (kind message : String) : Foreign :=
  saying systemType message (shownKind kind ++ Text.quote message ++ " \x7d")

/-- An error of input and output made of an occurrence: it shows the texts of the occurrence, and
its source is the source of the occurrence, not the occurrence itself. -/
def ofOccurrence (graph : Graph) (occurrence : ErrorId) : Foreign where
  typeName := systemType
  form
    | .debug => [.text (shownKind otherKind), .error .debug occurrence, .text " \x7d"]
    | verb => [.error verb occurrence]
  source := graph.source? occurrence

end Fault.Foreign
