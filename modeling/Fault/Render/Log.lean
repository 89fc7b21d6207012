import Fault.Render.Text
import Fault.Log.Flat
import Fault.Builtin

/-!
# Log values of errors

The log value of an occurrence is a group of its message and, when there is something to show, its
kind, its fields, the innermost frame of its call stack and the messages of its direct causes.
Fields that do not render leave a note in their place. An error is reported as one event.
-/

namespace Fault

namespace Graph

/-- The log value of fields, or a note of why they do not render. -/
def fieldsLog (fields : Fields) : LogValue :=
  match fields.toMembers with
  | .ok members => .ofJson (.object members)
  | .error failure => .text ("!ERROR: " ++ failure.text)

/-- The log value of a frame. -/
def frameLog (frame : Frame) : LogValue :=
  .group
    [("func", .text frame.function), ("file", .text frame.file),
      ("line", .uint frame.line.toUInt64)]

/-- The standard log value of an occurrence. -/
def standardLog
    (graph : Graph)
    (error : Occurrence) :
    LogValue :=
  let kind := error.definition.kind
  let fields := error.definition.fields
  let causes := (graph.occurrenceLinks error).map Link.target
  .group <|
    [("message", .text error.message)] ++
    (if kind.isUnset then [] else [("kind", .text kind.label)]) ++
    (if fields.isEmpty then [] else [("fields", fieldsLog fields)]) ++
    error.stack.head?.toList.map (fun frame => ("origin", frameLog frame)) ++
    (if causes.isEmpty then []
      else [("causes", .list (causes.map fun cause => .text (graph.message cause)))])

/-- The log value of an occurrence. -/
def logValue
    (graph : Graph)
    (error : Occurrence) :
    LogValue :=
  match error.definition.template.logValuer with
  | some value => value (graph.snapshot error)
  | none => graph.standardLog error

end Graph

/-- An entry of a log. -/
structure LogEvent where
  severity : Severity
  target : String
  message : String
  kind : String
  value : String
  deriving DecidableEq, Repr

namespace Graph

/-- The event that reports an occurrence at a severity. -/
def event
    (graph : Graph)
    (error : Occurrence)
    (severity : Severity) :
    LogEvent where
  severity := severity
  target := "errdef"
  message := error.message
  kind := error.definition.kind.label
  value := (graph.logValue error).flatText

/-- The severity that the fields of an error state, or the standard one. -/
def severity
    (graph : Graph)
    (identity : ErrorId) :
    Severity :=
  match Builtin.logLevel.read? graph identity with
  | some (.severity severity) => severity
  | _ => Severity.standard

end Graph

end Fault
