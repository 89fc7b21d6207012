import Fault.Render.Text

/-!
# JSON form of errors

The JSON form of an occurrence is an object of its message and, when there is something to show,
its kind, its fields, its call stack and its causes. A cause that is an occurrence has the same
form, or the form its own marshaler gives it; any other cause shows its message, the name of its
type when that is known, and its causes.
-/

namespace Fault.Graph

/-- The members of an occurrence, given the forms of its causes. The fields are rendered first, so
a failure of theirs comes before one of the causes. -/
def occurrenceJson
    (error : Occurrence)
    (causes : Except Json.Failure (List Json)) :
    Except Json.Failure Json := do
  let kind := error.definition.kind
  let fields ← error.definition.fields.toMembers
  let items ← causes
  .ok <| Json.ofMembers <|
    [("message", .text error.message)] ++
    (if kind.isUnset then [] else [("kind", .text kind.label)]) ++
    (if error.definition.fields.isEmpty then [] else [("fields", .object fields)]) ++
    (if error.stack.isEmpty then [] else [("stack", error.stack.toJson)]) ++
    (if items.isEmpty then [] else [("causes", .array items)])

/-- The name of the type that is shown for a cause: of a cause read from data the one it was read
with, of any other the one its link knows. -/
def shownType
    (graph : Graph)
    (link : Link) :
    Option String :=
  match graph.get? link.target with
  | some (.unclaimed cause) => cause.typeName
  | _ => link.typeName

/-- The form of a cause that is no occurrence, given the forms of its own causes. -/
def plainJson
    (graph : Graph)
    (link : Link)
    (causes : Except Json.Failure (List Json)) :
    Except Json.Failure Json := do
  let items ← causes
  .ok <| Json.ofMembers <|
    [("message", .text (graph.message link.target))] ++
    (graph.shownType link).toList.map (fun name => ("type", .text name)) ++
    (if items.isEmpty then [] else [("causes", .array items)])

/-- The form of a cause, given the forms of its own causes. -/
def causeJson
    (graph : Graph)
    (link : Link)
    (causes : Except Json.Failure (List Json)) :
    Except Json.Failure Json :=
  match graph.occurrence? link.target with
  | some error =>
      match error.definition.template.marshaler with
      | some marshal => marshal (graph.snapshot error)
      | none => occurrenceJson error causes
  | none => graph.plainJson link causes

/-- The forms of the causes of a list, or the first failure. -/
def causesJson
    (graph : Graph) :
    Forest → Except Json.Failure (List Json)
  | .nil => .ok []
  | .cut _ rest => graph.causesJson rest
  | .node link _ below rest => do
      let item ← graph.causeJson link (graph.causesJson below)
      let items ← graph.causesJson rest
      .ok (item :: items)

/-- The JSON form of an occurrence. -/
def toJson
    (graph : Graph)
    (identity : ErrorId)
    (error : Occurrence) :
    Except Json.Failure Json :=
  match error.definition.template.marshaler with
  | some marshal => marshal (graph.snapshot error)
  | none => occurrenceJson error (graph.causesJson (graph.causeTree identity))

/-- The JSON text of an occurrence; a failure passes through a further failure on its way. -/
def toJsonText
    (graph : Graph)
    (identity : ErrorId)
    (error : Occurrence) :
    Except Json.Failure String :=
  match graph.toJson identity error with
  | .ok form => .ok form.render
  | .error failure => .error (Json.Failure.ofText failure.text)

end Fault.Graph
