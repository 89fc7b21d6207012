import Fault.Render.Text
import Fault.Graph.Foreign

/-!
# Creating occurrences

An occurrence is created from a definition: with a message of its own, or around a cause whose
message it takes over, or around several causes. The call stack of the occasion is captured as the
definition wants it. A handle tells how a cause is held: an owned error is known by the name of
its type, a shared one is not.
-/

namespace Fault

/-- A hold on an error. -/
structure Handle where
  error : ErrorId
  /-- Whether the error is held as a value of its own type. -/
  owned : Bool
  deriving DecidableEq, Repr

/-- The circumstances in which an occurrence is created: its definition, the call stack at that
moment, and the defaults of the process. -/
structure Occasion where
  definition : Definition
  calls : Stack
  defaults : Defaults

/-- The part of the call stack that an occurrence keeps. -/
def Occasion.stack (occasion : Occasion) : Stack :=
  occasion.definition.capture occasion.defaults occasion.calls

namespace Graph

/-- The cause that a handle gives. -/
def causeOf
    (graph : Graph)
    (handle : Handle) :
    Cause :=
  .single handle.error <|
    if handle.owned then (graph.get? handle.error).map Node.typeName else none

/-- Create an occurrence with a message and a cause. -/
def raise
    (graph : Graph)
    (occasion : Occasion)
    (message : String)
    (cause : Cause) :
    ErrorId × Graph :=
  graph.add (.occurrence ⟨occasion.definition, message, cause, occasion.stack⟩)

/-- Create an occurrence with a message. -/
def create
    (graph : Graph)
    (occasion : Occasion)
    (message : String) :
    ErrorId × Graph :=
  graph.raise occasion message .none

/-- Wrap an error with a message. -/
def wrapWith
    (graph : Graph)
    (occasion : Occasion)
    (message : String)
    (handle : Handle) :
    ErrorId × Graph :=
  graph.raise occasion message (graph.causeOf handle)

/-- Wrap an error and take over its message. -/
def wrap
    (graph : Graph)
    (occasion : Occasion)
    (handle : Handle) :
    ErrorId × Graph :=
  graph.wrapWith occasion (graph.message handle.error) handle

/-- Gather errors in a joined error; without errors there is none. -/
def gather?
    (graph : Graph)
    (members : List ErrorId) :
    Option (ErrorId × Graph) :=
  if members.isEmpty then none else some (graph.add (.joined members))

/-- Wrap several errors in one occurrence, whose message holds theirs line by line; without errors
nothing is created. -/
def join?
    (graph : Graph)
    (occasion : Occasion)
    (members : List ErrorId) :
    Option (ErrorId × Graph) :=
  (graph.gather? members).map fun (group, grown) =>
    grown.raise occasion (grown.message group) (.joined group)

/-- Turn the payload of a panic into an error: it keeps the payload, its words, and the error that
the payload was. -/
def recoverPayload
    (graph : Graph)
    (payload : Payload) :
    ErrorId × Graph :=
  graph.add <| .recovered ⟨payload.describe graph.message, some payload, payload.error?⟩

/-- Wrap the payload of a panic in an occurrence. -/
def recover
    (graph : Graph)
    (occasion : Occasion)
    (payload : Payload) :
    ErrorId × Graph :=
  let (panic, grown) := graph.recoverPayload payload
  grown.wrapWith occasion ("panic: " ++ payload.describe graph.message)
    ⟨panic, true⟩

/-- Wrap the payload of a panic for a place to put errors into; without a panic or without a place
nothing happens. -/
def capturePanic?
    (graph : Graph)
    (occasion : Occasion)
    (hasPlace : Bool)
    (payload : Option Payload) :
    Option (ErrorId × Graph) :=
  if hasPlace then payload.map (graph.recover occasion) else none

/-- Wrap the error of a result; a value stays as it is. -/
def wrapResult
    {α : Type}
    (graph : Graph)
    (occasion : Occasion)
    (message : Option String) :
    Except Handle α → Except ErrorId α × Graph
  | .ok value => (.ok value, graph)
  | .error handle =>
      let (identity, grown) :=
        match message with
        | some text => graph.wrapWith occasion text handle
        | none => graph.wrap occasion handle
      (.error identity, grown)

end Graph

end Fault
