import Fault.Resolver.Basic
import Fault.Json.Parser
import Fault.Store

/-!
# Reading errors from JSON

An error is read back from its JSON form in two steps. The first one checks the form against a
resolver and gives a draft: a tree of errors to be created, with the definition of each and the
settings that its fields ask for. The second one creates the errors of a draft and cannot fail.

The kind of an object selects its definition. Names of fields that the definition knows are read
by the key of the name that was stored last; all other fields are gathered as details. A cause
whose kind is not registered becomes an unclaimed one. Errors that were read carry no call stack.
-/

namespace Fault

/-- Why a JSON value is no form of an error. -/
inductive DecodeError where
  | invalid (error : Json.ParseError)
  | notAnObject
  | missingMessage
  | unknownKind (kind : String)
  | field (name : String) (misfit : Misfit)

namespace DecodeError

/-- The words for invalid JSON text. -/
def parseWords : Json.ParseError → String
  | .truncated => "<eof>"
  | .malformed => "<syntax>"

/-- The message of an error. -/
def message : DecodeError → String
  | .invalid error => "invalid JSON: " ++ parseWords error
  | .notAnObject => "expected a JSON object"
  | .missingMessage => "missing \"message\""
  | .unknownKind kind => "no definition for kind " ++ Text.quote kind
  | .field name misfit => "field " ++ Text.quote name ++ ": " ++ misfit.message

end DecodeError

/-- An error to be created, with the errors it wraps. -/
inductive Draft where
  | occurrence
      (definition : Definition)
      (settings : List Setting)
      (message : String)
      (causes : List Draft)
  | unclaimed
      (message : String)
      (typeName : Option String)
      (causes : List Draft)

namespace Resolver

/-- The message of an object. -/
def messageOf (members : Members) : Except DecodeError String :=
  match (members.get? "message").bind Json.text? with
  | some message => .ok message
  | none => .error .missingMessage

/-- The kind of an object, when it states one. -/
def kindOf? (members : Members) : Option String :=
  (members.get? "kind").bind Json.text?

/-- The settings of known fields and the members that the definition has no key for, in order, or
the first field that does not fit. -/
def sortFields
    (definition : Definition) :
    List (String × Json) → Except DecodeError (List Setting × Members)
  | [] => .ok ([], [])
  | (name, form) :: rest =>
      match (definition.fields.keysNamed name).getLast? with
      | some key =>
          match key.decode form with
          | .ok value => do
              let (settings, unknown) ← sortFields definition rest
              .ok (.field key value :: settings, unknown)
          | .error misfit => .error (.field name misfit)
      | none => do
          let (settings, unknown) ← sortFields definition rest
          .ok (settings, (name, form) :: unknown)

/-- The settings that the fields of an object ask for; unknown fields come last, as details. -/
def fieldSettings
    (definition : Definition)
    (members : Members) :
    Except DecodeError (List Setting) :=
  match members.get? "fields" with
  | some (.object fields) => do
      let (settings, unknown) ← sortFields definition fields
      .ok <| settings ++
        if unknown.isEmpty then [] else [.field Builtin.details (.details unknown)]
  | _ => .ok []

/-- The draft of an object whose definition is known. -/
def draftOf
    (definition : Definition)
    (members : Members)
    (causes : Except DecodeError (List Draft)) :
    Except DecodeError Draft := do
  let message ← messageOf members
  let settings ← fieldSettings definition members
  let drafts ← causes
  .ok (.occurrence definition settings message drafts)

/-- The name of the type of an object that no definition claims. -/
def typeOf? (members : Members) : Option String :=
  ((members.get? "type").or (members.get? "kind")).bind Json.text?

/-- The draft of an object that no definition claims; its causes are read before its message. -/
def draftUnclaimed
    (members : Members)
    (causes : Except DecodeError (List Draft)) :
    Except DecodeError Draft := do
  let drafts ← causes
  let message ← messageOf members
  .ok (.unclaimed message (typeOf? members) drafts)

mutual

/-- The draft of a cause. Only a registered kind claims it, never the fallback. -/
def draftCause
    (resolver : Resolver) :
    Json → Except DecodeError Draft
  | .object members =>
      match (kindOf? members).bind resolver.ofKind? with
      | some definition => draftOf definition members (draftsIn resolver members)
      | none => draftUnclaimed members (draftsIn resolver members)
  | _ => .error .notAnObject

/-- The drafts of the causes among the members of an object. -/
def draftsIn
    (resolver : Resolver) :
    List (String × Json) → Except DecodeError (List Draft)
  | [] => .ok []
  | (name, form) :: rest =>
      if name = "causes" then draftsFrom resolver form else draftsIn resolver rest

/-- The drafts of causes; a form that is no array has none. -/
def draftsFrom
    (resolver : Resolver) :
    Json → Except DecodeError (List Draft)
  | .array items => draftAll resolver items
  | _ => .ok []

/-- The drafts of causes in order, or the first failure. -/
def draftAll
    (resolver : Resolver) :
    List Json → Except DecodeError (List Draft)
  | [] => .ok []
  | item :: items => do
      let draft ← draftCause resolver item
      let drafts ← draftAll resolver items
      .ok (draft :: drafts)

end

/-- The draft of a JSON form. -/
def draft
    (resolver : Resolver) :
    Json → Except DecodeError Draft
  | .object members =>
      let kind := (kindOf? members).getD ""
      match resolver.ofKindOrFallback? kind with
      | some definition => draftOf definition members (draftsIn resolver members)
      | none => .error (.unknownKind kind)
  | _ => .error .notAnObject

end Resolver

namespace Store

/-- The cause that errors read from data make up for an occurrence. -/
def causeOfAll
    (store : Store) :
    List ErrorId → Cause × Store
  | [] => (.none, store)
  | [single] => (.single single none, store)
  | members =>
      let (group, store) := store.add (.joined members)
      (.joined group, store)

/-- The error that errors read from data make up for an unclaimed cause. -/
def sourceOfAll
    (store : Store) :
    List ErrorId → Option ErrorId × Store
  | [] => (none, store)
  | [single] => (some single, store)
  | members =>
      let (group, store) := store.add (.joined members)
      (some group, store)

mutual

/-- Create the errors of a draft, causes first. -/
def build
    (store : Store) :
    Draft → ErrorId × Store
  | .occurrence definition settings message causes =>
      let (members, store) := buildAll store causes
      let (derived, store) := store.derive definition settings
      let (cause, store) := store.causeOfAll members
      store.add (.occurrence ⟨derived, message, cause, []⟩)
  | .unclaimed message typeName causes =>
      let (members, store) := buildAll store causes
      let (source, store) := store.sourceOfAll members
      store.add (.unclaimed ⟨message, typeName, source⟩)

/-- Create the errors of drafts in order. -/
def buildAll
    (store : Store) :
    List Draft → List ErrorId × Store
  | [] => ([], store)
  | draft :: drafts =>
      let (identity, store) := build store draft
      let (identities, store) := buildAll store drafts
      (identity :: identities, store)

end

/-- Read an error from its JSON form. -/
def decode
    (store : Store)
    (resolver : Resolver)
    (form : Json) :
    Except DecodeError (ErrorId × Store) :=
  (resolver.draft form).map store.build

/-- Read an error from JSON text. -/
def decodeText
    (store : Store)
    (resolver : Resolver)
    (text : String) :
    Except DecodeError (ErrorId × Store) :=
  match Json.parse text with
  | .ok form => store.decode resolver form
  | .error error => .error (.invalid error)

end Store

end Fault
