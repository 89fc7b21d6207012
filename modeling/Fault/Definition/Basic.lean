import Fault.Definition.Setting

/-!
# Definitions

A definition is a template for errors with an identity of its own. A derived definition has a
template that more settings were applied to, a new identity, and a memory of the root: the
definition at the start of its history of derivations. Roots never chain, and two definitions
belong to one family exactly when their roots are the same.
-/

namespace Fault

/-- A reusable template for errors. -/
structure Definition where
  identity : Nat
  template : Template
  /-- The identity and the template of the root, when this is not a root itself. -/
  origin : Option (Nat × Template)

namespace Definition

/-- Declare a root definition under a new identity. -/
def declare
    (defaults : Defaults)
    (identity : Nat)
    (kind : Kind)
    (settings : List Setting) :
    Definition :=
  ⟨identity, (Template.ofKind defaults kind).applyAll defaults settings, none⟩

/-- The root of a definition. -/
def root (definition : Definition) : Definition :=
  match definition.origin with
  | some (identity, template) => ⟨identity, template, none⟩
  | none => definition

/-- The identity of the root of a definition. -/
def rootIdentity (definition : Definition) : Nat :=
  definition.root.identity

/-- Whether a definition is a root. -/
def isRoot (definition : Definition) : Bool :=
  definition.origin.isNone

/-- Whether two definitions are the very same. -/
def isSame (first second : Definition) : Bool :=
  first.identity == second.identity

/-- Whether two definitions share a root. -/
def sameRoot (first second : Definition) : Bool :=
  first.rootIdentity == second.rootIdentity

/-- Derive a definition by settings, under a new identity; without settings nothing is derived and
the definition itself is the result. -/
def derive
    (defaults : Defaults)
    (identity : Nat)
    (definition : Definition)
    (settings : List Setting) :
    Definition :=
  if settings.isEmpty then
    definition
  else
    ⟨identity, definition.template.applyAll defaults settings,
      some (definition.root.identity, definition.root.template)⟩

/-- The kind of a definition. -/
def kind (definition : Definition) : Kind :=
  definition.template.kind

/-- The fields of a definition. -/
def fields (definition : Definition) : Fields :=
  definition.template.fields

/-- Whether the errors of a definition hide their causes. -/
def isBoundary (definition : Definition) : Bool :=
  definition.template.boundary

/-- Whether the errors of a definition capture call stacks. -/
def isTraced
    (defaults : Defaults)
    (definition : Definition) :
    Bool :=
  !definition.template.noTrace && defaults.traced

/-- The part of a call stack that an error of a definition keeps. -/
def capture
    (defaults : Defaults)
    (definition : Definition)
    (calls : Stack) :
    Stack :=
  if definition.isTraced defaults then
    Stack.capture definition.template.skip definition.template.depth calls
  else
    []

/-- The dump of a definition; settings that were left alone are not shown. -/
def dump (definition : Definition) : Dump :=
  let template := definition.template
  .record "Definition" <|
    [("kind", template.kind.dump)] ++
    (if template.fields.isEmpty then [] else [("fields", template.fields.dump)]) ++
    [("trace", .boolean !template.noTrace)] ++
    (if 0 < template.skip then [("stack_skip", .natural template.skip)] else []) ++
    [("stack_depth", .natural template.depth)] ++
    (if template.boundary then [("boundary", .boolean true)] else []) ++
    [("root", .boolean definition.isRoot)]

end Definition

end Fault
