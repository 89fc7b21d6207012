import Fault.Definition.Basic

/-!
# Contexts

A context carries the settings of a request. It only grows: settings that are added come after
the ones it has. A derivation applies the settings of a context before its own, so that its own
win.
-/

namespace Fault

/-- Settings that accompany a request, the oldest first. -/
structure Context where
  settings : List Setting

namespace Context

/-- The context without settings. -/
def background : Context :=
  ⟨[]⟩

/-- A context with more settings. -/
def add
    (context : Context)
    (settings : List Setting) :
    Context :=
  ⟨context.settings ++ settings⟩

/-- The dump of a context. -/
def dump (context : Context) : Dump :=
  .record "Context" [("opts", .list (context.settings.map Setting.dump))]

end Context

/-- Derive a definition by the settings of a context and then by its own. -/
def Definition.deriveIn
    (defaults : Defaults)
    (identity : Nat)
    (definition : Definition)
    (context : Context)
    (settings : List Setting) :
    Definition :=
  definition.derive defaults identity (context.settings ++ settings)

end Fault
