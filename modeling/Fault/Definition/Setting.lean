import Fault.Renderer
import Fault.Defaults

/-!
# Settings

A setting is one unit of configuration of a definition. A custom setting is a script: a finite
program that looks at the template as it stands and applies further settings to it. Scripts and
settings contain each other, so a script can do what any list of settings can do, and choose
among them by the kind and the fields it finds.
-/

namespace Fault

/-- What a script sees of the template it is applied to. -/
structure TemplateView where
  kind : Kind
  fields : Fields

mutual

/-- One unit of configuration. -/
inductive Setting where
  /-- Store a value under a key. -/
  | field (key : Key) (value : Value)
  /-- Capture no call stacks. -/
  | noTrace
  /-- Leave out more frames of a call stack. -/
  | stackSkip (count : Nat)
  /-- Keep no more frames than this; a count that is not positive restores the default. -/
  | stackDepth (count : Int)
  /-- Show no causes to anyone who walks the chain. -/
  | boundary
  | formatter (format : Formatter)
  | marshaler (marshal : Marshaler)
  | logValuer (value : LogValuer)
  | custom (script : Script)

/-- A program that configures a template. -/
inductive Script where
  | done
  /-- Apply a setting and go on. -/
  | apply (setting : Setting) (next : Script)
  /-- Go on as the template stands. -/
  | inspect (next : TemplateView → Script)

end

/-- Everything that settings can configure. -/
structure Template where
  kind : Kind
  fields : Fields
  noTrace : Bool
  skip : Nat
  depth : Nat
  boundary : Bool
  formatter : Option Formatter
  marshaler : Option Marshaler
  logValuer : Option LogValuer

namespace Template

/-- The template of a kind without settings. -/
def ofKind
    (defaults : Defaults)
    (kind : Kind) :
    Template where
  kind := kind
  fields := .empty
  noTrace := false
  skip := 0
  depth := defaults.depth
  boundary := false
  formatter := none
  marshaler := none
  logValuer := none

/-- What a script sees of a template. -/
def view (template : Template) : TemplateView :=
  ⟨template.kind, template.fields⟩

/-- The greatest number of frames that can be skipped. -/
def greatestSkip : Nat :=
  UInt64.size - 1

end Template

mutual

/-- Apply a setting to a template. -/
def Setting.apply
    (defaults : Defaults) :
    Setting → Template → Template
  | .field key value, template =>
      { template with fields := template.fields.store key value }
  | .noTrace, template => { template with noTrace := true }
  | .stackSkip count, template =>
      { template with skip := min (template.skip + count) Template.greatestSkip }
  | .stackDepth count, template =>
      { template with depth := if count ≤ 0 then defaults.depth else count.toNat }
  | .boundary, template => { template with boundary := true }
  | .formatter format, template => { template with formatter := some format }
  | .marshaler marshal, template => { template with marshaler := some marshal }
  | .logValuer value, template => { template with logValuer := some value }
  | .custom script, template => script.run defaults template

/-- Run a script on a template. -/
def Script.run
    (defaults : Defaults) :
    Script → Template → Template
  | .done, template => template
  | .apply setting next, template => next.run defaults (setting.apply defaults template)
  | .inspect next, template => (next template.view).run defaults template

end

/-- Apply settings to a template, one after the other. -/
def Template.applyAll
    (defaults : Defaults)
    (template : Template)
    (settings : List Setting) :
    Template :=
  settings.foldl (fun configured setting => setting.apply defaults configured) template

/-- The dump of a setting; what a function does is not shown. -/
def Setting.dump : Setting → Dump
  | .field key value =>
      .record "Opt::Field" [("name", .quoted key.name), ("value", value.dump)]
  | .noTrace => .text "Opt::NoTrace"
  | .stackSkip count => .tuple "Opt::StackSkip" [.natural count]
  | .stackDepth count => .tuple "Opt::StackDepth" [.integer count]
  | .boundary => .text "Opt::Boundary"
  | .formatter _ => .text "Opt::Formatter(..)"
  | .marshaler _ => .text "Opt::JsonMarshaler(..)"
  | .logValuer _ => .text "Opt::LogValuer(..)"
  | .custom _ => .text "Opt::Custom(..)"

end Fault
