import Fault.Proofs.FieldStore
import Fault.Definition.Context

/-!
# Histories of derivations

A definition that is derived step by step is configured like one that is declared with all the
settings at once: those of the declaration first, and then for each step those of its context before
its own. Custom settings do not disturb this. On a given template a custom setting comes to a list
of plain settings, and what any settings make of a kind is read off the plain settings that they
come to: skips add up, flags stay set, and of depths and renderers the last one counts.
-/

namespace Fault

/-! ## Plain settings -/

/-- Whether a setting is a script. -/
def Setting.isCustom : Setting → Bool
  | .custom _ => true
  | _ => false

mutual

/-- The plain settings that a setting comes to on a template. -/
def Setting.plain
    (defaults : Defaults) :
    Setting → Template → List Setting
  | .custom script, template => script.plain defaults template
  | setting, _ => [setting]

/-- The plain settings that a script applies, one after the other, to a template. -/
def Script.plain
    (defaults : Defaults) :
    Script → Template → List Setting
  | .done, _ => []
  | .apply setting next, template =>
      setting.plain defaults template ++ next.plain defaults (setting.apply defaults template)
  | .inspect next, template => (next template.view).plain defaults template

end

namespace Template

/-- The plain settings that settings come to on a template, each on what the ones before it made of
the template. -/
def plain
    (defaults : Defaults)
    (template : Template) :
    List Setting → List Setting
  | [] => []
  | setting :: rest =>
      setting.plain defaults template ++
        (setting.apply defaults template).plain defaults rest

@[simp] theorem applyAll_nil
    (defaults : Defaults)
    (template : Template) :
    template.applyAll defaults [] = template :=
  rfl

@[simp] theorem applyAll_cons
    (defaults : Defaults)
    (template : Template)
    (setting : Setting)
    (rest : List Setting) :
    template.applyAll defaults (setting :: rest) =
      (setting.apply defaults template).applyAll defaults rest :=
  rfl

/-- Settings that follow others are applied to what the others made. -/
theorem applyAll_append
    (defaults : Defaults)
    (template : Template)
    (first second : List Setting) :
    template.applyAll defaults (first ++ second) =
      (template.applyAll defaults first).applyAll defaults second :=
  List.foldl_append

end Template

mutual

/-- A setting does what the plain settings do that it comes to. -/
theorem Setting.applyAll_plain
    (defaults : Defaults)
    (template : Template) :
    ∀ setting : Setting,
      template.applyAll defaults (setting.plain defaults template) =
        setting.apply defaults template
  | .custom script => by
      simpa only [Setting.plain, Setting.apply] using Script.applyAll_plain defaults template script
  | .field _ _ | .noTrace | .stackSkip _ | .stackDepth _ | .boundary | .formatter _
  | .marshaler _ | .logValuer _ => by
      simp [Setting.plain]

/-- The plain settings of a script do what running the script does. -/
theorem Script.applyAll_plain
    (defaults : Defaults)
    (template : Template) :
    ∀ script : Script,
      template.applyAll defaults (script.plain defaults template) = script.run defaults template
  | .done => by
      simp [Script.plain, Script.run]
  | .apply setting next => by
      have first := Setting.applyAll_plain defaults template setting
      have others := Script.applyAll_plain defaults (setting.apply defaults template) next
      simp only [Script.plain, Script.run, Template.applyAll_append, first, others]
  | .inspect next => by
      simpa only [Script.plain, Script.run] using
        Script.applyAll_plain defaults template (next template.view)

end

mutual

/-- The plain settings of a setting are not custom ones. -/
theorem Setting.isCustom_of_mem_plain
    {defaults : Defaults}
    {template : Template}
    {found : Setting} :
    ∀ {setting : Setting},
      found ∈ setting.plain defaults template → found.isCustom = false
  | .custom script, member => by
      have ofScript : found ∈ script.plain defaults template := by
        simpa only [Setting.plain] using member
      exact Script.isCustom_of_mem_plain ofScript
  | .field _ _, member | .noTrace, member | .stackSkip _, member | .stackDepth _, member
  | .boundary, member | .formatter _, member | .marshaler _, member | .logValuer _, member => by
      simp only [Setting.plain, List.mem_singleton] at member
      simp [member, Setting.isCustom]

/-- The plain settings of a script are not custom ones. -/
theorem Script.isCustom_of_mem_plain
    {defaults : Defaults}
    {template : Template}
    {found : Setting} :
    ∀ {script : Script},
      found ∈ script.plain defaults template → found.isCustom = false
  | .done, member => by
      simp [Script.plain] at member
  | .apply setting next, member => by
      simp only [Script.plain, List.mem_append] at member
      rcases member with first | later
      · exact Setting.isCustom_of_mem_plain first
      · exact Script.isCustom_of_mem_plain later
  | .inspect next, member => by
      have ofNext : found ∈ (next template.view).plain defaults template := by
        simpa only [Script.plain] using member
      exact Script.isCustom_of_mem_plain ofNext

end

namespace Template

/-- The plain settings of settings do what these do. -/
theorem applyAll_plain
    (defaults : Defaults)
    (template : Template)
    (settings : List Setting) :
    template.applyAll defaults (template.plain defaults settings) =
      template.applyAll defaults settings := by
  induction settings generalizing template with
  | nil =>
      rfl
  | cons setting rest inductionHypothesis =>
      calc
        template.applyAll defaults (template.plain defaults (setting :: rest))
        _ = (setting.apply defaults template).applyAll defaults
              ((setting.apply defaults template).plain defaults rest) := by
            simp only [plain, applyAll_append, Setting.applyAll_plain]
        _ = template.applyAll defaults (setting :: rest) :=
            inductionHypothesis (setting.apply defaults template)

/-- Plain settings are not custom ones, whatever scripts they were taken from. -/
theorem isCustom_of_mem_plain
    {defaults : Defaults}
    {template : Template}
    {settings : List Setting}
    {found : Setting}
    (member : found ∈ template.plain defaults settings) :
    found.isCustom = false := by
  induction settings generalizing template with
  | nil =>
      simp [plain] at member
  | cons setting rest inductionHypothesis =>
      simp only [plain, List.mem_append] at member
      rcases member with first | later
      · exact Setting.isCustom_of_mem_plain first
      · exact inductionHypothesis later

end Template

/-! ## What plain settings make of a kind -/

namespace Setting

/-- The key and the value that a setting stores. -/
@[simp] def stored? : Setting → Option (Key × Value)
  | .field key value => some (key, value)
  | _ => none

/-- The number of frames that a setting leaves out. -/
@[simp] def skip? : Setting → Option Nat
  | .stackSkip count => some count
  | _ => none

/-- The number of frames that a setting keeps. -/
@[simp] def depth? : Setting → Option Int
  | .stackDepth count => some count
  | _ => none

@[simp] def formatter? : Setting → Option Formatter
  | .formatter format => some format
  | _ => none

@[simp] def marshaler? : Setting → Option Marshaler
  | .marshaler marshal => some marshal
  | _ => none

@[simp] def logValuer? : Setting → Option LogValuer
  | .logValuer value => some value
  | _ => none

/-- Whether a setting turns tracing off. -/
@[simp] def stopsTracing : Setting → Bool
  | .noTrace => true
  | _ => false

/-- Whether a setting makes a boundary. -/
@[simp] def setsBoundary : Setting → Bool
  | .boundary => true
  | _ => false

end Setting

/-- The depth of the last setting of a depth when it is positive, and the default otherwise. -/
def Defaults.depthOf
    (defaults : Defaults) :
    Option Int → Nat
  | some count => if 0 < count then count.toNat else defaults.depth
  | none => defaults.depth

namespace Template

/-- The template of a kind with plain settings, each part of it read off the settings at once. -/
def configured
    (defaults : Defaults)
    (kind : Kind)
    (settings : List Setting) :
    Template where
  kind := kind
  fields := Fields.empty.storeAll (settings.filterMap Setting.stored?)
  noTrace := settings.any Setting.stopsTracing
  skip := min (settings.filterMap Setting.skip?).sum greatestSkip
  depth := defaults.depthOf (settings.filterMap Setting.depth?).getLast?
  boundary := settings.any Setting.setsBoundary
  formatter := (settings.filterMap Setting.formatter?).getLast?
  marshaler := (settings.filterMap Setting.marshaler?).getLast?
  logValuer := (settings.filterMap Setting.logValuer?).getLast?

/-- One more plain setting changes its own part of the template, and no other part. -/
theorem configured_concat
    (defaults : Defaults)
    (kind : Kind)
    (settings : List Setting)
    {last : Setting}
    (plain : last.isCustom = false) :
    configured defaults kind (settings ++ [last]) =
      last.apply defaults (configured defaults kind settings) := by
  cases last with
  | custom script =>
      simp [Setting.isCustom] at plain
  | field key value =>
      simp [configured, Setting.apply, List.filterMap_cons, Fields.storeAll]
  | noTrace =>
      simp [configured, Setting.apply, List.filterMap_cons]
  | stackSkip count =>
      -- Reaching the limit early or late makes no difference to what is left out.
      have saturated :
          ∀ earlier,
            min (earlier + count) greatestSkip =
              min (min earlier greatestSkip + count) greatestSkip := by
        omega
      simp [configured, Setting.apply, List.filterMap_cons, saturated]
  | stackDepth count =>
      by_cases positive : 0 < count
      · have notReset : ¬count ≤ 0 := by
          omega
        simp [configured, Setting.apply, List.filterMap_cons, Defaults.depthOf, positive, notReset]
      · have reset : count ≤ 0 := by
          omega
        simp [configured, Setting.apply, List.filterMap_cons, Defaults.depthOf, positive, reset]
  | boundary =>
      simp [configured, Setting.apply, List.filterMap_cons]
  | formatter format =>
      simp [configured, Setting.apply, List.filterMap_cons]
  | marshaler marshal =>
      simp [configured, Setting.apply, List.filterMap_cons]
  | logValuer value =>
      simp [configured, Setting.apply, List.filterMap_cons]

/-- Settings that are not custom lead to the template that they configure. -/
theorem applyAll_eq_configured
    {defaults : Defaults}
    {kind : Kind}
    {settings : List Setting}
    (plain : ∀ setting ∈ settings, setting.isCustom = false) :
    (ofKind defaults kind).applyAll defaults settings = configured defaults kind settings := by
  induction settings using List.reverseRecOn with
  | nil =>
      rfl
  | append_singleton front last inductionHypothesis =>
      obtain ⟨frontPlain, lastPlain⟩ := List.forall_mem_append.mp plain
      have made := inductionHypothesis frontPlain
      have changed := configured_concat defaults kind front (lastPlain last (by simp))
      simp only [applyAll_append, applyAll_cons, applyAll_nil, made, changed]

end Template

/-! ## Derivations -/

/-- The context that additions to the empty one lead to. -/
def Context.ofAdditions (additions : List (List Setting)) : Context :=
  additions.foldl Context.add .background

/-- The settings of a context are those of its additions, in their order. -/
theorem Context.settings_ofAdditions (additions : List (List Setting)) :
    (Context.ofAdditions additions).settings = additions.flatten := by
  have grown :
      ∀ (context : Context),
        (additions.foldl Context.add context).settings =
          context.settings ++ additions.flatten := by
    induction additions with
    | nil =>
        simp
    | cons added rest inductionHypothesis =>
        intro context
        simp [inductionHypothesis, Context.add]
  exact grown .background

/-- A step of a derivation, under a new identity: by settings alone, or in a context that was built
up by additions. -/
inductive Derivation where
  | bySettings (identity : Nat) (settings : List Setting)
  | inContext (identity : Nat) (additions : List (List Setting)) (settings : List Setting)

namespace Derivation

/-- The settings of a step, those of its context first. -/
def settings : Derivation → List Setting
  | .bySettings _ settings => settings
  | .inContext _ additions settings => additions.flatten ++ settings

/-- The definition that a step derives from another one. -/
def apply
    (defaults : Defaults)
    (definition : Definition) :
    Derivation → Definition
  | .bySettings identity settings => definition.derive defaults identity settings
  | .inContext identity additions settings =>
      definition.deriveIn defaults identity (.ofAdditions additions) settings

/-- A step applies its settings to the template, also where it derives nothing. -/
theorem template_apply
    (defaults : Defaults)
    (definition : Definition)
    (step : Derivation) :
    (step.apply defaults definition).template =
      definition.template.applyAll defaults step.settings := by
  cases step with
  | bySettings identity settings =>
      exact definition.template_derive defaults identity settings
  | inContext identity additions settings =>
      simp only [apply, Definition.deriveIn, Definition.template_derive,
        Context.settings_ofAdditions, Derivation.settings]

end Derivation

namespace Definition

/-- Derive a definition step by step. -/
def deriveAll
    (defaults : Defaults)
    (definition : Definition)
    (steps : List Derivation) :
    Definition :=
  steps.foldl (fun derived step => step.apply defaults derived) definition

/-- A line of derivations leads to the template that all their settings make one after the other. -/
theorem template_deriveAll
    (defaults : Defaults)
    (definition : Definition)
    (steps : List Derivation) :
    (definition.deriveAll defaults steps).template =
      definition.template.applyAll defaults (steps.flatMap Derivation.settings) := by
  induction steps generalizing definition with
  | nil =>
      rfl
  | cons step rest inductionHypothesis =>
      calc
        (definition.deriveAll defaults (step :: rest)).template
        _ = (step.apply defaults definition).template.applyAll defaults
              (rest.flatMap Derivation.settings) :=
            inductionHypothesis (step.apply defaults definition)
        _ = definition.template.applyAll defaults
              ((step :: rest).flatMap Derivation.settings) := by
            simp only [Derivation.template_apply, List.flatMap_cons, Template.applyAll_append]

/-- A definition that is derived step by step has the template of one that is declared with all the
settings at once, and each part of it is read off the plain settings that these come to. -/
theorem derivation_composes
    (defaults : Defaults)
    (identity other : Nat)
    (kind : Kind)
    (settings : List Setting)
    (steps : List Derivation) :
    let all := settings ++ steps.flatMap Derivation.settings
    let plain := (Template.ofKind defaults kind).plain defaults all
    ((declare defaults identity kind settings).deriveAll defaults steps).template =
        (declare defaults other kind all).template ∧
      (declare defaults other kind all).template = Template.configured defaults kind plain ∧
      ∀ setting ∈ plain, setting.isCustom = false := by
  intro all plain
  have noneCustom : ∀ setting ∈ plain, setting.isCustom = false :=
    fun _ member => Template.isCustom_of_mem_plain member
  refine ⟨?_, ?_, noneCustom⟩
  · calc
      ((declare defaults identity kind settings).deriveAll defaults steps).template
      _ = (declare defaults identity kind settings).template.applyAll defaults
            (steps.flatMap Derivation.settings) :=
          template_deriveAll defaults _ steps
      _ = (declare defaults other kind all).template :=
          (Template.applyAll_append defaults _ settings _).symm
  · calc
      (declare defaults other kind all).template
      _ = (Template.ofKind defaults kind).applyAll defaults plain :=
          (Template.applyAll_plain defaults _ all).symm
      _ = Template.configured defaults kind plain :=
          Template.applyAll_eq_configured noneCustom

end Definition

end Fault
