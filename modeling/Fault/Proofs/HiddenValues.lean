import Fault.Graph.Foreign
import Fault.Proofs.LikeOutputs

/-!
# Redaction is non-interfering

Take two graphs that are the same but for what redacted fields hide, at any of their errors. While
no definition has a renderer of its own, no output of any error tells the graphs apart, and neither
do the dumps of definitions and of the settings that made them. What tells them apart is to read a
field by its key and to compare values.
-/

namespace Fault

/-! ## Settings and definitions -/

/-- Whether two settings are the same but for what is redacted. Custom settings are left out: their
scripts see the fields and could act on what is redacted. -/
inductive Setting.LooksLike : Setting → Setting → Prop where
  | field
      (key : Key)
      {first second : Value}
      (alike : first.LooksLike second) :
      LooksLike (.field key first) (.field key second)
  | noTrace : LooksLike .noTrace .noTrace
  | stackSkip (count : Nat) : LooksLike (.stackSkip count) (.stackSkip count)
  | stackDepth (count : Int) : LooksLike (.stackDepth count) (.stackDepth count)
  | boundary : LooksLike .boundary .boundary
  | formatter (format : Formatter) : LooksLike (.formatter format) (.formatter format)
  | marshaler (marshal : Marshaler) : LooksLike (.marshaler marshal) (.marshaler marshal)
  | logValuer (value : LogValuer) : LooksLike (.logValuer value) (.logValuer value)

/-- Settings that look alike are dumped alike. -/
theorem Setting.LooksLike.dump_eq
    {first second : Setting}
    (alike : first.LooksLike second) :
    first.dump = second.dump := by
  cases alike with
  | field key valuesAlike =>
      rw [Setting.dump, Setting.dump, valuesAlike.dump_eq]
  | _ =>
      rfl

/-- To store values that look alike leaves fields that look alike. -/
theorem Fields.LooksLike.store
    {first second : Fields}
    (alike : first.LooksLike second)
    (key : Key)
    {value other : Value}
    (valuesAlike : value.LooksLike other) :
    (first.store key value).LooksLike (second.store key other) := by
  have kept :
      List.Forall₂ Field.LooksLike
        (first.entries.filter fun field => field.key.identity != key.identity)
        (second.entries.filter fun field => field.key.identity != key.identity) := by
    apply List.rel_filter _ alike
    intro field other fieldsAlike
    simp only [fieldsAlike.key]
  exact List.rel_append kept (.cons ⟨rfl, valuesAlike⟩ .nil)

/-- Settings that look alike keep templates alike. -/
theorem Template.LooksLike.apply
    {first second : Template}
    (alike : first.LooksLike second)
    (defaults : Defaults)
    {setting other : Setting}
    (settingsAlike : setting.LooksLike other) :
    (setting.apply defaults first).LooksLike (other.apply defaults second) := by
  cases settingsAlike with
  | field key valuesAlike =>
      exact { alike with fields := alike.fields.store key valuesAlike }
  | noTrace =>
      exact { alike with noTrace := rfl }
  | stackSkip count =>
      exact { alike with skip := congrArg (fun skip => min (skip + count) greatestSkip) alike.skip }
  | stackDepth count =>
      exact { alike with depth := rfl }
  | boundary =>
      exact { alike with boundary := rfl }
  | formatter format =>
      exact { alike with formatter := rfl }
  | marshaler marshal =>
      exact { alike with marshaler := rfl }
  | logValuer value =>
      exact { alike with logValuer := rfl }

/-- To apply settings that look alike leaves templates that look alike. -/
theorem Template.LooksLike.applyAll
    {first second : Template}
    (alike : first.LooksLike second)
    (defaults : Defaults)
    {settings others : List Setting}
    (settingsAlike : List.Forall₂ Setting.LooksLike settings others) :
    (first.applyAll defaults settings).LooksLike (second.applyAll defaults others) := by
  induction settingsAlike generalizing first second with
  | nil =>
      exact alike
  | cons headsAlike _ inductionHypothesis =>
      exact inductionHypothesis (alike.apply defaults headsAlike)

/-- Definitions that are declared by settings that look alike look alike. -/
theorem Definition.looksLike_declare
    (defaults : Defaults)
    (identity : Nat)
    (kind : Kind)
    {settings others : List Setting}
    (settingsAlike : List.Forall₂ Setting.LooksLike settings others) :
    (declare defaults identity kind settings).LooksLike
      (declare defaults identity kind others) where
  identity := rfl
  template := (Template.LooksLike.refl (.ofKind defaults kind)).applyAll defaults settingsAlike
  origin := .none

/-- The roots of definitions that look alike look alike. -/
theorem Definition.LooksLike.root
    {first second : Definition}
    (alike : first.LooksLike second) :
    first.root.LooksLike second.root := by
  unfold Definition.root
  rcases rel_iff.mp alike.origin with
    ⟨isRoot, otherIsRoot⟩ | ⟨origin, other, derived, otherDerived, originsAlike⟩
  · rw [isRoot, otherIsRoot]
    exact alike
  · rw [derived, otherDerived]
    exact ⟨originsAlike.1, originsAlike.2, .none⟩

/-! ## Graphs -/

namespace Graph

/-- Whether no definition of a graph has a renderer of its own. -/
def HasNoRenderers (graph : Graph) : Prop :=
  ∀ node ∈ graph.nodes.toList,
    (node.occurrence?.any fun error => error.definition.template.isRendered) = false

instance (graph : Graph) : Decidable graph.HasNoRenderers :=
  inferInstanceAs
    (Decidable
      (∀ node ∈ graph.nodes.toList,
        (node.occurrence?.any fun error => error.definition.template.isRendered) = false))

/-- In a graph without renderers no occurrence has any. -/
theorem HasNoRenderers.isRendered_eq_false
    {graph : Graph}
    (unrendered : graph.HasNoRenderers)
    {identity : ErrorId}
    {error : Occurrence}
    (found : graph.get? identity = some (.occurrence error)) :
    error.definition.template.isRendered = false := by
  have stands : .occurrence error ∈ graph.nodes.toList :=
    Array.mem_toList_iff.mpr (Array.mem_of_getElem? found)
  exact unrendered _ stands

/-- Graphs whose errors look alike one by one have errors that look alike under every identity. -/
theorem rel_get?_of_forall₂
    {first second : Graph}
    (alike : List.Forall₂ Node.LooksLike first.nodes.toList second.nodes.toList)
    (identity : ErrorId) :
    Option.Rel Node.LooksLike (first.get? identity) (second.get? identity) := by
  have listed :
      ∀ {nodes others : List Node} (index : Nat),
        List.Forall₂ Node.LooksLike nodes others →
        Option.Rel Node.LooksLike nodes[index]? others[index]? := by
    intro nodes others index nodesAlike
    induction nodesAlike generalizing index with
    | nil =>
        exact .none
    | cons headsAlike _ inductionHypothesis =>
        cases index with
        | zero =>
            exact .some headsAlike
        | succ index =>
            exact inductionHypothesis index
  have found := listed identity.index alike
  rwa [Array.getElem?_toList, Array.getElem?_toList] at found

/-- Graphs look alike when their errors do, one by one, and none has renderers. -/
theorem looksLike_of_forall₂
    {first second : Graph}
    (alike : List.Forall₂ Node.LooksLike first.nodes.toList second.nodes.toList)
    (unrendered : first.HasNoRenderers) :
    first.LooksLike (fun _ => True) second where
  nodes identity _ := rel_get?_of_forall₂ alike identity
  closed _ _ _ _ _ _ := trivial
  fields_eq identity error other _ found _ rendered := by
    simp [unrendered.isRendered_eq_false found] at rendered

/-- No output of any error depends on what is redacted anywhere in a graph without renderers, and
neither do the dumps of its definitions and of settings. A field that is read by its key gives the
value that its own graph holds, which looks like the value of the other one. -/
theorem redacted_values_reach_no_output
    {first second : Graph}
    (alike : List.Forall₂ Node.LooksLike first.nodes.toList second.nodes.toList)
    (unrendered : first.HasNoRenderers)
    (observer : ErrorId) :
    first.SameOutputs second observer ∧
      (∀ target, first.isIn target observer = second.isIn target observer) ∧
      (∀ error other,
        first.occurrence? observer = some error →
        second.occurrence? observer = some other →
        error.definition.dump = other.definition.dump ∧
          error.definition.root.dump = other.definition.root.dump ∧
          error.definition.fields.dump = other.definition.fields.dump ∧
          error.definition.fields.entries.map Field.text =
            other.definition.fields.entries.map Field.text) ∧
      (∀ setting other : Setting, setting.LooksLike other → setting.dump = other.dump) ∧
      ∀ key : Key,
        Option.Rel Value.LooksLike (key.read? first observer) (key.read? second observer) := by
  have graphsAlike := looksLike_of_forall₂ alike unrendered
  refine ⟨graphsAlike.sameOutputs trivial, fun target => ?_, ?_,
    fun _ _ => Setting.LooksLike.dump_eq, graphsAlike.read? trivial⟩
  · exact graphsAlike.isIn_eq trivial trivial
  · intro error other found otherFound
    have occurrencesAlike : error.LooksLike other :=
      graphsAlike.looksLike_of_get? trivial (get?_of_occurrence?_eq_some found)
        (get?_of_occurrence?_eq_some otherFound)
    have definitionsAlike := occurrencesAlike.definition
    have fieldsAlike : error.definition.fields.LooksLike other.definition.fields :=
      definitionsAlike.template.fields
    exact ⟨definitionsAlike.dump_eq, definitionsAlike.root.dump_eq, fieldsAlike.dump_eq,
      fieldsAlike.map_eq fun _ _ => Field.LooksLike.text_eq⟩

/-- The key of a field that hides a text. -/
def passwordKey : Key :=
  .made 0 "password" .redactedText

/-- The settings of a definition whose errors carry a password. -/
def guardedSettings (password : String) : List Setting :=
  [.noTrace, .field passwordKey (.redactedText ⟨password⟩)]

/-- An occurrence that carries a password, a foreign error that tells of it, and an occurrence that
leads to both. -/
def guardedGraph (password : String) : Graph where
  nodes :=
    #[.occurrence ⟨.declare .standard 0 ⟨"auth"⟩ (guardedSettings password), "denied", .none, []⟩,
      .foreign (Foreign.enclosing "Outer" "outer" ⟨0⟩),
      .joined [⟨1⟩, ⟨0⟩],
      .occurrence ⟨.declare .standard 1 ⟨"top"⟩ [.noTrace], "top", .joined ⟨2⟩, []⟩]

/-- The guarded graphs look alike, whatever their secrets are. -/
theorem looksLike_guardedGraph (first second : String) :
    List.Forall₂ Node.LooksLike
      (guardedGraph first).nodes.toList (guardedGraph second).nodes.toList := by
  have settings : List.Forall₂ Setting.LooksLike (guardedSettings first) (guardedSettings second) :=
    .cons .noTrace (.cons (.field passwordKey (.redactedText ⟨first⟩ ⟨second⟩)) .nil)
  have carriers :
      Occurrence.LooksLike
        ⟨.declare .standard 0 ⟨"auth"⟩ (guardedSettings first), "denied", .none, []⟩
        ⟨.declare .standard 0 ⟨"auth"⟩ (guardedSettings second), "denied", .none, []⟩ :=
    ⟨Definition.looksLike_declare .standard 0 ⟨"auth"⟩ settings, rfl, rfl, fun _ => rfl⟩
  exact .cons (.occurrence carriers)
    (.cons (.refl _) (.cons (.refl _) (.cons (.refl _) .nil)))

/-- Two passwords are told apart by those who read them, but no output tells them apart. -/
theorem redacted_values_reach_no_output_guardedGraph :
    List.Forall₂ Node.LooksLike
        (guardedGraph "hunter2").nodes.toList (guardedGraph "swordfish").nodes.toList ∧
      (guardedGraph "hunter2").HasNoRenderers ∧
      (guardedGraph "hunter2").SameOutputs (guardedGraph "swordfish") ⟨3⟩ ∧
      passwordKey.read? (guardedGraph "hunter2") ⟨0⟩ = some (.redactedText ⟨"hunter2"⟩) ∧
      passwordKey.read? (guardedGraph "swordfish") ⟨0⟩ = some (.redactedText ⟨"swordfish"⟩) ∧
      Value.equals (.redactedText ⟨"hunter2"⟩) (.redactedText ⟨"swordfish"⟩) = false := by
  have alike := looksLike_guardedGraph "hunter2" "swordfish"
  have unrendered : (guardedGraph "hunter2").HasNoRenderers := by
    decide
  have hidden := redacted_values_reach_no_output alike unrendered ⟨3⟩
  exact ⟨alike, unrendered, hidden.1, by cbv, by cbv, by decide⟩

end Graph

end Fault
