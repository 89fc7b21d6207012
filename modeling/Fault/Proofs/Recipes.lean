import Fault.Proofs.Derivations
import Fault.Proofs.Families
import Fault.Proofs.ReadableForms

/-!
# How definitions were made

Every definition goes back to a declaration and to the steps that derived it from what was declared:
its recipe. The recipe tells all there is to know of the definition. Its kind is the one that was
declared, its root is what the declaration gave, and its template is read off its history, the plain
settings that declaration and steps come to.

A store issues definitions under identities that it counts upwards. No identity is handed out twice,
so definitions of one identity are one definition, and definitions of one root have one kind. All
definitions that a program makes are issued this way, and so are those of errors that are read from
data.
-/

namespace Fault

/-! ## Recipes -/

/-- The identity under which a step derives a definition. -/
def Derivation.identity : Derivation → Nat
  | .bySettings identity _ => identity
  | .inContext identity _ _ => identity

/-- How a definition was made: its declaration, and the steps after it in their order. -/
structure Recipe where
  identity : Nat
  kind : Kind
  settings : List Setting
  steps : List Derivation

namespace Recipe

/-- The definition that a recipe makes. -/
def definition
    (defaults : Defaults)
    (recipe : Recipe) :
    Definition :=
  (Definition.declare defaults recipe.identity recipe.kind recipe.settings).deriveAll defaults
    recipe.steps

/-- The plain settings that the declaration and the steps of a recipe come to, in their order. -/
def history
    (defaults : Defaults)
    (recipe : Recipe) :
    List Setting :=
  (Template.ofKind defaults recipe.kind).plain defaults
    (recipe.settings ++ recipe.steps.flatMap Derivation.settings)

/-- A recipe with one more step. -/
def add
    (recipe : Recipe)
    (step : Derivation) :
    Recipe :=
  { recipe with steps := recipe.steps ++ [step] }

/-- A step that is added to a recipe is taken last. -/
theorem definition_add
    (defaults : Defaults)
    (recipe : Recipe)
    (step : Derivation) :
    (recipe.add step).definition defaults = step.apply defaults (recipe.definition defaults) := by
  simp only [definition, add, Definition.deriveAll, List.foldl_append, List.foldl_cons,
    List.foldl_nil]

/-- The template of a definition is read off its history. -/
theorem template_definition
    (defaults : Defaults)
    (recipe : Recipe) :
    (recipe.definition defaults).template =
      Template.configured defaults recipe.kind (recipe.history defaults) := by
  let all := recipe.settings ++ recipe.steps.flatMap Derivation.settings
  calc
    (recipe.definition defaults).template
    _ = ((Template.ofKind defaults recipe.kind).applyAll defaults recipe.settings).applyAll defaults
          (recipe.steps.flatMap Derivation.settings) :=
        Definition.template_deriveAll defaults _ recipe.steps
    _ = (Template.ofKind defaults recipe.kind).applyAll defaults all :=
        (Template.applyAll_append defaults _ recipe.settings _).symm
    _ = (Template.ofKind defaults recipe.kind).applyAll defaults (recipe.history defaults) :=
        (Template.applyAll_plain defaults _ all).symm
    _ = Template.configured defaults recipe.kind (recipe.history defaults) :=
        Template.applyAll_eq_configured fun _ member => Template.isCustom_of_mem_plain member

/-- No setting changes a kind. -/
theorem kind_definition
    (defaults : Defaults)
    (recipe : Recipe) :
    (recipe.definition defaults).kind = recipe.kind := by
  simp only [Definition.kind, template_definition, Template.configured]

/-- The root of a definition is what its declaration gave. -/
theorem root_definition
    (defaults : Defaults)
    (recipe : Recipe) :
    (recipe.definition defaults).root =
      Definition.declare defaults recipe.identity recipe.kind recipe.settings := by
  have kept :
      ∀ (steps : List Derivation) (definition : Definition),
        (definition.deriveAll defaults steps).root = definition.root := by
    intro steps
    induction steps with
    | nil =>
        exact fun _ => rfl
    | cons step rest inductionHypothesis =>
        intro definition
        calc
          (definition.deriveAll defaults (step :: rest)).root
          _ = (step.apply defaults definition).root :=
              inductionHypothesis (step.apply defaults definition)
          _ = definition.root := by
              cases step with
              | bySettings identity settings =>
                  exact definition.root_derive defaults identity settings
              | inContext identity additions settings =>
                  exact definition.root_derive defaults identity _
  exact kept recipe.steps _

/-- Definitions share a root exactly when one declaration is at the start of both. -/
theorem sameRoot_iff
    (defaults : Defaults)
    (first second : Recipe) :
    (first.definition defaults).sameRoot (second.definition defaults) = true ↔
      first.identity = second.identity := by
  simp only [Definition.sameRoot, Definition.rootIdentity, root_definition, Definition.declare,
    beq_iff_eq]

end Recipe

/-- A step gives the definition back, or a definition of its own identity. -/
theorem Derivation.apply_cases
    (defaults : Defaults)
    (definition : Definition)
    (step : Derivation) :
    step.apply defaults definition = definition ∨
      (step.apply defaults definition).identity = step.identity := by
  have derived :
      ∀ (identity : Nat) (settings : List Setting),
        definition.derive defaults identity settings = definition ∨
          (definition.derive defaults identity settings).identity = identity := by
    intro identity settings
    cases settings with
    | nil =>
        exact .inl rfl
    | cons setting rest =>
        exact .inr rfl
  cases step with
  | bySettings identity settings =>
      exact derived identity settings
  | inContext identity additions settings =>
      exact derived identity _

/-! ## Issued recipes -/

namespace Recipe

/-- Whether a recipe can be issued next to others under an identity: as a declaration, or as one
of them with one more step. -/
inductive IsNext (identity : Nat) (recipes : List Recipe) : Recipe → Prop where
  | declared
      (kind : Kind)
      (settings : List Setting) :
      IsNext identity recipes ⟨identity, kind, settings, []⟩
  | derived
      {base : Recipe}
      {step : Derivation} :
      base ∈ recipes →
      step.identity = identity →
      IsNext identity recipes (base.add step)

/-- Whether recipes were issued one after the other under the first so many identities. -/
inductive Issued : Nat → List Recipe → Prop where
  | start :
      Issued 0 []
  | next
      {count : Nat}
      {recipes : List Recipe}
      {recipe : Recipe} :
      Issued count recipes →
      IsNext count recipes recipe →
      Issued (count + 1) (recipes ++ [recipe])

namespace Issued

variable {count : Nat} {recipes : List Recipe}

/-- When every new recipe has the next number, or repeats an earlier one in its number and in what
comes with it, all numbers were handed out, and the number tells what comes with it. -/
theorem numbered
    {α : Type}
    (number : Recipe → Nat)
    (content : Recipe → α)
    (new :
      ∀ {count : Nat} {recipes : List Recipe} {recipe : Recipe},
        recipe.IsNext count recipes →
        number recipe = count ∨
          ∃ base ∈ recipes, number recipe = number base ∧ content recipe = content base)
    (issued : Issued count recipes) :
    (∀ recipe ∈ recipes, number recipe < count) ∧
      ∀ first ∈ recipes,
      ∀ second ∈ recipes,
        number first = number second → content first = content second := by
  induction issued with
  | start =>
      simp
  | @next count recipes recipe issued isNext inductionHypothesis =>
      obtain ⟨smaller, telling⟩ := inductionHypothesis
      have earlierSmaller : ∀ earlier ∈ recipes, number earlier < count + 1 :=
        fun earlier member => Nat.lt_succ_of_lt (smaller earlier member)
      simp only [List.forall_mem_append, List.forall_mem_singleton, implies_true, and_true]
      rcases new isNext with fresh | ⟨base, member, sameNumber, sameContent⟩
      · have apart : ∀ earlier ∈ recipes, number earlier ≠ number recipe := by
          intro earlier member
          have below := smaller earlier member
          omega
        refine ⟨⟨earlierSmaller, by omega⟩, fun first firstMember => ?_, ?_⟩
        · exact ⟨telling first firstMember, fun same => absurd same (apart first firstMember)⟩
        · exact fun second secondMember same => absurd same.symm (apart second secondMember)
      · refine ⟨⟨earlierSmaller, ?_⟩, fun first firstMember => ⟨telling first firstMember, ?_⟩, ?_⟩
        · exact sameNumber ▸ earlierSmaller base member
        · intro same
          exact (telling first firstMember base member (same.trans sameNumber)).trans
            sameContent.symm
        · intro second secondMember same
          exact sameContent.trans
            (telling base member second secondMember (sameNumber.symm.trans same))

/-- Definitions of one identity are one definition, and the next identity is free. -/
theorem definition_numbered
    (issued : Issued count recipes)
    (defaults : Defaults) :
    (∀ recipe ∈ recipes, (recipe.definition defaults).identity < count) ∧
      ∀ first ∈ recipes,
      ∀ second ∈ recipes,
        (first.definition defaults).identity = (second.definition defaults).identity →
          first.definition defaults = second.definition defaults := by
  refine issued.numbered (fun recipe => (recipe.definition defaults).identity)
    (Recipe.definition defaults) fun isNext => ?_
  cases isNext with
  | declared kind settings =>
      exact .inl rfl
  | @derived base step member isNumber =>
      simp only [definition_add]
      rcases Derivation.apply_cases defaults (base.definition defaults) step with same | fresh
      · exact .inr ⟨base, member, congrArg _ same, same⟩
      · exact .inl (fresh.trans isNumber)

/-- Recipes that start from one declaration have one kind. -/
theorem kind_eq
    (issued : Issued count recipes)
    {first second : Recipe}
    (member : first ∈ recipes)
    (otherMember : second ∈ recipes)
    (sameStart : first.identity = second.identity) :
    first.kind = second.kind := by
  refine (issued.numbered Recipe.identity Recipe.kind fun isNext => ?_).2 first member second
    otherMember sameStart
  cases isNext with
  | declared kind settings =>
      exact .inl rfl
  | @derived base step baseMember isNumber =>
      exact .inr ⟨base, baseMember, rfl, rfl⟩

end Issued

end Recipe

/-! ## What programs issue -/

/-- Whether recipes account for a store: they were issued under its identities, and made the
definitions of all its occurrences. -/
structure Store.Knows
    (store : Store)
    (recipes : List Recipe) :
    Prop where
  issued : Recipe.Issued store.definitions recipes
  owned :
    ∀ identity error,
      store.graph.get? identity = some (.occurrence error) →
      ∃ recipe ∈ recipes, recipe.definition store.defaults = error.definition

namespace Program

/-- Whether recipes that were issued make the definitions of a program, one by one. -/
def IsIssued (program : Program) : Prop :=
  ∃ recipes,
    Recipe.Issued program.store.definitions recipes ∧
      recipes.map (Recipe.definition program.store.defaults) = program.definitions

namespace IsIssued

variable {program : Program}

/-- To declare a definition issues it from a recipe without steps. -/
theorem declare
    (isIssued : program.IsIssued)
    (kind : Kind)
    (settings : List Setting) :
    (program.declare kind settings).IsIssued := by
  obtain ⟨recipes, issued, same⟩ := isIssued
  refine ⟨_, issued.next (.declared kind settings), ?_⟩
  simp only [Program.declare, Store.declare, definitions, List.map_append, List.map_cons,
    List.map_nil] at same ⊢
  rw [same]
  rfl

/-- To derive a definition issues it from the recipe of its base with one more step. -/
theorem deriveFrom
    (isIssued : program.IsIssued)
    (base : Nat)
    (step : Derivation)
    (isNext : step.identity = program.store.definitions)
    {derive : Definition → Definition × Store}
    (derives :
      ∀ definition,
        derive definition =
          (step.apply program.store.defaults definition,
            { program.store with definitions := program.store.definitions + 1 })) :
    (program.deriveFrom base derive).IsIssued := by
  obtain ⟨recipes, issued, same⟩ := isIssued
  unfold Program.deriveFrom
  cases found : program.made[base]? with
  | none =>
      exact ⟨recipes, issued, same⟩
  | some made =>
      have member : made.definition ∈ recipes.map (Recipe.definition program.store.defaults) := by
        rw [same]
        exact List.mem_map_of_mem (List.mem_of_getElem? found)
      obtain ⟨recipe, recipeMember, isMade⟩ := List.mem_map.mp member
      simp only [derives]
      refine ⟨_, issued.next (.derived recipeMember isNext), ?_⟩
      simp only [definitions, List.map_append, List.map_cons, List.map_nil] at same ⊢
      rw [same, Recipe.definition_add, isMade]

/-- To keep an error issues no definition. -/
theorem keep
    (isIssued : program.IsIssued)
    (needed : List ErrorId)
    (created : Option (ErrorId × Graph)) :
    (program.keep needed created).IsIssued := by
  unfold Program.keep
  cases created with
  | none =>
      exact isIssued
  | some result =>
      simp only
      split
      · exact isIssued
      · exact isIssued

/-- To create an error issues no definition. -/
theorem createBy
    (isIssued : program.IsIssued)
    (owner : Nat)
    (calls : Stack)
    (needed : List ErrorId)
    (create : Occasion → Option (ErrorId × Graph)) :
    (program.createBy owner calls needed create).IsIssued := by
  unfold Program.createBy
  cases program.made[owner]? with
  | none =>
      exact isIssued
  | some made =>
      exact isIssued.keep needed _

/-- Every call issues at most one definition, and errors are created without any. -/
theorem step
    (isIssued : program.IsIssued)
    (call : Call) :
    (program.step call).IsIssued := by
  cases call with
  | declare kind settings =>
      exact isIssued.declare kind settings
  | derive base settings =>
      exact isIssued.deriveFrom base (.bySettings _ settings) rfl fun _ => rfl
  | deriveIn base context settings =>
      exact isIssued.deriveFrom base (.inContext _ [context.settings] settings) rfl fun _ => rfl
  | create owner calls message => exact isIssued.createBy owner calls _ _
  | wrap owner calls handle => exact isIssued.createBy owner calls _ _
  | wrapWith owner calls message handle => exact isIssued.createBy owner calls _ _
  | join owner calls members => exact isIssued.createBy owner calls _ _
  | recover owner calls payload => exact isIssued.createBy owner calls _ _
  | gather members => exact isIssued.keep _ _
  | foreign error => exact isIssued.keep _ _
  | marker error => exact isIssued.keep _ _
  | link error source => exact isIssued.keep _ _

end IsIssued

/-- All definitions of a program are issued from recipes. -/
theorem isIssued_run
    (defaults : Defaults)
    (calls : List Call) :
    (run defaults calls).IsIssued :=
  List.foldlRecOn calls Program.step ⟨[], .start, rfl⟩ fun _ isIssued call _ => isIssued.step call

/-- After every run, issued recipes make the definitions of the program and account for its
errors. -/
theorem exists_knows_run
    (defaults : Defaults)
    (calls : List Call) :
    ∃ recipes,
      (run defaults calls).store.Knows recipes ∧
        recipes.map (Recipe.definition (run defaults calls).store.defaults) =
          (run defaults calls).definitions := by
  obtain ⟨recipes, issued, same⟩ := isIssued_run defaults calls
  refine ⟨recipes, ⟨issued, fun identity error found => ?_⟩, same⟩
  have owned := (wellFormed_run defaults calls).belongs.owned identity error found
  rw [← same] at owned
  exact List.mem_map.mp owned

end Program

/-! ## What reading issues -/

mutual

/-- The definitions that a draft asks for. -/
def Draft.definitions : Draft → List Definition
  | .occurrence definition _ _ causes => definition :: Draft.allDefinitions causes
  | .unclaimed _ _ causes => Draft.allDefinitions causes

/-- The definitions that drafts ask for. -/
def Draft.allDefinitions : List Draft → List Definition
  | [] => []
  | draft :: drafts => draft.definitions ++ Draft.allDefinitions drafts

end

namespace Resolver

variable {resolver : Resolver}

/-- The definition of a kind is one of those of the resolver. -/
theorem mem_definitions_of_ofKind?_eq_some
    {label : String}
    {definition : Definition}
    (found : resolver.ofKind? label = some definition) :
    definition ∈ resolver.definitions :=
  List.mem_of_find?_eq_some found

/-- The drafts of causes ask for definitions of the resolver only. -/
theorem allDefinitions_subset_of_draftAll
    {forms : List Json}
    {drafts : List Draft}
    (inDrafts :
      ∀ form ∈ forms,
      ∀ draft,
        resolver.draftCause form = .ok draft → draft.definitions ⊆ resolver.definitions)
    (read : resolver.draftAll forms = .ok drafts) :
    Draft.allDefinitions drafts ⊆ resolver.definitions := by
  induction forms generalizing drafts with
  | nil =>
      cases read
      simp [Draft.allDefinitions]
  | cons form forms inductionHypothesis =>
      obtain ⟨first, others, firstRead, othersRead, rfl⟩ := draftAll_cons_eq_ok_iff.mp read
      obtain ⟨inFirst, inOthers⟩ := List.forall_mem_cons.mp inDrafts
      simp only [Draft.allDefinitions, List.append_subset]
      exact ⟨inFirst first firstRead, inductionHypothesis inOthers othersRead⟩

/-- A cause that is read asks for registered definitions only, never for the fallback. -/
theorem definitions_subset_of_draftCause
    {form : Json}
    {draft : Draft}
    (read : resolver.draftCause form = .ok draft) :
    draft.definitions ⊆ resolver.definitions := by
  induction form using Json.cause_induction generalizing draft with
  | object members inductionHypothesis =>
      have causes :
          ∀ drafts,
            resolver.draftAll members.causeForms = .ok drafts →
            Draft.allDefinitions drafts ⊆ resolver.definitions :=
        fun _ => allDefinitions_subset_of_draftAll fun form member _ =>
          inductionHypothesis form member
      simp only [draftCause_object] at read
      cases claimed : resolver.claimant? members with
      | some definition =>
          simp only [claimed, draftOf_eq_ok_iff] at read
          obtain ⟨message, settings, drafts, _, _, caused, rfl⟩ := read
          obtain ⟨label, _, found⟩ := Option.bind_eq_some_iff.mp claimed
          simp only [Draft.definitions, List.cons_subset]
          exact ⟨mem_definitions_of_ofKind?_eq_some found, causes drafts caused⟩
      | none =>
          simp only [claimed, draftUnclaimed_eq_ok_iff] at read
          obtain ⟨message, drafts, _, caused, rfl⟩ := read
          exact causes drafts caused
  | other form notAnObject =>
      simp [draftCause_of_not_object resolver notAnObject] at read

end Resolver

namespace Store

/-- To hold errors as a cause adds a joined error at most. -/
theorem causeOfAll_store
    (store : Store)
    (members : List ErrorId) :
    (store.causeOfAll members).2 = store ∨
      (store.causeOfAll members).2 = (store.add (.joined members)).2 := by
  rcases members with _ | ⟨first, _ | ⟨second, others⟩⟩
  · exact .inl rfl
  · exact .inl rfl
  · exact .inr rfl

/-- The source that errors are gathered to changes a store as their cause does. -/
theorem sourceOfAll_store
    (store : Store)
    (members : List ErrorId) :
    (store.sourceOfAll members).2 = (store.causeOfAll members).2 := by
  rcases members with _ | ⟨first, _ | ⟨second, others⟩⟩ <;> rfl

namespace Knows

variable {store : Store} {recipes : List Recipe}

/-- A store knows the recipe of an error that is added, when the error has one. -/
theorem add
    (knows : store.Knows recipes)
    {node : Node}
    (owned :
      ∀ error,
        node = .occurrence error →
        ∃ recipe ∈ recipes, recipe.definition store.defaults = error.definition) :
    (store.add node).2.Knows recipes where
  issued := knows.issued
  owned identity error found := by
    simp only [Store.add, Graph.add, Graph.get?, Array.getElem?_push] at found
    split at found
    · exact owned error (Option.some.inj found)
    · exact knows.owned identity error found

/-- An error of any other kind than an occurrence asks for no recipe. -/
theorem addOther
    (knows : store.Knows recipes)
    {node : Node}
    (plain : node.occurrence? = none) :
    (store.add node).2.Knows recipes := by
  apply knows.add
  intro error same
  rw [same] at plain
  cases plain

/-- A store knows the same recipes after errors were gathered. -/
theorem causeOfAll
    (knows : store.Knows recipes)
    (members : List ErrorId) :
    (store.causeOfAll members).2.Knows recipes ∧
      (store.causeOfAll members).2.defaults = store.defaults := by
  rcases store.causeOfAll_store members with same | gathered
  · rw [same]
    exact ⟨knows, rfl⟩
  · rw [gathered]
    exact ⟨knows.addOther rfl, rfl⟩

/-- A store knows the recipe of a definition that it derives. -/
theorem derive
    (knows : store.Knows recipes)
    {recipe : Recipe}
    (member : recipe ∈ recipes)
    (settings : List Setting) :
    (store.derive (recipe.definition store.defaults) settings).2.Knows
      (recipes ++ [recipe.add (.bySettings store.definitions settings)]) where
  issued := knows.issued.next (.derived member rfl)
  owned identity error found := by
    obtain ⟨owner, ownerMember, isOwner⟩ := knows.owned identity error found
    exact ⟨owner, List.mem_append_left _ ownerMember, isOwner⟩

mutual

/-- To build the errors of a draft issues recipes for them, derived from those that the draft asks
for. -/
theorem exists_build
    {store : Store}
    {recipes : List Recipe}
    (knows : store.Knows recipes)
    (draft : Draft)
    (asked : draft.definitions ⊆ recipes.map (Recipe.definition store.defaults)) :
    ∃ more,
      (store.build draft).2.Knows (recipes ++ more) ∧
        (store.build draft).2.defaults = store.defaults := by
  cases draft with
  | occurrence definition settings message causes =>
      simp only [Draft.definitions, List.cons_subset] at asked
      obtain ⟨more, built, sameDefaults⟩ := knows.exists_buildAll causes asked.2
      obtain ⟨recipe, member, rfl⟩ := List.mem_map.mp asked.1
      rw [build_occurrence, ← sameDefaults]
      set grown := (store.buildAll causes).2
      set members := (store.buildAll causes).1
      have derived := built.derive (List.mem_append_left more member) settings
      obtain ⟨held, heldDefaults⟩ := derived.causeOfAll members
      refine ⟨more ++ [recipe.add (.bySettings grown.definitions settings)], ?_, heldDefaults⟩
      rw [← List.append_assoc]
      refine held.add fun error isError => ?_
      cases isError
      refine ⟨recipe.add (.bySettings grown.definitions settings), by simp, ?_⟩
      rw [heldDefaults]
      exact Recipe.definition_add _ recipe _
  | unclaimed message typeName causes =>
      obtain ⟨more, built, sameDefaults⟩ := knows.exists_buildAll causes asked
      obtain ⟨held, heldDefaults⟩ := built.causeOfAll (store.buildAll causes).1
      rw [← sourceOfAll_store] at held heldDefaults
      rw [build_unclaimed]
      exact ⟨more, held.addOther rfl, heldDefaults.trans sameDefaults⟩

/-- A store that builds several drafts knows the recipes of all their definitions. -/
theorem exists_buildAll
    {store : Store}
    {recipes : List Recipe}
    (knows : store.Knows recipes)
    (drafts : List Draft)
    (asked : Draft.allDefinitions drafts ⊆ recipes.map (Recipe.definition store.defaults)) :
    ∃ more,
      (store.buildAll drafts).2.Knows (recipes ++ more) ∧
        (store.buildAll drafts).2.defaults = store.defaults := by
  cases drafts with
  | nil =>
      exact ⟨[], by rwa [List.append_nil], rfl⟩
  | cons draft drafts =>
      simp only [Draft.allDefinitions, List.append_subset] at asked
      obtain ⟨more, first, firstDefaults⟩ := knows.exists_build draft asked.1
      have stillAsked :
          Draft.allDefinitions drafts ⊆
            (recipes ++ more).map (Recipe.definition (store.build draft).2.defaults) := by
        rw [firstDefaults, List.map_append]
        exact List.subset_append_of_subset_left _ asked.2
      obtain ⟨further, others, otherDefaults⟩ := first.exists_buildAll drafts stillAsked
      rw [buildAll_cons]
      rw [List.append_assoc] at others
      exact ⟨more ++ further, others, otherDefaults.trans firstDefaults⟩

end

end Knows

end Store

end Fault
