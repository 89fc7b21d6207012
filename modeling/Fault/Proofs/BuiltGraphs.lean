import Fault.Proofs.DraftGrowth
import Fault.Proofs.Families

/-!
# Graphs that were built

Whatever a program does, its graph grows error by error, and what is added holds errors that are
there already. Only the source of a foreign error can be set later. An occurrence therefore holds
earlier errors for good, and no cause of it is the occurrence itself; cycles lead through foreign
errors.
-/

namespace Fault

/-- The errors that an error holds from the start: all that it exposes, but for a foreign error,
which may get a later source. -/
def Node.held : Node → List ErrorId
  | .foreign _ => []
  | node => node.exposed

namespace Graph

/-- Whether a graph was built from nothing: by adding errors that expose earlier ones, by giving
foreign errors a source, and by taking payloads. -/
inductive IsBuilt : Graph → Prop where
  | empty :
      IsBuilt .empty
  | add
      {graph : Graph}
      {node : Node} :
      graph.IsBuilt →
      (∀ other ∈ node.exposed, other.index < graph.size) →
      IsBuilt (graph.add node).2
  | setSource
      {graph : Graph}
      (identity source : ErrorId) :
      graph.IsBuilt →
      IsBuilt (graph.setSource identity source).2
  | takePayload
      {graph : Graph}
      (identity : ErrorId) :
      graph.IsBuilt →
      IsBuilt (graph.takePayload identity).2

/-- Whether errors hold earlier errors only. -/
def HoldsEarlier (graph : Graph) : Prop :=
  ∀ identity node,
    graph.get? identity = some node → ∀ other ∈ node.held, other.index < identity.index

namespace HoldsEarlier

variable {graph : Graph}

/-- What an error holds from the start it exposes. -/
theorem mem_exposed_of_mem_held
    {node : Node}
    {other : ErrorId}
    (member : other ∈ node.held) :
    other ∈ node.exposed := by
  cases node <;> first | exact member | cases member

/-- A new error that exposes earlier ones only leaves every error with earlier ones. -/
theorem add
    (holds : graph.HoldsEarlier)
    {node : Node}
    (exposed : ∀ other ∈ node.exposed, other.index < graph.size) :
    (graph.add node).2.HoldsEarlier := by
  intro identity found present other member
  simp only [Graph.add, get?, Array.getElem?_push] at present
  split at present
  · next isNew =>
      obtain rfl := Option.some.inj present
      exact isNew ▸ exposed other (mem_exposed_of_mem_held member)
  · exact holds identity found present other member

/-- An error can be replaced by one that holds nothing else. -/
theorem replace
    (holds : graph.HoldsEarlier)
    {identity : ErrorId}
    {old new : Node}
    (found : graph.get? identity = some old)
    (included : new.held ⊆ old.held) :
    (graph.replace identity new).HoldsEarlier := by
  intro asked node present other member
  simp only [Graph.replace, get?, Array.getElem?_setIfInBounds] at present
  split at present
  · next same =>
      split at present
      · obtain rfl := Option.some.inj present
        exact same ▸ holds identity old found other (included member)
      · cases present
  · exact holds asked node present other member

/-- To set the source of a foreign error changes nothing that is held from the start. -/
theorem setSource
    (holds : graph.HoldsEarlier)
    (identity source : ErrorId) :
    (graph.setSource identity source).2.HoldsEarlier := by
  simp only [Graph.setSource]
  split
  · next error found =>
      split
      · exact holds.replace found (List.Subset.refl _)
      · exact holds
  · exact holds

/-- To take a payload leaves the error that the recovered panic holds. -/
theorem takePayload
    (holds : graph.HoldsEarlier)
    (identity : ErrorId) :
    (graph.takePayload identity).2.HoldsEarlier := by
  simp only [Graph.takePayload]
  split
  · next panic recovered =>
      obtain ⟨node, found, isPanic⟩ := Option.bind_eq_some_iff.mp recovered
      cases node <;> cases isPanic
      exact holds.replace found (List.Subset.refl _)
  · exact holds

/-- An occurrence links to earlier errors only. -/
theorem index_lt_of_mem_occurrenceLinks
    (holds : graph.HoldsEarlier)
    {identity : ErrorId}
    {error : Occurrence}
    (found : graph.get? identity = some (.occurrence error))
    {link : Link}
    (member : link ∈ graph.occurrenceLinks error) :
    link.target.index < identity.index := by
  have earlier := holds identity _ found
  simp only [occurrenceLinks] at member
  split at member
  · cases member
  · next visible =>
      simp only [Node.held, Node.exposed, Occurrence.exposed, visible] at earlier
      cases isCause : error.cause with
      | none =>
          simp [isCause] at member
      | single cause typeName =>
          simp only [isCause, List.mem_singleton] at member
          exact earlier _ (by simp [isCause, Cause.exposed, member])
      | joined group =>
          have groupEarlier := earlier group (by simp [isCause, Cause.exposed])
          simp only [isCause, List.mem_map, members] at member
          obtain ⟨other, isMember, rfl⟩ := member
          split at isMember
          · next members gathered =>
              exact (holds group _ gathered other isMember).trans groupEarlier
          · cases isMember

end HoldsEarlier

/-- In a graph that was built, errors hold earlier errors only. -/
theorem IsBuilt.holdsEarlier
    {graph : Graph}
    (built : graph.IsBuilt) :
    graph.HoldsEarlier := by
  induction built with
  | empty =>
      intro identity node present
      simp [Graph.empty, get?] at present
  | add _ exposed inductionHypothesis =>
      exact inductionHypothesis.add exposed
  | setSource identity source _ inductionHypothesis =>
      exact inductionHypothesis.setSource identity source
  | takePayload identity _ inductionHypothesis =>
      exact inductionHypothesis.takePayload identity

/-! ## What creates errors -/

namespace IsBuilt

variable {graph : Graph}

/-- To raise an error over causes that are in the graph keeps it built. -/
theorem raise
    (built : graph.IsBuilt)
    (occasion : Occasion)
    (message : String)
    {cause : Cause}
    (exposed : ∀ other ∈ cause.exposed, other.index < graph.size) :
    (graph.raise occasion message cause).2.IsBuilt := by
  refine built.add fun other shown => ?_
  simp only [Node.exposed, Occurrence.exposed] at shown
  split at shown
  · cases shown
  · exact exposed other shown

/-- To wrap an error that is in the graph keeps it built. -/
theorem wrapWith
    (built : graph.IsBuilt)
    (occasion : Occasion)
    (message : String)
    {handle : Handle}
    (inGraph : handle.error.index < graph.size) :
    (graph.wrapWith occasion message handle).2.IsBuilt :=
  built.raise occasion message (List.forall_mem_singleton.mpr inGraph)

/-- To join errors that are in the graph keeps it built, with the group and the error around it. -/
theorem join
    (built : graph.IsBuilt)
    (occasion : Occasion)
    {members : List ErrorId}
    (inGraph : ∀ member ∈ members, member.index < graph.size)
    {error : ErrorId}
    {grown : Graph}
    (created : graph.join? occasion members = some (error, grown)) :
    grown.IsBuilt := by
  by_cases nonempty : members = []
  · simp [nonempty, join?, gather?] at created
  · rw [graph.join?_of_ne_nil occasion nonempty, Option.some.injEq] at created
    have gathered : (graph.add (.joined members)).2.IsBuilt := built.add inGraph
    have group := index_lt_size_of_get?_eq_some (graph.get?_add (.joined members))
    have isGrown : _ = grown := congrArg Prod.snd created
    rw [← isGrown]
    exact gathered.raise occasion _ (List.forall_mem_singleton.mpr group)

/-- To recover a panic keeps the graph built, with the recovered panic and the error around it. -/
theorem recover
    (built : graph.IsBuilt)
    (occasion : Occasion)
    {payload : Payload}
    (inGraph : ∀ error ∈ payload.error?.toList, error.index < graph.size) :
    (graph.recover occasion payload).2.IsBuilt := by
  have grown : (graph.recoverPayload payload).2.IsBuilt := built.add inGraph
  exact grown.wrapWith occasion _ (index_lt_size_of_get?_eq_some (graph.get?_add _))

end IsBuilt

end Graph

/-! ## Programs and readers -/

namespace Program

/-- To derive a definition leaves the graph of a program as it is. -/
theorem isBuilt_deriveFrom
    {program : Program}
    (built : program.graph.IsBuilt)
    (base : Nat)
    (settings : List Setting) :
    (program.deriveFrom base fun definition =>
      program.store.derive definition settings).graph.IsBuilt := by
  simp only [deriveFrom]
  split <;> exact built

/-- A program keeps a built graph when whatever it makes of errors that are there is built. -/
theorem isBuilt_keep
    {program : Program}
    (built : program.graph.IsBuilt)
    {needed : List ErrorId}
    {created : Option (ErrorId × Graph)}
    (grows :
      (∀ error ∈ needed, error.index < program.graph.size) →
      ∀ error grown, created = some (error, grown) → grown.IsBuilt) :
    (program.keep needed created).graph.IsBuilt := by
  simp only [keep]
  split
  · next error grown =>
      split
      · next inGraph => exact grows inGraph error grown rfl
      · exact built
  · exact built

/-- A program that creates an error by one of its definitions keeps a built graph. -/
theorem isBuilt_createBy
    {program : Program}
    (built : program.graph.IsBuilt)
    (owner : Nat)
    (calls : Stack)
    {needed : List ErrorId}
    {create : Occasion → Option (ErrorId × Graph)}
    (grows :
      ∀ occasion : Occasion,
        (∀ error ∈ needed, error.index < program.graph.size) →
        ∀ error grown, create occasion = some (error, grown) → grown.IsBuilt) :
    (program.createBy owner calls needed create).graph.IsBuilt := by
  simp only [createBy]
  split
  · exact isBuilt_keep built (grows _)
  · exact built

/-- Every call keeps a graph built. -/
theorem isBuilt_step
    {program : Program}
    (built : program.graph.IsBuilt)
    (call : Call) :
    (program.step call).graph.IsBuilt := by
  cases call with
  | declare kind settings =>
      exact built
  | derive base settings =>
      exact isBuilt_deriveFrom built base settings
  | deriveIn base context settings =>
      exact isBuilt_deriveFrom built base (context.settings ++ settings)
  | create owner calls message =>
      refine isBuilt_createBy built owner calls fun occasion _ error grown created => ?_
      cases created
      exact built.raise occasion message (List.forall_mem_nil _)
  | wrap owner calls handle =>
      refine isBuilt_createBy built owner calls fun occasion inGraph error grown created => ?_
      cases created
      exact built.wrapWith occasion _ (inGraph _ (List.mem_singleton_self _))
  | wrapWith owner calls message handle =>
      refine isBuilt_createBy built owner calls fun occasion inGraph error grown created => ?_
      cases created
      exact built.wrapWith occasion message (inGraph _ (List.mem_singleton_self _))
  | join owner calls members =>
      refine isBuilt_createBy built owner calls fun occasion inGraph error grown created => ?_
      exact built.join occasion inGraph created
  | recover owner calls payload =>
      refine isBuilt_createBy built owner calls fun occasion inGraph error grown created => ?_
      cases created
      exact built.recover occasion inGraph
  | gather members =>
      refine isBuilt_keep built fun inGraph error grown created => ?_
      simp only [Graph.gather?] at created
      split at created
      · cases created
      · cases created
        exact built.add inGraph
  | foreign foreign =>
      refine isBuilt_keep built fun inGraph error grown created => ?_
      cases created
      exact built.add inGraph
  | marker marker =>
      refine isBuilt_keep built fun inGraph error grown created => ?_
      cases created
      exact built.add inGraph
  | link identity source =>
      refine isBuilt_keep built fun inGraph error grown created => ?_
      cases created
      exact built.setSource identity source

/-- The graph of a program was built. -/
theorem isBuilt_run
    (defaults : Defaults)
    (calls : List Call) :
    (run defaults calls).graph.IsBuilt := by
  have first : (initial defaults).graph.IsBuilt := .empty
  exact List.foldlRecOn (motive := fun program => program.graph.IsBuilt) calls step first
    fun _ built call _ => isBuilt_step built call

end Program

namespace Store

/-- Whether a store was built, and errors are in its graph. -/
structure HasBuilt
    (store : Store)
    (errors : List ErrorId) :
    Prop where
  built : store.graph.IsBuilt
  inGraph : ∀ error ∈ errors, error.index < store.graph.size

/-- Errors that were built can be gathered to one. -/
theorem HasBuilt.gather
    {store : Store}
    {members : List ErrorId}
    (hasBuilt : store.HasBuilt members) :
    (store.add (.joined members)).2.HasBuilt [(store.add (.joined members)).1] :=
  ⟨hasBuilt.built.add hasBuilt.inGraph, List.forall_mem_singleton.mpr
    (Graph.index_lt_size_of_get?_eq_some (Graph.get?_add _ _))⟩

/-- The cause that errors are gathered to exposes what was built. -/
theorem HasBuilt.causeOfAll
    {store : Store}
    {members : List ErrorId}
    (hasBuilt : store.HasBuilt members) :
    (store.causeOfAll members).2.HasBuilt (store.causeOfAll members).1.exposed := by
  rcases members with _ | ⟨first, _ | ⟨second, others⟩⟩
  · exact hasBuilt
  · exact hasBuilt
  · exact hasBuilt.gather

/-- The source that errors are gathered to was built. -/
theorem HasBuilt.sourceOfAll
    {store : Store}
    {members : List ErrorId}
    (hasBuilt : store.HasBuilt members) :
    (store.sourceOfAll members).2.HasBuilt (store.sourceOfAll members).1.toList := by
  rcases members with _ | ⟨first, _ | ⟨second, others⟩⟩
  · exact hasBuilt
  · exact hasBuilt
  · exact hasBuilt.gather

mutual

/-- The errors of a draft are added to what was built. -/
theorem isBuilt_build
    (store : Store)
    (draft : Draft)
    (built : store.graph.IsBuilt) :
    (store.build draft).2.graph.IsBuilt := by
  cases draft with
  | occurrence definition settings message causes =>
      rw [build_occurrence]
      have held : ((store.buildAll causes).2.derive definition settings).2.HasBuilt
          (store.buildAll causes).1 :=
        ⟨(hasBuilt_buildAll store causes built).built,
          (hasBuilt_buildAll store causes built).inGraph⟩
      refine held.causeOfAll.built.add fun other shown => ?_
      simp only [Node.exposed, Occurrence.exposed] at shown
      split at shown
      · cases shown
      · exact held.causeOfAll.inGraph other shown
  | unclaimed message typeName causes =>
      rw [build_unclaimed]
      have held := (hasBuilt_buildAll store causes built).sourceOfAll
      exact held.built.add held.inGraph

/-- The errors of several drafts are added to what was built, one after the other. -/
theorem hasBuilt_buildAll
    (store : Store)
    (drafts : List Draft)
    (built : store.graph.IsBuilt) :
    (store.buildAll drafts).2.HasBuilt (store.buildAll drafts).1 := by
  cases drafts with
  | nil =>
      exact ⟨built, List.forall_mem_nil _⟩
  | cons draft drafts =>
      rw [buildAll_cons]
      have others :=
        hasBuilt_buildAll (store.build draft).2 drafts (isBuilt_build store draft built)
      have first := index_build_lt_size store draft
      have grows := (growsTo_buildAll (store.build draft).2 drafts).size_le
      exact ⟨others.built, List.forall_mem_cons.mpr ⟨first.trans_le grows, others.inGraph⟩⟩

end

/-- To read an error keeps a graph built. -/
theorem isBuilt_of_decode
    {store after : Store}
    {resolver : Resolver}
    {form : Json}
    {identity : ErrorId}
    (built : store.graph.IsBuilt)
    (decoded : store.decode resolver form = .ok (identity, after)) :
    after.graph.IsBuilt := by
  simp only [decode] at decoded
  cases drafted : resolver.draft form with
  | error failure =>
      simp [drafted, Except.map] at decoded
  | ok draft =>
      simp only [drafted, Except.map, Except.ok.injEq] at decoded
      have isBuilt := isBuilt_build store draft built
      rw [decoded] at isBuilt
      exact isBuilt

end Store

end Fault
