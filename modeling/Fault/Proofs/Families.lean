import Fault.Proofs.ClaimSteps
import Fault.Proofs.FieldStore
import Fault.Store

/-!
# Families of definitions

A program declares definitions, derives definitions from others, and creates errors by them. The
definitions of one family are those whose histories go back to one declaration: they share the root
that this declaration gave, whatever the kinds are. A definition claims the errors that were created
by its family, and the errors that hold such an error with no boundary between.
-/

namespace Fault

/-! ## Programs -/

/-- How a definition was made: by a declaration, known by its number, or by deriving it from
another definition. -/
inductive History where
  | declared (number : Nat)
  | derived (base : History)

/-- The number of the declaration that a history starts from. -/
def History.start : History → Nat
  | .declared number => number
  | .derived base => base.start

/-- A definition with its history. -/
structure Made where
  definition : Definition
  history : History

/-- A program under way: its store, what its declarations gave, and all the definitions it made. -/
structure Program where
  store : Store
  declared : List Definition
  made : List Made

/-- A call of a program. Definitions are known by their place among those that were made. -/
inductive Call where
  | declare (kind : Kind) (settings : List Setting)
  | derive (base : Nat) (settings : List Setting)
  | deriveIn (base : Nat) (context : Context) (settings : List Setting)
  | create (owner : Nat) (calls : Stack) (message : String)
  | wrap (owner : Nat) (calls : Stack) (handle : Handle)
  | wrapWith (owner : Nat) (calls : Stack) (message : String) (handle : Handle)
  | join (owner : Nat) (calls : Stack) (members : List ErrorId)
  | recover (owner : Nat) (calls : Stack) (payload : Payload)
  | gather (members : List ErrorId)
  | foreign (error : Foreign)
  | marker (error : Marker)
  /-- Give a foreign error its source, which may close a cycle. -/
  | link (error source : ErrorId)

namespace Program

/-- The program that has called nothing yet. -/
def initial (defaults : Defaults) : Program :=
  ⟨.initial defaults, [], []⟩

/-- The errors of a program. -/
def graph (program : Program) : Graph :=
  program.store.graph

/-- The definitions of a program. -/
def definitions (program : Program) : List Definition :=
  program.made.map Made.definition

/-- Declare a definition. -/
def declare
    (program : Program)
    (kind : Kind)
    (settings : List Setting) :
    Program :=
  let (definition, store) := program.store.declare kind settings
  { store := store
    declared := program.declared ++ [definition]
    made := program.made ++ [⟨definition, .declared program.declared.length⟩] }

/-- Derive a definition from one that was made. -/
def deriveFrom
    (program : Program)
    (base : Nat)
    (derive : Definition → Definition × Store) :
    Program :=
  match program.made[base]? with
  | some made =>
      let (definition, store) := derive made.definition
      { program with
        store := store
        made := program.made ++ [⟨definition, .derived made.history⟩] }
  | none => program

/-- Keep the graph in which an error was created, when one was created and the errors that it needs
are there. -/
def keep
    (program : Program)
    (needed : List ErrorId)
    (created : Option (ErrorId × Graph)) :
    Program :=
  match created with
  | some (_, graph) =>
      if ∀ error ∈ needed, error.index < program.graph.size then
        { program with store := { program.store with graph := graph } }
      else
        program
  | none => program

/-- Create an error by a definition that was made. -/
def createBy
    (program : Program)
    (owner : Nat)
    (calls : Stack)
    (needed : List ErrorId)
    (create : Occasion → Option (ErrorId × Graph)) :
    Program :=
  match program.made[owner]? with
  | some made => program.keep needed (create ⟨made.definition, calls, program.store.defaults⟩)
  | none => program

/-- Run a call. A call that refers to what is not there does nothing. -/
def step (program : Program) : Call → Program
  | .declare kind settings =>
      program.declare kind settings
  | .derive base settings =>
      program.deriveFrom base fun definition => program.store.derive definition settings
  | .deriveIn base context settings =>
      program.deriveFrom base fun definition => program.store.deriveIn definition context settings
  | .create owner calls message =>
      program.createBy owner calls [] fun occasion =>
        some (program.graph.create occasion message)
  | .wrap owner calls handle =>
      program.createBy owner calls [handle.error] fun occasion =>
        some (program.graph.wrap occasion handle)
  | .wrapWith owner calls message handle =>
      program.createBy owner calls [handle.error] fun occasion =>
        some (program.graph.wrapWith occasion message handle)
  | .join owner calls members =>
      program.createBy owner calls members fun occasion =>
        program.graph.join? occasion members
  | .recover owner calls payload =>
      program.createBy owner calls payload.error?.toList fun occasion =>
        some (program.graph.recover occasion payload)
  | .gather members =>
      program.keep members (program.graph.gather? members)
  | .foreign error =>
      program.keep (Node.foreign error).exposed (some (program.graph.add (.foreign error)))
  | .marker error =>
      program.keep [] (some (program.graph.add (.marker error)))
  | .link error source =>
      program.keep [source] (some (error, (program.graph.setSource error source).2))

/-- Run calls, one after the other. -/
def run
    (defaults : Defaults)
    (calls : List Call) :
    Program :=
  calls.foldl step (initial defaults)

end Program

/-! ## Graphs of occurrences -/

namespace Graph

/-- Whether a graph is closed and all its occurrences were created by certain definitions. -/
structure BelongsTo
    (graph : Graph)
    (definitions : List Definition) :
    Prop where
  closed : graph.IsClosed
  owned :
    ∀ identity error,
      graph.get? identity = some (.occurrence error) →
      error.definition ∈ definitions

/-- A graph is closed when no error exposes one that is not there. -/
theorem isClosed_of_get?
    {graph : Graph}
    (closed :
      ∀ identity node,
        graph.get? identity = some node →
        ∀ other ∈ node.exposed, other.index < graph.size) :
    graph.IsClosed := by
  intro node member
  obtain ⟨index, found⟩ := Array.mem_iff_getElem?.mp (Array.mem_toList_iff.mp member)
  exact closed ⟨index⟩ node found

namespace BelongsTo

variable {graph : Graph} {definitions : List Definition}

theorem mono
    (belongs : graph.BelongsTo definitions)
    {more : List Definition}
    (included : definitions ⊆ more) :
    graph.BelongsTo more :=
  ⟨belongs.closed, fun identity error found => included (belongs.owned identity error found)⟩

/-- It suffices to look at the one error that is new in a graph. -/
theorem of_new
    (belongs : graph.BelongsTo definitions)
    {later : Graph}
    {node : Node}
    (notSmaller : graph.size ≤ later.size)
    (known :
      ∀ identity found,
        later.get? identity = some found → graph.get? identity = some found ∨ found = node)
    (exposed : ∀ other ∈ node.exposed, other.index < later.size)
    (owned : ∀ error, node = .occurrence error → error.definition ∈ definitions) :
    later.BelongsTo definitions where
  closed := by
    apply isClosed_of_get?
    intro identity found present other member
    rcases known identity found present with earlier | isNew
    · have inGraph : other.index < graph.size :=
        belongs.closed.index_lt_size earlier member
      omega
    · subst found
      exact exposed other member
  owned identity error present := by
    rcases known identity _ present with earlier | isNew
    · exact belongs.owned identity error earlier
    · exact owned error isNew.symm

/-- An error of one of the definitions can be added where all that it exposes is there. -/
theorem add
    (belongs : graph.BelongsTo definitions)
    {node : Node}
    (exposed : ∀ other ∈ node.exposed, other.index < graph.size)
    (owned : ∀ error, node = .occurrence error → error.definition ∈ definitions) :
    (graph.add node).2.BelongsTo definitions := by
  have larger : (graph.add node).2.size = graph.size + 1 :=
    Array.size_push node
  apply belongs.of_new _ _ _ owned
  · omega
  · intro identity found present
    rw [Graph.add, get?, Array.getElem?_push] at present
    split at present
    · exact .inr (Option.some.inj present).symm
    · exact .inl present
  · intro other member
    have inGraph := exposed other member
    omega

/-- An error of any other kind than an occurrence can be added. -/
theorem addOther
    (belongs : graph.BelongsTo definitions)
    {node : Node}
    (plain : node.occurrence? = none)
    (exposed : ∀ other ∈ node.exposed, other.index < graph.size) :
    (graph.add node).2.BelongsTo definitions := by
  apply belongs.add exposed
  intro error same
  rw [same] at plain
  cases plain

/-- To raise an error of one of the definitions keeps a graph with them. -/
theorem raise
    (belongs : graph.BelongsTo definitions)
    {occasion : Occasion}
    (member : occasion.definition ∈ definitions)
    (message : String)
    {cause : Cause}
    (exposed : ∀ other ∈ cause.exposed, other.index < graph.size) :
    (graph.raise occasion message cause).2.BelongsTo definitions := by
  apply belongs.add
  · intro other shown
    rw [Node.exposed, Occurrence.exposed] at shown
    split at shown
    · cases shown
    · exact exposed other shown
  · intro error same
    cases same
    exact member

/-- To wrap an error by one of the definitions keeps a graph with them. -/
theorem wrapWith
    (belongs : graph.BelongsTo definitions)
    {occasion : Occasion}
    (member : occasion.definition ∈ definitions)
    (message : String)
    {handle : Handle}
    (inGraph : handle.error.index < graph.size) :
    (graph.wrapWith occasion message handle).2.BelongsTo definitions := by
  apply belongs.raise member
  intro other shown
  rw [List.mem_singleton.mp shown]
  exact inGraph

/-- To join errors by one of the definitions keeps a graph with them. -/
theorem joined
    (belongs : graph.BelongsTo definitions)
    {occasion : Occasion}
    (member : occasion.definition ∈ definitions)
    {members : List ErrorId}
    (inGraph : ∀ member ∈ members, member.index < graph.size)
    {error : ErrorId}
    {grown : Graph}
    (created : graph.join? occasion members = some (error, grown)) :
    grown.BelongsTo definitions := by
  by_cases nonempty : members = []
  · subst members
    simp [join?, gather?] at created
  · rw [graph.join?_of_ne_nil occasion nonempty, Option.some.injEq] at created
    have isGrown : _ = grown := congrArg Prod.snd created
    rw [← isGrown]
    have gathered : (graph.add (.joined members)).2.BelongsTo definitions :=
      belongs.addOther rfl inGraph
    apply gathered.raise member
    intro other shown
    rw [List.mem_singleton.mp shown]
    exact index_lt_size_of_get?_eq_some (graph.get?_add _)

/-- To recover a panic by one of the definitions keeps a graph with them. -/
theorem recovered
    (belongs : graph.BelongsTo definitions)
    {occasion : Occasion}
    (member : occasion.definition ∈ definitions)
    {payload : Payload}
    (inGraph : ∀ error ∈ payload.error?.toList, error.index < graph.size) :
    (graph.recover occasion payload).2.BelongsTo definitions := by
  have grown : (graph.recoverPayload payload).2.BelongsTo definitions :=
    belongs.addOther rfl inGraph
  apply grown.wrapWith member
  exact index_lt_size_of_get?_eq_some (graph.get?_add _)

/-- To set a source brings no error of another definition into a graph. -/
theorem linked
    (belongs : graph.BelongsTo definitions)
    (identity : ErrorId)
    {source : ErrorId}
    (inGraph : source.index < graph.size) :
    (graph.setSource identity source).2.BelongsTo definitions := by
  unfold setSource
  cases present : graph.get? identity with
  | none =>
      exact belongs
  | some node =>
      cases node with
      | foreign error =>
          cases free : error.source with
          | some other =>
              simp only [free]
              exact belongs
          | none =>
              -- The texts of the error were there before, so its source is all it can add.
              have sameSize :
                  (graph.replace identity
                    (.foreign { error with source := some source })).size = graph.size :=
                Array.size_setIfInBounds
              simp only [free]
              apply belongs.of_new (Nat.le_of_eq sameSize.symm)
              · intro other found replaced
                rw [replace, get?, Array.getElem?_setIfInBounds] at replaced
                split at replaced
                · split at replaced
                  · exact .inr (Option.some.inj replaced).symm
                  · cases replaced
                · exact .inl replaced
              · intro other shown
                rw [sameSize]
                rcases List.mem_append.mp shown with isSource | inText
                · rw [Option.toList_some, List.mem_singleton] at isSource
                  rw [isSource]
                  exact inGraph
                · exact belongs.closed.index_lt_size present (List.mem_append_right _ inText)
              · intro occurrence same
                cases same
      | _ =>
          exact belongs

end BelongsTo

end Graph

/-! ## What a run keeps -/

namespace Program

/-- Whether no two declarations gave the same definition, every definition has the root that the
declaration at the start of its history gave, and every occurrence was created by a definition that
was made. -/
structure WellFormed (program : Program) : Prop where
  distinct : (program.declared.map Definition.identity).Nodup
  fresh : ∀ definition ∈ program.declared, definition.identity < program.store.definitions
  started :
    ∀ made ∈ program.made, program.declared[made.history.start]? = some made.definition.root
  belongs : program.graph.BelongsTo program.definitions

/-- A program starts well-formed: without definitions and without errors. -/
theorem wellFormed_initial (defaults : Defaults) :
    (initial defaults).WellFormed where
  distinct := List.nodup_nil
  fresh _ member := nomatch member
  started _ member := nomatch member
  belongs :=
    { closed := fun _ member => nomatch member
      owned := fun _ _ found => nomatch found }

namespace WellFormed

variable {program : Program}

/-- To declare a definition keeps a program well-formed. -/
theorem declare
    (wellFormed : program.WellFormed)
    (kind : Kind)
    (settings : List Setting) :
    (program.declare kind settings).WellFormed where
  distinct := by
    -- The store counts on from the identities that it handed out.
    have new : program.store.definitions ∉ program.declared.map Definition.identity := by
      intro member
      obtain ⟨definition, earlier, same⟩ := List.mem_map.mp member
      have smaller := wellFormed.fresh definition earlier
      omega
    simp only [Program.declare, Store.declare, List.map_append]
    exact List.Nodup.append wellFormed.distinct (List.nodup_singleton _)
      (List.disjoint_singleton.mpr new)
  fresh definition member := by
    change definition.identity < program.store.definitions + 1
    rcases List.mem_append.mp member with earlier | isNew
    · have smaller := wellFormed.fresh definition earlier
      omega
    · rw [List.mem_singleton.mp isNew]
      exact Nat.lt_succ_self _
  started made member := by
    rcases List.mem_append.mp member with earlier | isNew
    · have started := wellFormed.started made earlier
      exact (List.getElem?_append_left (List.getElem?_eq_some_iff.mp started).1).trans started
    · rw [List.mem_singleton.mp isNew]
      exact List.getElem?_concat_length
  belongs := by
    apply wellFormed.belongs.mono
    simp [definitions, Program.declare]

/-- To derive a definition keeps a program well-formed. -/
theorem deriveFrom
    (wellFormed : program.WellFormed)
    (base : Nat)
    (settings : List Setting) :
    (program.deriveFrom base fun definition =>
      program.store.derive definition settings).WellFormed := by
  unfold Program.deriveFrom
  cases found : program.made[base]? with
  | none =>
      exact wellFormed
  | some origin =>
      have originMember : origin ∈ program.made :=
        List.mem_of_getElem? found
      exact
        { distinct := wellFormed.distinct
          fresh := fun definition member => Nat.lt_succ_of_lt (wellFormed.fresh definition member)
          started := by
            intro made member
            rcases List.mem_append.mp member with earlier | isNew
            · exact wellFormed.started made earlier
            · rw [List.mem_singleton.mp isNew]
              simp only [Store.derive, Definition.root_derive]
              exact wellFormed.started origin originMember
          belongs := by
            apply wellFormed.belongs.mono
            simp [definitions] }

/-- A program that keeps what was created stays well-formed. -/
theorem keep
    (wellFormed : program.WellFormed)
    {needed : List ErrorId}
    {created : Option (ErrorId × Graph)}
    (belongs :
      (∀ error ∈ needed, error.index < program.graph.size) →
      ∀ error grown, created = some (error, grown) → grown.BelongsTo program.definitions) :
    (program.keep needed created).WellFormed := by
  unfold Program.keep
  cases created with
  | none =>
      exact wellFormed
  | some result =>
      simp only
      split
      · next inGraph => exact { wellFormed with belongs := belongs inGraph _ _ rfl }
      · exact wellFormed

/-- A program that creates an error by one of its definitions stays well-formed. -/
theorem createBy
    (wellFormed : program.WellFormed)
    (owner : Nat)
    (calls : Stack)
    {needed : List ErrorId}
    {create : Occasion → Option (ErrorId × Graph)}
    (belongs :
      ∀ occasion : Occasion,
        occasion.definition ∈ program.definitions →
        (∀ error ∈ needed, error.index < program.graph.size) →
        ∀ error grown,
          create occasion = some (error, grown) → grown.BelongsTo program.definitions) :
    (program.createBy owner calls needed create).WellFormed := by
  unfold Program.createBy
  cases found : program.made[owner]? with
  | none =>
      exact wellFormed
  | some made =>
      have member : made.definition ∈ program.definitions :=
        List.mem_map_of_mem (List.mem_of_getElem? found)
      exact wellFormed.keep (belongs ⟨made.definition, calls, program.store.defaults⟩ member)

/-- Every call keeps a program well formed. -/
theorem step
    (wellFormed : program.WellFormed)
    (call : Call) :
    (program.step call).WellFormed := by
  have belongs := wellFormed.belongs
  cases call with
  | declare kind settings =>
      exact wellFormed.declare kind settings
  | derive base settings =>
      exact wellFormed.deriveFrom base settings
  | deriveIn base context settings =>
      exact wellFormed.deriveFrom base (context.settings ++ settings)
  | create owner calls message =>
      rw [Program.step]
      apply wellFormed.createBy
      intro occasion member _ error grown created
      cases created
      apply belongs.raise member message
      intro other shown
      cases shown
  | wrap owner calls handle =>
      rw [Program.step]
      apply wellFormed.createBy
      intro occasion member inGraph error grown created
      cases created
      exact belongs.wrapWith member _ (inGraph _ (List.mem_singleton_self _))
  | wrapWith owner calls message handle =>
      rw [Program.step]
      apply wellFormed.createBy
      intro occasion member inGraph error grown created
      cases created
      exact belongs.wrapWith member message (inGraph _ (List.mem_singleton_self _))
  | join owner calls members =>
      rw [Program.step]
      apply wellFormed.createBy
      intro occasion member inGraph error grown created
      exact belongs.joined member inGraph created
  | recover owner calls payload =>
      rw [Program.step]
      apply wellFormed.createBy
      intro occasion member inGraph error grown created
      cases created
      exact belongs.recovered member inGraph
  | gather members =>
      rw [Program.step]
      apply wellFormed.keep
      intro inGraph error grown created
      rw [Graph.gather?] at created
      split at created
      · cases created
      · cases created
        exact belongs.addOther rfl inGraph
  | foreign foreign =>
      rw [Program.step]
      apply wellFormed.keep
      intro inGraph error grown created
      cases created
      exact belongs.addOther rfl inGraph
  | marker marker =>
      rw [Program.step]
      apply wellFormed.keep
      intro inGraph error grown created
      cases created
      exact belongs.addOther rfl inGraph
  | link identity source =>
      rw [Program.step]
      apply wellFormed.keep
      intro inGraph error grown created
      cases created
      exact belongs.linked identity (inGraph source (List.mem_singleton_self source))

end WellFormed

/-- Every program is well-formed, whatever its calls are. -/
theorem wellFormed_run
    (defaults : Defaults)
    (calls : List Call) :
    (run defaults calls).WellFormed :=
  List.foldlRecOn calls Program.step (wellFormed_initial defaults) fun _ wellFormed call _ =>
    wellFormed.step call

/-! ## Families -/

open Relation

/-- Whether an occurrence of the family of a declaration is an error, or is held behind it with no
boundary between. -/
def HoldsFamily
    (program : Program)
    (number : Nat)
    (error : ErrorId) :
    Prop :=
  ∃ behind occurrence,
    ReflTransGen program.graph.PassesTo error behind ∧
      program.graph.occurrence? behind = some occurrence ∧
      ∃ made ∈ program.made,
        made.definition = occurrence.definition ∧ made.history.start = number

/-- What a program keeps of the families of its definitions. -/
structure KeepsFamilies (program : Program) : Prop where
  /-- The root of a definition is what the declaration at the start of its history gave. -/
  root :
    ∀ made ∈ program.made,
      program.declared[made.history.start]? = some made.definition.root ∧
        made.definition.root.isRoot = true
  sameRoot :
    ∀ first ∈ program.made,
    ∀ second ∈ program.made,
      first.definition.sameRoot second.definition = true ↔
        first.history.start = second.history.start
  claims :
    ∀ made ∈ program.made,
    ∀ error,
      made.definition.claims program.graph error = true ↔
        program.HoldsFamily made.history.start error
  wrap :
    ∀ made ∈ program.made,
    ∀ owner ∈ program.made,
    ∀ (occasion : Occasion) (handle : Handle),
      occasion.definition = owner.definition →
      handle.error.index < program.graph.size →
      (made.definition.claims (program.graph.wrap occasion handle).2
          (program.graph.wrap occasion handle).1 = true ↔
        made.history.start = owner.history.start ∨
          owner.definition.isBoundary = false ∧
            made.definition.claims program.graph handle.error = true)
  wrapWith :
    ∀ made ∈ program.made,
    ∀ owner ∈ program.made,
    ∀ (occasion : Occasion) (message : String) (handle : Handle),
      occasion.definition = owner.definition →
      handle.error.index < program.graph.size →
      (made.definition.claims (program.graph.wrapWith occasion message handle).2
          (program.graph.wrapWith occasion message handle).1 = true ↔
        made.history.start = owner.history.start ∨
          owner.definition.isBoundary = false ∧
            made.definition.claims program.graph handle.error = true)
  join :
    ∀ made ∈ program.made,
    ∀ owner ∈ program.made,
    ∀ (occasion : Occasion) (members : List ErrorId),
      occasion.definition = owner.definition →
      members ≠ [] →
      (∀ member ∈ members, member.index < program.graph.size) →
      ∃ error grown,
        program.graph.join? occasion members = some (error, grown) ∧
          (made.definition.claims grown error = true ↔
            made.history.start = owner.history.start ∨
              owner.definition.isBoundary = false ∧
                ∃ member ∈ members, made.definition.claims program.graph member = true)

namespace WellFormed

variable {program : Program}

/-- Two definitions share a root exactly when their histories start from one declaration. -/
theorem sameRoot_iff
    (wellFormed : program.WellFormed)
    {first second : Made}
    (member : first ∈ program.made)
    (otherMember : second ∈ program.made) :
    first.definition.sameRoot second.definition = true ↔
      first.history.start = second.history.start := by
  have started := wellFormed.started first member
  have otherStarted := wellFormed.started second otherMember
  rw [Definition.sameRoot, Definition.rootIdentity, Definition.rootIdentity, beq_iff_eq]
  constructor
  · intro sameIdentity
    have found :
        (program.declared.map Definition.identity)[first.history.start]? =
          some first.definition.root.identity := by
      rw [List.getElem?_map, started, Option.map_some]
    have otherFound :
        (program.declared.map Definition.identity)[second.history.start]? =
          some second.definition.root.identity := by
      rw [List.getElem?_map, otherStarted, Option.map_some]
    have inBounds := (List.getElem?_eq_some_iff.mp found).1
    apply (List.getElem?_inj inBounds wellFormed.distinct).mp
    rw [found, otherFound, sameIdentity]
  · intro sameStart
    rw [sameStart, otherStarted, Option.some.injEq] at started
    rw [started]

/-- A definition claims an error exactly when an error of its family lies behind it. -/
theorem claims_iff
    (wellFormed : program.WellFormed)
    {made : Made}
    (member : made ∈ program.made)
    (error : ErrorId) :
    made.definition.claims program.graph error = true ↔
      program.HoldsFamily made.history.start error := by
  rw [Graph.claims_iff]
  constructor
  · intro shown
    obtain ⟨behind, occurrence, reached, found, family⟩ := shown
    have owned : occurrence.definition ∈ program.definitions :=
      wellFormed.belongs.owned behind occurrence (Graph.get?_of_occurrence?_eq_some found)
    obtain ⟨owner, ownerMember, isOwner⟩ := List.mem_map.mp owned
    rw [← isOwner, wellFormed.sameRoot_iff member ownerMember] at family
    exact ⟨behind, occurrence, Graph.reaches_iff_passesTo.mp reached, found, owner, ownerMember,
      isOwner, family.symm⟩
  · intro holds
    obtain ⟨behind, occurrence, passes, found, owner, ownerMember, isOwner, sameStart⟩ := holds
    have family : made.definition.sameRoot occurrence.definition = true := by
      rw [← isOwner, wellFormed.sameRoot_iff member ownerMember, sameStart]
    exact ⟨behind, occurrence, Graph.reaches_iff_passesTo.mpr passes, found, family⟩

/-- A wrapped error is claimed by the family of its definition, and by those that claim what it
wraps unless the definition is a boundary. -/
theorem claims_wrapWith
    (wellFormed : program.WellFormed)
    {made owner : Made}
    (member : made ∈ program.made)
    (ownerMember : owner ∈ program.made)
    {occasion : Occasion}
    (message : String)
    {handle : Handle}
    (isOwner : occasion.definition = owner.definition)
    (inGraph : handle.error.index < program.graph.size) :
    made.definition.claims (program.graph.wrapWith occasion message handle).2
        (program.graph.wrapWith occasion message handle).1 = true ↔
      made.history.start = owner.history.start ∨
        owner.definition.isBoundary = false ∧
          made.definition.claims program.graph handle.error = true := by
  rw [Graph.claims_wrapWith wellFormed.belongs.closed occasion message inGraph, isOwner,
    wellFormed.sameRoot_iff member ownerMember]

end WellFormed

/-- After every run the definitions of one declaration are one family. A definition claims the
errors that its family created and those that pass on to such an error, so a wrapper adds its own
family to what is claimed and, unless it is a boundary, hides nothing of what it wraps. -/
theorem run_keepsFamilies
    (defaults : Defaults)
    (calls : List Call) :
    (run defaults calls).KeepsFamilies := by
  have wellFormed := wellFormed_run defaults calls
  generalize run defaults calls = program at wellFormed ⊢
  constructor
  case root =>
    intro made member
    exact ⟨wellFormed.started made member, made.definition.isRoot_root⟩
  case sameRoot =>
    intro first member second otherMember
    exact wellFormed.sameRoot_iff member otherMember
  case claims =>
    intro made member error
    exact wellFormed.claims_iff member error
  case wrap =>
    intro made member owner ownerMember occasion handle isOwner inGraph
    exact wellFormed.claims_wrapWith member ownerMember _ isOwner inGraph
  case wrapWith =>
    intro made member owner ownerMember occasion message handle isOwner inGraph
    exact wellFormed.claims_wrapWith member ownerMember message isOwner inGraph
  case join =>
    intro made member owner ownerMember occasion members isOwner nonempty inGraph
    obtain ⟨error, grown, created, claimed⟩ :=
      Graph.exists_join? wellFormed.belongs.closed occasion nonempty inGraph
    refine ⟨error, grown, created, ?_⟩
    rw [claimed, isOwner, wellFormed.sameRoot_iff member ownerMember]

/-- Two families of one kind: the boundary of the second one keeps the first one from claiming what
stands above it, and the joined error shows both. -/
example :
    let calls : List Call :=
      [.declare ⟨"kind"⟩ [], .declare ⟨"kind"⟩ [.boundary], .derive 0 [.noTrace], .derive 2 [],
        .create 3 [] "inner", .wrapWith 1 [] "outer" ⟨⟨0⟩, true⟩, .gather [⟨1⟩, ⟨0⟩]]
    let program := run .standard calls
    program.made.map (fun made => made.history.start) = [0, 1, 0, 0] ∧
      (program.made.map fun made =>
        [⟨0⟩, ⟨1⟩, ⟨2⟩].map (made.definition.claims program.graph)) =
        [[true, false, true], [false, true, true], [true, false, true], [true, false, true]] := by
  cbv

end Program

end Fault
