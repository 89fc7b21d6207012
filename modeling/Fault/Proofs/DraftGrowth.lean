import Fault.Proofs.FieldStore
import Fault.Proofs.TreePaths
import Fault.Resolver.Decode

/-!
# Drafts grow into trees

The errors of a draft are created causes first, so every new error leads to earlier ones only and
nothing that was there before is touched. No link behind a new error can return to its path: its
cause tree has no cuts, and it has the shape of the draft, but for two things. The causes of a
boundary definition are hidden, and an unclaimed cause with several causes holds them in one joined
error, which stands between it and them.
-/

namespace Fault

/-- The drafts of the causes of a draft. -/
def Draft.causes : Draft → List Draft
  | .occurrence _ _ _ causes => causes
  | .unclaimed _ _ causes => causes

namespace Graph

/-! ## Growing graphs -/

/-- Whether every error of a graph is in another one. -/
def GrowsTo (earlier later : Graph) : Prop :=
  ∀ identity node, earlier.get? identity = some node → later.get? identity = some node

namespace GrowsTo

theorem refl (graph : Graph) : graph.GrowsTo graph :=
  fun _ _ found => found

theorem trans
    {earlier middle later : Graph}
    (first : earlier.GrowsTo middle)
    (second : middle.GrowsTo later) :
    earlier.GrowsTo later :=
  fun identity node found => second identity node (first identity node found)

/-- A graph that grows has no fewer errors. -/
theorem size_le
    {earlier later : Graph}
    (grows : earlier.GrowsTo later) :
    earlier.size ≤ later.size := by
  by_contra larger
  have inBounds : later.size < earlier.nodes.size := by
    simpa [size] using larger
  have found : earlier.get? ⟨later.size⟩ = some earlier.nodes[later.size] :=
    Array.getElem?_eq_getElem inBounds
  have kept := grows _ _ found
  simp [get?, size] at kept

end GrowsTo

/-- What is found in a graph has an index below its size. -/
theorem index_lt_size_of_get?_eq_some
    {graph : Graph}
    {identity : ErrorId}
    {node : Node}
    (found : graph.get? identity = some node) :
    identity.index < graph.size :=
  (Array.getElem?_eq_some_iff.mp found).1

/-- An error that is added is found under its new identity. -/
theorem get?_add
    (graph : Graph)
    (node : Node) :
    (graph.add node).2.get? (graph.add node).1 = some node := by
  simp [add, get?, size]

/-- To add an error leaves all errors before it as they are. -/
theorem growsTo_add
    (graph : Graph)
    (node : Node) :
    graph.GrowsTo (graph.add node).2 := by
  intro identity found isFound
  have inBounds := index_lt_size_of_get?_eq_some isFound
  have kept : (graph.add node).2.get? identity = some graph.nodes[identity.index] :=
    Array.getElem?_push_lt inBounds
  rw [kept, ← isFound]
  exact (Array.getElem?_eq_getElem inBounds).symm

/-! ## What a draft becomes -/

/-- What the occurrence of a draft is: an error of the definition with the settings of the draft,
with its message and without a call stack. -/
structure IsOccurrenceOf
    (graph : Graph)
    (definition : Definition)
    (settings : List Setting)
    (message : String)
    (identity : ErrorId)
    (error : Occurrence) :
    Prop where
  found : graph.get? identity = some (.occurrence error)
  derived :
    ∃ defaults number, error.definition = definition.derive defaults number settings
  told : error.message = message
  untraced : error.stack = []

mutual

/-- Whether a draft has become an error with a tree of causes below it. -/
inductive HasGrown (graph : Graph) : Draft → ErrorId → Forest → Prop where
  /-- An error of a boundary definition shows no causes. -/
  | hidden
      {definition : Definition}
      {settings : List Setting}
      {message : String}
      {causes : List Draft}
      {identity : ErrorId}
      {error : Occurrence} :
      graph.IsOccurrenceOf definition settings message identity error →
      error.definition.isBoundary = true →
      graph.HasGrown (.occurrence definition settings message causes) identity .nil
  | occurrence
      {definition : Definition}
      {settings : List Setting}
      {message : String}
      {causes : List Draft}
      {identity : ErrorId}
      {error : Occurrence}
      {below : Forest} :
      graph.IsOccurrenceOf definition settings message identity error →
      error.definition.isBoundary = false →
      graph.HaveGrown causes below →
      graph.HasGrown (.occurrence definition settings message causes) identity below
  | unclaimed
      {message : String}
      {typeName : Option String}
      {source : Option ErrorId}
      {causes : List Draft}
      {identity : ErrorId}
      {below : Forest} :
      graph.get? identity = some (.unclaimed ⟨message, typeName, source⟩) →
      causes.length ≤ 1 →
      graph.HaveGrown causes below →
      graph.HasGrown (.unclaimed message typeName causes) identity below
  /-- Several causes stand below the joined error that gathers them. -/
  | gathered
      {message : String}
      {typeName : Option String}
      {group : ErrorId}
      {members : List ErrorId}
      {causes : List Draft}
      {identity : ErrorId}
      {below : Forest} :
      graph.get? identity = some (.unclaimed ⟨message, typeName, some group⟩) →
      graph.get? group = some (.joined members) →
      2 ≤ causes.length →
      graph.HaveGrown causes below →
      graph.HasGrown (.unclaimed message typeName causes) identity
        (.node (.untyped group) false below .nil)

/-- Whether drafts have become the causes of a tree, in their order. -/
inductive HaveGrown (graph : Graph) : List Draft → Forest → Prop where
  | nil :
      graph.HaveGrown [] .nil
  | cons
      {draft : Draft}
      {drafts : List Draft}
      {identity : ErrorId}
      {below rest : Forest} :
      graph.HasGrown draft identity below →
      graph.HaveGrown drafts rest →
      graph.HaveGrown (draft :: drafts) (.node (.untyped identity) false below rest)

end

/-- What a draft grows to is never a marker, so it has an identity. -/
theorem HasGrown.isIdentified
    {graph : Graph}
    {draft : Draft}
    {identity : ErrorId}
    {below : Forest}
    (grown : graph.HasGrown draft identity below) :
    graph.isIdentified identity = true := by
  cases grown with
  | hidden isOccurrence _ => simp [Graph.isIdentified, isOccurrence.found, Node.isMarker]
  | occurrence isOccurrence _ _ => simp [Graph.isIdentified, isOccurrence.found, Node.isMarker]
  | unclaimed found _ _ => simp [Graph.isIdentified, found, Node.isMarker]
  | gathered found _ _ _ => simp [Graph.isIdentified, found, Node.isMarker]

/-- A draft of an occurrence grows to an occurrence of its definition. -/
theorem HasGrown.exists_isOccurrenceOf
    {graph : Graph}
    {definition : Definition}
    {settings : List Setting}
    {message : String}
    {causes : List Draft}
    {identity : ErrorId}
    {below : Forest}
    (grown : graph.HasGrown (.occurrence definition settings message causes) identity below) :
    ∃ error, graph.IsOccurrenceOf definition settings message identity error := by
  cases grown with
  | hidden isOccurrence _ => exact ⟨_, isOccurrence⟩
  | occurrence isOccurrence _ _ => exact ⟨_, isOccurrence⟩

/-- An occurrence of a definition is found as the occurrence that it is. -/
theorem IsOccurrenceOf.occurrence?_eq
    {graph : Graph}
    {definition : Definition}
    {settings : List Setting}
    {message : String}
    {identity : ErrorId}
    {error : Occurrence}
    (isOccurrence : graph.IsOccurrenceOf definition settings message identity error) :
    graph.occurrence? identity = some error := by
  rw [occurrence?, isOccurrence.found]
  rfl

mutual

/-- Nothing is cut from the tree of a draft. -/
theorem HasGrown.cutTargets_eq_nil
    {graph : Graph}
    {draft : Draft}
    {identity : ErrorId}
    {below : Forest}
    (grown : graph.HasGrown draft identity below) :
    below.cutTargets = [] := by
  cases grown with
  | hidden _ _ =>
      rfl
  | occurrence _ _ causes =>
      exact causes.cutTargets_eq_nil
  | unclaimed _ _ causes =>
      exact causes.cutTargets_eq_nil
  | gathered _ _ _ causes =>
      simp [Forest.cutTargets, causes.cutTargets_eq_nil]

/-- No link among errors that have just grown returns, so nothing is cut. -/
theorem HaveGrown.cutTargets_eq_nil
    {graph : Graph}
    {drafts : List Draft}
    {forest : Forest}
    (grown : graph.HaveGrown drafts forest) :
    forest.cutTargets = [] := by
  cases grown with
  | nil =>
      rfl
  | cons first others =>
      simp [Forest.cutTargets, first.cutTargets_eq_nil, others.cutTargets_eq_nil]

end

/-- Where nothing was cut there is nothing to mark. -/
theorem mark_nil_unfold
    (graph : Graph)
    (path : List ErrorId)
    (links : List Link) :
    (graph.unfold path links).mark [] = graph.unfold path links := by
  induction path, links using graph.unfold_induction with
  | nil path =>
      simp [unfold, Forest.mark]
  | cut path link rest cut inductionHypothesis =>
      rw [unfold_cons, if_pos cut, Forest.mark, inductionHypothesis]
  | node path link rest kept belowHypothesis restHypothesis =>
      rw [unfold_cons, if_neg (by simp [kept]), Forest.mark, belowHypothesis, restHypothesis]
      rfl

end Graph

namespace Store

/-! ## Creating the errors of a draft -/

/-- An occurrence is built behind its causes, from a definition that is derived by its settings. -/
theorem build_occurrence
    (store : Store)
    (definition : Definition)
    (settings : List Setting)
    (message : String)
    (causes : List Draft) :
    store.build (.occurrence definition settings message causes) =
      let grown := (store.buildAll causes).2
      let derived := grown.derive definition settings
      let held := derived.2.causeOfAll (store.buildAll causes).1
      held.2.add (.occurrence ⟨derived.1, message, held.1, []⟩) := by
  rw [build]

/-- An unclaimed error is built behind its causes. -/
theorem build_unclaimed
    (store : Store)
    (message : String)
    (typeName : Option String)
    (causes : List Draft) :
    store.build (.unclaimed message typeName causes) =
      let held := (store.buildAll causes).2.sourceOfAll (store.buildAll causes).1
      held.2.add (.unclaimed ⟨message, typeName, held.1⟩) := by
  rw [build]

/-- Drafts are built one after the other, each in what the ones before it left. -/
theorem buildAll_cons
    (store : Store)
    (draft : Draft)
    (drafts : List Draft) :
    store.buildAll (draft :: drafts) =
      ((store.build draft).1 :: ((store.build draft).2.buildAll drafts).1,
        ((store.build draft).2.buildAll drafts).2) := by
  rw [buildAll]

/-- The cause that errors are gathered to is at most one more error. -/
theorem growsTo_causeOfAll
    (store : Store)
    (members : List ErrorId) :
    store.graph.GrowsTo (store.causeOfAll members).2.graph := by
  rcases members with _ | ⟨first, _ | ⟨second, others⟩⟩
  · exact .refl _
  · exact .refl _
  · exact Graph.growsTo_add _ _

/-- The source that errors are gathered to is at most one more error. -/
theorem growsTo_sourceOfAll
    (store : Store)
    (members : List ErrorId) :
    store.graph.GrowsTo (store.sourceOfAll members).2.graph := by
  rcases members with _ | ⟨first, _ | ⟨second, others⟩⟩
  · exact .refl _
  · exact .refl _
  · exact Graph.growsTo_add _ _

/-- The error of a draft is created after its causes. -/
theorem growsTo_of_causes
    (store : Store)
    (draft : Draft) :
    (store.buildAll draft.causes).2.graph.GrowsTo (store.build draft).2.graph := by
  cases draft with
  | occurrence definition settings message causes =>
      rw [build_occurrence]
      have held := growsTo_causeOfAll ((store.buildAll causes).2.derive definition settings).2
        (store.buildAll causes).1
      exact held.trans (Graph.growsTo_add _ _)
  | unclaimed message typeName causes =>
      rw [build_unclaimed]
      have held := growsTo_sourceOfAll (store.buildAll causes).2 (store.buildAll causes).1
      exact held.trans (Graph.growsTo_add _ _)

mutual

/-- To build a draft adds errors only. -/
theorem growsTo_build
    (store : Store)
    (draft : Draft) :
    store.graph.GrowsTo (store.build draft).2.graph := by
  cases draft with
  | occurrence definition settings message causes =>
      have made := growsTo_of_causes store (.occurrence definition settings message causes)
      exact (growsTo_buildAll store causes).trans made
  | unclaimed message typeName causes =>
      have made := growsTo_of_causes store (.unclaimed message typeName causes)
      exact (growsTo_buildAll store causes).trans made

/-- To build several drafts adds errors only. -/
theorem growsTo_buildAll
    (store : Store)
    (drafts : List Draft) :
    store.graph.GrowsTo (store.buildAll drafts).2.graph := by
  cases drafts with
  | nil =>
      exact .refl _
  | cons draft drafts =>
      rw [buildAll_cons]
      exact (growsTo_build store draft).trans (growsTo_buildAll _ drafts)

end

/-- An occurrence links to the errors that were gathered as its cause, unless its definition hides
them. -/
theorem links_of_causeOfAll
    {store : Store}
    {members : List ErrorId}
    {graph : Graph}
    {identity : ErrorId}
    {definition : Definition}
    {message : String}
    {stack : Stack}
    (grown : (store.causeOfAll members).2.graph.GrowsTo graph)
    (found :
      graph.get? identity =
        some (.occurrence ⟨definition, message, (store.causeOfAll members).1, stack⟩)) :
    graph.links identity =
      if definition.isBoundary then [] else members.map Link.untyped := by
  rw [Graph.links, found]
  simp only [Graph.occurrenceLinks]
  congr 1
  rcases members with _ | ⟨first, _ | ⟨second, others⟩⟩
  · rfl
  · rfl
  · have gathered := grown _ _
      (Graph.get?_add store.graph (.joined (first :: second :: others)))
    simp only [causeOfAll, add, Graph.members, gathered]

/-- An unclaimed cause links to the one error it has, or to the joined error that gathers several of
them. -/
theorem links_of_sourceOfAll
    {store : Store}
    {members : List ErrorId}
    {graph : Graph}
    {identity : ErrorId}
    {message : String}
    {typeName : Option String}
    (grown : (store.sourceOfAll members).2.graph.GrowsTo graph)
    (found :
      graph.get? identity =
        some (.unclaimed ⟨message, typeName, (store.sourceOfAll members).1⟩)) :
    (members.length ≤ 1 ∧ graph.links identity = members.map Link.untyped) ∨
      ∃ group,
        2 ≤ members.length ∧
          store.graph.size ≤ group.index ∧
          group.index < (store.sourceOfAll members).2.graph.size ∧
          graph.get? group = some (.joined members) ∧
          (store.sourceOfAll members).1 = some group ∧
          graph.links identity = [.untyped group] := by
  have linked :
      graph.links identity = (store.sourceOfAll members).1.toList.map Link.untyped := by
    rw [Graph.links, found]
  rcases members with _ | ⟨first, _ | ⟨second, others⟩⟩
  · exact .inl ⟨by simp, linked⟩
  · exact .inl ⟨by simp, linked⟩
  · have added := Graph.get?_add store.graph (.joined (first :: second :: others))
    exact .inr ⟨(store.graph.add (.joined (first :: second :: others))).1, by simp, le_refl _,
      Graph.index_lt_size_of_get?_eq_some added, grown _ _ added, rfl, linked⟩

/-! ## The trees of new errors -/

/-- A link to an error that is earlier than all errors of the path is not cut. -/
private theorem unfold_cons_of_earlier
    {graph : Graph}
    {path : List ErrorId}
    {link : Link}
    (identified : graph.isIdentified link.target = true)
    (earlier : ∀ error ∈ path, link.target.index < error.index)
    (rest : List Link) :
    graph.unfold path (link :: rest) =
      .node link false
        (graph.unfold (link.target :: path) (graph.links link.target))
        (graph.unfold path rest) := by
  have absent : link.target ∉ path :=
    fun member => lt_irrefl _ (earlier _ member)
  rw [Graph.unfold_cons, if_neg (by simp [Graph.isCut, absent]), Graph.extend, if_pos identified]

/-- The error that a draft is built to is in the graph. -/
theorem index_build_lt_size
    (store : Store)
    (draft : Draft) :
    (store.build draft).1.index < (store.build draft).2.graph.size := by
  cases draft with
  | occurrence definition settings message causes =>
      rw [build_occurrence]
      exact Graph.index_lt_size_of_get?_eq_some (Graph.get?_add _ _)
  | unclaimed message typeName causes =>
      rw [build_unclaimed]
      exact Graph.index_lt_size_of_get?_eq_some (Graph.get?_add _ _)

theorem length_buildAll
    (store : Store)
    (drafts : List Draft) :
    (store.buildAll drafts).1.length = drafts.length := by
  induction drafts generalizing store with
  | nil =>
      rfl
  | cons draft drafts inductionHypothesis =>
      rw [buildAll_cons, List.length_cons, List.length_cons, inductionHypothesis]

/-- Behind an occurrence stands the tree of its draft, when the trees of its causes stand on every
path of later errors. -/
private theorem hasGrown_occurrence
    {store after : Store}
    {definition : Definition}
    {settings : List Setting}
    {message : String}
    {causes : List Draft}
    {identity : ErrorId}
    {graph : Graph}
    (isBuilt :
      store.build (.occurrence definition settings message causes) = (identity, after))
    (grown : after.graph.GrowsTo graph)
    (below :
      ∀ path : List ErrorId,
        (∀ other ∈ path, (store.buildAll causes).2.graph.size ≤ other.index) →
          graph.HaveGrown causes
            (graph.unfold path ((store.buildAll causes).1.map Link.untyped)))
    {path : List ErrorId}
    (later : ∀ other ∈ path, identity.index < other.index) :
    graph.HasGrown (.occurrence definition settings message causes) identity
      (graph.unfold (identity :: path) (graph.links identity)) := by
  rw [build_occurrence] at isBuilt
  set built := store.buildAll causes
  set derived := built.2.derive definition settings
  set held := derived.2.causeOfAll built.1
  set error : Occurrence := ⟨derived.1, message, held.1, []⟩
  obtain ⟨rfl, rfl⟩ := Prod.ext_iff.mp isBuilt
  set identity := (held.2.add (.occurrence error)).1
  have found : graph.get? identity = some (.occurrence error) :=
    grown _ _ (Graph.get?_add held.2.graph (.occurrence error))
  have heldGrows : held.2.graph.GrowsTo graph := (Graph.growsTo_add _ _).trans grown
  have builtGrows : built.2.graph.GrowsTo held.2.graph := growsTo_causeOfAll derived.2 built.1
  have isOccurrence : graph.IsOccurrenceOf definition settings message identity error :=
    ⟨found, ⟨built.2.defaults, built.2.definitions, rfl⟩, rfl, rfl⟩
  have linked := links_of_causeOfAll heldGrows found
  cases boundary : derived.1.isBoundary with
  | true =>
      rw [linked, boundary, if_pos rfl, Graph.unfold]
      exact .hidden isOccurrence boundary
  | false =>
      rw [linked, boundary, if_neg Bool.false_ne_true]
      have newest : built.2.graph.size ≤ identity.index := builtGrows.size_le
      refine .occurrence isOccurrence boundary (below _ fun other member => ?_)
      rcases List.mem_cons.mp member with isNew | inPath
      · rw [isNew]
        exact newest
      · exact newest.trans (later other inPath).le

/-- Behind an unclaimed error stands the tree of its draft, when the trees of its causes stand on
every path of later errors. -/
private theorem hasGrown_unclaimed
    {store after : Store}
    {message : String}
    {typeName : Option String}
    {causes : List Draft}
    {identity : ErrorId}
    {graph : Graph}
    (isBuilt : store.build (.unclaimed message typeName causes) = (identity, after))
    (grown : after.graph.GrowsTo graph)
    (below :
      ∀ path : List ErrorId,
        (∀ other ∈ path, (store.buildAll causes).2.graph.size ≤ other.index) →
          graph.HaveGrown causes
            (graph.unfold path ((store.buildAll causes).1.map Link.untyped)))
    {path : List ErrorId}
    (later : ∀ other ∈ path, identity.index < other.index) :
    graph.HasGrown (.unclaimed message typeName causes) identity
      (graph.unfold (identity :: path) (graph.links identity)) := by
  have sameLength := length_buildAll store causes
  rw [build_unclaimed] at isBuilt
  set built := store.buildAll causes
  set held := built.2.sourceOfAll built.1
  set cause : Unclaimed := ⟨message, typeName, held.1⟩
  obtain ⟨rfl, rfl⟩ := Prod.ext_iff.mp isBuilt
  set identity := (held.2.add (.unclaimed cause)).1
  have found : graph.get? identity = some (.unclaimed cause) :=
    grown _ _ (Graph.get?_add held.2.graph (.unclaimed cause))
  have heldGrows : held.2.graph.GrowsTo graph := (Graph.growsTo_add _ _).trans grown
  have builtGrows : built.2.graph.GrowsTo held.2.graph := growsTo_sourceOfAll built.2 built.1
  have onPath : ∀ other ∈ identity :: path, held.2.graph.size ≤ other.index := by
    intro other member
    rcases List.mem_cons.mp member with isNew | inPath
    · rw [isNew]
      exact le_refl held.2.graph.size
    · exact (later other inPath).le
  rcases links_of_sourceOfAll heldGrows found with
    ⟨few, linked⟩ | ⟨group, several, isNew, inBounds, gathered, isSource, linked⟩
  · rw [linked]
    exact .unclaimed found (sameLength ▸ few)
      (below _ fun other member => builtGrows.size_le.trans (onPath other member))
  · -- The joined error is older than its owner and newer than the causes.
    have groupLinks : graph.links group = built.1.map Link.untyped := by
      rw [Graph.links, gathered]
    have identified : graph.isIdentified group = true := by
      simp [Graph.isIdentified, gathered, Node.isMarker]
    have earlier : ∀ other ∈ identity :: path, group.index < other.index :=
      fun other member => inBounds.trans_le (onPath other member)
    rw [linked, unfold_cons_of_earlier identified earlier, Graph.unfold]
    refine .gathered (isSource ▸ found) gathered (sameLength ▸ several) ?_
    rw [show (Link.untyped group).target = group from rfl, groupLinks]
    refine below _ fun other member => ?_
    rcases List.mem_cons.mp member with isGroup | onOwnPath
    · rw [isGroup]
      exact isNew
    · exact builtGrows.size_le.trans (onPath other onOwnPath)

mutual

/-- Behind an error that was built from a draft stands the tree of the draft, on any path of later
errors and however the graph has grown since. -/
theorem hasGrown_build
    (store : Store)
    (draft : Draft)
    {graph : Graph}
    (grown : (store.build draft).2.graph.GrowsTo graph)
    {path : List ErrorId}
    (later : ∀ error ∈ path, (store.build draft).1.index < error.index) :
    graph.HasGrown draft (store.build draft).1
      (graph.unfold ((store.build draft).1 :: path) (graph.links (store.build draft).1)) := by
  have causesGrow := (growsTo_of_causes store draft).trans grown
  cases draft with
  | occurrence definition settings message causes =>
      exact hasGrown_occurrence rfl grown
        (fun _ above => haveGrown_buildAll store causes causesGrow above) later
  | unclaimed message typeName causes =>
      exact hasGrown_unclaimed rfl grown
        (fun _ above => haveGrown_buildAll store causes causesGrow above) later

/-- What several drafts are built to has grown from them, also in a graph that grows further. -/
theorem haveGrown_buildAll
    (store : Store)
    (drafts : List Draft)
    {graph : Graph}
    (grown : (store.buildAll drafts).2.graph.GrowsTo graph)
    {path : List ErrorId}
    (later : ∀ error ∈ path, (store.buildAll drafts).2.graph.size ≤ error.index) :
    graph.HaveGrown drafts
      (graph.unfold path ((store.buildAll drafts).1.map Link.untyped)) := by
  cases drafts with
  | nil =>
      rw [buildAll, List.map_nil, Graph.unfold]
      exact .nil
  | cons draft drafts =>
      rw [buildAll_cons] at grown later ⊢
      have restGrows := growsTo_buildAll (store.build draft).2 drafts
      have earlier : ∀ error ∈ path, (store.build draft).1.index < error.index := by
        intro error member
        exact (index_build_lt_size store draft).trans_le
          (restGrows.size_le.trans (later error member))
      have first := hasGrown_build store draft (restGrows.trans grown) earlier
      have others := haveGrown_buildAll (store.build draft).2 drafts grown later
      rw [List.map_cons, unfold_cons_of_earlier first.isIdentified earlier]
      exact .cons first others

end

/-- The cause tree of an error that was built from a draft is the tree of the draft. -/
theorem hasGrown_causeTree
    (store : Store)
    (draft : Draft) :
    (store.build draft).2.graph.HasGrown draft (store.build draft).1
      ((store.build draft).2.graph.causeTree (store.build draft).1) := by
  have grown :=
    hasGrown_build store draft (.refl (store.build draft).2.graph) (List.forall_mem_nil _)
  have start :
      (store.build draft).2.graph.startPath (store.build draft).1 = [(store.build draft).1] := by
    rw [Graph.startPath, if_pos grown.isIdentified]
  rw [Graph.causeTree, start, grown.cutTargets_eq_nil, Graph.mark_nil_unfold]
  exact grown

end Store

end Fault
