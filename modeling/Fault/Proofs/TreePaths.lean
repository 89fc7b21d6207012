import Fault.Proofs.LinkPath

/-!
# Cause trees list the simple paths

A cause tree has one node for every simple path of links from its root: the paths of a length stand
in it in link order, each as often as there are links for it. The causes of a node are the links
that do not return to the path, with their types, and the list of causes has lost a link exactly
when some link does return.
-/

namespace Fault

/-! ## Places in a tree -/

/-- A branch whose errors are marked when they are one of the given errors. -/
def Branch.mark
    (targets : List ErrorId)
    (branch : Branch) :
    Branch :=
  ⟨branch.link, targets.contains branch.link.target, branch.below.mark targets⟩

namespace Forest

/-- The branches of a tree with the paths that lead to them, a cause before its own causes. -/
def places : Forest → List (List Link × Branch)
  | .nil => []
  | .cut _ rest => rest.places
  | .node link reentered below rest =>
      ([link], ⟨link, reentered, below⟩) ::
        below.places.map (fun place => (link :: place.1, place.2)) ++ rest.places

/-- The paths to the branches of a tree. -/
def paths (forest : Forest) : List (List Link) :=
  forest.places.map Prod.fst

/-- The lists of causes of a tree with the paths to their owners; the root owns the first one. -/
def lists (forest : Forest) : List (List Link × Forest) :=
  ([], forest) :: forest.places.map fun place => (place.1, place.2.below)

/-- A place in a forest is its first node, or one below it, or one behind it. -/
theorem mem_places_node
    {link : Link}
    {reentered : Bool}
    {below rest : Forest}
    {path : List Link}
    {branch : Branch} :
    (path, branch) ∈ (Forest.node link reentered below rest).places ↔
      (path = [link] ∧ branch = ⟨link, reentered, below⟩) ∨
        (∃ further, path = link :: further ∧ (further, branch) ∈ below.places) ∨
        (path, branch) ∈ rest.places := by
  simp only [places, List.cons_append, List.mem_cons, List.mem_append, List.mem_map, Prod.mk.injEq,
    Prod.exists]
  constructor
  · rintro (isHead | ⟨further, other, member, rfl, rfl⟩ | inRest)
    · exact .inl isHead
    · exact .inr (.inl ⟨further, rfl, member⟩)
    · exact .inr (.inr inRest)
  · rintro (isHead | ⟨further, rfl, member⟩ | inRest)
    · exact .inl isHead
    · exact .inr (.inl ⟨further, branch, member, rfl, rfl⟩)
    · exact .inr (.inr inRest)

/-- A path of a forest leads to a branch. -/
theorem mem_paths_iff
    {forest : Forest}
    {path : List Link} :
    path ∈ forest.paths ↔ ∃ branch, (path, branch) ∈ forest.places := by
  simp [paths]

@[simp] theorem paths_nil :
    Forest.nil.paths = [] :=
  rfl

@[simp] theorem paths_cut
    (target : ErrorId)
    (rest : Forest) :
    (Forest.cut target rest).paths = rest.paths :=
  rfl

/-- The paths of a node are the one to itself, those below it and those behind it. -/
@[simp] theorem paths_node
    (link : Link)
    (reentered : Bool)
    (below rest : Forest) :
    (Forest.node link reentered below rest).paths =
      [link] :: below.paths.map (fun path => link :: path) ++ rest.paths := by
  simp [paths, places, Function.comp_def]

/-- A walk visits the places of a tree in order, as deep as their paths are long. -/
theorem walk_eq_map_places
    (depth : Nat)
    (forest : Forest) :
    forest.walk depth =
      forest.places.map fun place => (depth + place.1.length - 1, place.2.link) := by
  induction forest generalizing depth with
  | nil =>
      rfl
  | cut target rest inductionHypothesis =>
      exact inductionHypothesis depth
  | node link reentered below rest belowHypothesis restHypothesis =>
      simp only [walk, places, belowHypothesis, restHypothesis, List.cons_append, List.map_cons,
        List.map_append, List.map_map, List.length_singleton, Nat.add_sub_cancel]
      congr 2
      apply List.map_congr_left
      intro place _
      simp only [Function.comp_apply, List.length_cons, Prod.mk.injEq, and_true]
      omega

/-- Marking changes the marks of a tree and nothing else. -/
theorem places_mark
    (targets : List ErrorId)
    (forest : Forest) :
    (forest.mark targets).places =
      forest.places.map fun place => (place.1, place.2.mark targets) := by
  induction forest with
  | nil =>
      rfl
  | cut target rest inductionHypothesis =>
      exact inductionHypothesis
  | node link reentered below rest belowHypothesis restHypothesis =>
      simp [mark, places, belowHypothesis, restHypothesis, Branch.mark, Function.comp_def]

/-- Marks do not change paths. -/
@[simp] theorem paths_mark
    (targets : List ErrorId)
    (forest : Forest) :
    (forest.mark targets).paths = forest.paths := by
  simp [paths, places_mark, Function.comp_def]

/-- Marks do not change whether a forest is truncated. -/
@[simp] theorem isTruncated_mark
    (targets : List ErrorId)
    (forest : Forest) :
    (forest.mark targets).isTruncated = forest.isTruncated := by
  induction forest with
  | nil =>
      rfl
  | cut target rest inductionHypothesis =>
      rfl
  | node link reentered below rest belowHypothesis restHypothesis =>
      exact restHypothesis

/-- Marks do not change what was cut. -/
@[simp] theorem cutTargets_mark
    (targets : List ErrorId)
    (forest : Forest) :
    (forest.mark targets).cutTargets = forest.cutTargets := by
  induction forest with
  | nil =>
      rfl
  | cut target rest inductionHypothesis =>
      simp [mark, cutTargets, inductionHypothesis]
  | node link reentered below rest belowHypothesis restHypothesis =>
      simp [mark, cutTargets, belowHypothesis, restHypothesis]

/-- Marks change each branch on its own. -/
theorem branches_mark
    (targets : List ErrorId)
    (forest : Forest) :
    (forest.mark targets).branches = forest.branches.map (Branch.mark targets) := by
  induction forest with
  | nil =>
      rfl
  | cut target rest inductionHypothesis =>
      exact inductionHypothesis
  | node link reentered below rest belowHypothesis restHypothesis =>
      simp [mark, branches, restHypothesis, Branch.mark]

end Forest

namespace Graph

/-! ## The path of an unfolding -/

/-- A path with one more error on it; an error without an identity leaves no trace. -/
def extend
    (graph : Graph)
    (path : List ErrorId)
    (error : ErrorId) :
    List ErrorId :=
  if graph.isIdentified error then error :: path else path

/-- The path of identities at the end of a path of links. -/
def trail (graph : Graph) (path : List ErrorId) : List Link → List ErrorId
  | [] => path
  | link :: rest => graph.trail (graph.extend path link.target) rest

/-- Whether a link is cut where it continues a path. -/
def isCut
    (graph : Graph)
    (path : List ErrorId)
    (link : Link) :
    Bool :=
  graph.isIdentified link.target && path.contains link.target

/-- A trail holds the identities of its links, the last one first. -/
theorem trail_eq
    (graph : Graph)
    (path : List ErrorId)
    (steps : List Link) :
    graph.trail path steps =
      ((steps.map Link.target).filter graph.isIdentified).reverse ++ path := by
  induction steps generalizing path with
  | nil =>
      rfl
  | cons link rest inductionHypothesis =>
      rw [trail, inductionHypothesis]
      cases identified : graph.isIdentified link.target <;>
        simp [extend, identified]

/-- The trail of steps in a row is that of the later ones behind that of the earlier ones. -/
theorem trail_append
    (graph : Graph)
    (path : List ErrorId)
    (steps further : List Link) :
    graph.trail path (steps ++ further) = graph.trail (graph.trail path steps) further := by
  simp [trail_eq]

/-- The trail from a root holds the identities of the path, the last one first. -/
theorem trail_startPath
    (graph : Graph)
    (root : ErrorId)
    (steps : List Link) :
    graph.trail (graph.startPath root) steps = (graph.identities root steps).reverse := by
  rw [trail_eq]
  cases identified : graph.isIdentified root <;>
    simp [startPath, identities, identified]

/-- A link is cut on a trail when it returns to its path. -/
theorem isCut_trail
    (graph : Graph)
    (root : ErrorId)
    (steps : List Link)
    (link : Link) :
    graph.isCut (graph.trail (graph.startPath root) steps) link =
      graph.returns root steps link := by
  simp [isCut, returns, trail_startPath]

/-- A path that goes on along a link that is not cut has no repeats. -/
theorem nodup_extend
    {graph : Graph}
    {path : List ErrorId}
    {link : Link}
    (nodup : path.Nodup)
    (kept : graph.isCut path link = false) :
    (graph.extend path link.target).Nodup := by
  unfold extend
  split
  · next identified =>
      have absent : link.target ∉ path := by
        simpa [isCut, identified] using kept
      exact List.nodup_cons.mpr ⟨absent, nodup⟩
  · exact nodup

/-- A path with a repeat keeps it however it is continued. -/
theorem nodup_of_nodup_trail
    {graph : Graph}
    {path : List ErrorId}
    {steps : List Link}
    (nodup : (graph.trail path steps).Nodup) :
    path.Nodup := by
  rw [trail_eq] at nodup
  exact (List.nodup_append.mp nodup).2.1

/-- Links unfold one by one: a link that returns to the path is cut, and the causes behind any
other unfold below the longer path. -/
theorem unfold_cons
    (graph : Graph)
    (path : List ErrorId)
    (link : Link)
    (rest : List Link) :
    graph.unfold path (link :: rest) =
      if graph.isCut path link then
        .cut link.target (graph.unfold path rest)
      else
        .node link false
          (graph.unfold (graph.extend path link.target) (graph.links link.target))
          (graph.unfold path rest) := by
  rw [unfold]
  cases identified : graph.isIdentified link.target with
  | true =>
      simp [isCut, extend, identified]
  | false =>
      simp [isCut, identified, links_eq_nil_of_not_identified identified, unfold]

/-- What holds of no links, of a cut before the rest, and of a cause with everything below it
before the rest, holds of every unfolding. -/
theorem unfold_induction
    (graph : Graph)
    {motive : List ErrorId → List Link → Prop}
    (nil : ∀ path, motive path [])
    (cut :
      ∀ path link rest,
        graph.isCut path link = true →
        motive path rest →
        motive path (link :: rest))
    (node :
      ∀ path link rest,
        graph.isCut path link = false →
        motive (graph.extend path link.target) (graph.links link.target) →
        motive path rest →
        motive path (link :: rest))
    (path : List ErrorId)
    (links : List Link) :
    motive path links := by
  induction path, links using unfold.induct graph with
  | case1 path =>
      exact nil path
  | case2 path link rest identified onPath inductionHypothesis =>
      exact cut path link rest (by simp_all [isCut]) inductionHypothesis
  | case3 path link rest identified new belowHypothesis restHypothesis =>
      refine node path link rest (by simp_all [isCut]) ?_ restHypothesis
      simpa [extend, identified] using belowHypothesis
  | case4 path link rest unidentified inductionHypothesis =>
      refine node path link rest (by simp_all [isCut]) ?_ inductionHypothesis
      rw [links_eq_nil_of_not_identified (by simpa using unidentified)]
      exact nil _

/-! ## The paths of an unfolding -/

/-- No path of a forest is empty. -/
theorem ne_nil_of_mem_paths
    {forest : Forest}
    {path : List Link}
    (member : path ∈ forest.paths) :
    path ≠ [] := by
  induction forest generalizing path with
  | nil =>
      simp at member
  | cut target rest inductionHypothesis =>
      exact inductionHypothesis member
  | node link reentered below rest belowHypothesis restHypothesis =>
      rw [Forest.paths_node, List.cons_append, List.mem_cons, List.mem_append] at member
      rcases member with isHead | inBelow | inRest
      · simp [isHead]
      · obtain ⟨further, _, rfl⟩ := List.mem_map.mp inBelow
        simp
      · exact restHypothesis inRest

/-- The paths over one link are those that continue the longer path, with the link in front. -/
private theorem filter_paths_over
    {graph : Graph}
    {path : List ErrorId}
    {link : Link}
    {below : Forest}
    (count : Nat)
    (extended : (graph.extend path link.target).Nodup)
    (belowPaths :
      ∀ count,
        (below.paths.filter fun steps => steps.length = count + 1) =
          (graph.linkPaths (count + 1) link.target).filter
            fun steps => (graph.trail (graph.extend path link.target) steps).Nodup) :
    (([link] :: below.paths.map fun steps => link :: steps).filter
        fun steps => steps.length = count + 1) =
      ((graph.linkPaths count link.target).map fun steps => link :: steps).filter
        fun steps => (graph.trail path steps).Nodup := by
  cases count with
  | zero =>
      have noneShorter :
          ((below.paths.map fun steps => link :: steps).filter
            fun steps => steps.length = 0 + 1) = [] := by
        rw [List.filter_eq_nil_iff]
        intro steps member
        obtain ⟨further, furtherMember, rfl⟩ := List.mem_map.mp member
        simpa using ne_nil_of_mem_paths furtherMember
      rw [List.filter_cons, noneShorter]
      simp [linkPaths, trail, extended]
  | succ count =>
      rw [List.filter_cons, if_neg (by simp), List.filter_map, List.filter_map]
      simp only [Function.comp_def, List.length_cons, Nat.add_right_cancel_iff, trail]
      rw [belowPaths count]
      rfl

/-- The paths of a length in an unfolding are those paths along its links that keep the path they
continue free of repeats, in the order of the links. -/
theorem filter_paths_unfold
    (graph : Graph)
    (count : Nat)
    {path : List ErrorId}
    {links : List Link}
    (nodup : path.Nodup) :
    ((graph.unfold path links).paths.filter fun steps => steps.length = count + 1) =
      (links.flatMap fun link =>
        (graph.linkPaths count link.target).map fun steps => link :: steps).filter
          fun steps => (graph.trail path steps).Nodup := by
  induction path, links using graph.unfold_induction generalizing count with
  | nil path =>
      simp [unfold]
  | cut path link rest cut inductionHypothesis =>
      -- No path over a link that is cut is free of repeats, so the enumeration loses them all.
      have repeated : ∀ steps, ¬(graph.trail path (link :: steps)).Nodup := by
        intro steps traced
        rw [trail] at traced
        have extended : (graph.extend path link.target).Nodup :=
          nodup_of_nodup_trail traced
        simp_all [isCut, extend]
      rw [unfold_cons, if_pos cut, Forest.paths_cut, inductionHypothesis count nodup,
        List.flatMap_cons, List.filter_append, List.filter_map]
      simp [Function.comp_def, repeated]
  | node path link rest kept belowHypothesis restHypothesis =>
      have extended := nodup_extend nodup kept
      rw [unfold_cons, if_neg (by simp [kept]), Forest.paths_node, List.filter_append,
        restHypothesis count nodup, List.flatMap_cons, List.filter_append]
      rw [filter_paths_over count extended (fun count => belowHypothesis count extended)]

/-- The paths in the unfolding of an error's links are its paths that have a link and keep the path
they continue free of repeats. -/
theorem mem_paths_unfold
    {graph : Graph}
    {path : List ErrorId}
    {error : ErrorId}
    {steps : List Link}
    (nodup : path.Nodup) :
    steps ∈ (graph.unfold path (graph.links error)).paths ↔
      steps ≠ [] ∧ graph.IsPath error steps ∧ (graph.trail path steps).Nodup := by
  cases steps with
  | nil =>
      have absent : [] ∉ (graph.unfold path (graph.links error)).paths :=
        fun member => ne_nil_of_mem_paths member rfl
      simp [absent]
  | cons link rest =>
      have listed :
          link :: rest ∈ (graph.unfold path (graph.links error)).paths ↔
            link :: rest ∈
              (graph.unfold path (graph.links error)).paths.filter
                fun steps => steps.length = rest.length + 1 := by
        simp
      have enumerated :
          link :: rest ∈ graph.linkPaths (rest.length + 1) error ↔
            graph.IsPath error (link :: rest) := by
        simp [mem_linkPaths_iff]
      rw [listed, filter_paths_unfold graph rest.length nodup, List.mem_filter, ← enumerated]
      simp [linkPaths]

/-- The causes of each branch in an unfolding are the unfolding of the links of its error, below the
trail to it. -/
theorem below_eq_unfold_of_mem_places
    {graph : Graph}
    {path : List ErrorId}
    {links : List Link}
    {steps : List Link}
    {branch : Branch}
    (member : (steps, branch) ∈ (graph.unfold path links).places) :
    steps.getLast? = some branch.link ∧
      branch.below = graph.unfold (graph.trail path steps) (graph.links branch.link.target) := by
  induction path, links using graph.unfold_induction generalizing steps with
  | nil path =>
      simp [unfold, Forest.places] at member
  | cut path link rest cut inductionHypothesis =>
      rw [unfold_cons, if_pos cut] at member
      exact inductionHypothesis member
  | node path link rest kept belowHypothesis restHypothesis =>
      rw [unfold_cons, if_neg (by simp [kept]), Forest.mem_places_node] at member
      rcases member with ⟨rfl, rfl⟩ | ⟨further, rfl, furtherMember⟩ | inRest
      · exact ⟨rfl, rfl⟩
      · obtain ⟨last, shape⟩ := belowHypothesis furtherMember
        refine ⟨?_, shape⟩
        cases further with
        | nil =>
            simp at last
        | cons first others =>
            rw [List.getLast?_cons_cons]
            exact last
      · exact restHypothesis inRest

/-- The causes of an unfolding are its links that are not cut, in order. -/
theorem branches_unfold
    (graph : Graph)
    (path : List ErrorId)
    (links : List Link) :
    (graph.unfold path links).branches.map Branch.link =
      links.filter fun link => !graph.isCut path link := by
  induction links with
  | nil =>
      simp [unfold, Forest.branches]
  | cons link rest inductionHypothesis =>
      rw [unfold_cons]
      cases cut : graph.isCut path link <;>
        simp [Forest.branches, inductionHypothesis, cut]

/-- Unfolded links are truncated when one of them is cut. -/
theorem isTruncated_unfold
    {graph : Graph}
    {path : List ErrorId}
    {links : List Link} :
    (graph.unfold path links).isTruncated = true ↔
      ∃ link ∈ links, graph.isCut path link = true := by
  induction links with
  | nil =>
      simp [unfold, Forest.isTruncated]
  | cons link rest inductionHypothesis =>
      rw [unfold_cons]
      cases cut : graph.isCut path link <;>
        simp [Forest.isTruncated, inductionHypothesis, cut]

/-! ## The paths of a cause tree -/

/-- A path starts without repeats. -/
theorem nodup_startPath
    (graph : Graph)
    (root : ErrorId) :
    (graph.startPath root).Nodup := by
  cases identified : graph.isIdentified root <;>
    simp [startPath, identified]

/-- The paths of a length in a cause tree are the simple paths of that length, in link order. -/
theorem filter_paths_causeTree
    (graph : Graph)
    (root : ErrorId)
    (count : Nat) :
    ((graph.causeTree root).paths.filter fun path => path.length = count + 1) =
      (graph.linkPaths (count + 1) root).filter (graph.isSimple root) := by
  have simple :
      (fun path : List Link => decide (graph.trail (graph.startPath root) path).Nodup) =
        graph.isSimple root := by
    funext path
    simp [isSimple, trail_startPath]
  rw [causeTree, Forest.paths_mark, filter_paths_unfold graph count (graph.nodup_startPath root),
    simple]
  rfl

/-- The paths in a cause tree are the simple paths from its root that have a link. -/
theorem mem_paths_causeTree
    {graph : Graph}
    {root : ErrorId}
    {path : List Link} :
    path ∈ (graph.causeTree root).paths ↔ path ≠ [] ∧ graph.IsSimplePath root path := by
  rw [causeTree, Forest.paths_mark, mem_paths_unfold (graph.nodup_startPath root),
    trail_startPath, List.nodup_reverse]
  exact and_congr_right fun _ =>
    ⟨fun simple => ⟨simple.1, simple.2⟩, fun simple => ⟨simple.isPath, simple.nodup⟩⟩

/-- A cause tree is the unfolding of the links of its root, marked with all its cuts. -/
theorem causeTree_eq_mark
    (graph : Graph)
    (root : ErrorId) :
    graph.causeTree root =
      (graph.unfold (graph.startPath root) (graph.links root)).mark
        (graph.causeTree root).cutTargets := by
  simp [causeTree]

/-- Each branch in a cause tree carries the last link of its path, is marked when a cut leads back
to it, and has the unfolding of the links of its error below it. -/
theorem branch_of_mem_places
    {graph : Graph}
    {root : ErrorId}
    {path : List Link}
    {branch : Branch}
    (member : (path, branch) ∈ (graph.causeTree root).places) :
    path.getLast? = some branch.link ∧
      branch.reentered = (graph.causeTree root).cutTargets.contains branch.link.target ∧
      branch.below =
        (graph.unfold (graph.trail (graph.startPath root) path)
          (graph.links (pathEnd root path))).mark (graph.causeTree root).cutTargets := by
  rw [causeTree_eq_mark, Forest.places_mark, List.mem_map] at member
  obtain ⟨⟨steps, plain⟩, plainMember, same⟩ := member
  cases same
  obtain ⟨last, below⟩ := below_eq_unfold_of_mem_places plainMember
  refine ⟨last, rfl, ?_⟩
  rw [pathEnd_of_getLast?_eq_some root last, ← below]
  rfl

/-- A place holds the error at the end of its path. -/
theorem target_eq_pathEnd
    {graph : Graph}
    {root : ErrorId}
    {path : List Link}
    {branch : Branch}
    (member : (path, branch) ∈ (graph.causeTree root).places) :
    branch.link.target = pathEnd root path :=
  (pathEnd_of_getLast?_eq_some root (branch_of_mem_places member).1).symm

/-- Every place is reached by a simple path. -/
theorem isSimplePath_of_mem_places
    {graph : Graph}
    {root : ErrorId}
    {path : List Link}
    {branch : Branch}
    (member : (path, branch) ∈ (graph.causeTree root).places) :
    graph.IsSimplePath root path :=
  (mem_paths_causeTree.mp (Forest.mem_paths_iff.mpr ⟨branch, member⟩)).2

/-- Every simple path leads to a place. -/
theorem exists_place_of_isSimplePath
    {graph : Graph}
    {root : ErrorId}
    {path : List Link}
    (simple : graph.IsSimplePath root path)
    (nonempty : path ≠ []) :
    ∃ branch,
      (path, branch) ∈ (graph.causeTree root).places ∧ branch.link.target = pathEnd root path := by
  obtain ⟨branch, member⟩ :=
    Forest.mem_paths_iff.mp (mem_paths_causeTree.mpr ⟨nonempty, simple⟩)
  exact ⟨branch, member, target_eq_pathEnd member⟩

/-- A root stands at no place of its own tree. -/
theorem target_ne_root
    {graph : Graph}
    {root : ErrorId}
    {path : List Link}
    {branch : Branch}
    (member : (path, branch) ∈ (graph.causeTree root).places) :
    branch.link.target ≠ root := by
  intro same
  have simple := isSimplePath_of_mem_places member
  have last := (branch_of_mem_places member).1
  obtain ⟨front, rfl⟩ := List.getLast?_eq_some_iff.mp last
  obtain ⟨_, _, kept⟩ := isSimplePath_append_singleton.mp simple
  refine returns_eq_false_iff.mp kept (mem_identities_iff.mpr ⟨?_, .inl same⟩)
  rw [same]
  cases front with
  | nil =>
      exact isIdentified_of_linksTo (linksTo_of_mem_links simple.isPath.1)
  | cons link rest =>
      exact isIdentified_of_linksTo (linksTo_of_mem_links simple.isPath.1)

/-- Each list of causes in a cause tree is the marked unfolding of the links of its owner. -/
theorem eq_mark_unfold_of_mem_lists
    {graph : Graph}
    {root : ErrorId}
    {path : List Link}
    {list : Forest}
    (member : (path, list) ∈ (graph.causeTree root).lists) :
    list =
      (graph.unfold (graph.trail (graph.startPath root) path)
        (graph.links (pathEnd root path))).mark (graph.causeTree root).cutTargets := by
  rw [Forest.lists, List.mem_cons, List.mem_map] at member
  rcases member with isRoot | ⟨⟨steps, branch⟩, branchMember, same⟩
  · cases isRoot
    exact graph.causeTree_eq_mark root
  · cases same
    exact (branch_of_mem_places branchMember).2.2

/-- What makes a tree the tree of all simple paths from a root. -/
structure IsPathTree
    (graph : Graph)
    (root : ErrorId)
    (tree : Forest) :
    Prop where
  /-- The paths of a length are the simple paths of that length, in link order, and each stands in
  the tree once for every way to choose its links. -/
  paths :
    ∀ count,
      (tree.paths.filter fun path => path.length = count + 1) =
        (graph.linkPaths (count + 1) root).filter (graph.isSimple root)
  /-- The root itself is no node, and whatever is one has a simple path. -/
  mem_iff : ∀ path, path ∈ tree.paths ↔ path ≠ [] ∧ graph.IsSimplePath root path
  /-- A node carries the last link of its path, with its type. -/
  last : ∀ path branch, (path, branch) ∈ tree.places → path.getLast? = some branch.link
  /-- The causes of a node are the links of its error that do not return to its path, in order. -/
  causes :
    ∀ path list,
      (path, list) ∈ tree.lists →
      list.branches.map Branch.link =
        (graph.links (pathEnd root path)).filter fun link => !graph.returns root path link
  /-- The causes of a node are truncated when a link of its error returns to its path. -/
  truncated :
    ∀ path list,
      (path, list) ∈ tree.lists →
      (list.isTruncated = true ↔
        ∃ link ∈ graph.links (pathEnd root path), graph.returns root path link = true)
  /-- A walk visits the nodes in the order of the paths, as deep as these are long. -/
  walk : tree.walk 0 = tree.places.map fun place => (place.1.length - 1, place.2.link)
  /-- No path is longer than the number of errors. -/
  bounded : ∀ path ∈ tree.paths, path.length ≤ graph.size

/-- A cause tree has one node for every simple path of links from its root. -/
theorem causeTree_isPathTree
    (graph : Graph)
    (root : ErrorId) :
    graph.IsPathTree root (graph.causeTree root) where
  paths :=
    graph.filter_paths_causeTree root
  mem_iff _ :=
    mem_paths_causeTree
  last path branch member :=
    (branch_of_mem_places member).1
  causes path list member := by
    have links :
        (Branch.link ∘ Branch.mark (graph.causeTree root).cutTargets) = Branch.link :=
      rfl
    rw [eq_mark_unfold_of_mem_lists member, Forest.branches_mark, List.map_map, links,
      branches_unfold]
    simp only [isCut_trail]
  truncated path list member := by
    rw [eq_mark_unfold_of_mem_lists member, Forest.isTruncated_mark, isTruncated_unfold]
    simp only [isCut_trail]
  walk := by
    rw [Forest.walk_eq_map_places]
    simp only [Nat.zero_add]
  bounded path member :=
    (mem_paths_causeTree.mp member).2.length_le_size

end Graph

end Fault
