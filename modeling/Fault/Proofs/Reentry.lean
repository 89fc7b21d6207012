import Fault.Proofs.TreePaths
import Fault.Graph.Foreign

/-!
# Where trees re-enter an error

A link that returns to its own path is cut, and the error it leads back to is marked as re-entered.
The marks go by identity: when an error stands in a tree several times, a cut below one of its
places marks them all. A link back to the error is cut below a place exactly when links lead from
the error back to itself without coming across the errors before this place. So a mark tells of a
cut below its own place as long as this is so at every place of the error or at none.
-/

namespace Fault

namespace Forest

/-- The errors that the cuts of one list of causes lead back to. -/
def cuts : Forest → List ErrorId
  | .nil => []
  | .cut target rest => target :: rest.cuts
  | .node _ _ _ rest => rest.cuts

/-- A cut anywhere in a tree is a cut of the root's list of causes or of the list of a branch. -/
theorem mem_cutTargets_iff
    {identity : ErrorId}
    {forest : Forest} :
    identity ∈ forest.cutTargets ↔
      identity ∈ forest.cuts ∨
        ∃ path branch, (path, branch) ∈ forest.places ∧ identity ∈ branch.below.cuts := by
  induction forest with
  | nil =>
      simp [cutTargets, cuts, places]
  | cut target rest inductionHypothesis =>
      simp only [cutTargets, cuts, places, List.mem_cons, inductionHypothesis, or_assoc]
  | node link reentered below rest belowHypothesis restHypothesis =>
      simp only [cutTargets, cuts, List.mem_append, belowHypothesis, restHypothesis,
        mem_places_node]
      constructor
      · rintro ((ownCut | ⟨path, branch, member, cut⟩) | ownCut | ⟨path, branch, member, cut⟩)
        · exact .inr ⟨_, _, .inl ⟨rfl, rfl⟩, ownCut⟩
        · exact .inr ⟨_, branch, .inr (.inl ⟨path, rfl, member⟩), cut⟩
        · exact .inl ownCut
        · exact .inr ⟨path, branch, .inr (.inr member), cut⟩
      · rintro (ownCut | ⟨path, branch, ⟨rfl, rfl⟩ | ⟨further, rfl, member⟩ | member, cut⟩)
        · exact .inr (.inl ownCut)
        · exact .inl (.inl cut)
        · exact .inl (.inr ⟨further, branch, member, cut⟩)
        · exact .inr (.inr ⟨path, branch, member, cut⟩)

end Forest

namespace Graph

open Relation

/-- Whether a link back to an error is dropped where it would continue a path. -/
def Drops
    (graph : Graph)
    (root : ErrorId)
    (path : List Link)
    (identity : ErrorId) :
    Prop :=
  ∃ link ∈ graph.links (pathEnd root path),
    graph.returns root path link = true ∧ link.target = identity

/-- Whether a link back to an error is dropped at the end of a path or anywhere below it. -/
def DropsWithin
    (graph : Graph)
    (root : ErrorId)
    (path : List Link)
    (identity : ErrorId) :
    Prop :=
  ∃ below,
    path <+: below ∧ graph.IsSimplePath root below ∧ graph.Drops root below identity

/-- The cuts of one list of causes are the targets of the links that return. -/
theorem mem_cuts_unfold
    {graph : Graph}
    {path : List ErrorId}
    {links : List Link}
    {identity : ErrorId} :
    identity ∈ (graph.unfold path links).cuts ↔
      ∃ link ∈ links, graph.isCut path link = true ∧ link.target = identity := by
  induction links with
  | nil =>
      simp [unfold, Forest.cuts]
  | cons link rest inductionHypothesis =>
      rw [unfold_cons]
      cases cut : graph.isCut path link with
      | true =>
          simp [Forest.cuts, inductionHypothesis, cut, @eq_comm _ identity link.target]
      | false =>
          simp [Forest.cuts, inductionHypothesis, cut]

/-- A cut below a simple path from a root is a link that is dropped within the path. -/
theorem mem_cutTargets_unfold
    {graph : Graph}
    {root identity : ErrorId}
    {path : List Link}
    (simple : graph.IsSimplePath root path) :
    identity ∈
        (graph.unfold (graph.trail (graph.startPath root) path)
          (graph.links (pathEnd root path))).cutTargets ↔
      graph.DropsWithin root path identity := by
  have nodup : (graph.trail (graph.startPath root) path).Nodup := by
    rw [trail_startPath, List.nodup_reverse]
    exact simple.nodup
  rw [Forest.mem_cutTargets_iff, mem_cuts_unfold]
  simp only [isCut_trail]
  constructor
  · rintro (ownDrop | ⟨steps, branch, member, cut⟩)
    · exact ⟨path, List.prefix_rfl, simple, ownDrop⟩
    · have stepsMember :
          steps ∈
            (graph.unfold (graph.trail (graph.startPath root) path)
              (graph.links (pathEnd root path))).paths :=
        Forest.mem_paths_iff.mpr ⟨branch, member⟩
      obtain ⟨_, isPath, stepsNodup⟩ := (mem_paths_unfold nodup).mp stepsMember
      obtain ⟨last, below⟩ := below_eq_unfold_of_mem_places member
      rw [below, mem_cuts_unfold, ← trail_append] at cut
      simp only [isCut_trail] at cut
      rw [← trail_append, trail_startPath, List.nodup_reverse] at stepsNodup
      refine ⟨path ++ steps, List.prefix_append path steps,
        ⟨isPath_append.mpr ⟨simple.isPath, isPath⟩, stepsNodup⟩, ?_⟩
      rw [Drops, pathEnd_append, pathEnd_of_getLast?_eq_some _ last]
      exact cut
  · rintro ⟨below, ⟨steps, rfl⟩, belowSimple, drop⟩
    -- The tree below a path has no place for the end of the path itself.
    by_cases isHere : steps = []
    · subst isHere
      exact .inl (by simpa [Drops] using drop)
    · have stepsMember :
          steps ∈
            (graph.unfold (graph.trail (graph.startPath root) path)
              (graph.links (pathEnd root path))).paths := by
        rw [mem_paths_unfold nodup, ← trail_append, trail_startPath, List.nodup_reverse]
        exact ⟨isHere, (isPath_append.mp belowSimple.isPath).2, belowSimple.nodup⟩
      obtain ⟨branch, member⟩ := Forest.mem_paths_iff.mp stepsMember
      obtain ⟨last, below⟩ := below_eq_unfold_of_mem_places member
      refine .inr ⟨_, branch, member, ?_⟩
      rw [below, mem_cuts_unfold, ← trail_append]
      simp only [isCut_trail]
      rw [Drops, pathEnd_append, pathEnd_of_getLast?_eq_some _ last] at drop
      exact drop

/-- The cuts below a place of a cause tree are the links that are dropped within its path. -/
theorem mem_cutTargets_below_iff
    {graph : Graph}
    {root identity : ErrorId}
    {path : List Link}
    {branch : Branch}
    (member : (path, branch) ∈ (graph.causeTree root).places) :
    identity ∈ branch.below.cutTargets ↔ graph.DropsWithin root path identity := by
  have simple := isSimplePath_of_mem_places member
  obtain ⟨_, _, below⟩ := branch_of_mem_places member
  rw [below, Forest.cutTargets_mark, mem_cutTargets_unfold simple]

/-- The cuts of a cause tree are the links that are dropped anywhere behind its root. -/
theorem mem_cutTargets_causeTree
    {graph : Graph}
    {root identity : ErrorId} :
    identity ∈ (graph.causeTree root).cutTargets ↔ graph.DropsWithin root [] identity := by
  rw [causeTree, Forest.cutTargets_mark]
  exact mem_cutTargets_unfold (.nil graph root)

/-- A link back to an error is dropped below a place of that error, if it is not the root. -/
theorem exists_twin_of_dropsWithin
    {graph : Graph}
    {root identity : ErrorId}
    (dropped : graph.DropsWithin root [] identity)
    (notRoot : identity ≠ root) :
    ∃ path branch,
      (path, branch) ∈ (graph.causeTree root).places ∧
        branch.link.target = identity ∧
        graph.DropsWithin root path identity := by
  obtain ⟨below, _, simple, drop⟩ := dropped
  obtain ⟨link, _, turnsBack, leads⟩ := id drop
  have onPath : identity ∈ graph.identities root below := by
    rw [← leads]
    exact returns_iff.mp turnsBack
  obtain ⟨front, isPrefix, frontSimple, frontEnds⟩ := simple.exists_front onPath
  have nonempty : front ≠ [] := by
    rintro rfl
    exact notRoot frontEnds.symm
  obtain ⟨branch, member, target⟩ := exists_place_of_isSimplePath frontSimple nonempty
  exact ⟨front, branch, member, target.trans frontEnds, below, isPrefix, simple, drop⟩

/-- A cause is marked exactly when a link back to its error was dropped below some place of that
error. -/
theorem reentered_iff_exists_twin
    {graph : Graph}
    {root : ErrorId}
    {path : List Link}
    {branch : Branch}
    (member : (path, branch) ∈ (graph.causeTree root).places) :
    branch.reentered = true ↔
      ∃ other twin,
        (other, twin) ∈ (graph.causeTree root).places ∧
          twin.link.target = branch.link.target ∧
          graph.DropsWithin root other branch.link.target := by
  rw [(branch_of_mem_places member).2.1, List.contains_iff_mem, mem_cutTargets_causeTree]
  constructor
  · intro dropped
    exact exists_twin_of_dropsWithin dropped (target_ne_root member)
  · rintro ⟨other, twin, _, _, below, _, drop⟩
    exact ⟨below, List.nil_prefix, drop⟩

/-! ## Loops behind a path -/

/-- Whether links lead from the end of a path back to it, over errors that are not on the path. -/
def LoopsApart
    (graph : Graph)
    (root : ErrorId)
    (path : List Link) :
    Prop :=
  ∃ last,
    ReflTransGen
        (fun error cause => graph.LinksTo error cause ∧ cause ∉ graph.identities root path)
        (pathEnd root path) last ∧
      graph.LinksTo last (pathEnd root path)

/-- The end of a path with such a loop has links, so it has an identity. -/
theorem LoopsApart.isIdentified
    {graph : Graph}
    {root : ErrorId}
    {path : List Link}
    (loops : graph.LoopsApart root path) :
    graph.isIdentified (pathEnd root path) = true := by
  obtain ⟨last, around, closes⟩ := loops
  rcases ReflTransGen.cases_head around with same | ⟨_, ⟨linked, _⟩, _⟩
  · rw [← same] at closes
    exact isIdentified_of_linksTo closes
  · exact isIdentified_of_linksTo linked

/-- A link back to the end of a simple path is dropped within the path exactly when a loop from the
end meets the path nowhere else. -/
theorem dropsWithin_pathEnd_iff_loopsApart
    {graph : Graph}
    {root : ErrorId}
    {path : List Link}
    (simple : graph.IsSimplePath root path) :
    graph.DropsWithin root path (pathEnd root path) ↔ graph.LoopsApart root path := by
  constructor
  · rintro ⟨_, ⟨steps, rfl⟩, fullSimple, link, member, _, leads⟩
    rw [pathEnd_append] at member
    refine ⟨pathEnd (pathEnd root path) steps, ?_, ?_⟩
    · exact reflTransGen_pathEnd (isPath_append.mp fullSimple.isPath).2
        fullSimple.not_mem_identities_of_append
    · exact List.mem_map.mpr ⟨link, member, leads⟩
  · intro loops
    obtain ⟨last, around, closes⟩ := id loops
    obtain ⟨steps, stepsSimple, ends, apart⟩ := exists_simplePath around
    obtain ⟨link, member, leads⟩ := List.mem_map.mp closes
    have onPath := pathEnd_mem_identities loops.isIdentified
    refine ⟨path ++ steps, List.prefix_append path steps, simple.append stepsSimple apart, link,
      by rwa [pathEnd_append, ends], ?_, leads⟩
    rw [returns_iff, leads, identities_append]
    exact List.mem_append_left _ onPath

/-- A mark stands for the links that were dropped below all places of its error. It tells whether
one was dropped below its own place exactly when either no simple path to the error has a loop
behind it that stays off the path, or the path of this place has one too. -/
theorem reentered_tells_own_drops_iff
    {graph : Graph}
    {root : ErrorId}
    {path : List Link}
    {branch : Branch}
    (member : (path, branch) ∈ (graph.causeTree root).places) :
    (branch.reentered = true ↔
        ∃ other twin,
          (other, twin) ∈ (graph.causeTree root).places ∧
            twin.link.target = branch.link.target ∧
            graph.DropsWithin root other branch.link.target) ∧
      (∀ identity,
        identity ∈ branch.below.cutTargets ↔ graph.DropsWithin root path identity) ∧
      ((branch.reentered = true ↔ graph.DropsWithin root path branch.link.target) ↔
        ∀ way,
          graph.IsSimplePath root way →
            pathEnd root way = branch.link.target →
            graph.LoopsApart root way →
            graph.LoopsApart root path) := by
  have marked := reentered_iff_exists_twin member
  have isEnd := target_eq_pathEnd member
  have ownLoop := dropsWithin_pathEnd_iff_loopsApart (isSimplePath_of_mem_places member)
  refine ⟨marked, fun _ => mem_cutTargets_below_iff member, ?_⟩
  constructor
  · intro tells way simple ends loops
    have dropped := (dropsWithin_pathEnd_iff_loopsApart simple).mpr loops
    have nonempty : way ≠ [] := by
      rintro rfl
      exact target_ne_root member ends.symm
    obtain ⟨twin, twinMember, twinEnds⟩ := exists_place_of_isSimplePath simple nonempty
    have isMarked :=
      marked.mpr ⟨way, twin, twinMember, twinEnds.trans ends, ends ▸ dropped⟩
    exact ownLoop.mp (isEnd ▸ tells.mp isMarked)
  · intro shared
    constructor
    · intro reentered
      obtain ⟨other, twin, twinMember, sameError, dropped⟩ := marked.mp reentered
      have ends := (target_eq_pathEnd twinMember).symm.trans sameError
      have simple := isSimplePath_of_mem_places twinMember
      have loops := (dropsWithin_pathEnd_iff_loopsApart simple).mp (ends ▸ dropped)
      exact isEnd ▸ ownLoop.mpr (shared other simple ends loops)
    · intro dropped
      exact marked.mpr ⟨path, branch, member, rfl, dropped⟩

/-- Two foreign errors that lead to each other, and a joined error of both. -/
def joinedLoop : Graph where
  nodes :=
    #[.foreign (Foreign.holding "Looping" "first" ⟨1⟩),
      .foreign (Foreign.holding "Looping" "second" ⟨0⟩),
      .joined [⟨0⟩, ⟨1⟩]]

/-- The loop is entered at both of its errors, and each is marked at both of its places. -/
theorem causeTree_joinedLoop :
    joinedLoop.causeTree ⟨2⟩ =
      .node (.untyped ⟨0⟩) true
        (.node (.untyped ⟨1⟩) true (.cut ⟨0⟩ .nil) .nil)
        (.node (.untyped ⟨1⟩) true
          (.node (.untyped ⟨0⟩) true (.cut ⟨1⟩ .nil) .nil)
          .nil) := by
  cbv

/-- The second error of the loop where it stands below the first one: no cut leads back to it. -/
def innerSecond : Branch where
  link := .untyped ⟨1⟩
  reentered := true
  below := .cut ⟨0⟩ .nil

/-- The second error stands below the first one in the joined loop. -/
theorem mem_places_joinedLoop :
    ([.untyped ⟨0⟩, .untyped ⟨1⟩], innerSecond) ∈ (joinedLoop.causeTree ⟨2⟩).places := by
  simp [causeTree_joinedLoop, Forest.places, innerSecond]

/-- The marks in a loop that is entered at both of its errors stand for the cuts of both ways. -/
theorem reentered_tells_own_drops_joinedLoop :
    ([.untyped ⟨0⟩, .untyped ⟨1⟩], innerSecond) ∈ (joinedLoop.causeTree ⟨2⟩).places ∧
      ((innerSecond.reentered = true ↔
          joinedLoop.DropsWithin ⟨2⟩ [.untyped ⟨0⟩, .untyped ⟨1⟩] innerSecond.link.target) ↔
        ∀ way,
          joinedLoop.IsSimplePath ⟨2⟩ way →
            pathEnd ⟨2⟩ way = innerSecond.link.target →
            joinedLoop.LoopsApart ⟨2⟩ way →
            joinedLoop.LoopsApart ⟨2⟩ [.untyped ⟨0⟩, .untyped ⟨1⟩]) :=
  ⟨mem_places_joinedLoop, (reentered_tells_own_drops_iff mem_places_joinedLoop).2.2⟩

/-- A cause can be marked although no link back to it was dropped below its place. -/
theorem not_reentered_iff_dropsWithin :
    ¬∀ (graph : Graph) (root : ErrorId) (path : List Link) (branch : Branch),
      (path, branch) ∈ (graph.causeTree root).places →
        (branch.reentered = true ↔ graph.DropsWithin root path branch.link.target) := by
  intro claimed
  have dropped := (claimed joinedLoop ⟨2⟩ _ _ mem_places_joinedLoop).mp rfl
  have isCut := (mem_cutTargets_below_iff mem_places_joinedLoop).mpr dropped
  simp [innerSecond, Forest.cutTargets, Link.untyped] at isCut

end Graph

end Fault
