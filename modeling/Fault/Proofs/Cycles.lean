import Fault.Proofs.Reentry

/-!
# Cycles of links

A tree has a cut exactly when the links behind its root close a cycle. A cut leads back to an error
of its own path, so it closes one. Conversely, a way into a cycle and once around it repeats an
error, and the walk along that way is cut at the first error that is repeated, be it one of this
cycle or one of another cycle that the way has met before. A cause that is only shared repeats on no
path, so sharing alone cuts nothing.
-/

namespace Fault

/-- A forest has a cycle exactly when something was cut in it. -/
theorem Forest.hasCycle_iff
    {forest : Forest} :
    forest.hasCycle = true ↔ ∃ identity, identity ∈ forest.cutTargets := by
  induction forest with
  | nil =>
      simp [hasCycle, cutTargets]
  | cut target rest inductionHypothesis =>
      simp only [hasCycle, cutTargets, true_iff]
      exact ⟨target, List.mem_cons_self⟩
  | node link reentered below rest belowHypothesis restHypothesis =>
      simp only [hasCycle, cutTargets, Bool.or_eq_true, List.mem_append, belowHypothesis,
        restHypothesis, exists_or]

namespace Graph

open Relation

/-- Whether links lead from an error back to itself. -/
def OnCycle
    (graph : Graph)
    (error : ErrorId) :
    Prop :=
  TransGen graph.LinksTo error error

/-! ## Paths along links -/

/-- The end of a path is reached from its start. -/
theorem reaches_pathEnd
    {graph : Graph}
    {start : ErrorId}
    {path : List Link}
    (isPath : graph.IsPath start path) :
    graph.Reaches start (pathEnd start path) := by
  have steps :
      ReflTransGen (fun error cause => graph.LinksTo error cause ∧ True)
        start (pathEnd start path) :=
    reflTransGen_pathEnd isPath fun _ _ => trivial
  exact ReflTransGen.mono (fun _ _ step => step.1) _ _ steps

/-- What is reached is the end of a path. -/
theorem exists_path_of_reaches
    {graph : Graph}
    {start finish : ErrorId}
    (reached : graph.Reaches start finish) :
    ∃ path, graph.IsPath start path ∧ pathEnd start path = finish := by
  have steps :
      ReflTransGen (fun error cause => graph.LinksTo error cause ∧ True) start finish :=
    ReflTransGen.mono (fun _ _ linked => ⟨linked, trivial⟩) _ _ reached
  obtain ⟨path, simple, ends, _⟩ := exists_simplePath steps
  exact ⟨path, simple.isPath, ends⟩

/-- The links around a cycle are a path that is not empty. -/
theorem OnCycle.exists_path
    {graph : Graph}
    {error : ErrorId}
    (onCycle : graph.OnCycle error) :
    ∃ path link,
      graph.IsPath error path ∧ link ∈ graph.links (pathEnd error path) ∧ link.target = error := by
  obtain ⟨last, reached, linked⟩ := TransGen.tail'_iff.mp onCycle
  obtain ⟨path, isPath, ends⟩ := exists_path_of_reaches reached
  obtain ⟨link, member, leads⟩ := List.mem_map.mp linked
  exact ⟨path, link, isPath, by rw [ends]; exact member, leads⟩

/-- An error on a cycle has causes, so it has an identity. -/
theorem OnCycle.isIdentified
    {graph : Graph}
    {error : ErrorId}
    (onCycle : graph.OnCycle error) :
    graph.isIdentified error = true := by
  obtain ⟨_, linked, _⟩ := TransGen.head'_iff.mp onCycle
  exact isIdentified_of_linksTo linked

/-! ## Cuts and cycles -/

/-- An error that a link returns to lies on a cycle behind the root of the path. -/
theorem onCycle_of_drops
    {graph : Graph}
    {root identity : ErrorId}
    {path : List Link}
    (simple : graph.IsSimplePath root path)
    (drop : graph.Drops root path identity) :
    graph.Reaches root identity ∧ graph.OnCycle identity := by
  obtain ⟨link, member, turnsBack, leads⟩ := drop
  have onPath : identity ∈ graph.identities root path := by
    rw [← leads]
    exact returns_iff.mp turnsBack
  obtain ⟨front, ⟨around, rfl⟩, _, frontEnds⟩ := simple.exists_front onPath
  obtain ⟨frontIsPath, aroundIsPath⟩ := isPath_append.mp simple.isPath
  have reached := reaches_pathEnd frontIsPath
  have wayBack := reaches_pathEnd aroundIsPath
  rw [pathEnd_append] at member
  rw [frontEnds] at reached wayBack member
  have closes := linksTo_of_mem_links member
  rw [leads] at closes
  exact ⟨reached, TransGen.tail' wayBack closes⟩

/-- A path with a repeat loses a link: the first one that returns to what stands before it. -/
theorem exists_dropsWithin_of_not_simple
    {graph : Graph}
    {root : ErrorId}
    {path : List Link}
    (isPath : graph.IsPath root path)
    (notSimple : ¬graph.IsSimplePath root path) :
    ∃ identity, graph.DropsWithin root [] identity := by
  induction path using List.reverseRecOn with
  | nil =>
      exact absurd (.nil graph root) notSimple
  | append_singleton front link inductionHypothesis =>
      obtain ⟨frontIsPath, member, _⟩ := isPath_append.mp isPath
      by_cases frontSimple : graph.IsSimplePath root front
      · have turnsBack : graph.returns root front link = true := by
          by_contra kept
          exact notSimple (isSimplePath_append_singleton.mpr
            ⟨frontSimple, member, Bool.eq_false_of_not_eq_true kept⟩)
        exact ⟨link.target, front, List.nil_prefix, frontSimple, link, member, turnsBack, rfl⟩
      · exact inductionHypothesis frontIsPath frontSimple

/-- The way to an error on a cycle and once around the cycle is no simple path. -/
theorem exists_dropsWithin_of_onCycle
    {graph : Graph}
    {root error : ErrorId}
    (reached : graph.Reaches root error)
    (onCycle : graph.OnCycle error) :
    ∃ identity, graph.DropsWithin root [] identity := by
  obtain ⟨way, wayIsPath, wayEnds⟩ := exists_path_of_reaches reached
  obtain ⟨around, link, aroundIsPath, member, leads⟩ := onCycle.exists_path
  have fullIsPath : graph.IsPath root ((way ++ around) ++ [link]) := by
    rw [isPath_append, isPath_append, pathEnd_append, wayEnds]
    exact ⟨⟨wayIsPath, aroundIsPath⟩, member, trivial⟩
  -- The error ends the way, so the link that closes the cycle returns to it.
  have onWay : error ∈ graph.identities root way := by
    have onPath : pathEnd root way ∈ graph.identities root way :=
      pathEnd_mem_identities (wayEnds.symm ▸ onCycle.isIdentified)
    rwa [wayEnds] at onPath
  have turnsBack : graph.returns root (way ++ around) link = true := by
    rw [returns_iff, leads, identities_append]
    exact List.mem_append_left _ onWay
  refine exists_dropsWithin_of_not_simple fullIsPath fun simple => ?_
  have kept := (isSimplePath_append_singleton.mp simple).2.2
  rw [turnsBack] at kept
  cases kept

/-- A cause tree has a cut exactly when links lead from its root to an error on a cycle, and the
errors on cycles are among those that have an identity. -/
theorem hasCycle_causeTree_iff_exists_onCycle
    (graph : Graph)
    (root : ErrorId) :
    ((graph.causeTree root).hasCycle = true ↔
        ∃ error, graph.Reaches root error ∧ graph.OnCycle error) ∧
      ∀ error, graph.OnCycle error → graph.isIdentified error = true := by
  refine ⟨?_, fun _ onCycle => onCycle.isIdentified⟩
  rw [Forest.hasCycle_iff]
  simp only [mem_cutTargets_causeTree]
  constructor
  · rintro ⟨identity, below, _, simple, drop⟩
    exact ⟨identity, onCycle_of_drops simple drop⟩
  · rintro ⟨error, reached, onCycle⟩
    exact exists_dropsWithin_of_onCycle reached onCycle

end Graph

end Fault
