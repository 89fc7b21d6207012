import Fault.Proofs.Cycles
import Fault.Proofs.DraftGrowth

/-!
# Trees without cuts

The tree of a cause depends on the path that leads to it only through the links that are cut. Where
no cycle is reached there are none, so the tree of an error is made of the trees of its causes, each
the one that the cause has of its own, however many errors share it.
-/

namespace Fault.Graph

open Relation

/-- Whether links lead from an error to no cycle. -/
def ReachesNoCycle
    (graph : Graph)
    (start : ErrorId) :
    Prop :=
  ∀ behind, graph.Reaches start behind → ¬graph.OnCycle behind

/-- Where no cycle is reached, none is reached from the causes. -/
theorem ReachesNoCycle.links
    {graph : Graph}
    {error : ErrorId}
    (noCycle : graph.ReachesNoCycle error) :
    ∀ link ∈ graph.links error, graph.ReachesNoCycle link.target :=
  fun _ member behind reached => noCycle behind (.head (linksTo_of_mem_links member) reached)

/-- Errors that wrap earlier ones only are on no cycle. -/
theorem reachesNoCycle_of_earlier
    {graph : Graph}
    (earlier : ∀ error cause, graph.LinksTo error cause → cause.index < error.index)
    (start : ErrorId) :
    graph.ReachesNoCycle start := by
  intro behind _ onCycle
  have before : ∀ {error cause : ErrorId},
      TransGen graph.LinksTo error cause → cause.index < error.index := by
    intro error cause linked
    induction linked with
    | single linked =>
        exact earlier _ _ linked
    | tail _ linked inductionHypothesis =>
        exact (earlier _ _ linked).trans inductionHypothesis
  exact Nat.lt_irrefl _ (before onCycle)

/-! ## Paths that links lead away from -/

/-- Whether nothing that links lead to, over any number of steps, stands on a path. -/
def LeadOff
    (graph : Graph)
    (path : List ErrorId)
    (links : List Link) :
    Prop :=
  ∀ link ∈ links, ∀ behind, graph.Reaches link.target behind → behind ∉ path

namespace LeadOff

variable
  {graph : Graph}
  {path : List ErrorId}
  {link : Link}
  {rest : List Link}

/-- A link that leads off a path is not cut. -/
theorem isCut_eq_false
    (leadOff : graph.LeadOff path (link :: rest)) :
    graph.isCut path link = false := by
  have off : link.target ∉ path := leadOff link List.mem_cons_self link.target .refl
  simp [isCut, off]

theorem tail
    (leadOff : graph.LeadOff path (link :: rest)) :
    graph.LeadOff path rest :=
  (List.forall_mem_cons.mp leadOff).2

/-- Nothing behind the causes of an error is the error itself: it would lie on a cycle. -/
theorem extend
    (leadOff : graph.LeadOff path (link :: rest))
    (noCycle : graph.ReachesNoCycle link.target) :
    graph.LeadOff (graph.extend path link.target) (graph.links link.target) := by
  intro further member behind reached onExtended
  have linked := linksTo_of_mem_links member
  have apart : behind ≠ link.target := by
    intro same
    subst same
    exact noCycle link.target .refl (.head' linked reached)
  have onPath : behind ∈ path := by
    cases identified : graph.isIdentified link.target <;>
      simpa [Graph.extend, identified, apart] using onExtended
  exact leadOff link List.mem_cons_self behind (.head linked reached) onPath

theorem nil (links : List Link) : graph.LeadOff [] links :=
  fun _ _ _ _ => List.not_mem_nil

/-- Where no cycle is reached, the links of a root lead off it. -/
theorem startPath
    {root : ErrorId}
    (noCycle : graph.ReachesNoCycle root) :
    graph.LeadOff (graph.startPath root) (graph.links root) := by
  have below : graph.LeadOff (graph.extend [] root) (graph.links root) :=
    extend (nil [Link.untyped root]) noCycle
  exact below

end LeadOff

/-- Links that lead off two paths and to no cycle unfold the same below both. -/
theorem unfold_eq_of_leadOff
    {graph : Graph}
    {path other : List ErrorId}
    {links : List Link}
    (noCycle : ∀ link ∈ links, graph.ReachesNoCycle link.target)
    (leadOff : graph.LeadOff path links)
    (alsoLeadOff : graph.LeadOff other links) :
    graph.unfold path links = graph.unfold other links := by
  induction path, links using graph.unfold_induction generalizing other with
  | nil path =>
      simp [unfold]
  | cut path link rest cut inductionHypothesis =>
      simp [leadOff.isCut_eq_false] at cut
  | node path link rest kept belowHypothesis restHypothesis =>
      obtain ⟨linkNoCycle, restNoCycle⟩ := List.forall_mem_cons.mp noCycle
      have below :
          graph.unfold (graph.extend path link.target) (graph.links link.target) =
            graph.unfold (graph.extend other link.target) (graph.links link.target) :=
        belowHypothesis linkNoCycle.links (leadOff.extend linkNoCycle)
          (alsoLeadOff.extend linkNoCycle)
      have after : graph.unfold path rest = graph.unfold other rest :=
        restHypothesis restNoCycle leadOff.tail alsoLeadOff.tail
      simp [unfold_cons, kept, alsoLeadOff.isCut_eq_false, below, after]

/-! ## The tree of an error over the trees of its causes -/

/-- The list of the causes that links lead to, each above its own tree. -/
def treeOver (graph : Graph) : List Link → Forest
  | [] => .nil
  | link :: rest => .node link false (graph.causeTree link.target) (graph.treeOver rest)

/-- The branches over links are the trees of their targets. -/
theorem branches_treeOver
    (graph : Graph)
    (links : List Link) :
    (graph.treeOver links).branches =
      links.map fun link => ⟨link, false, graph.causeTree link.target⟩ := by
  induction links with
  | nil =>
      rfl
  | cons link rest inductionHypothesis =>
      exact congrArg (_ :: ·) inductionHypothesis

/-- Nothing is cut over links. -/
theorem isTruncated_treeOver
    (graph : Graph)
    (links : List Link) :
    (graph.treeOver links).isTruncated = false := by
  induction links with
  | nil =>
      rfl
  | cons link rest inductionHypothesis =>
      exact inductionHypothesis

/-- Where no cycle is reached there are no cuts, so that no error is marked. -/
theorem causeTree_eq_unfold
    {graph : Graph}
    {root : ErrorId}
    (noCycle : graph.ReachesNoCycle root) :
    graph.causeTree root = graph.unfold (graph.startPath root) (graph.links root) := by
  have noCuts : (graph.unfold (graph.startPath root) (graph.links root)).cutTargets = [] := by
    apply List.eq_nil_iff_forall_not_mem.mpr
    intro target member
    have hasCycle : (graph.causeTree root).hasCycle = true :=
      Forest.hasCycle_iff.mpr ⟨target, by simpa [causeTree] using member⟩
    obtain ⟨behind, reached, onCycle⟩ :=
      (graph.hasCycle_causeTree_iff_exists_onCycle root).1.mp hasCycle
    exact noCycle behind reached onCycle
  simp [causeTree, noCuts, mark_nil_unfold]

/-- Links that lead off a path and reach no cycle unfold to the trees of their targets. -/
theorem unfold_eq_treeOver
    {graph : Graph}
    {path : List ErrorId}
    {links : List Link}
    (noCycle : ∀ link ∈ links, graph.ReachesNoCycle link.target)
    (leadOff : graph.LeadOff path links) :
    graph.unfold path links = graph.treeOver links := by
  induction links with
  | nil =>
      simp [unfold, treeOver]
  | cons link rest inductionHypothesis =>
      obtain ⟨linkNoCycle, restNoCycle⟩ := List.forall_mem_cons.mp noCycle
      have below :
          graph.unfold (graph.extend path link.target) (graph.links link.target) =
            graph.causeTree link.target :=
        (unfold_eq_of_leadOff linkNoCycle.links (leadOff.extend linkNoCycle)
          (.startPath linkNoCycle)).trans (causeTree_eq_unfold linkNoCycle).symm
      simp [unfold_cons, leadOff.isCut_eq_false, below, treeOver,
        inductionHypothesis restNoCycle leadOff.tail]

/-- Where no cycle is reached, the causes of an error stand in its tree above their own trees. -/
theorem causeTree_eq_treeOver
    {graph : Graph}
    {root : ErrorId}
    (noCycle : graph.ReachesNoCycle root) :
    graph.causeTree root = graph.treeOver (graph.links root) :=
  calc
    graph.causeTree root
    _ = graph.unfold (graph.startPath root) (graph.links root) :=
        causeTree_eq_unfold noCycle
    _ = graph.treeOver (graph.links root) :=
        unfold_eq_treeOver noCycle.links (.startPath noCycle)

end Fault.Graph
