import Fault.Proofs.ChainSearch
import Fault.Proofs.TreePaths

/-!
# Scans of cause trees

A chain enters every error once, while a cause tree unfolds a shared error again in every branch.
Still a scan of an error and then of its tree, a cause before its own causes, meets the errors of
the chain in the order of the chain. What the tree unfolds again was seen before with everything
behind it, up to the path that leads there, and links back to that path are cut.
-/

namespace Fault

/-! ## First occurrences -/

section

variable {α : Type} [BEq α]

/-- What holds of no items, and of an item before others when it holds of those others that differ
from it, holds of every list. -/
private theorem firstOccurrence_induction
    {motive : List α → Prop}
    (nil : motive [])
    (cons :
      ∀ first rest,
        motive (rest.filter fun other => !other == first) →
        motive (first :: rest))
    (items : List α) :
    motive items := by
  induction length : items.length using Nat.strong_induction_on generalizing items with
  | h count inductionHypothesis =>
      cases items with
      | nil =>
          exact nil
      | cons first rest =>
          have shorter : (rest.filter fun other => !other == first).length < count := by
            rw [← length, List.length_cons]
            exact Nat.lt_succ_of_le (List.length_filter_le _ rest)
          exact cons first rest (inductionHypothesis _ shorter _ rfl)

variable [LawfulBEq α]

/-- To filter items and to drop repeats can be done in either order. -/
theorem filter_eraseDups
    (keeps : α → Bool)
    (items : List α) :
    items.eraseDups.filter keeps = (items.filter keeps).eraseDups := by
  induction items using firstOccurrence_induction with
  | nil =>
      rfl
  | cons first rest inductionHypothesis =>
      rw [List.eraseDups_cons]
      cases kept : keeps first with
      | true =>
          rw [List.filter_cons_of_pos kept, List.filter_cons_of_pos kept, List.eraseDups_cons,
            inductionHypothesis, List.filter_comm]
      | false =>
          have differs :
              ((rest.filter fun other => !other == first).filter keeps) = rest.filter keeps := by
            rw [List.filter_filter]
            apply List.filter_congr
            intro other _
            by_cases same : other = first <;>
              simp [same, kept]
          rw [List.filter_cons_of_neg (by simp [kept]), List.filter_cons_of_neg (by simp [kept]),
            inductionHypothesis, differs]

/-- The first item that is accepted is found among the items without repeats. -/
theorem find?_eraseDups
    (accepts : α → Bool)
    (items : List α) :
    items.eraseDups.find? accepts = items.find? accepts := by
  induction items using firstOccurrence_induction with
  | nil =>
      rfl
  | cons first rest inductionHypothesis =>
      rw [List.eraseDups_cons, List.find?_cons, List.find?_cons, inductionHypothesis]
      cases accepted : accepts first with
      | true =>
          rfl
      | false =>
          have sameTest :
              (fun other => decide ((!other == first) = true ∧ accepts other = true)) =
                accepts := by
            funext other
            by_cases same : other = first <;>
              simp [same, accepted]
          rw [List.find?_filter, sameTest]

/-- An item that is accepted is there among the items without repeats. -/
theorem any_eraseDups
    (accepts : α → Bool)
    (items : List α) :
    items.eraseDups.any accepts = items.any accepts := by
  rw [Bool.eq_iff_iff, List.any_eq_true, List.any_eq_true]
  simp only [List.mem_eraseDups]

/-- Items without repeats have none to drop. -/
theorem eraseDups_of_nodup
    {items : List α}
    (nodup : items.Nodup) :
    items.eraseDups = items := by
  induction items with
  | nil =>
      rfl
  | cons first rest inductionHypothesis =>
      obtain ⟨absent, restNodup⟩ := List.nodup_cons.mp nodup
      have differs : (rest.filter fun other => !other == first) = rest := by
        rw [List.filter_eq_self]
        intro other member
        have otherDiffers : other ≠ first := by
          intro same
          exact absent (same ▸ member)
        simp [otherDiffers]
      rw [List.eraseDups_cons, differs, inductionHypothesis restNodup]

end

/-- The errors of a tree in the order in which a walk visits them. -/
def Forest.visits (forest : Forest) : List ErrorId :=
  (forest.walk 0).map fun visit => visit.2.target

namespace Forest

/-- The errors that are visited are those of the places, in their order. -/
theorem visits_eq_map_places (forest : Forest) :
    forest.visits = forest.places.map fun place => place.2.link.target := by
  simp [visits, walk_eq_map_places, Function.comp_def]

@[simp] theorem visits_nil :
    Forest.nil.visits = [] :=
  rfl

@[simp] theorem visits_cut
    (target : ErrorId)
    (rest : Forest) :
    (Forest.cut target rest).visits = rest.visits :=
  rfl

/-- The error of a node is visited, then those below it, and then those behind it. -/
@[simp] theorem visits_node
    (link : Link)
    (reentered : Bool)
    (below rest : Forest) :
    (Forest.node link reentered below rest).visits =
      (link.target :: below.visits) ++ rest.visits := by
  simp [visits_eq_map_places, places, Function.comp_def]

/-- A property of all visited errors is a property of the head, of what lies below it and of the
rest. -/
theorem forall_mem_visits_node
    {link : Link}
    {reentered : Bool}
    {below rest : Forest}
    {holds : ErrorId → Prop} :
    (∀ identity ∈ (Forest.node link reentered below rest).visits, holds identity) ↔
      holds link.target ∧
        (∀ identity ∈ below.visits, holds identity) ∧
        ∀ identity ∈ rest.visits, holds identity := by
  rw [visits_node, List.cons_append, List.forall_mem_cons, List.forall_mem_append]

/-- Marks do not change what is visited. -/
@[simp] theorem visits_mark
    (targets : List ErrorId)
    (forest : Forest) :
    (forest.mark targets).visits = forest.visits := by
  simp [visits_eq_map_places, places_mark, Branch.mark, Function.comp_def]

end Forest

namespace Graph

/-! ## First visits -/

/-- The errors of a list of visits that were not seen before, each at its first visit. -/
def firstVisits (seen visits : List ErrorId) : List ErrorId :=
  (visits.filter fun identity => !seen.contains identity).eraseDups

/-- The first visits are visits to errors that were not seen before. -/
theorem mem_firstVisits_iff
    {seen visits : List ErrorId}
    {identity : ErrorId} :
    identity ∈ firstVisits seen visits ↔ identity ∈ visits ∧ identity ∉ seen := by
  simp [firstVisits, List.mem_eraseDups]

/-- The first visits depend on which errors were seen only. -/
theorem firstVisits_congr
    {first second : List ErrorId}
    (same : ∀ identity, identity ∈ first ↔ identity ∈ second)
    (visits : List ErrorId) :
    firstVisits first visits = firstVisits second visits := by
  simp [firstVisits, same]

/-- Later visits count when neither the earlier ones nor what was seen before holds them. -/
theorem firstVisits_append
    (seen earlier later : List ErrorId) :
    firstVisits seen (earlier ++ later) =
      firstVisits seen earlier ++ firstVisits (earlier ++ seen) later := by
  unfold firstVisits
  rw [List.filter_append, List.eraseDups_append]
  congr 2
  rw [List.removeAll, List.filter_filter]
  apply List.filter_congr
  intro identity _
  by_cases seenBefore : identity ∈ seen <;>
    simp [seenBefore]

/-- Errors that were all seen before have no first visits. -/
theorem firstVisits_eq_nil
    {seen visits : List ErrorId}
    (known : visits ⊆ seen) :
    firstVisits seen visits = [] := by
  apply List.eq_nil_iff_forall_not_mem.mpr
  intro identity member
  obtain ⟨visited, new⟩ := mem_firstVisits_iff.mp member
  exact new (known visited)

/-- Visits of nothing new leave the first visits of the rest as they are. -/
theorem firstVisits_append_of_subset
    {seen earlier : List ErrorId}
    (known : earlier ⊆ seen)
    (later : List ErrorId) :
    firstVisits seen (earlier ++ later) = firstVisits seen later := by
  rw [firstVisits_append, firstVisits_eq_nil known, List.nil_append]
  apply firstVisits_congr
  intro identity
  rw [List.mem_append, or_iff_right_of_imp fun member => known member]

/-- Two lists of visits have the same first visits when their fronts do and their rests do, each
after its own front. -/
theorem firstVisits_append_eq
    {seen earlier otherEarlier later otherLater : List ErrorId}
    (fronts : firstVisits seen earlier = firstVisits seen otherEarlier)
    (rests :
      firstVisits (earlier ++ seen) later = firstVisits (earlier ++ seen) otherLater) :
    firstVisits seen (earlier ++ later) = firstVisits seen (otherEarlier ++ otherLater) := by
  rw [firstVisits_append, firstVisits_append, fronts, rests]
  congr 1
  apply firstVisits_congr
  intro identity
  have sameNew :
      identity ∈ earlier ∧ identity ∉ seen ↔ identity ∈ otherEarlier ∧ identity ∉ seen := by
    rw [← mem_firstVisits_iff, ← mem_firstVisits_iff, fronts]
  simp only [List.mem_append]
  tauto

/-- Two lists of visits that begin with the same error have the same first visits when their rests
do, after this error. -/
theorem firstVisits_cons_eq
    {seen later otherLater : List ErrorId}
    {identity : ErrorId}
    (rests :
      firstVisits (identity :: seen) later = firstVisits (identity :: seen) otherLater) :
    firstVisits seen (identity :: later) = firstVisits seen (identity :: otherLater) := by
  have fronts : firstVisits seen [identity] = firstVisits seen [identity] :=
    rfl
  exact firstVisits_append_eq fronts rests

/-! ## What was explored before -/

/-- Whether everything seen before was left with all its causes seen, but for the errors of the path
that a walk is still on. -/
structure IsExplored
    (graph : Graph)
    (path seen : List ErrorId) :
    Prop where
  path_subset : path ⊆ seen
  mem_of_linksTo :
    ∀ error cause, error ∈ seen → error ∉ path → graph.LinksTo error cause → cause ∈ seen

namespace IsExplored

/-- An error without an identity can be added, as nothing is behind it. -/
theorem cons_of_not_identified
    {graph : Graph}
    {path seen : List ErrorId}
    {identity : ErrorId}
    (explored : graph.IsExplored path seen)
    (unidentified : graph.isIdentified identity = false) :
    graph.IsExplored path (identity :: seen) where
  path_subset := List.subset_cons_of_subset identity explored.path_subset
  mem_of_linksTo error cause member offPath linked := by
    rcases List.mem_cons.mp member with isNew | seenBefore
    · subst error
      have identified := isIdentified_of_linksTo linked
      simp [unidentified] at identified
    · exact List.mem_cons_of_mem _ (explored.mem_of_linksTo error cause seenBefore offPath linked)

/-- An error that a walk enters is seen and stands on its path. -/
theorem enter
    {graph : Graph}
    {path seen : List ErrorId}
    (explored : graph.IsExplored path seen)
    (identity : ErrorId) :
    graph.IsExplored (identity :: path) (identity :: seen) where
  path_subset := List.cons_subset_cons identity explored.path_subset
  mem_of_linksTo error cause member offPath linked := by
    rw [List.mem_cons, not_or] at offPath
    rcases List.mem_cons.mp member with isNew | seenBefore
    · exact absurd isNew offPath.1
    · exact List.mem_cons_of_mem _
        (explored.mem_of_linksTo error cause seenBefore offPath.2 linked)

/-- When a walk leaves an error, a search has seen everything behind it. -/
theorem leave
    {graph : Graph}
    {path seen : List ErrorId}
    (explored : graph.IsExplored path seen)
    (identity : ErrorId) :
    graph.IsExplored path
      (graph.search (identity :: seen) (graph.causes identity) ++ identity :: seen) where
  path_subset := by
    intro error onPath
    simp [explored.path_subset onPath]
  mem_of_linksTo error cause member offPath linked := by
    rw [← walk_eq_search] at member ⊢
    rw [List.mem_append]
    rcases List.mem_append.mp member with found | seenBefore
    · exact mem_walk_of_linksTo found linked
    · rcases List.mem_cons.mp seenBefore with isLeft | seenEarlier
      · subst error
        exact mem_walk_of_mem_pending linked
      · exact .inr (List.mem_cons_of_mem _
          (explored.mem_of_linksTo error cause seenEarlier offPath linked))

end IsExplored

/-- A tree below links to errors seen before holds nothing new, when everything off its path was
explored: on the way from what was explored it can only meet what was explored or a cut. -/
theorem visits_unfold_subset
    {graph : Graph}
    {seen path : List ErrorId}
    {links : List Link}
    (closed :
      ∀ error cause, error ∈ seen → error ∉ path → graph.LinksTo error cause → cause ∈ seen)
    (known : ∀ link ∈ links, link.target ∈ seen) :
    (graph.unfold path links).visits ⊆ seen := by
  induction path, links using graph.unfold_induction with
  | nil path =>
      simp [unfold]
  | cut path link rest cut inductionHypothesis =>
      rw [unfold_cons, if_pos cut, Forest.visits_cut]
      exact inductionHypothesis closed (List.forall_mem_cons.mp known).2
  | node path link rest kept belowHypothesis restHypothesis =>
      obtain ⟨headKnown, restKnown⟩ := List.forall_mem_cons.mp known
      have belowVisits :
          (graph.unfold (graph.extend path link.target) (graph.links link.target)).visits ⊆
            seen := by
        apply belowHypothesis
        · intro error cause member offPath linked
          have offShorter : error ∉ path := by
            intro onPath
            apply offPath
            unfold extend
            split <;> simp [onPath]
          exact closed error cause member offShorter linked
        · intro deeper member
          have linked := linksTo_of_mem_links member
          have offPath : link.target ∉ path := by
            simpa [isCut, isIdentified_of_linksTo linked] using kept
          exact closed link.target deeper.target headKnown offPath linked
      rw [unfold_cons, if_neg (by simp [kept]), Forest.visits_node]
      exact List.append_subset.mpr
        ⟨List.cons_subset.mpr ⟨headKnown, belowVisits⟩, restHypothesis closed restKnown⟩

/-! ## Searches and trees -/

/-- A search depends on the identified errors that were seen only. -/
theorem search_congr
    {graph : Graph}
    {first second todo : List ErrorId}
    (same :
      ∀ identity,
        graph.isIdentified identity = true →
        (identity ∈ first ↔ identity ∈ second)) :
    graph.search first todo = graph.search second todo := by
  rw [← walk_eq_search, ← walk_eq_search, walk_congr same]

/-- A search and the tree of the same links meet the same new errors in the same order, when
everything seen before was explored up to the path of the tree. -/
theorem firstVisits_search_eq_unfold
    {graph : Graph}
    {seen path : List ErrorId}
    {links : List Link}
    (explored : graph.IsExplored path seen) :
    firstVisits seen (graph.search seen (links.map Link.target)) =
      firstVisits seen (graph.unfold path links).visits := by
  induction path, links using graph.unfold_induction generalizing seen with
  | nil path =>
      simp [search, unfold]
  | cut path link rest cut inductionHypothesis =>
      obtain ⟨identified, onPath⟩ := Bool.and_eq_true_iff.mp cut
      have seenBefore : link.target ∈ seen :=
        explored.path_subset (List.contains_iff_mem.mp onPath)
      rw [List.map_cons, search, dif_pos identified, dif_pos (by simpa using seenBefore),
        unfold_cons, if_pos cut, Forest.visits_cut]
      exact inductionHypothesis explored
  | node path link rest kept belowHypothesis restHypothesis =>
      rw [unfold_cons, if_neg (by simp [kept]), Forest.visits_node, List.map_cons]
      cases identified : graph.isIdentified link.target with
      | false =>
          -- Nothing is behind an error without an identity, and the search need not remember it.
          have forgets :
              graph.search seen (rest.map Link.target) =
                graph.search (link.target :: seen) (rest.map Link.target) := by
            apply search_congr
            intro other otherIdentified
            have differs : other ≠ link.target := by
              intro same
              simp [same, identified] at otherIdentified
            simp [differs]
          rw [search, dif_neg (by simp [identified]), links_eq_nil_of_not_identified identified]
          simp only [unfold, Forest.visits_nil, List.singleton_append, forgets]
          apply firstVisits_cons_eq
          exact restHypothesis (explored.cons_of_not_identified identified)
      | true =>
          have offPath : link.target ∉ path := by
            simpa [isCut, identified] using kept
          have longer : graph.extend path link.target = link.target :: path := by
            simp [extend, identified]
          rw [longer] at belowHypothesis ⊢
          by_cases seenBefore : link.target ∈ seen
          · -- The search does not enter the error again, and the tree finds nothing new behind it.
            have nothingNew :
                link.target ::
                  (graph.unfold (link.target :: path) (graph.links link.target)).visits ⊆ seen := by
              refine List.cons_subset.mpr ⟨seenBefore, visits_unfold_subset ?_ ?_⟩
              · intro error cause member offLonger
                exact explored.mem_of_linksTo error cause member
                  fun onPath => offLonger (List.mem_cons_of_mem _ onPath)
              · intro deeper member
                exact explored.mem_of_linksTo _ _ seenBefore offPath (linksTo_of_mem_links member)
            rw [search, dif_pos identified, dif_pos (by simpa using seenBefore),
              firstVisits_append_of_subset nothingNew]
            exact restHypothesis explored
          · rw [search, dif_pos identified, dif_neg (by simpa using seenBefore)]
            have below := belowHypothesis (explored.enter link.target)
            have entered := restHypothesis (explored.leave link.target)
            have sameSeen :
                ∀ identity,
                  identity ∈
                      graph.search (link.target :: seen) (graph.causes link.target) ++
                        link.target :: seen ↔
                    identity ∈
                      (link.target ::
                        graph.search (link.target :: seen) (graph.causes link.target)) ++ seen := by
              intro identity
              simp only [List.mem_append, List.mem_cons]
              tauto
            apply firstVisits_append_eq
            · exact firstVisits_cons_eq below
            · rw [← firstVisits_congr sameSeen, ← firstVisits_congr sameSeen]
              exact entered

/-! ## Chains and scans -/

/-- The errors that a scan meets: an error, and then the errors of its cause tree, as a walk visits
them. -/
def scan
    (graph : Graph)
    (start : ErrorId) :
    List ErrorId :=
  start :: (graph.causeTree start).visits

/-- A chain and a scan meet the same errors, and meet them first in the same order. -/
theorem eraseDups_chain
    (graph : Graph)
    (start : ErrorId) :
    (graph.chain start).eraseDups = (graph.scan start).eraseDups := by
  have fresh : graph.IsExplored [] [] :=
    { path_subset := List.Subset.refl [], mem_of_linksTo := by simp }
  -- The start is unfolded like a cause, behind a link that nothing stands before.
  have unfolded :
      (graph.unfold [] [Link.untyped start]).visits = graph.scan start := by
    have path : graph.extend [] start = graph.startPath start :=
      rfl
    rw [unfold_cons, if_neg (by simp [isCut]), Forest.visits_node, scan, causeTree,
      Forest.visits_mark, ← path]
    simp [unfold, Link.untyped]
  have met :
      firstVisits [] (graph.search [] ([Link.untyped start].map Link.target)) =
        firstVisits [] (graph.scan start) := by
    rw [← unfolded]
    exact firstVisits_search_eq_unfold fresh
  simpa [firstVisits, chain, walk_eq_search, Link.untyped] using met

/-- No identified error stands in a chain twice. -/
theorem nodup_filter_isIdentified_chain
    (graph : Graph)
    (start : ErrorId) :
    ((graph.chain start).filter graph.isIdentified).Nodup := by
  rw [List.nodup_iff_count_le_one]
  intro identity
  cases identified : graph.isIdentified identity with
  | false =>
      have absent : identity ∉ (graph.chain start).filter graph.isIdentified := by
        simp [identified]
      simp [List.count_eq_zero_of_not_mem absent]
  | true =>
      rw [List.count_filter identified]
      simpa [chain] using count_walk_le identified [] [start]

/-- The identified errors of a chain are those of a scan, each where it is met first; and a search
for a definition or for an error finds in the chain what it finds in the scan. -/
theorem chain_agrees_with_scan
    (graph : Graph)
    (start : ErrorId) :
    (graph.chain start).filter graph.isIdentified =
        ((graph.scan start).filter graph.isIdentified).eraseDups ∧
      (∀ definition : Definition,
        definition.claims graph start =
          (graph.scan start).any fun identity =>
            (graph.occurrence? identity).any fun error => definition.sameRoot error.definition) ∧
      ∀ accepts,
        graph.find? accepts start =
          (graph.scan start).find? fun identity => (graph.get? identity).any accepts := by
  have same := graph.eraseDups_chain start
  refine ⟨?_, fun definition => ?_, fun accepts => ?_⟩
  · rw [← eraseDups_of_nodup (graph.nodup_filter_isIdentified_chain start), ← filter_eraseDups,
      same, filter_eraseDups]
  · rw [Definition.claims, ← any_eraseDups, same, any_eraseDups]
  · rw [find?, ← find?_eraseDups, same, find?_eraseDups]

end Graph

end Fault
