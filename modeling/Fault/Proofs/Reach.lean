import Fault.Graph.Chain
import Mathlib

/-!
# Reachability

An error reaches whatever links lead to, over any number of steps. Markers and the errors of a
boundary definition have no links, so they reach nothing but themselves.
-/

namespace Fault.Graph

open Relation

/-- Whether a second error is a direct cause of a first one. -/
def LinksTo
    (graph : Graph)
    (error cause : ErrorId) :
    Prop :=
  cause ∈ graph.causes error

/-- Whether a second error is a first one or lies behind it. -/
def Reaches (graph : Graph) : ErrorId → ErrorId → Prop :=
  ReflTransGen graph.LinksTo

/-- A link leads to a cause. -/
theorem linksTo_of_mem_links
    {graph : Graph}
    {error : ErrorId}
    {link : Link}
    (member : link ∈ graph.links error) :
    graph.LinksTo error link.target :=
  List.mem_map.mpr ⟨link, member, rfl⟩

/-- A marker has no links. -/
theorem links_eq_nil_of_not_identified
    {graph : Graph}
    {identity : ErrorId}
    (unidentified : graph.isIdentified identity = false) :
    graph.links identity = [] := by
  unfold isIdentified at unidentified
  unfold links
  cases found : graph.get? identity with
  | none =>
      rfl
  | some node =>
      cases node <;> simp_all [Node.isMarker]

/-- A marker has no causes. -/
theorem causes_eq_nil_of_not_identified
    {graph : Graph}
    {identity : ErrorId}
    (unidentified : graph.isIdentified identity = false) :
    graph.causes identity = [] := by
  simp [causes, links_eq_nil_of_not_identified unidentified]

/-- An error with a cause has an identity. -/
theorem isIdentified_of_linksTo
    {graph : Graph}
    {error cause : ErrorId}
    (linked : graph.LinksTo error cause) :
    graph.isIdentified error = true := by
  cases identified : graph.isIdentified error with
  | true =>
      rfl
  | false =>
      have noCauses :
          graph.causes error = [] :=
        causes_eq_nil_of_not_identified identified
      simp [LinksTo, noCauses] at linked

/-- An occurrence that is found is an error of the graph. -/
theorem get?_of_occurrence?_eq_some
    {graph : Graph}
    {identity : ErrorId}
    {error : Occurrence}
    (found : graph.occurrence? identity = some error) :
    graph.get? identity = some (.occurrence error) := by
  obtain ⟨node, present, isOccurrence⟩ := Option.bind_eq_some_iff.mp found
  cases node <;> simp_all [Node.occurrence?]

/-- An error of a boundary definition has no causes. -/
theorem causes_eq_nil_of_boundary
    {graph : Graph}
    {identity : ErrorId}
    {error : Occurrence}
    (found : graph.occurrence? identity = some error)
    (boundary : error.definition.isBoundary = true) :
    graph.causes identity = [] := by
  simp [causes, links, get?_of_occurrence?_eq_some found, occurrenceLinks, boundary]

/-- An error without causes reaches itself only. -/
theorem eq_of_reaches_of_causes_eq_nil
    {graph : Graph}
    {error behind : ErrorId}
    (noCauses : graph.causes error = [])
    (reached : graph.Reaches error behind) :
    behind = error := by
  cases ReflTransGen.cases_head reached with
  | inl same =>
      exact same.symm
  | inr further =>
      obtain ⟨cause, linked, _⟩ := further
      simp [LinksTo, noCauses] at linked

/-- Seeing more errors leaves no more of them unseen. -/
theorem unseen_le_of_subset
    (graph : Graph)
    {seen later : List ErrorId}
    (kept : seen ⊆ later) :
    graph.unseen later ≤ graph.unseen seen := by
  apply List.countP_mono_left
  intro index _ outside
  simp only [Bool.not_eq_true', List.contains_eq_mem, decide_eq_false_iff_not] at outside ⊢
  exact fun member => outside (kept member)

end Fault.Graph
