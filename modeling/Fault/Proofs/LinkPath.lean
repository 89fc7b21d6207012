import Fault.Proofs.Reach
import Fault.Graph.Forest

/-!
# Paths of links

A path is a list of links, each of which belongs to the error that the one before leads to. A path
is simple when no identity stands on it twice, its start included. Errors without an identity are
never repeats, but they have no links, so they can stand at the end only. A simple path is
therefore no longer than the number of errors.
-/

namespace Fault.Graph

open Relation

/-- The error at the end of a path. -/
def pathEnd (start : ErrorId) : List Link → ErrorId
  | [] => start
  | link :: rest => pathEnd link.target rest

/-- Whether a list of links is a path from an error. -/
def IsPath (graph : Graph) (start : ErrorId) : List Link → Prop
  | [] => True
  | link :: rest => link ∈ graph.links start ∧ graph.IsPath link.target rest

/-- All paths of a number of links from an error, in the order of the links. -/
def linkPaths
    (graph : Graph) :
    Nat → ErrorId → List (List Link)
  | 0, _ => [[]]
  | count + 1, start =>
      (graph.links start).flatMap fun link =>
        (graph.linkPaths count link.target).map fun path => link :: path

/-- The identified errors on a path, its start included. -/
def identities
    (graph : Graph)
    (start : ErrorId)
    (path : List Link) :
    List ErrorId :=
  (start :: path.map Link.target).filter graph.isIdentified

/-- Whether no identity stands on a path twice. -/
def isSimple
    (graph : Graph)
    (start : ErrorId)
    (path : List Link) :
    Bool :=
  decide (graph.identities start path).Nodup

/-- A path without repeats. -/
structure IsSimplePath
    (graph : Graph)
    (start : ErrorId)
    (path : List Link) :
    Prop where
  isPath : graph.IsPath start path
  nodup : (graph.identities start path).Nodup

/-- Whether a link leads back to an error of the path that it would continue. -/
def returns
    (graph : Graph)
    (start : ErrorId)
    (path : List Link)
    (link : Link) :
    Bool :=
  graph.isIdentified link.target && (graph.identities start path).contains link.target

/-! ## Paths and their ends -/

/-- A path in two parts ends where the second part ends. -/
@[simp] theorem pathEnd_append
    (start : ErrorId)
    (path further : List Link) :
    pathEnd start (path ++ further) = pathEnd (pathEnd start path) further := by
  induction path generalizing start with
  | nil =>
      rfl
  | cons link rest inductionHypothesis =>
      exact inductionHypothesis link.target

/-- A path ends at the target of its last link. -/
theorem pathEnd_of_getLast?_eq_some
    {path : List Link}
    {last : Link}
    (start : ErrorId)
    (isLast : path.getLast? = some last) :
    pathEnd start path = last.target := by
  obtain ⟨front, rfl⟩ := List.getLast?_eq_some_iff.mp isLast
  simp [pathEnd]

/-- A path in two parts is a path, and then one from its end. -/
theorem isPath_append
    {graph : Graph}
    {start : ErrorId}
    {path further : List Link} :
    graph.IsPath start (path ++ further) ↔
      graph.IsPath start path ∧ graph.IsPath (pathEnd start path) further := by
  induction path generalizing start with
  | nil =>
      simp [IsPath, pathEnd]
  | cons link rest inductionHypothesis =>
      simp only [List.cons_append, IsPath, pathEnd, inductionHypothesis]
      tauto

/-- The enumerated paths of a length are the paths of that length. -/
theorem mem_linkPaths_iff
    {graph : Graph}
    {count : Nat}
    {start : ErrorId}
    {path : List Link} :
    path ∈ graph.linkPaths count start ↔
      path.length = count ∧ graph.IsPath start path := by
  induction count generalizing start path with
  | zero =>
      simp only [linkPaths, List.mem_singleton, List.length_eq_zero_iff]
      constructor
      · rintro rfl
        exact ⟨rfl, trivial⟩
      · exact fun shape => shape.1
  | succ count inductionHypothesis =>
      simp only [linkPaths, List.mem_flatMap, List.mem_map, inductionHypothesis]
      constructor
      · rintro ⟨link, member, rest, ⟨restLength, restPath⟩, rfl⟩
        exact ⟨by simp [restLength], member, restPath⟩
      · rintro ⟨length, isPath⟩
        cases path with
        | nil =>
            simp at length
        | cons link rest =>
            exact ⟨link, isPath.1, rest, ⟨by simpa using length, isPath.2⟩, rfl⟩

/-- The end of a path over errors with a property is reached over such errors. -/
theorem reflTransGen_pathEnd
    {graph : Graph}
    {passes : ErrorId → Prop}
    {start : ErrorId}
    {path : List Link}
    (isPath : graph.IsPath start path)
    (passed : ∀ link ∈ path, passes link.target) :
    ReflTransGen (fun error cause => graph.LinksTo error cause ∧ passes cause)
      start (pathEnd start path) := by
  induction path generalizing start with
  | nil =>
      exact ReflTransGen.refl
  | cons link rest inductionHypothesis =>
      obtain ⟨first, others⟩ := List.forall_mem_cons.mp passed
      exact ReflTransGen.head ⟨linksTo_of_mem_links isPath.1, first⟩
        (inductionHypothesis isPath.2 others)

/-! ## Simple paths -/

/-- The identities on a path in two parts are those on the first part, and the further targets. -/
theorem identities_append
    (graph : Graph)
    (start : ErrorId)
    (path further : List Link) :
    graph.identities start (path ++ further) =
      graph.identities start path ++
        (further.map Link.target).filter graph.isIdentified := by
  simp [identities, ← List.filter_append]

/-- An identity is on a path when it is that of its start or of the target of a link. -/
theorem mem_identities_iff
    {graph : Graph}
    {start identity : ErrorId}
    {path : List Link} :
    identity ∈ graph.identities start path ↔
      graph.isIdentified identity = true ∧
        (identity = start ∨ ∃ link ∈ path, link.target = identity) := by
  simp only [identities, List.mem_filter, List.mem_cons, List.mem_map]
  tauto

/-- The end of a path is an error of the path, when anything lies behind it. -/
theorem pathEnd_mem_identities
    {graph : Graph}
    {root : ErrorId}
    {path : List Link}
    (identified : graph.isIdentified (pathEnd root path) = true) :
    pathEnd root path ∈ graph.identities root path := by
  refine mem_identities_iff.mpr ⟨identified, ?_⟩
  cases path using List.reverseRecOn with
  | nil =>
      exact .inl rfl
  | append_singleton front last =>
      exact .inr ⟨last, by simp, by simp [pathEnd]⟩

/-- A link returns when its error stands on the path by its identity. -/
theorem returns_iff
    {graph : Graph}
    {start : ErrorId}
    {path : List Link}
    {link : Link} :
    graph.returns start path link = true ↔ link.target ∈ graph.identities start path := by
  simp only [returns, Bool.and_eq_true, List.contains_iff_mem, and_iff_right_iff_imp]
  exact fun member => (mem_identities_iff.mp member).1

/-- A link does not return when its error is new to the path. -/
theorem returns_eq_false_iff
    {graph : Graph}
    {start : ErrorId}
    {path : List Link}
    {link : Link} :
    graph.returns start path link = false ↔ link.target ∉ graph.identities start path := by
  rw [← returns_iff, Bool.not_eq_true]

/-- A path is simple when its front is and its last link does not return. -/
theorem isSimplePath_append_singleton
    {graph : Graph}
    {start : ErrorId}
    {path : List Link}
    {link : Link} :
    graph.IsSimplePath start (path ++ [link]) ↔
      graph.IsSimplePath start path ∧
        link ∈ graph.links (pathEnd start path) ∧
        graph.returns start path link = false := by
  have fresh :
      (graph.identities start (path ++ [link])).Nodup ↔
        (graph.identities start path).Nodup ∧
          link.target ∉ graph.identities start path := by
    rw [identities_append]
    cases identified : graph.isIdentified link.target with
    | true =>
        simp only [List.map_cons, List.map_nil, List.filter_cons, List.filter_nil, identified,
          if_true]
        rw [← List.concat_eq_append, List.nodup_concat]
        exact and_comm
    | false =>
        have absent : link.target ∉ graph.identities start path := by
          simp [mem_identities_iff, identified]
        simp [identified, absent]
  rw [returns_eq_false_iff]
  constructor
  · rintro ⟨isPath, nodup⟩
    obtain ⟨frontIsPath, lastIsPath⟩ := isPath_append.mp isPath
    obtain ⟨frontNodup, absent⟩ := fresh.mp nodup
    exact ⟨⟨frontIsPath, frontNodup⟩, lastIsPath.1, absent⟩
  · rintro ⟨⟨frontIsPath, frontNodup⟩, member, absent⟩
    exact ⟨isPath_append.mpr ⟨frontIsPath, member, trivial⟩, fresh.mpr ⟨frontNodup, absent⟩⟩

namespace IsSimplePath

/-- The first part of a simple path is simple. -/
theorem of_append
    {graph : Graph}
    {start : ErrorId}
    {path further : List Link}
    (simple : graph.IsSimplePath start (path ++ further)) :
    graph.IsSimplePath start path where
  isPath := (isPath_append.mp simple.isPath).1
  nodup := by
    have nodup := simple.nodup
    rw [identities_append] at nodup
    exact (List.nodup_append.mp nodup).1

theorem nil
    (graph : Graph)
    (start : ErrorId) :
    graph.IsSimplePath start [] where
  isPath := trivial
  nodup := by
    cases identified : graph.isIdentified start <;>
      simp [identities, identified]

/-- The identities on a path are no fewer than its links, as only the last error on it can be
without one. -/
theorem length_le_identities
    {graph : Graph}
    {start : ErrorId}
    {path : List Link}
    (isPath : graph.IsPath start path) :
    path.length ≤ (graph.identities start path).length := by
  induction path generalizing start with
  | nil =>
      simp
  | cons link rest inductionHypothesis =>
      have identified : graph.isIdentified start = true :=
        isIdentified_of_linksTo (linksTo_of_mem_links isPath.1)
      have shape :
          graph.identities start (link :: rest) =
            start :: graph.identities link.target rest := by
        simp [identities, identified]
      have restLength := inductionHypothesis isPath.2
      simp only [shape, List.length_cons]
      omega

/-- A simple path has no more links than there are errors. -/
theorem length_le_size
    {graph : Graph}
    {start : ErrorId}
    {path : List Link}
    (simple : graph.IsSimplePath start path) :
    path.length ≤ graph.size := by
  have indexed :
      (graph.identities start path).map ErrorId.index ⊆ List.range graph.size := by
    intro index member
    obtain ⟨identity, identityMember, rfl⟩ := List.mem_map.mp member
    exact List.mem_range.mpr (index_lt_size (mem_identities_iff.mp identityMember).1)
  have distinct : ((graph.identities start path).map ErrorId.index).Nodup :=
    simple.nodup.map fun first second same => by
      cases first
      cases second
      simpa using same
  have fewer := (distinct.subperm indexed).length_le
  rw [List.length_map, List.length_range] at fewer
  exact Nat.le_trans (length_le_identities simple.isPath) fewer

/-- A link that returns to an error of a simple path can be replaced by the front of the path up to
that error. -/
theorem exists_front
    {graph : Graph}
    {start identity : ErrorId}
    {path : List Link}
    (simple : graph.IsSimplePath start path)
    (member : identity ∈ graph.identities start path) :
    ∃ front,
      front <+: path ∧ graph.IsSimplePath start front ∧ pathEnd start front = identity := by
  obtain ⟨_, isStart | ⟨link, linkMember, leads⟩⟩ := mem_identities_iff.mp member
  · exact ⟨[], List.nil_prefix, nil graph start, isStart.symm⟩
  · obtain ⟨earlier, later, shape⟩ := List.append_of_mem linkMember
    have split : path = (earlier ++ [link]) ++ later := by
      simp [shape]
    refine ⟨earlier ++ [link], ⟨later, split.symm⟩, ?_, ?_⟩
    · rw [split] at simple
      exact of_append simple
    · simpa [pathEnd] using leads

/-- The errors of a simple path stand apart from those that it goes on to. -/
theorem not_mem_identities_of_append
    {graph : Graph}
    {root : ErrorId}
    {path steps : List Link}
    (simple : graph.IsSimplePath root (path ++ steps)) :
    ∀ link ∈ steps, link.target ∉ graph.identities root path := by
  intro link member onPath
  have nodup := simple.nodup
  rw [identities_append] at nodup
  have identified := (mem_identities_iff.mp onPath).1
  exact (List.nodup_append.mp nodup).2.2 _ onPath _
    (List.mem_filter.mpr ⟨List.mem_map_of_mem member, identified⟩) rfl

/-- A simple path goes on along a simple path that stays off its errors. -/
theorem append
    {graph : Graph}
    {root : ErrorId}
    {path steps : List Link}
    (simple : graph.IsSimplePath root path)
    (further : graph.IsSimplePath (pathEnd root path) steps)
    (apart : ∀ link ∈ steps, link.target ∉ graph.identities root path) :
    graph.IsSimplePath root (path ++ steps) where
  isPath := isPath_append.mpr ⟨simple.isPath, further.isPath⟩
  nodup := by
    have stepsNodup := further.nodup
    rw [← List.nil_append steps, identities_append] at stepsNodup
    rw [identities_append]
    refine List.nodup_append.mpr ⟨simple.nodup, (List.nodup_append.mp stepsNodup).2.1, ?_⟩
    rintro identity onPath _ later rfl
    obtain ⟨link, member, rfl⟩ := List.mem_map.mp (List.mem_filter.mp later).1
    exact apart link member onPath

end IsSimplePath

/-- What is reached over errors with a property is reached by a simple path over such errors. -/
theorem exists_simplePath
    {graph : Graph}
    {passes : ErrorId → Prop}
    {start finish : ErrorId}
    (reached :
      ReflTransGen (fun error cause => graph.LinksTo error cause ∧ passes cause) start finish) :
    ∃ path,
      graph.IsSimplePath start path ∧
        pathEnd start path = finish ∧
        ∀ link ∈ path, passes link.target := by
  induction reached with
  | refl =>
      exact ⟨[], .nil graph start, rfl, by simp⟩
  | @tail middle finish _ step inductionHypothesis =>
      obtain ⟨path, simple, ends, passed⟩ := inductionHypothesis
      obtain ⟨link, member, leads⟩ := List.mem_map.mp step.1
      -- A link that turns back leads to an error that the path has reached before.
      cases turnsBack : graph.returns start path link with
      | true =>
          have onPath : finish ∈ graph.identities start path := by
            rw [← leads]
            exact returns_iff.mp turnsBack
          obtain ⟨front, isPrefix, frontSimple, frontEnds⟩ := simple.exists_front onPath
          exact ⟨front, frontSimple, frontEnds,
            fun earlier earlierMember => passed earlier (isPrefix.subset earlierMember)⟩
      | false =>
          refine ⟨path ++ [link], ?_, by simp [pathEnd, leads], ?_⟩
          · exact isSimplePath_append_singleton.mpr
              ⟨simple, by rw [ends]; exact member, turnsBack⟩
          · intro earlier earlierMember
            rcases List.mem_append.mp earlierMember with inFront | isLast
            · exact passed earlier inFront
            · rw [List.mem_singleton.mp isLast, leads]
              exact step.2

end Fault.Graph
