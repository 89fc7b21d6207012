import Fault.Proofs.Reach
import Fault.Render.Text

/-!
# Chains are depth-first searches

A chain is found by a loop over a list of pending errors. The same errors in the same order are
found by a recursive search, which explores a cause completely, with everything behind it, before
it turns to the next one. Every identified error that can be reached is found exactly once; an
error without an identity is found once for every link that leads to it.
-/

namespace Fault.Graph

open Relation

/-! ## The recursive search -/

/-- The errors that a recursive search finds from a list of errors, when it has seen some already:
an error, then everything behind its causes, and only then the rest of the list. -/
def search
    (graph : Graph)
    (seen todo : List ErrorId) :
    List ErrorId :=
  match todo with
  | [] => []
  | identity :: rest =>
      if _ : graph.isIdentified identity then
        if _ : seen.contains identity then
          graph.search seen rest
        else
          let below := graph.search (identity :: seen) (graph.causes identity)
          identity :: below ++ graph.search (below ++ identity :: seen) rest
      else
        identity :: graph.search seen rest
termination_by (graph.unseen seen, todo.length)
decreasing_by
  · exact Prod.Lex.right _ (by simp)
  · exact Prod.Lex.left _ _ (unseen_cons_lt (by assumption) (by simp_all))
  · have new : seen.contains identity = false := by
      simpa using ‹¬seen.contains identity = true›
    exact Prod.Lex.left _ _ (Nat.lt_of_le_of_lt
      (graph.unseen_le_of_subset (List.subset_append_right _ _))
      (unseen_cons_lt (by assumption) new))
  · exact Prod.Lex.right _ (by simp)

/-- What a walk finds depends on the identified errors it has seen, and on nothing else about the
list of them. -/
theorem walk_congr
    {graph : Graph}
    {first second pending : List ErrorId}
    (same :
      ∀ identity,
        graph.isIdentified identity = true →
        (identity ∈ first ↔ identity ∈ second)) :
    graph.walk first pending = graph.walk second pending := by
  fun_induction graph.walk first pending generalizing second with
  | case1 seen =>
      simp [walk]
  | case2 seen identity rest identified seenBefore inductionHypothesis =>
      have seenToo : second.contains identity = true := by
        simpa using (same identity identified).mp (by simpa using seenBefore)
      rw [walk, dif_pos identified, dif_pos seenToo]
      exact inductionHypothesis same
  | case3 seen identity rest identified new inductionHypothesis =>
      have newToo : ¬second.contains identity = true := by
        simpa [← same identity identified] using new
      rw [walk, dif_pos identified, dif_neg newToo]
      congr 1
      apply inductionHypothesis
      intro other otherIdentified
      simp [same other otherIdentified]
  | case4 seen identity rest unidentified inductionHypothesis =>
      rw [walk, dif_neg unidentified]
      congr 1
      exact inductionHypothesis same

/-- A walk finds what the search finds from the front of its pending errors, and then goes on with
the rest, having seen what the search found. -/
theorem walk_append
    (graph : Graph)
    (seen todo pending : List ErrorId) :
    graph.walk seen (todo ++ pending) =
      graph.search seen todo ++
        graph.walk (graph.search seen todo ++ seen) pending := by
  fun_induction graph.search seen todo generalizing pending with
  | case1 seen =>
      simp
  | case2 seen identity rest identified seenBefore inductionHypothesis =>
      rw [List.cons_append, walk, dif_pos identified, dif_pos seenBefore]
      exact inductionHypothesis pending
  | case3 seen identity rest identified new below belowHypothesis restHypothesis =>
      -- The loop puts the causes before the rest, so the search of the causes comes first for both.
      -- What they have seen then is listed in another order.
      rw [List.cons_append, walk, dif_pos identified, dif_neg new, belowHypothesis, restHypothesis]
      simp only [List.cons_append, List.append_assoc]
      congr 3
      apply walk_congr
      intro other _
      simp only [List.mem_append, List.mem_cons]
      tauto
  | case4 seen identity rest unidentified inductionHypothesis =>
      rw [List.cons_append, walk, dif_neg unidentified, inductionHypothesis]
      simp only [List.cons_append]
      congr 2
      apply walk_congr
      intro other otherIdentified
      have differs : other ≠ identity := by
        rintro rfl
        exact unidentified otherIdentified
      simp [differs]

/-- The walk that marks what it has seen is the depth-first search that filters it out. -/
theorem walk_eq_search
    (graph : Graph)
    (seen todo : List ErrorId) :
    graph.walk seen todo = graph.search seen todo := by
  have appended := graph.walk_append seen todo []
  simpa [walk] using appended

/-! ## The loop, turn by turn -/

/-- Where the loop of a walk stands: the errors it has seen, and the errors it has still to visit,
the next one first. -/
structure Walker where
  seen : List ErrorId
  pending : List ErrorId

/-- One turn of the loop, with the errors it yields. -/
inductive Turn (graph : Graph) : Walker → List ErrorId → Walker → Prop where
  /-- An error that was seen before is dropped. -/
  | again
      {seen rest : List ErrorId}
      {identity : ErrorId}
      (identified : graph.isIdentified identity = true)
      (seenBefore : identity ∈ seen) :
      Turn graph ⟨seen, identity :: rest⟩ [] ⟨seen, rest⟩
  /-- A new error is yielded, and its causes come before the rest. -/
  | enter
      {seen rest : List ErrorId}
      {identity : ErrorId}
      (identified : graph.isIdentified identity = true)
      (new : identity ∉ seen) :
      Turn graph ⟨seen, identity :: rest⟩ [identity]
        ⟨identity :: seen, graph.causes identity ++ rest⟩
  /-- An error without an identity is always new. -/
  | anonymous
      {seen rest : List ErrorId}
      {identity : ErrorId}
      (unidentified : graph.isIdentified identity = false) :
      Turn graph ⟨seen, identity :: rest⟩ [identity]
        ⟨seen, graph.causes identity ++ rest⟩

/-- A number of turns of the loop, with the errors they yield. -/
inductive Turns (graph : Graph) : Nat → Walker → List ErrorId → Walker → Prop where
  | stop (walker : Walker) :
      Turns graph 0 walker [] walker
  | go
      {count : Nat}
      {first second last : Walker}
      {found others : List ErrorId}
      (turn : Turn graph first found second)
      (further : Turns graph count second others last) :
      Turns graph (count + 1) first (found ++ others) last

/-- The number of turns that a loop still takes: one for every pending error, and one for every
cause of an error that it will yield. -/
def turnsLeft
    (graph : Graph)
    (walker : Walker) :
    Nat :=
  walker.pending.length +
    ((graph.walk walker.seen walker.pending).map fun error => (graph.causes error).length).sum

/-- A turn yields the front of what is still to be found. -/
theorem walk_eq_append_of_turn
    {graph : Graph}
    {first second : Walker}
    {found : List ErrorId}
    (turn : graph.Turn first found second) :
    graph.walk first.seen first.pending = found ++ graph.walk second.seen second.pending := by
  cases turn with
  | again identified seenBefore =>
      rw [walk, dif_pos identified, dif_pos (by simpa using seenBefore)]
      rfl
  | enter identified new =>
      rw [walk, dif_pos identified, dif_neg (by simpa using new)]
      rfl
  | anonymous unidentified =>
      rw [walk, dif_neg (by simp [unidentified]), causes_eq_nil_of_not_identified unidentified]
      rfl

/-- A turn leaves one turn less. -/
theorem turnsLeft_of_turn
    {graph : Graph}
    {first second : Walker}
    {found : List ErrorId}
    (turn : graph.Turn first found second) :
    graph.turnsLeft first = graph.turnsLeft second + 1 := by
  have split := walk_eq_append_of_turn turn
  unfold turnsLeft
  rw [split]
  cases turn <;>
    simp only [List.map_append, List.sum_append, List.map_cons, List.sum_cons, List.map_nil,
      List.sum_nil, List.length_cons, List.length_append] <;>
    omega

/-- A walker with pending errors takes a turn. -/
theorem exists_turn
    (graph : Graph)
    {walker : Walker}
    (pending : walker.pending ≠ []) :
    ∃ found next, graph.Turn walker found next := by
  obtain ⟨seen, _ | ⟨identity, rest⟩⟩ := walker
  · exact absurd rfl pending
  · cases identified : graph.isIdentified identity with
    | true =>
        by_cases seenBefore : identity ∈ seen
        · exact ⟨_, _, .again identified seenBefore⟩
        · exact ⟨_, _, .enter identified seenBefore⟩
    | false =>
        exact ⟨_, _, .anonymous identified⟩

/-- Any number of turns yields the front of what was to be found, and leaves as many turns less. -/
theorem walk_eq_append_of_turns
    {graph : Graph}
    {count : Nat}
    {first last : Walker}
    {found : List ErrorId}
    (turns : graph.Turns count first found last) :
    graph.walk first.seen first.pending = found ++ graph.walk last.seen last.pending ∧
      graph.turnsLeft first = graph.turnsLeft last + count := by
  induction turns with
  | stop walker =>
      simp
  | go turn further inductionHypothesis =>
      obtain ⟨split, left⟩ := inductionHypothesis
      rw [walk_eq_append_of_turn turn, split, turnsLeft_of_turn turn, left]
      simp only [List.append_assoc, true_and]
      omega

/-- The loop comes to an end, after exactly the turns that were left. -/
theorem exists_turns
    (graph : Graph)
    (walker : Walker) :
    ∃ seen,
      graph.Turns (graph.turnsLeft walker) walker
        (graph.walk walker.seen walker.pending) ⟨seen, []⟩ := by
  induction left : graph.turnsLeft walker generalizing walker with
  | zero =>
      obtain ⟨seen, pending⟩ := walker
      have nothing : pending = [] := by
        apply List.eq_nil_of_length_eq_zero
        simp only [turnsLeft] at left
        omega
      subst nothing
      exact ⟨seen, by simpa [walk] using Turns.stop ⟨seen, []⟩⟩
  | succ count inductionHypothesis =>
      have pending : walker.pending ≠ [] := by
        intro nothing
        simp [turnsLeft, nothing, walk] at left
      obtain ⟨found, next, turn⟩ := graph.exists_turn pending
      have nextLeft : graph.turnsLeft next = count := by
        have stepped := turnsLeft_of_turn turn
        omega
      obtain ⟨seen, further⟩ := inductionHypothesis next nextLeft
      exact ⟨seen, by
        rw [walk_eq_append_of_turn turn]
        exact .go turn further⟩

/-! ## Which errors are found, and how often -/

/-- A walk finds nothing but what its pending errors reach. -/
theorem exists_reaches_of_mem_walk
    {graph : Graph}
    {seen pending : List ErrorId}
    {found : ErrorId}
    (member : found ∈ graph.walk seen pending) :
    ∃ start ∈ pending, graph.Reaches start found := by
  fun_induction graph.walk seen pending with
  | case1 seen =>
      simp at member
  | case2 seen identity rest identified seenBefore inductionHypothesis =>
      obtain ⟨start, startMember, reached⟩ := inductionHypothesis member
      exact ⟨start, List.mem_cons_of_mem _ startMember, reached⟩
  | case3 seen identity rest identified new inductionHypothesis =>
      rcases List.mem_cons.mp member with isHead | further
      · subst found
        exact ⟨identity, by simp, ReflTransGen.refl⟩
      · obtain ⟨start, startMember, reached⟩ := inductionHypothesis further
        rcases List.mem_append.mp startMember with isCause | inRest
        · exact ⟨identity, by simp, ReflTransGen.head isCause reached⟩
        · exact ⟨start, List.mem_cons_of_mem _ inRest, reached⟩
  | case4 seen identity rest unidentified inductionHypothesis =>
      rcases List.mem_cons.mp member with isHead | further
      · subst found
        exact ⟨identity, by simp, ReflTransGen.refl⟩
      · obtain ⟨start, startMember, reached⟩ := inductionHypothesis further
        exact ⟨start, List.mem_cons_of_mem _ startMember, reached⟩

/-- A walk finds every pending error that it has not seen before. -/
theorem mem_walk_of_mem_pending
    {graph : Graph}
    {seen pending : List ErrorId}
    {identity : ErrorId}
    (member : identity ∈ pending) :
    identity ∈ graph.walk seen pending ∨ identity ∈ seen := by
  fun_induction graph.walk seen pending with
  | case1 seen =>
      simp at member
  | case2 seen head rest identified seenBefore inductionHypothesis =>
      rcases List.mem_cons.mp member with isHead | inRest
      · subst identity
        exact .inr (by simpa using seenBefore)
      · exact inductionHypothesis inRest
  | case3 seen head rest identified new inductionHypothesis =>
      rcases List.mem_cons.mp member with isHead | inRest
      · exact .inl (by simp [isHead])
      · rcases inductionHypothesis (by simp [inRest]) with found | seenBefore
        · exact .inl (by simp [found])
        · rcases List.mem_cons.mp seenBefore with isHead | seenEarlier
          · exact .inl (by simp [isHead])
          · exact .inr seenEarlier
  | case4 seen head rest unidentified inductionHypothesis =>
      rcases List.mem_cons.mp member with isHead | inRest
      · exact .inl (by simp [isHead])
      · rcases inductionHypothesis inRest with found | seenBefore
        · exact .inl (by simp [found])
        · exact .inr seenBefore

/-- What a walk finds is closed under links, up to what it had seen before. -/
theorem mem_walk_of_linksTo
    {graph : Graph}
    {seen pending : List ErrorId}
    {error cause : ErrorId}
    (member : error ∈ graph.walk seen pending)
    (linked : graph.LinksTo error cause) :
    cause ∈ graph.walk seen pending ∨ cause ∈ seen := by
  fun_induction graph.walk seen pending with
  | case1 seen =>
      simp at member
  | case2 seen head rest identified seenBefore inductionHypothesis =>
      exact inductionHypothesis member
  | case3 seen head rest identified new inductionHypothesis =>
      have explored :
          cause ∈ graph.walk (head :: seen) (graph.causes head ++ rest) ∨
            cause ∈ head :: seen := by
        rcases List.mem_cons.mp member with isHead | further
        · subst error
          exact mem_walk_of_mem_pending (List.mem_append_left _ linked)
        · exact inductionHypothesis further
      simp only [List.mem_cons] at explored ⊢
      tauto
  | case4 seen head rest unidentified inductionHypothesis =>
      have differs : error ≠ head := by
        rintro rfl
        exact unidentified (isIdentified_of_linksTo linked)
      have further : error ∈ graph.walk seen rest := by
        simpa [differs] using member
      rcases inductionHypothesis further with found | seenBefore
      · exact .inl (by simp [found])
      · exact .inr seenBefore

/-- The chain holds what can be reached from its start, and nothing else. -/
theorem mem_chain_iff
    {graph : Graph}
    {start identity : ErrorId} :
    identity ∈ graph.chain start ↔ graph.Reaches start identity := by
  constructor
  · intro member
    obtain ⟨origin, isStart, reached⟩ := exists_reaches_of_mem_walk member
    rw [List.mem_singleton] at isStart
    subst origin
    exact reached
  · intro reached
    induction reached with
    | refl =>
        have found : start ∈ graph.walk [] [start] ∨ start ∈ ([] : List ErrorId) :=
          mem_walk_of_mem_pending (List.mem_singleton_self start)
        simpa [chain] using found
    | tail _ linked inductionHypothesis =>
        have found := mem_walk_of_linksTo inductionHypothesis linked
        simpa [chain] using found

/-- An identified error is found at most once, and never when it was seen before. -/
theorem count_walk_le
    {graph : Graph}
    {identity : ErrorId}
    (identified : graph.isIdentified identity = true)
    (seen pending : List ErrorId) :
    (graph.walk seen pending).count identity ≤ if identity ∈ seen then 0 else 1 := by
  fun_induction graph.walk seen pending with
  | case1 seen =>
      simp
  | case2 seen head rest headIdentified seenBefore inductionHypothesis =>
      exact inductionHypothesis
  | case3 seen head rest headIdentified new inductionHypothesis =>
      by_cases isHead : head = identity
      · subst head
        simp_all
      · have kept : identity ∈ head :: seen ↔ identity ∈ seen := by
          simp [Ne.symm isHead]
        simpa [List.count_cons, isHead, kept] using inductionHypothesis
  | case4 seen head rest unidentified inductionHypothesis =>
      have differs : head ≠ identity := by
        rintro rfl
        exact unidentified identified
      simpa [List.count_cons, differs] using inductionHypothesis

/-- An error without an identity is found as often as it is pending, and once more for every link
to it from an error that is found. -/
theorem count_walk_of_not_identified
    {graph : Graph}
    {identity : ErrorId}
    (unidentified : graph.isIdentified identity = false)
    (seen pending : List ErrorId) :
    (graph.walk seen pending).count identity =
      pending.count identity +
        ((graph.walk seen pending).map fun error => (graph.causes error).count identity).sum := by
  fun_induction graph.walk seen pending with
  | case1 seen =>
      simp
  | case2 seen head rest identified seenBefore inductionHypothesis =>
      have differs : head ≠ identity := by
        rintro rfl
        simp [unidentified] at identified
      simpa [List.count_cons, differs] using inductionHypothesis
  | case3 seen head rest identified new inductionHypothesis =>
      have differs : head ≠ identity := by
        rintro rfl
        simp [unidentified] at identified
      simp only [List.count_cons, beq_iff_eq, differs, if_false, Nat.add_zero, List.map_cons,
        List.sum_cons, inductionHypothesis, List.count_append]
      omega
  | case4 seen head rest headUnidentified inductionHypothesis =>
      have noCauses : graph.causes head = [] :=
        causes_eq_nil_of_not_identified (by simpa using headUnidentified)
      simp only [List.count_cons, List.map_cons, List.sum_cons, noCauses, List.count_nil,
        inductionHypothesis]
      omega

/-- An identified error that can be reached stands in the chain once. -/
theorem count_chain_of_reaches
    {graph : Graph}
    {start identity : ErrorId}
    (identified : graph.isIdentified identity = true)
    (reached : graph.Reaches start identity) :
    (graph.chain start).count identity = 1 := by
  have found : 0 < (graph.chain start).count identity :=
    List.count_pos_iff.mpr (mem_chain_iff.mpr reached)
  have atMostOnce : (graph.chain start).count identity ≤ 1 := by
    simpa [chain] using count_walk_le identified [] [start]
  omega

/-- An error is in a chain when the same error can be reached from the start. -/
theorem isIn_iff
    {graph : Graph}
    {target start : ErrorId} :
    graph.isIn target start = true ↔
      ∃ identity, graph.Reaches start identity ∧ graph.sameError identity target = true := by
  simp [isIn, List.any_eq_true, mem_chain_iff]

/-- Nothing is found exactly when no error that is reached satisfies the test. -/
theorem find?_eq_none_iff
    {graph : Graph}
    {accepts : Node → Bool}
    {start : ErrorId} :
    graph.find? accepts start = none ↔
      ∀ identity node,
        graph.Reaches start identity →
        graph.get? identity = some node →
        accepts node = false := by
  unfold find?
  rw [List.find?_eq_none]
  constructor
  · intro refused identity node reached lookup
    have refusal := refused identity (mem_chain_iff.mpr reached)
    simpa [lookup] using refusal
  · intro refused identity member
    cases lookup : graph.get? identity with
    | none =>
        simp
    | some node =>
        simpa using refused identity node (mem_chain_iff.mp member) lookup

/-- What makes a list of errors the depth-first walk from a start. -/
structure IsDepthFirst
    (graph : Graph)
    (start : ErrorId)
    (errors : List ErrorId) :
    Prop where
  /-- No run of the loop takes more than one turn for the start and one for every link of an error
  of the list, and a run that comes to the end has yielded the list. -/
  ends :
    ∀ count yielded walker,
      graph.Turns count ⟨[], [start]⟩ yielded walker →
      count ≤ 1 + (errors.map fun error => (graph.links error).length).sum ∧
        (walker.pending = [] → yielded = errors)
  /-- The loop does come to the end. -/
  completes : ∃ count seen, graph.Turns count ⟨[], [start]⟩ errors ⟨seen, []⟩
  /-- The order is that of the recursive search. -/
  preorder : errors = graph.search [] [start]
  /-- The errors are those that the start reaches. -/
  mem_iff : ∀ identity, identity ∈ errors ↔ graph.Reaches start identity
  /-- An error of a boundary definition reaches nothing behind it. -/
  boundary :
    ∀ identity error behind,
      graph.occurrence? identity = some error →
      error.definition.isBoundary = true →
      graph.Reaches identity behind →
      behind = identity
  /-- An identified error stands in the list once. -/
  once :
    ∀ identity,
      graph.isIdentified identity = true →
      identity ∈ errors →
      errors.count identity = 1
  /-- An error without an identity stands in the list once for every link to it from the list, and
  once more when it is the start. -/
  perLink :
    ∀ identity,
      graph.isIdentified identity = false →
      errors.count identity =
        (if start = identity then 1 else 0) +
          (errors.map fun error => (graph.causes error).count identity).sum

/-- A chain is the depth-first walk from its start; what it is searched for is in it exactly when
it is reached, and the first one in the order of the search is found. -/
theorem chain_isDepthFirst
    (graph : Graph)
    (start : ErrorId) :
    graph.IsDepthFirst start (graph.chain start) ∧
      (∀ target,
        graph.isIn target start = true ↔
          ∃ identity, graph.Reaches start identity ∧ graph.sameError identity target = true) ∧
      (∀ accepts,
        graph.find? accepts start =
          (graph.search [] [start]).find? fun identity => (graph.get? identity).any accepts) ∧
      ∀ accepts,
        graph.find? accepts start = none ↔
          ∀ identity node,
            graph.Reaches start identity →
            graph.get? identity = some node →
            accepts node = false := by
  have preorder : graph.chain start = graph.search [] [start] :=
    graph.walk_eq_search [] [start]
  refine ⟨?_, fun _ => isIn_iff, fun accepts => ?_, fun _ => find?_eq_none_iff⟩
  · refine
      { ends := ?_, completes := ?_, preorder := preorder, mem_iff := fun _ => mem_chain_iff,
        boundary := ?_, once := ?_, perLink := ?_ }
    · intro count yielded walker turns
      obtain ⟨split, left⟩ := walk_eq_append_of_turns turns
      constructor
      · simp only [turnsLeft, List.length_singleton, causes, List.length_map] at left
        change 1 + ((graph.walk [] [start]).map _).sum = _ at left
        unfold chain
        omega
      · intro done
        simpa [chain, walk, done] using split.symm
    · obtain ⟨seen, turns⟩ := graph.exists_turns ⟨[], [start]⟩
      exact ⟨_, seen, turns⟩
    · intro identity error behind found boundary reached
      exact eq_of_reaches_of_causes_eq_nil (causes_eq_nil_of_boundary found boundary) reached
    · intro identity identified member
      exact count_chain_of_reaches identified (mem_chain_iff.mp member)
    · intro identity unidentified
      simpa [chain, List.count_singleton] using
        count_walk_of_not_identified unidentified [] [start]
  · rw [← preorder]
    rfl

end Fault.Graph
