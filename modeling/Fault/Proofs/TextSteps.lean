import Fault.Proofs.ShownText

/-!
# Steps of nesting

More steps of nesting find more texts, and never another text for the same error and verb. There
are three texts for each error, and every step that finds a new text finds one of them, so that the
steps that are allowed find every text that ends at all.
-/

namespace Fault

open Fault.Text (Block)

/-- Whether all texts that are found one way are found the same another way. -/
def Extends
    (more text : Verb → ErrorId → Option Block) :
    Prop :=
  ∀ {verb identity block}, text verb identity = some block → more verb identity = some block

namespace Graph

/-! ## More steps find the same texts -/

/-- Entries that are found stay the same when more texts are found. -/
theorem entries_of_extends
    {graph : Graph}
    {more text : Verb → ErrorId → Option Block}
    {forest : Forest}
    {blocks : List Block}
    (kept : Extends more text)
    (found : graph.entries text forest = some blocks) :
    graph.entries more forest = some blocks := by
  induction forest generalizing blocks with
  | nil =>
      exact found
  | cut target rest inductionHypothesis =>
      exact inductionHypothesis found
  | node link reentered below rest belowHypothesis restHypothesis =>
      rw [entries] at found ⊢
      obtain ⟨first, entry, tail⟩ := Option.bind_eq_some_iff.mp found
      obtain ⟨others, restFound, rfl⟩ := Option.map_eq_some_iff.mp tail
      rw [restHypothesis restFound]
      refine Option.bind_eq_some_iff.mpr ⟨first, ?_, rfl⟩
      cases target : graph.occurrence? link.target with
      | none =>
          simp only [target, Option.bind_eq_some_iff, Option.map_eq_some_iff] at entry ⊢
          obtain ⟨message, messageFound, causes, belowFound, rfl⟩ := entry
          exact ⟨message, kept messageFound, causes, belowHypothesis belowFound, rfl⟩
      | some error =>
          simp only [target] at entry ⊢
          split at entry
          · next formatted =>
              rw [if_pos formatted]
              exact kept entry
          · next unformatted =>
              obtain ⟨causes, belowFound, rfl⟩ := Option.map_eq_some_iff.mp entry
              rw [if_neg unformatted, belowHypothesis belowFound]
              rfl

/-- A standard text that is found stays the same when more texts are found. -/
theorem standardText_of_extends
    {graph : Graph}
    {more text : Verb → ErrorId → Option Block}
    {identity : ErrorId}
    {error : Occurrence}
    {verb : Verb}
    {block : Block}
    (kept : Extends more text)
    (found : graph.standardText text identity error verb = some block) :
    graph.standardText more identity error verb = some block := by
  cases verb with
  | display =>
      exact found
  | alternate | debug =>
      obtain ⟨nested, nestedFound, rfl⟩ := Option.map_eq_some_iff.mp found
      exact Option.map_eq_some_iff.mpr
        ⟨nested, entries_of_extends kept nestedFound, rfl⟩

/-- Pieces that are found one way and the same another way make up the same text. -/
theorem concat_map_of_forall
    {α : Type}
    {find more : α → Option Block}
    {pieces : List α}
    {block : Block}
    (same : ∀ piece ∈ pieces, ∀ part, find piece = some part → more piece = some part)
    (found : concat (pieces.map find) = some block) :
    concat (pieces.map more) = some block := by
  have all : ∀ piece ∈ pieces, (find piece).isSome = true := by
    have together : (concat (pieces.map find)).isSome = true := by
      rw [found]
      rfl
    exact List.forall_mem_map.mp (isSome_concat.mp together)
  have agree : pieces.map more = pieces.map find := by
    apply List.map_congr_left
    intro piece member
    obtain ⟨part, partFound⟩ := Option.isSome_iff_exists.mp (all piece member)
    rw [partFound, same piece member part partFound]
  rw [agree]
  exact found

/-- The text of an occurrence that is found stays the same when more texts are found. -/
theorem occurrenceText_of_extends
    {graph : Graph}
    {more text : Verb → ErrorId → Option Block}
    {identity : ErrorId}
    {error : Occurrence}
    {verb : Verb}
    {block : Block}
    (kept : Extends more text)
    (found : graph.occurrenceText text identity error verb = some block) :
    graph.occurrenceText more identity error verb = some block := by
  unfold occurrenceText at found ⊢
  cases formatter : error.definition.template.formatter with
  | none =>
      rw [formatter] at found
      exact standardText_of_extends kept found
  | some format =>
      rw [formatter] at found
      refine concat_map_of_forall ?_ found
      intro piece _ part partFound
      cases piece with
      | text content =>
          exact partFound
      | standard other =>
          exact standardText_of_extends kept partFound

/-- The text of joined errors that is found stays the same when more texts are found. -/
theorem joinedText_of_extends
    {more text : Verb → ErrorId → Option Block}
    {members : List ErrorId}
    {verb : Verb}
    {block : Block}
    (kept : Extends more text)
    (found : joinedText text members verb = some block) :
    joinedText more members verb = some block := by
  obtain ⟨messages, messagesFound, rfl⟩ := Option.map_eq_some_iff.mp found
  refine Option.map_eq_some_iff.mpr ⟨messages, ?_, rfl⟩
  clear found
  induction members generalizing messages with
  | nil =>
      exact messagesFound
  | cons member rest inductionHypothesis =>
      simp only [List.mapM_cons, Option.bind_eq_bind, Option.bind_eq_some_iff,
        Option.pure_def, Option.some.injEq] at messagesFound ⊢
      obtain ⟨first, firstFound, others, othersFound, rfl⟩ := messagesFound
      exact ⟨first, kept firstFound, others, inductionHypothesis others othersFound, rfl⟩

/-- The text of an unclaimed error that is found stays the same when more texts are found. -/
theorem unclaimedText_of_extends
    {more text : Verb → ErrorId → Option Block}
    {cause : Unclaimed}
    {verb : Verb}
    {block : Block}
    (kept : Extends more text)
    (found : unclaimedText text cause verb = some block) :
    unclaimedText more cause verb = some block := by
  cases verb with
  | display | alternate =>
      exact found
  | debug =>
      cases holds : cause.cause with
      | none =>
          simpa [unclaimedText, holds] using found
      | some inner =>
          simp only [unclaimedText, holds, Option.bind_eq_bind, Option.bind_eq_some_iff,
            Option.map_eq_some_iff] at found ⊢
          obtain ⟨shown, ⟨part, partFound, rfl⟩, rest⟩ := found
          exact ⟨_, ⟨part, kept partFound, rfl⟩, rest⟩

/-- The text of a foreign error that is found stays the same when more texts are found. -/
theorem foreignText_of_extends
    {more text : Verb → ErrorId → Option Block}
    {error : Foreign}
    {verb : Verb}
    {block : Block}
    (kept : Extends more text)
    (found : foreignText text error verb = some block) :
    foreignText more error verb = some block := by
  refine concat_map_of_forall ?_ found
  intro piece _ part partFound
  cases piece with
  | text content =>
      exact partFound
  | error other inner =>
      exact kept partFound

/-- One more step finds every text that was found before, and the same. -/
theorem text?_succ_of_eq_some
    {graph : Graph}
    {steps : Nat} :
    Extends (graph.text? (steps + 1)) (graph.text? steps) := by
  induction steps with
  | zero =>
      intro verb identity block found
      simp [text?] at found
  | succ steps inductionHypothesis =>
      intro verb identity block found
      rw [text?] at found ⊢
      cases present : graph.get? identity with
      | none =>
          simpa [present] using found
      | some node =>
          rw [present] at found
          cases node with
          | occurrence error =>
              exact occurrenceText_of_extends inductionHypothesis found
          | joined members =>
              exact joinedText_of_extends inductionHypothesis found
          | recovered panic =>
              exact found
          | unclaimed cause =>
              exact unclaimedText_of_extends inductionHypothesis found
          | foreign error =>
              exact foreignText_of_extends inductionHypothesis found
          | marker error =>
              exact found

/-- A text that is found stays the same with more steps. -/
theorem text?_of_le
    {graph : Graph}
    {steps more : Nat}
    {verb : Verb}
    {identity : ErrorId}
    {block : Block}
    (fewer : steps ≤ more)
    (found : graph.text? steps verb identity = some block) :
    graph.text? more verb identity = some block := by
  induction fewer with
  | refl =>
      exact found
  | step _ inductionHypothesis =>
      exact text?_succ_of_eq_some inductionHypothesis

/-- What is found in some steps is found in more steps. -/
theorem isSome_text?_of_le
    {graph : Graph}
    {steps more : Nat}
    {request : Request}
    (fewer : steps ≤ more)
    (found : (graph.text? steps request.1 request.2).isSome = true) :
    (graph.text? more request.1 request.2).isSome = true := by
  obtain ⟨block, isBlock⟩ := Option.isSome_iff_exists.mp found
  rw [text?_of_le fewer isBlock]
  rfl

/-! ## Enough steps -/

/-- The texts of the errors of a graph, one for each verb. -/
def requests (graph : Graph) : Finset Request :=
  {.display, .alternate, .debug} ×ˢ (Finset.range graph.size).image ErrorId.mk

def foundTexts
    (graph : Graph)
    (steps : Nat) :
    Finset Request :=
  graph.requests.filter fun request => (graph.text? steps request.1 request.2).isSome = true

/-- The texts of a graph are those of its errors, under each verb. -/
theorem mem_requests_iff
    {graph : Graph}
    {request : Request} :
    request ∈ graph.requests ↔ request.2.index < graph.size := by
  obtain ⟨verb, ⟨index⟩⟩ := request
  cases verb <;> simp [requests]

/-- A graph has no more than three texts for each error. -/
theorem card_requests_le (graph : Graph) :
    graph.requests.card ≤ 3 * graph.size := by
  rw [requests, Finset.card_product]
  refine Nat.mul_le_mul Finset.card_le_three ?_
  exact Finset.card_image_le.trans_eq (Finset.card_range graph.size)

/-- Other texts are those of no error. -/
theorem get?_eq_none_of_not_mem_requests
    {graph : Graph}
    {request : Request}
    (outside : request ∉ graph.requests) :
    graph.get? request.2 = none := by
  rw [mem_requests_iff] at outside
  exact Array.getElem?_eq_none (Nat.le_of_not_lt outside)

/-- The text of no error is found at once. -/
theorem isSome_text?_of_not_mem_requests
    {graph : Graph}
    {steps : Nat}
    {request : Request}
    (outside : request ∉ graph.requests) :
    (graph.text? (steps + 1) request.1 request.2).isSome = true := by
  simp [text?, get?_eq_none_of_not_mem_requests outside]

/-- After at most one step for each text comes one that finds nothing new. -/
theorem exists_idle_step (graph : Graph) :
    ∃ steps ≤ 3 * graph.size,
      graph.foundTexts (steps + 2) = graph.foundTexts (steps + 1) := by
  -- If every step found something new, there would be more texts found than there are.
  by_contra noneIdle
  push Not at noneIdle
  have grows : ∀ steps ≤ 3 * graph.size + 1, steps ≤ (graph.foundTexts (steps + 1)).card := by
    intro steps
    induction steps with
    | zero =>
        simp
    | succ steps inductionHypothesis =>
        intro inRange
        have kept : graph.foundTexts (steps + 1) ⊆ graph.foundTexts (steps + 1 + 1) :=
          Finset.monotone_filter_right _ fun _ _ found =>
            isSome_text?_of_le (Nat.le_succ _) found
        have more : (graph.foundTexts (steps + 1)).card < (graph.foundTexts (steps + 1 + 1)).card :=
          Finset.card_lt_card (kept.ssubset_of_ne (noneIdle steps (by omega)).symm)
        have before := inductionHypothesis (by omega)
        omega
  have tooMany := grows (3 * graph.size + 1) le_rfl
  have fewer : (graph.foundTexts (3 * graph.size + 1 + 1)).card ≤ graph.requests.card :=
    Finset.card_filter_le _ _
  have bound := graph.card_requests_le
  omega

/-- A step that finds nothing new is the last one that is needed. -/
theorem isSome_text?_of_idle
    {graph : Graph}
    {steps more : Nat}
    {request : Request}
    (idle : graph.foundTexts (steps + 2) = graph.foundTexts (steps + 1))
    (found : (graph.text? more request.1 request.2).isSome = true) :
    (graph.text? (steps + 2) request.1 request.2).isSome = true := by
  induction more generalizing request with
  | zero =>
      simp [text?] at found
  | succ more inductionHypothesis =>
      rw [isSome_text?_succ] at found ⊢
      intro shown shows
      -- Only texts of errors of the graph are counted; the others need a step of their own, once.
      by_cases inside : shown ∈ graph.requests
      · have foundLater : shown ∈ graph.foundTexts (steps + 2) :=
          Finset.mem_filter.mpr ⟨inside, inductionHypothesis (found shown shows)⟩
        rw [idle] at foundLater
        exact (Finset.mem_filter.mp foundLater).2
      · exact isSome_text?_of_not_mem_requests inside

/-- The steps that are allowed find every text that ends. -/
theorem isSome_block?_of_isSome_text?
    {graph : Graph}
    {steps : Nat}
    {request : Request}
    (found : (graph.text? steps request.1 request.2).isSome = true) :
    (graph.block? request.1 request.2).isSome = true := by
  obtain ⟨last, inRange, idle⟩ := graph.exists_idle_step
  have allowed : last + 2 ≤ graph.textDepth := by
    unfold textDepth
    omega
  exact isSome_text?_of_le allowed (isSome_text?_of_idle idle found)

/-- The text of an error is the one that any number of steps finds. -/
theorem block?_eq_some_iff
    {graph : Graph}
    {verb : Verb}
    {identity : ErrorId}
    {block : Block} :
    graph.block? verb identity = some block ↔
      ∃ steps, graph.text? steps verb identity = some block := by
  constructor
  · intro found
    exact ⟨graph.textDepth, found⟩
  · rintro ⟨steps, found⟩
    have isFound : (graph.text? steps (verb, identity).1 (verb, identity).2).isSome = true :=
      Option.isSome_iff_exists.mpr ⟨block, found⟩
    obtain ⟨other, isOther⟩ :=
      Option.isSome_iff_exists.mp (isSome_block?_of_isSome_text? isFound)
    rcases Nat.le_total steps graph.textDepth with fewer | more
    · exact text?_of_le fewer found
    · have same := text?_of_le more isOther
      rw [found] at same
      cases same
      exact isOther

end Graph

end Fault
