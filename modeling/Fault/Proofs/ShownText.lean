import Fault.Proofs.TreePaths
import Fault.Render.Text

/-!
# Texts inside texts

A text of an error can show texts of further errors. Which ones it shows is read off the graph: a
detailed text shows every error that the links lead to over errors without a formatter, a joined
error shows its members, and a foreign error whatever its form asks for. One step of nesting finds
a text exactly when one step less finds every text that is shown.
-/

namespace Fault

open Fault.Text (Block)

/-- A text of an error that is asked for. -/
abbrev Request := Verb × ErrorId

namespace Graph

open Relation

/-! ## What a text shows -/

/-- Whether an error is an occurrence whose definition has a formatter. -/
def isFormatted
    (graph : Graph)
    (identity : ErrorId) :
    Bool :=
  (graph.occurrence? identity).any fun error => error.definition.template.formatter.isSome

/-- The verbs whose standard texts a text of an occurrence is made of. -/
def standardVerbs
    (graph : Graph)
    (error : Occurrence)
    (verb : Verb) :
    List Verb :=
  match error.definition.template.formatter with
  | none => [verb]
  | some format =>
      (format (graph.snapshot error) verb).filterMap fun piece =>
        match piece with
        | .text _ => none
        | .standard other => some other

/-- Whether the detailed text of an error goes down to another one: over links whose errors have
no formatter, the last one aside, and never back to where it began. -/
def GoesDownTo
    (graph : Graph)
    (error cause : ErrorId) :
    Prop :=
  cause ≠ error ∧
    ∃ owner,
      ReflTransGen
          (fun upper lower => graph.LinksTo upper lower ∧ graph.isFormatted lower = false)
          error owner ∧
        graph.LinksTo owner cause

/-- The text that a detailed text asks for where it comes to a cause. Occurrences without a
formatter are written out in place. -/
def causeRequest?
    (graph : Graph)
    (cause : ErrorId) :
    Option Request :=
  match graph.occurrence? cause with
  | some error =>
      if error.definition.template.formatter.isSome then some (.alternate, cause) else none
  | none => some (.display, cause)

/-- Whether a text of an error shows a text of another one. A standard text that is not the message
shows the errors that it goes down to, a joined error the messages of its members, and an unclaimed
cause has the text of its own cause in the one for developers. -/
def Shows
    (graph : Graph)
    (request shown : Request) :
    Prop :=
  match graph.get? request.2 with
  | some (.occurrence error) =>
      ∃ standard ∈ graph.standardVerbs error request.1,
        standard ≠ .display ∧
          ∃ cause,
            graph.GoesDownTo request.2 cause ∧ graph.causeRequest? cause = some shown
  | some (.joined members) => ∃ member ∈ members, (.display, member) = shown
  | some (.unclaimed cause) =>
      request.1 = .debug ∧ ∃ inner, cause.cause = some inner ∧ (.debug, inner) = shown
  | some (.foreign error) => .error shown.1 shown.2 ∈ error.form request.1
  | _ => False

/-! ## Texts that are found when their parts are -/

/-- Two texts are there together when each of them is. -/
private theorem isSome_bind_map
    {α β γ : Type}
    {first : Option α}
    {second : Option β}
    {combine : α → β → γ} :
    (first.bind fun left => second.map (combine left)).isSome = true ↔
      first.isSome = true ∧ second.isSome = true := by
  cases first <;> simp

/-- Texts that are put together are there when each of them is. -/
theorem isSome_concat
    {texts : List (Option Block)} :
    (concat texts).isSome = true ↔ ∀ text ∈ texts, text.isSome = true := by
  induction texts with
  | nil =>
      simp [concat]
  | cons text rest inductionHypothesis =>
      have unrolled :
          concat (text :: rest) =
            text.bind fun first => (concat rest).map fun second => Block.join first second :=
        rfl
      rw [unrolled, isSome_bind_map, inductionHypothesis, List.forall_mem_cons]

/-- All of what is looked for is found when each of it is. -/
private theorem isSome_mapM
    {α β : Type}
    {find : α → Option β}
    {items : List α} :
    (items.mapM find).isSome = true ↔ ∀ item ∈ items, (find item).isSome = true := by
  induction items with
  | nil =>
      simp
  | cons item rest inductionHypothesis =>
      rw [List.mapM_cons, List.forall_mem_cons, ← inductionHypothesis]
      cases find item <;> cases rest.mapM find <;> simp

/-- An entry is found when the text that stands for its cause is, and, below a cause without a
formatter, the entries of its own causes are. -/
private theorem isSome_entries_node
    {graph : Graph}
    {text : Verb → ErrorId → Option Block}
    {link : Link}
    {reentered : Bool}
    {below rest : Forest} :
    (graph.entries text (.node link reentered below rest)).isSome = true ↔
      ((∀ request,
          graph.causeRequest? link.target = some request →
          (text request.1 request.2).isSome = true) ∧
        (graph.isFormatted link.target = false → (graph.entries text below).isSome = true)) ∧
      (graph.entries text rest).isSome = true := by
  rw [entries, isSome_bind_map]
  refine and_congr_left fun _ => ?_
  cases found : graph.occurrence? link.target with
  | none =>
      simp [isSome_bind_map, causeRequest?, isFormatted, found]
  | some error =>
      cases formatted : error.definition.template.formatter <;>
        simp [causeRequest?, isFormatted, found, formatted]

/-- The entries of a list of causes are found when the texts are found that stand for the causes,
as far down as no error has a formatter. -/
theorem isSome_entries
    {graph : Graph}
    {text : Verb → ErrorId → Option Block}
    {forest : Forest} :
    (graph.entries text forest).isSome = true ↔
      ∀ path branch,
        (path, branch) ∈ forest.places →
          (∀ link ∈ path.dropLast, graph.isFormatted link.target = false) →
          ∀ request,
            graph.causeRequest? branch.link.target = some request →
            (text request.1 request.2).isSome = true := by
  induction forest with
  | nil =>
      simp [entries, Forest.places]
  | cut target rest inductionHypothesis =>
      exact inductionHypothesis
  | node link reentered below rest belowHypothesis restHypothesis =>
      rw [isSome_entries_node, belowHypothesis, restHypothesis]
      constructor
      · rintro ⟨⟨own, ofBelow⟩, ofRest⟩ path branch member plain
        rcases Forest.mem_places_node.mp member with ⟨rfl, rfl⟩ | ⟨further, rfl, inBelow⟩ | inRest
        · exact own
        · have nonempty : further ≠ [] :=
            ne_nil_of_mem_paths (Forest.mem_paths_iff.mpr ⟨branch, inBelow⟩)
          rw [List.dropLast_cons_of_ne_nil nonempty, List.forall_mem_cons] at plain
          exact ofBelow plain.1 further branch inBelow plain.2
        · exact ofRest path branch inRest plain
      · intro everywhere
        refine ⟨⟨?_, ?_⟩, ?_⟩
        · exact everywhere [link] ⟨link, reentered, below⟩
            (Forest.mem_places_node.mpr (.inl ⟨rfl, rfl⟩)) (by simp)
        · intro unformatted path branch inBelow plain
          have nonempty : path ≠ [] :=
            ne_nil_of_mem_paths (Forest.mem_paths_iff.mpr ⟨branch, inBelow⟩)
          refine everywhere (link :: path) branch
            (Forest.mem_places_node.mpr (.inr (.inl ⟨path, rfl, inBelow⟩))) ?_
          rw [List.dropLast_cons_of_ne_nil nonempty, List.forall_mem_cons]
          exact ⟨unformatted, plain⟩
        · intro path branch inRest plain
          exact everywhere path branch (Forest.mem_places_node.mpr (.inr (.inr inRest))) plain

/-- A detailed text goes down to what stands in the cause tree below errors without a formatter. -/
theorem goesDownTo_iff_exists_place
    {graph : Graph}
    {root cause : ErrorId} :
    graph.GoesDownTo root cause ↔
      ∃ path branch,
        (path, branch) ∈ (graph.causeTree root).places ∧
          (∀ link ∈ path.dropLast, graph.isFormatted link.target = false) ∧
          branch.link.target = cause := by
  constructor
  · rintro ⟨notRoot, owner, reached, linked⟩
    obtain ⟨path, simple, rfl, plain⟩ := exists_simplePath reached
    obtain ⟨link, member, rfl⟩ := List.mem_map.mp linked
    -- The walk may come by the cause earlier, where the tree already has a place for it.
    cases turnsBack : graph.returns root path link with
    | true =>
        obtain ⟨front, isPrefix, frontSimple, frontEnds⟩ :=
          simple.exists_front (returns_iff.mp turnsBack)
        have nonempty : front ≠ [] := by
          rintro rfl
          exact notRoot frontEnds.symm
        obtain ⟨branch, place, target⟩ := exists_place_of_isSimplePath frontSimple nonempty
        refine ⟨front, branch, place, ?_, target.trans frontEnds⟩
        intro earlier earlierMember
        exact plain earlier (isPrefix.subset (List.dropLast_subset _ earlierMember))
    | false =>
        have longer : graph.IsSimplePath root (path ++ [link]) :=
          isSimplePath_append_singleton.mpr ⟨simple, member, turnsBack⟩
        obtain ⟨branch, place, target⟩ := exists_place_of_isSimplePath longer (by simp)
        refine ⟨path ++ [link], branch, place, ?_, ?_⟩
        · rw [List.dropLast_concat]
          exact plain
        · rw [target, pathEnd_append]
          rfl
  · rintro ⟨path, branch, place, plain, rfl⟩
    have simple := isSimplePath_of_mem_places place
    obtain ⟨front, rfl⟩ :=
      List.getLast?_eq_some_iff.mp (branch_of_mem_places place).1
    obtain ⟨frontSimple, member, _⟩ := isSimplePath_append_singleton.mp simple
    rw [List.dropLast_concat] at plain
    exact ⟨target_ne_root place, pathEnd root front,
      reflTransGen_pathEnd frontSimple.isPath plain, linksTo_of_mem_links member⟩

/-- A detailed text is found when the texts are found that it asks for where it goes down. -/
theorem isSome_entries_causeTree
    {graph : Graph}
    {text : Verb → ErrorId → Option Block}
    {identity : ErrorId} :
    (graph.entries text (graph.causeTree identity)).isSome = true ↔
      ∀ cause request,
        graph.GoesDownTo identity cause →
          graph.causeRequest? cause = some request →
          (text request.1 request.2).isSome = true := by
  rw [isSome_entries]
  constructor
  · intro places cause request down asked
    obtain ⟨path, branch, place, plain, rfl⟩ := goesDownTo_iff_exists_place.mp down
    exact places path branch place plain request asked
  · intro causes path branch place plain request asked
    exact causes _ request
      (goesDownTo_iff_exists_place.mpr ⟨path, branch, place, plain, rfl⟩) asked

/-- A standard text of an occurrence is found when it is the message, or when the texts are found
that it asks for. -/
theorem isSome_standardText
    {graph : Graph}
    {text : Verb → ErrorId → Option Block}
    {identity : ErrorId}
    {error : Occurrence}
    {verb : Verb} :
    (graph.standardText text identity error verb).isSome = true ↔
      (verb ≠ .display →
        ∀ cause request,
          graph.GoesDownTo identity cause →
            graph.causeRequest? cause = some request →
            (text request.1 request.2).isSome = true) := by
  cases verb with
  | display =>
      simp [standardText]
  | alternate =>
      simp [standardText, isSome_entries_causeTree]
  | debug =>
      simp [standardText, isSome_entries_causeTree]

/-- A text of an occurrence is found when the standard texts are found that it is made of. -/
theorem isSome_occurrenceText
    {graph : Graph}
    {text : Verb → ErrorId → Option Block}
    {identity : ErrorId}
    {error : Occurrence}
    {verb : Verb} :
    (graph.occurrenceText text identity error verb).isSome = true ↔
      ∀ standard ∈ graph.standardVerbs error verb,
        (graph.standardText text identity error standard).isSome = true := by
  unfold occurrenceText standardVerbs
  cases error.definition.template.formatter with
  | none =>
      simp
  | some format =>
      simp only [isSome_concat, List.forall_mem_map, List.mem_filterMap]
      constructor
      · rintro pieces standard ⟨piece, member, isStandard⟩
        cases piece with
        | text content =>
            simp at isStandard
        | standard other =>
            cases isStandard
            exact pieces _ member
      · intro verbs piece member
        cases piece with
        | text content =>
            rfl
        | standard other =>
            exact verbs other ⟨_, member, rfl⟩

/-- The text of an unclaimed error is there when the developers' text of its cause is, if it is
asked for. -/
theorem isSome_unclaimedText
    {text : Verb → ErrorId → Option Block}
    {cause : Unclaimed}
    {verb : Verb} :
    (unclaimedText text cause verb).isSome = true ↔
      (verb = .debug →
        ∀ inner, cause.cause = some inner → (text .debug inner).isSome = true) := by
  cases verb with
  | display =>
      simp [unclaimedText]
  | alternate =>
      simp [unclaimedText]
  | debug =>
      cases holds : cause.cause with
      | none =>
          simp [unclaimedText, holds]
      | some inner =>
          cases found : text .debug inner <;>
            simp [unclaimedText, holds, found]

/-- The text of a foreign error is there when all texts that it shows are. -/
theorem isSome_foreignText
    {text : Verb → ErrorId → Option Block}
    {error : Foreign}
    {verb : Verb} :
    (foreignText text error verb).isSome = true ↔
      ∀ other inner,
        .error other inner ∈ error.form verb → (text other inner).isSome = true := by
  simp only [foreignText, isSome_concat, List.forall_mem_map]
  constructor
  · intro pieces other inner member
    exact pieces _ member
  · intro texts piece member
    cases piece with
    | text content =>
        rfl
    | error other inner =>
        exact texts other inner member

/-- One more step of nesting finds a text exactly when the steps before it find every text that
the text shows. -/
theorem isSome_text?_succ
    {graph : Graph}
    {steps : Nat}
    {request : Request} :
    (graph.text? (steps + 1) request.1 request.2).isSome = true ↔
      ∀ shown, graph.Shows request shown → (graph.text? steps shown.1 shown.2).isSome = true := by
  rw [text?]
  unfold Shows
  cases graph.get? request.2 with
  | none =>
      simp
  | some node =>
      cases node with
      | occurrence error =>
          simp only [isSome_occurrenceText, isSome_standardText]
          constructor
          · rintro texts shown ⟨standard, member, detailed, cause, down, asked⟩
            exact texts standard member detailed cause shown down asked
          · intro texts standard member detailed cause shown down asked
            exact texts shown ⟨standard, member, detailed, cause, down, asked⟩
      | joined members =>
          simp only [joinedText, Option.isSome_map, isSome_mapM]
          constructor
          · rintro texts _ ⟨member, isMember, rfl⟩
            exact texts member isMember
          · intro texts member isMember
            exact texts _ ⟨member, isMember, rfl⟩
      | recovered panic =>
          simp
      | unclaimed cause =>
          simp only [isSome_unclaimedText]
          constructor
          · rintro texts _ ⟨developers, inner, holds, rfl⟩
            exact texts developers inner holds
          · intro texts developers inner holds
            exact texts _ ⟨developers, inner, holds, rfl⟩
      | foreign error =>
          simp only [isSome_foreignText]
          constructor
          · intro texts shown member
            exact texts shown.1 shown.2 member
          · intro texts other inner member
            exact texts (other, inner) member
      | marker error =>
          simp

end Graph

end Fault
