import Fault.Proofs.TextSteps
import Fault.Graph.Foreign

/-!
# Texts that never end

A text never ends exactly when it shows, over any number of texts inside texts, one that shows
itself. Cause trees are finite, so no cycle of links alone does this. A formatter that falls back
to the standard text can: the cause behind it is shown by a text of its own, whose tree knows
nothing of the errors above it.
-/

namespace Fault

open Relation

namespace Graph

/-- A text ends when all texts end that it shows. -/
theorem isSome_block?_iff_forall_shown
    {graph : Graph}
    {request : Request} :
    (graph.block? request.1 request.2).isSome = true ↔
      ∀ shown, graph.Shows request shown → (graph.block? shown.1 shown.2).isSome = true := by
  constructor
  · intro found shown shows
    exact isSome_block?_of_isSome_text? (isSome_text?_succ.mp found shown shows)
  · intro texts
    exact isSome_block?_of_isSome_text? (isSome_text?_succ.mpr texts)

/-- A text that is there shows only texts that are there. -/
theorem isSome_block?_of_reflTransGen
    {graph : Graph}
    {request shown : Request}
    (found : (graph.block? request.1 request.2).isSome = true)
    (reached : ReflTransGen graph.Shows request shown) :
    (graph.block? shown.1 shown.2).isSome = true := by
  induction reached with
  | refl =>
      exact found
  | tail _ shows inductionHypothesis =>
      exact isSome_block?_iff_forall_shown.mp inductionHypothesis _ shows

/-- A text that shows itself is found by no number of steps. -/
theorem not_isSome_text?_of_circle
    {graph : Graph}
    {steps : Nat}
    {request : Request}
    (circle : TransGen graph.Shows request request) :
    ¬(graph.text? steps request.1 request.2).isSome = true := by
  induction steps generalizing request with
  | zero =>
      simp [text?]
  | succ steps inductionHypothesis =>
      intro found
      obtain ⟨next, shows, back⟩ := TransGen.head'_iff.mp circle
      exact inductionHypothesis (TransGen.tail' back shows)
        (isSome_text?_succ.mp found next shows)

/-- The texts of errors of the graph that a text shows, over any number of texts inside texts. -/
def textsBehind
    (graph : Graph)
    (request : Request) :
    Set Request :=
  {shown | shown ∈ graph.requests ∧ ReflTransGen graph.Shows request shown}

/-- There are finitely many texts behind a text. -/
theorem finite_textsBehind
    (graph : Graph)
    (request : Request) :
    (graph.textsBehind request).Finite :=
  graph.requests.finite_toSet.subset fun _ member => member.1

/-- A text that shows others is one of the texts of the graph. -/
theorem mem_requests_of_shows
    {graph : Graph}
    {request shown : Request}
    (shows : graph.Shows request shown) :
    request ∈ graph.requests := by
  by_contra outside
  simp [Shows, get?_eq_none_of_not_mem_requests outside] at shows

/-- A text that is not in a circle has more behind it than each text that it shows. -/
theorem textsBehind_ssubset
    {graph : Graph}
    {request shown : Request}
    (noCircle : ¬TransGen graph.Shows request request)
    (shows : graph.Shows request shown) :
    graph.textsBehind shown ⊂ graph.textsBehind request := by
  refine Set.ssubset_iff_exists.mpr ⟨?_, request, ?_, ?_⟩
  · rintro further ⟨inside, reached⟩
    exact ⟨inside, ReflTransGen.head shows reached⟩
  · exact ⟨mem_requests_of_shows shows, ReflTransGen.refl⟩
  · rintro ⟨_, back⟩
    exact noCircle (TransGen.head' shows back)

/-- A text ends when no text behind it shows itself. -/
theorem isSome_block?_of_no_circle
    {graph : Graph}
    {request : Request}
    (noCircle :
      ∀ shown, ReflTransGen graph.Shows request shown → ¬TransGen graph.Shows shown shown) :
    (graph.block? request.1 request.2).isSome = true := by
  -- The texts behind a text are finitely many, and fewer behind each text that it shows.
  induction behind : (graph.textsBehind request).ncard using Nat.strong_induction_on
    generalizing request with
  | _ size inductionHypothesis =>
      subst behind
      rw [isSome_block?_iff_forall_shown]
      intro shown shows
      have fewer : (graph.textsBehind shown).ncard < (graph.textsBehind request).ncard :=
        Set.ncard_lt_ncard (textsBehind_ssubset (noCircle request .refl) shows)
          (graph.finite_textsBehind request)
      refine inductionHypothesis _ fewer ?_ rfl
      intro further reached
      exact noCircle further (ReflTransGen.head shows reached)

/-! ## Formatters that fall back -/

/-- Whether formatters fall back to the standard text of the verb they were asked for only, and
messages of foreign errors show only messages. -/
structure KeepsVerbs (graph : Graph) : Prop where
  formatters :
    ∀ {identity error format snapshot verb other},
      graph.occurrence? identity = some error →
        error.definition.template.formatter = some format →
        .standard other ∈ format snapshot verb →
        other = verb
  messages :
    ∀ {identity error verb inner},
      graph.get? identity = some (.foreign error) →
        .error verb inner ∈ error.form .display →
        verb = .display

/-- Whether the detailed text of an error with a formatter stands inside that of another error,
which writes its own detailed text the standard way. -/
def Nests
    (graph : Graph)
    (error cause : ErrorId) :
    Prop :=
  (∃ occurrence,
      graph.occurrence? error = some occurrence ∧
        .alternate ∈ graph.standardVerbs occurrence .alternate) ∧
    graph.GoesDownTo error cause ∧
    graph.isFormatted cause = true

/-- Whether the message of an error shows the message of another one. -/
def TellsOf
    (graph : Graph)
    (error other : ErrorId) :
    Prop :=
  graph.Shows (.display, error) (.display, other)

/-- A detailed text asks for the detailed text of a cause with a formatter, or for a message. -/
theorem causeRequest?_eq_some_iff
    {graph : Graph}
    {cause : ErrorId}
    {request : Request} :
    graph.causeRequest? cause = some request ↔
      (graph.isFormatted cause = true ∧ request = (.alternate, cause)) ∨
        (graph.occurrence? cause = none ∧ request = (.display, cause)) := by
  unfold causeRequest? isFormatted
  cases graph.occurrence? cause with
  | none =>
      simp [eq_comm]
  | some error =>
      cases formatted : error.definition.template.formatter <;>
        simp [formatted, eq_comm]

namespace KeepsVerbs

/-- A text of an occurrence is made of the standard text of its verb, if of any. -/
theorem eq_of_mem_standardVerbs
    {graph : Graph}
    {identity : ErrorId}
    {error : Occurrence}
    {verb other : Verb}
    (keeps : graph.KeepsVerbs)
    (found : graph.occurrence? identity = some error)
    (member : other ∈ graph.standardVerbs error verb) :
    other = verb := by
  unfold standardVerbs at member
  cases formatter : error.definition.template.formatter with
  | none =>
      simpa [formatter] using member
  | some format =>
      rw [formatter] at member
      obtain ⟨piece, pieceMember, isStandard⟩ := List.mem_filterMap.mp member
      cases piece with
      | text content =>
          simp at isStandard
      | standard verb' =>
          cases isStandard
          exact keeps.formatters found formatter pieceMember

/-- Where verbs are kept, a message shows messages only. -/
theorem fst_of_shows_display
    {graph : Graph}
    {identity : ErrorId}
    {shown : Request}
    (keeps : graph.KeepsVerbs)
    (shows : graph.Shows (.display, identity) shown) :
    shown.1 = .display := by
  unfold Shows at shows
  cases present : graph.get? identity with
  | none =>
      simp [present] at shows
  | some node =>
      rw [present] at shows
      cases node with
      | occurrence error =>
          obtain ⟨standard, member, detailed, _⟩ := shows
          have found : graph.occurrence? identity = some error := by
            simp [occurrence?, present, Node.occurrence?]
          exact absurd (keeps.eq_of_mem_standardVerbs found member) detailed
      | joined members =>
          obtain ⟨member, _, rfl⟩ := shows
          rfl
      | recovered panic =>
          exact shows.elim
      | unclaimed cause =>
          simp at shows
      | foreign error =>
          exact keeps.messages present shows
      | marker error =>
          exact shows.elim

end KeepsVerbs

/-- A text of an occurrence shows the detailed texts of causes with a formatter, and messages of
causes that are no occurrences. -/
theorem exists_goesDownTo_of_shows
    {graph : Graph}
    {verb : Verb}
    {identity : ErrorId}
    {error : Occurrence}
    {shown : Request}
    (found : graph.occurrence? identity = some error)
    (shows : graph.Shows (verb, identity) shown) :
    ∃ cause,
      graph.GoesDownTo identity cause ∧
        ((graph.isFormatted cause = true ∧ shown = (.alternate, cause)) ∨
          (graph.occurrence? cause = none ∧ shown = (.display, cause))) := by
  simp only [Shows, get?_of_occurrence?_eq_some found] at shows
  obtain ⟨_, _, _, cause, down, asked⟩ := shows
  exact ⟨cause, down, causeRequest?_eq_some_iff.mp asked⟩

/-- What is formatted is an occurrence. -/
theorem exists_occurrence_of_isFormatted
    {graph : Graph}
    {identity : ErrorId}
    (formatted : graph.isFormatted identity = true) :
    ∃ error, graph.occurrence? identity = some error := by
  unfold isFormatted at formatted
  cases found : graph.occurrence? identity with
  | none =>
      simp [found] at formatted
  | some error =>
      exact ⟨error, rfl⟩

/-- An error with a formatter that nests another one shows its detailed text. -/
theorem shows_of_nests
    {graph : Graph}
    {error cause : ErrorId}
    (nests : graph.Nests error cause) :
    graph.Shows (.alternate, error) (.alternate, cause) := by
  obtain ⟨⟨occurrence, found, standard⟩, down, formatted⟩ := nests
  simp only [Shows, get?_of_occurrence?_eq_some found]
  exact ⟨.alternate, standard, by simp, cause, down,
    causeRequest?_eq_some_iff.mpr (.inl ⟨formatted, rfl⟩)⟩

/-- What is shown by a detailed text of an error with a formatter, or by a message, is such a text
again. -/
def IsNested
    (graph : Graph)
    (request : Request) :
    Prop :=
  (request.1 = .alternate ∧ graph.isFormatted request.2 = true) ∨ request.1 = .display

namespace KeepsVerbs

/-- Where verbs are kept, an error with a formatter shows only what it nests. -/
theorem nests_of_shows
    {graph : Graph}
    {error cause : ErrorId}
    (keeps : graph.KeepsVerbs)
    (formatted : graph.isFormatted error = true)
    (shows : graph.Shows (.alternate, error) (.alternate, cause)) :
    graph.Nests error cause := by
  obtain ⟨occurrence, found⟩ := exists_occurrence_of_isFormatted formatted
  obtain ⟨_, down, ⟨causeFormatted, same⟩ | ⟨_, differs⟩⟩ :=
    exists_goesDownTo_of_shows found shows
  · cases same
    simp only [Shows, get?_of_occurrence?_eq_some found] at shows
    obtain ⟨standard, member, _⟩ := shows
    have sameVerb := keeps.eq_of_mem_standardVerbs found member
    rw [sameVerb] at member
    exact ⟨⟨occurrence, found, member⟩, down, causeFormatted⟩
  · cases differs

/-- Where verbs are kept, a nested text shows nested texts only. -/
theorem isNested_of_shows
    {graph : Graph}
    {request shown : Request}
    (keeps : graph.KeepsVerbs)
    (nested : graph.IsNested request)
    (shows : graph.Shows request shown) :
    graph.IsNested shown := by
  obtain ⟨verb, identity⟩ := request
  rcases nested with ⟨_, formatted⟩ | isMessage
  · obtain ⟨_, found⟩ := exists_occurrence_of_isFormatted formatted
    obtain ⟨_, _, ⟨causeFormatted, rfl⟩ | ⟨_, rfl⟩⟩ := exists_goesDownTo_of_shows found shows
    · exact .inl ⟨rfl, causeFormatted⟩
    · exact .inr rfl
  · cases isMessage
    exact .inr (keeps.fst_of_shows_display shows)

/-- Whatever the texts of an occurrence show is a detailed text of an error with a formatter, or a
message. -/
theorem isNested_of_transGen
    {graph : Graph}
    {verb : Verb}
    {identity : ErrorId}
    {error : Occurrence}
    {shown : Request}
    (keeps : graph.KeepsVerbs)
    (found : graph.occurrence? identity = some error)
    (reached : TransGen graph.Shows (verb, identity) shown) :
    graph.IsNested shown := by
  induction reached with
  | single shows =>
      obtain ⟨_, _, ⟨causeFormatted, rfl⟩ | ⟨_, rfl⟩⟩ := exists_goesDownTo_of_shows found shows
      · exact .inl ⟨rfl, causeFormatted⟩
      · exact .inr rfl
  | tail _ shows inductionHypothesis =>
      exact keeps.isNested_of_shows inductionHypothesis shows

/-- A detailed text shows another one over nested errors with formatters only: no message leads
back to a detailed text. -/
theorem transGen_nests
    {graph : Graph}
    {error : ErrorId}
    {shown : Request}
    (keeps : graph.KeepsVerbs)
    (formatted : graph.isFormatted error = true)
    (reached : TransGen graph.Shows (.alternate, error) shown)
    (detailed : shown.1 = .alternate) :
    TransGen graph.Nests error shown.2 := by
  induction reached with
  | @single shown shows =>
      obtain ⟨verb, cause⟩ := shown
      cases detailed
      exact .single (keeps.nests_of_shows formatted shows)
  | @tail middle shown earlier shows inductionHypothesis =>
      obtain ⟨verb, cause⟩ := shown
      cases detailed
      obtain ⟨_, found⟩ := exists_occurrence_of_isFormatted formatted
      obtain ⟨middleVerb, owner⟩ := middle
      rcases keeps.isNested_of_transGen found earlier with ⟨same, ownerFormatted⟩ | isMessage
      · cases same
        exact .tail (inductionHypothesis rfl) (keeps.nests_of_shows ownerFormatted shows)
      · cases isMessage
        cases keeps.fst_of_shows_display shows

/-- A message shows messages of errors whose messages show one another. -/
theorem transGen_tellsOf
    {graph : Graph}
    {error : ErrorId}
    {shown : Request}
    (keeps : graph.KeepsVerbs)
    (reached : TransGen graph.Shows (.display, error) shown) :
    shown.1 = .display ∧ TransGen graph.TellsOf error shown.2 := by
  induction reached with
  | @single shown shows =>
      obtain ⟨verb, other⟩ := shown
      cases keeps.fst_of_shows_display shows
      exact ⟨rfl, .single shows⟩
  | @tail middle shown _ shows inductionHypothesis =>
      obtain ⟨verb, other⟩ := shown
      obtain ⟨middleVerb, owner⟩ := middle
      obtain ⟨isMessage, told⟩ := inductionHypothesis
      cases isMessage
      cases keeps.fst_of_shows_display shows
      exact ⟨rfl, .tail told shows⟩

/-- The circles behind the texts of an occurrence are circles of errors with formatters that nest
one another, and of messages that show one another. -/
theorem no_circle_iff
    {graph : Graph}
    {verb : Verb}
    {identity : ErrorId}
    {error : Occurrence}
    (keeps : graph.KeepsVerbs)
    (found : graph.occurrence? identity = some error) :
    (∀ shown,
        ReflTransGen graph.Shows (verb, identity) shown → ¬TransGen graph.Shows shown shown) ↔
      (∀ nested,
        ReflTransGen graph.Shows (verb, identity) (.alternate, nested) →
          ¬TransGen graph.Nests nested nested) ∧
        ∀ told,
          ReflTransGen graph.Shows (verb, identity) (.display, told) →
            ¬TransGen graph.TellsOf told told := by
  constructor
  · intro noCircle
    constructor
    · intro nested reached circle
      exact noCircle _ reached
        (TransGen.lift (Prod.mk Verb.alternate) (fun _ _ => shows_of_nests) _ _ circle)
    · intro told reached circle
      exact noCircle _ reached
        (TransGen.lift (Prod.mk Verb.display) (fun _ _ => id) _ _ circle)
  · rintro ⟨noneNested, noneTold⟩ ⟨shownVerb, shown⟩ reached circle
    rcases keeps.isNested_of_transGen found (TransGen.trans_right reached circle) with
      ⟨same, formatted⟩ | isMessage
    · cases same
      exact noneNested shown reached (keeps.transGen_nests formatted circle rfl)
    · cases isMessage
      exact noneTold shown reached (keeps.transGen_tellsOf circle).2

end KeepsVerbs

/-- A text ends exactly when no text behind it shows itself. -/
theorem isSome_block?_iff_no_circle
    {graph : Graph}
    (request : Request) :
    (graph.block? request.1 request.2).isSome = true ↔
      ∀ shown, ReflTransGen graph.Shows request shown → ¬TransGen graph.Shows shown shown := by
  constructor
  · intro found shown reached circle
    exact not_isSome_text?_of_circle circle (isSome_block?_of_reflTransGen found reached)
  · exact isSome_block?_of_no_circle

/-- A text of an error is what any number of steps finds, and it ends exactly when no text behind
it shows itself. As long as formatters and messages keep to the verb they were asked for, this
means that neither errors with formatters nest one another in a circle nor messages show one
another in a circle. -/
theorem text_ends_iff_no_circle
    (graph : Graph)
    (verb : Verb)
    (identity : ErrorId) :
    (∀ block,
        graph.block? verb identity = some block ↔
          ∃ steps, graph.text? steps verb identity = some block) ∧
      ((∃ block, graph.block? verb identity = some block) ↔
        ∀ shown,
          ReflTransGen graph.Shows (verb, identity) shown →
            ¬TransGen graph.Shows shown shown) ∧
      ∀ error,
        graph.KeepsVerbs →
          graph.occurrence? identity = some error →
          ((∃ block, graph.block? verb identity = some block) ↔
            (∀ nested,
              ReflTransGen graph.Shows (verb, identity) (.alternate, nested) →
                ¬TransGen graph.Nests nested nested) ∧
              ∀ told,
                ReflTransGen graph.Shows (verb, identity) (.display, told) →
                  ¬TransGen graph.TellsOf told told) := by
  have ends :
      (∃ block, graph.block? verb identity = some block) ↔
        ∀ shown,
          ReflTransGen graph.Shows (verb, identity) shown →
            ¬TransGen graph.Shows shown shown := by
    rw [← Option.isSome_iff_exists]
    exact isSome_block?_iff_no_circle (verb, identity)
  refine ⟨fun _ => block?_eq_some_iff, ends, ?_⟩
  intro error keeps found
  exact ends.trans (keeps.no_circle_iff found)

/-- A definition whose formatter falls back to the standard detailed text. -/
def briefDefinition (identity : Nat) : Definition :=
  .declare .standard identity ⟨"brief"⟩ [.noTrace, .formatter Formatter.debugOnly]

/-- Two occurrences that lead to each other over foreign errors; the formatters of both fall back
to the standard detailed text. -/
def formattedLoop : Graph where
  nodes :=
    #[.occurrence ⟨briefDefinition 0, "first", .single ⟨1⟩ none, []⟩,
      .foreign (Foreign.holding "Looping" "to second" ⟨2⟩),
      .occurrence ⟨briefDefinition 1, "second", .single ⟨3⟩ none, []⟩,
      .foreign (Foreign.holding "Looping" "to first" ⟨0⟩)]

/-- The formatters in the loop keep verbs, and so do its messages. -/
theorem keepsVerbs_formattedLoop :
    formattedLoop.KeepsVerbs where
  formatters := by
    intro identity error format snapshot verb other found formatter piece
    have member := Array.mem_of_getElem? (get?_of_occurrence?_eq_some found)
    have isBrief : error.definition.template.formatter = some Formatter.debugOnly := by
      simp only [formattedLoop, List.mem_toArray, List.mem_cons, Node.occurrence.injEq,
        reduceCtorEq, List.not_mem_nil, or_false, false_or] at member
      rcases member with rfl | rfl <;> rfl
    rw [isBrief] at formatter
    cases formatter
    cases verb <;> simp_all [Formatter.debugOnly]
  messages := by
    intro identity error verb inner found piece
    have member := Array.mem_of_getElem? found
    simp only [formattedLoop, List.mem_toArray, List.mem_cons, Node.foreign.injEq, reduceCtorEq,
      List.not_mem_nil, or_false, false_or] at member
    rcases member with rfl | rfl <;> simp [Foreign.holding] at piece

/-- The text of an occurrence in the loop ends exactly when the loop nests nothing in a circle. -/
theorem text_ends_iff_no_circle_formattedLoop :
    (∃ block, formattedLoop.block? .alternate ⟨0⟩ = some block) ↔
      (∀ nested,
        ReflTransGen formattedLoop.Shows (.alternate, ⟨0⟩) (.alternate, nested) →
          ¬TransGen formattedLoop.Nests nested nested) ∧
        ∀ told,
          ReflTransGen formattedLoop.Shows (.alternate, ⟨0⟩) (.display, told) →
            ¬TransGen formattedLoop.TellsOf told told :=
  (text_ends_iff_no_circle formattedLoop .alternate ⟨0⟩).2.2 _ keepsVerbs_formattedLoop rfl

/-- The detailed text of an occurrence can go on forever although every formatter falls back to the
standard text of the verb it was asked for. -/
theorem not_text_ends_of_keepsVerbs :
    ¬∀ (graph : Graph) (verb : Verb) (identity : ErrorId) (error : Occurrence),
      graph.KeepsVerbs →
        graph.occurrence? identity = some error →
        ∃ block, graph.block? verb identity = some block := by
  intro claimed
  obtain ⟨block, found⟩ := claimed formattedLoop .alternate ⟨0⟩ _ keepsVerbs_formattedLoop rfl
  have endless : formattedLoop.block? .alternate ⟨0⟩ = none := by
    cbv
  rw [endless] at found
  cases found

end Graph

end Fault
