import Fault.Proofs.RecoveredPanics
import Fault.Proofs.References

/-!
# References of recovered panics

The values that are made when a panic is recovered are put at new places. Of an occurrence that the
panic carried, the handle that is kept leads to a new value. The loop of a walk does not notice:
from the new error it goes on to the recovered panic and from there over the very references that
it follows from the error itself.
-/

namespace Fault

/-- The handle that a recovered panic keeps of the error that its payload refers to. A handle that
is shared is kept as it is, and of an occurrence another value is put at a new place. -/
def Payload.handle
    (payload : Payload)
    (held : Reference)
    (place : Nat) :
    Reference :=
  match payload with
  | .occurrence _ => ⟨place, held.error⟩
  | _ => held

namespace Graph

/-! ## Identities in a graph that grew -/

/-- Errors that are there stay what they are when a graph grows. -/
theorem GrowsTo.get?_eq
    {earlier later : Graph}
    (grows : earlier.GrowsTo later)
    {identity : ErrorId}
    (inGraph : identity.index < earlier.size) :
    later.get? identity = earlier.get? identity := by
  have found : earlier.get? identity = some earlier.nodes[identity.index] :=
    Array.getElem?_eq_getElem inGraph
  rw [grows identity _ found, found]

/-- References to errors that are there are recognised as before when a graph grows. -/
theorem GrowsTo.identity?_eq
    {earlier later : Graph}
    (grows : earlier.GrowsTo later)
    {reference : Reference}
    (inGraph : reference.error.index < earlier.size) :
    later.identity? reference = earlier.identity? reference := by
  simp only [identity?, grows.get?_eq inGraph]

namespace Carries

variable {graph : Graph} {payload : Payload} {error : ErrorId} {held : Reference}

/-- The handle of a recovered panic refers to the error that the panic carried. -/
theorem error_handle
    (carries : graph.Carries payload error)
    (isHeld : held.error = error)
    (place : Nat) :
    (payload.handle held place).error = error := by
  cases carries <;> exact isHeld

/-- The handle is recognised as the error that the payload refers to. -/
theorem identity?_handle
    (carries : graph.Carries payload error)
    (isHeld : held.error = error)
    (place : Nat) :
    graph.identity? (payload.handle held place) = graph.identity? held := by
  cases carries with
  | shared inGraph =>
      rfl
  | occurrence isOccurrence =>
      subst isHeld
      rw [identity?_of_occurrence isOccurrence]
      exact identity?_of_occurrence isOccurrence

end Carries

namespace Layout

/-! ## The new values -/

variable
  {graph after : Graph}
  {occasion : Occasion}
  {payload : Payload}
  {created panic error : ErrorId}
  {layout : graph.Layout}
  {held reference first second : Reference}
  {place clone : Nat}

/-- The references that are in use after a panic was recovered: those from before, the one to the
recovered panic, and any number of them to occurrences. -/
def InUseAfter
    (layout : graph.Layout)
    (after : Graph)
    (panic : Reference)
    (reference : Reference) :
    Prop :=
  layout.InUse reference ∨ reference = panic ∨ (after.occurrence? reference.error).isSome

/-- References in use after a recovery lead to errors of the new graph. -/
theorem index_lt_of_inUseAfter
    (recovery : graph.IsRecovery occasion payload created panic after)
    (inUse : layout.InUseAfter after ⟨place, panic⟩ reference) :
    reference.error.index < after.size := by
  rcases inUse with earlier | rfl | isOccurrence
  · have inGraph := layout.inGraph reference earlier
    have size_eq := recovery.size_eq
    omega
  · exact index_lt_size_of_get?_eq_some recovery.isPanic
  · obtain ⟨found, isFound⟩ := Option.isSome_iff_exists.mp isOccurrence
    exact index_lt_size_of_get?_eq_some (get?_of_occurrence?_eq_some isFound)

/-- The recovered panic is recognised by its place and its type. -/
theorem identity?_panic
    (recovery : graph.IsRecovery occasion payload created panic after)
    (place : Nat) :
    after.identity? ⟨place, panic⟩ = some (.placed place "errdef::panic::PanicError") := by
  simp [identity?, recovery.isPanic, Node.typeName]

/-- The new error is recognised wherever it is. -/
theorem identity?_created
    (recovery : graph.IsRecovery occasion payload created panic after)
    (place : Nat) :
    after.identity? ⟨place, created⟩ = some (.shared created) := by
  simp [identity?, recovery.isCreated]

/-- The handle is in use: it is the reference that the panic carried, or leads to an occurrence. -/
theorem inUseAfter_handle
    (recovery : graph.IsRecovery occasion payload created panic after)
    (carries : graph.Carries payload error)
    (heldInUse : layout.InUse held)
    (isHeld : held.error = error)
    (place clone : Nat) :
    layout.InUseAfter after ⟨place, panic⟩ (payload.handle held clone) := by
  cases carries with
  | shared inGraph =>
      exact .inl heldInUse
  | occurrence isOccurrence =>
      have kept : after.occurrence? error = graph.occurrence? error := by
        simp only [occurrence?,
          recovery.grows.get?_eq
            (index_lt_size_of_get?_eq_some (get?_of_occurrence?_eq_some isOccurrence))]
      exact .inr (.inr (by simp [Payload.handle, isHeld, kept, isOccurrence]))

/-- A reference from before is not recognised as the recovered panic. -/
theorem identity?_ne_panic
    (recovery : graph.IsRecovery occasion payload created panic after)
    (free : ∀ reference, layout.InUse reference → reference.place ≠ place)
    (inUse : layout.InUse reference) :
    after.identity? reference ≠ after.identity? ⟨place, panic⟩ := by
  intro same
  rw [identity?_panic recovery] at same
  exact free reference inUse (place_of_identity? same)

/-- A reference that is in use after a panic was recovered, and does not lead to an occurrence, was
in use before or leads to the recovered panic. -/
theorem earlier_or_panic
    {panicReference : Reference}
    (inUse : layout.InUseAfter after panicReference reference)
    (plain : after.occurrence? reference.error = none) :
    layout.InUse reference ∨ reference = panicReference := by
  simpa [InUseAfter, plain] using inUse

/-- After a recovery, references that are recognised alike still refer to one error. -/
theorem error_eq_of_inUseAfter
    (recovery : graph.IsRecovery occasion payload created panic after)
    (free : ∀ reference, layout.InUse reference → reference.place ≠ place)
    (firstInUse : layout.InUseAfter after ⟨place, panic⟩ first)
    (secondInUse : layout.InUseAfter after ⟨place, panic⟩ second)
    (identified : after.isIdentified first.error = true)
    (same : after.identity? first = after.identity? second) :
    first.error = second.error := by
  -- An occurrence is recognised by itself, whatever the other reference is.
  rcases Option.eq_none_or_eq_some (after.occurrence? first.error) with firstPlain | ⟨_, found⟩
  case inr =>
    exact (error_of_identity? (same ▸ identity?_of_occurrence found)).symm
  rcases Option.eq_none_or_eq_some (after.occurrence? second.error) with secondPlain | ⟨_, found⟩
  case inr =>
    exact error_of_identity? (same ▸ identity?_of_occurrence found)
  rcases earlier_or_panic firstInUse firstPlain with firstEarlier | rfl
  · rcases earlier_or_panic secondInUse secondPlain with secondEarlier | rfl
    · rw [← isSome_identity?] at identified
      rw [recovery.grows.identity?_eq (layout.inGraph first firstEarlier)] at identified same
      rw [recovery.grows.identity?_eq (layout.inGraph second secondEarlier)] at same
      rw [isSome_identity?] at identified
      exact layout.error_eq first second firstEarlier secondEarlier identified same
    · exact absurd same (identity?_ne_panic recovery free firstEarlier)
  · rcases earlier_or_panic secondInUse secondPlain with secondEarlier | rfl
    · exact absurd same.symm (identity?_ne_panic recovery free secondEarlier)
    · rfl

/-- After a recovery, an error that is recognised by its place still has one place only. -/
theorem place_eq_of_inUseAfter
    (recovery : graph.IsRecovery occasion payload created panic after)
    (firstInUse : layout.InUseAfter after ⟨place, panic⟩ first)
    (secondInUse : layout.InUseAfter after ⟨place, panic⟩ second)
    (same : first.error = second.error)
    (identified : after.isIdentified first.error = true)
    (plain : after.occurrence? first.error = none) :
    first.place = second.place := by
  have panicIndex := recovery.panicIndex
  rcases earlier_or_panic firstInUse plain with firstEarlier | rfl
  · have firstInGraph := layout.inGraph first firstEarlier
    rcases earlier_or_panic secondInUse (same ▸ plain) with secondEarlier | rfl
    · have unchanged := recovery.grows.get?_eq firstInGraph
      simp only [isIdentified, occurrence?, unchanged] at identified plain
      exact layout.place_eq first second firstEarlier secondEarlier same identified plain
    · simp only [same] at firstInGraph
      omega
  · rcases earlier_or_panic secondInUse (same ▸ plain) with secondEarlier | rfl
    · have secondInGraph := layout.inGraph second secondEarlier
      simp only [← same] at secondInGraph
      omega
    · rfl

/-- The references of errors to their causes after a panic was recovered. -/
def linksAfter
    (layout : graph.Layout)
    (payload : Payload)
    (created panic : ErrorId)
    (held : Reference)
    (place clone : Nat)
    (other : ErrorId) :
    List Reference :=
  if other = created then [⟨place, panic⟩]
  else if other = panic then [payload.handle held clone]
  else layout.links other

theorem linksAfter_created :
    layout.linksAfter payload created panic held place clone created = [⟨place, panic⟩] :=
  if_pos rfl

theorem linksAfter_panic (distinct : panic ≠ created) :
    layout.linksAfter payload created panic held place clone panic =
      [payload.handle held clone] := by
  simp [linksAfter, distinct]

theorem linksAfter_of_ne
    {other : ErrorId}
    (notCreated : other ≠ created)
    (notPanic : other ≠ panic) :
    layout.linksAfter payload created panic held place clone other = layout.links other := by
  simp [linksAfter, notCreated, notPanic]

/-- An error is one of the new ones, or its references are as before. -/
theorem linksAfter_cases
    (layout : graph.Layout)
    (payload : Payload)
    (held : Reference)
    (place clone : Nat)
    (distinct : panic ≠ created)
    (other : ErrorId) :
    (other = created ∧
        layout.linksAfter payload created panic held place clone other = [⟨place, panic⟩]) ∨
      (other = panic ∧
        layout.linksAfter payload created panic held place clone other =
          [payload.handle held clone]) ∨
      (other ≠ created ∧ other ≠ panic ∧
        layout.linksAfter payload created panic held place clone other = layout.links other) := by
  by_cases isCreated : other = created
  · subst isCreated
    exact .inl ⟨rfl, linksAfter_created⟩
  · by_cases isPanic : other = panic
    · subst isPanic
      exact .inr (.inl ⟨rfl, linksAfter_panic distinct⟩)
    · exact .inr (.inr ⟨isCreated, isPanic, linksAfter_of_ne isCreated isPanic⟩)

/-- The references after a recovery lead to the causes in the new graph. -/
theorem error_linksAfter
    (recovery : graph.IsRecovery occasion payload created panic after)
    (closed : graph.IsClosed)
    (visible : occasion.definition.isBoundary = false)
    (carries : graph.Carries payload error)
    (isHeld : held.error = error)
    (other : ErrorId) :
    (layout.linksAfter payload created panic held place clone other).map Reference.error =
      after.causes other := by
  rcases layout.linksAfter_cases payload held place clone recovery.panic_ne_created other with
    ⟨rfl, links⟩ | ⟨rfl, links⟩ | ⟨notCreated, notPanic, links⟩
  · simp only [links, recovery.causes_created visible, List.map_cons, List.map_nil]
  · simp only [links, recovery.causes_panic carries, List.map_cons, List.map_nil,
      carries.error_handle isHeld]
  · simp only [links, recovery.causes_of_ne closed notCreated notPanic, layout.error_links]

/-- The references after a recovery are in use. -/
theorem inUse_linksAfter
    (recovery : graph.IsRecovery occasion payload created panic after)
    (carries : graph.Carries payload error)
    (heldInUse : layout.InUse held)
    (isHeld : held.error = error)
    (other : ErrorId)
    (reference : Reference)
    (isLink : reference ∈ layout.linksAfter payload created panic held place clone other) :
    layout.InUseAfter after ⟨place, panic⟩ reference := by
  rcases layout.linksAfter_cases payload held place clone recovery.panic_ne_created other with
    ⟨_, links⟩ | ⟨_, links⟩ | ⟨_, _, links⟩
  · rw [links, List.mem_singleton] at isLink
    exact .inr (.inl isLink)
  · rw [links, List.mem_singleton] at isLink
    exact isLink ▸ inUseAfter_handle recovery carries heldInUse isHeld place clone
  · exact .inl (layout.inUse_links other reference (links ▸ isLink))

/-- What a layout is after a panic was recovered: the new error refers to the recovered panic at its
new place, and this one to the error by its handle. -/
structure IsRecovery
    (layout : graph.Layout)
    (payload : Payload)
    (created panic : ErrorId)
    (held : Reference)
    (place clone : Nat)
    (later : after.Layout) :
    Prop where
  inUse : ∀ reference, layout.InUse reference → later.InUse reference
  inUse_created : ∀ start, later.InUse ⟨start, created⟩
  links_created : later.links created = [⟨place, panic⟩]
  links_panic : later.links panic = [payload.handle held clone]
  links_eq : ∀ other, other ≠ created → other ≠ panic → later.links other = layout.links other

/-- Where the recovered panic is put at a place that nothing else takes up, there is such a
layout. -/
theorem exists_isRecovery
    (recovery : graph.IsRecovery occasion payload created panic after)
    (closed : graph.IsClosed)
    (visible : occasion.definition.isBoundary = false)
    (carries : graph.Carries payload error)
    (heldInUse : layout.InUse held)
    (isHeld : held.error = error)
    (free : ∀ reference, layout.InUse reference → reference.place ≠ place)
    (clone : Nat) :
    ∃ later : after.Layout, layout.IsRecovery payload created panic held place clone later := by
  let later : after.Layout :=
    { InUse := layout.InUseAfter after ⟨place, panic⟩
      inGraph := fun _ inUse => index_lt_of_inUseAfter recovery inUse
      links := layout.linksAfter payload created panic held place clone
      error_links := error_linksAfter recovery closed visible carries isHeld
      inUse_links := inUse_linksAfter recovery carries heldInUse isHeld
      error_eq := fun _ _ firstInUse secondInUse =>
        error_eq_of_inUseAfter recovery free firstInUse secondInUse
      place_eq := fun _ _ firstInUse secondInUse =>
        place_eq_of_inUseAfter recovery firstInUse secondInUse }
  refine ⟨later, ?_⟩
  constructor
  case inUse =>
    intro reference earlier
    exact .inl earlier
  case inUse_created =>
    intro start
    exact .inr (.inr (by simp [occurrence?, recovery.isCreated, Node.occurrence?]))
  case links_created =>
    exact linksAfter_created
  case links_panic =>
    exact linksAfter_panic recovery.panic_ne_created
  case links_eq =>
    intro other notCreated notPanic
    exact linksAfter_of_ne notCreated notPanic

/-! ## The loop of a walk -/

/-- The loop goes on as before where the layout did, and where what else was seen is recognised as
nothing that was in use. -/
theorem Walks.grow
    {later : after.Layout}
    {seen extra : List Identity}
    {pending visited : List Reference}
    (walks : layout.Walks seen pending visited)
    (recognised_eq :
      ∀ reference, layout.InUse reference → after.identity? reference = graph.identity? reference)
    (links_eq :
      ∀ reference, layout.InUse reference →
        later.links reference.error = layout.links reference.error)
    (apart :
      ∀ reference identity,
        layout.InUse reference → graph.identity? reference = some identity → identity ∉ extra)
    (inUse : ∀ reference ∈ pending, layout.InUse reference) :
    later.Walks (seen ++ extra) pending visited := by
  induction walks with
  | done seen =>
      exact .done _
  | again recognised seenBefore further inductionHypothesis =>
      obtain ⟨firstInUse, restInUse⟩ := List.forall_mem_cons.mp inUse
      exact .again ((recognised_eq _ firstInUse).trans recognised)
        (List.mem_append_left extra seenBefore) (inductionHypothesis restInUse)
  | enter recognised new further inductionHypothesis =>
      obtain ⟨firstInUse, restInUse⟩ := List.forall_mem_cons.mp inUse
      have stillNew := List.not_mem_append new (apart _ _ firstInUse recognised)
      have onward := inductionHypothesis (inUse_links_append _ restInUse)
      rw [← links_eq _ firstInUse] at onward
      exact .enter ((recognised_eq _ firstInUse).trans recognised) stillNew onward
  | anonymous unrecognised further inductionHypothesis =>
      obtain ⟨firstInUse, restInUse⟩ := List.forall_mem_cons.mp inUse
      have onward := inductionHypothesis (inUse_links_append _ restInUse)
      rw [← links_eq _ firstInUse] at onward
      exact .anonymous ((recognised_eq _ firstInUse).trans unrecognised) onward

/-- What the references show of an error that was carried by a panic, once the panic was
recovered. -/
structure KeepsHandle
    (layout : graph.Layout)
    (payload : Payload)
    (created panic : ErrorId)
    (held : Reference)
    (place clone : Nat)
    (later : after.Layout) :
    Prop where
  /-- A reference that was in use is recognised as before. -/
  identity?_eq :
    ∀ reference, layout.InUse reference → after.identity? reference = graph.identity? reference
  /-- The handle is recognised as the error that the panic carried. -/
  identity?_handle : after.identity? (payload.handle held clone) = graph.identity? held
  /-- From the new error the loop goes to the recovered panic and on to the handle, and then over
  the references that it follows from the error itself. -/
  walks :
    ∀ start, ∃ rest,
      layout.Walks [] [held] (held :: rest) ∧
        (held :: rest).map Reference.error = graph.chain held.error ∧
        later.Walks [] [⟨start, created⟩]
          (⟨start, created⟩ :: ⟨place, panic⟩ :: payload.handle held clone :: rest)

namespace IsRecovery

variable {later : after.Layout}

/-- Nothing that was in use is recognised as one of the new errors. -/
theorem apart
    (layoutRecovery : layout.IsRecovery payload created panic held place clone later)
    (recovery : graph.IsRecovery occasion payload created panic after)
    {identity : Identity}
    (inUse : layout.InUse reference)
    (recognised : graph.identity? reference = some identity) :
    identity ∉ [.placed place "errdef::panic::PanicError", .shared created] := by
  have kept := recovery.grows.identity?_eq (layout.inGraph reference inUse)
  have identified : after.isIdentified reference.error = true :=
    isIdentified_of_identity? (kept.trans recognised)
  obtain ⟨notCreated, notPanic⟩ := recovery.ne_of_index_lt_size (layout.inGraph reference inUse)
  have panicInUse : later.InUse ⟨place, panic⟩ :=
    later.inUse_links created _ (by simp [layoutRecovery.links_created])
  simp only [List.mem_cons, List.not_mem_nil, or_false, not_or]
  constructor
  · rintro rfl
    refine notPanic (later.error_eq reference ⟨place, panic⟩ (layoutRecovery.inUse _ inUse)
      panicInUse identified ?_)
    rw [kept, recognised, identity?_panic recovery]
  · rintro rfl
    exact notCreated (error_of_identity? recognised)

/-- A recovery keeps the handle: it is recognised, and the walk goes on from it as it did. -/
theorem keepsHandle
    (layoutRecovery : layout.IsRecovery payload created panic held place clone later)
    (recovery : graph.IsRecovery occasion payload created panic after)
    (carries : graph.Carries payload error)
    (heldInUse : layout.InUse held)
    (isHeld : held.error = error) :
    layout.KeepsHandle payload created panic held place clone later := by
  have handleError : (payload.handle held clone).error = held.error :=
    (carries.error_handle isHeld clone).trans isHeld.symm
  have recognised_eq :
      ∀ reference, layout.InUse reference →
        after.identity? reference = graph.identity? reference :=
    fun reference inUse => recovery.grows.identity?_eq (layout.inGraph reference inUse)
  have handleRecognised : after.identity? (payload.handle held clone) = graph.identity? held := by
    have inGraph : (payload.handle held clone).error.index < graph.size :=
      handleError ▸ layout.inGraph held heldInUse
    rw [recovery.grows.identity?_eq inGraph, carries.identity?_handle isHeld]
  have links_eq :
      ∀ reference, layout.InUse reference →
        later.links reference.error = layout.links reference.error := by
    intro reference inUse
    obtain ⟨notCreated, notPanic⟩ := recovery.ne_of_index_lt_size (layout.inGraph reference inUse)
    exact layoutRecovery.links_eq _ notCreated notPanic
  have handleLinks :
      later.links (payload.handle held clone).error = layout.links held.error := by
    rw [handleError, links_eq held heldInUse]
  -- Behind the handle the loop goes on as before.
  have onward :
      ∀ {seen rest},
        layout.Walks seen (layout.links held.error ++ []) rest →
          later.Walks (seen ++ [.placed place "errdef::panic::PanicError", .shared created])
            (later.links (payload.handle held clone).error ++ []) rest := by
    intro seen rest further
    rw [handleLinks]
    exact further.grow recognised_eq links_eq
      (fun _ _ inUse found => layoutRecovery.apart recovery inUse found)
      (inUse_links_append held.error (by simp))
  refine ⟨recognised_eq, handleRecognised, fun start => ?_⟩
  obtain ⟨visited, before⟩ :=
    layout.exists_walks layout.marks_nil (List.forall_mem_singleton.mpr heldInUse)
  have isChain := before.map_error_eq_chain heldInUse
  -- Before it, there are the steps at the new error and at the recovered panic.
  have behind :
      ∀ {visited},
        later.Walks
            [.placed place "errdef::panic::PanicError", .shared created]
            [payload.handle held clone] visited →
          later.Walks [] [⟨start, created⟩] (⟨start, created⟩ :: ⟨place, panic⟩ :: visited) := by
    intro visited further
    refine .enter (identity?_created recovery start) (by simp) ?_
    rw [layoutRecovery.links_created]
    refine .enter (identity?_panic recovery place) (by simp) ?_
    rw [layoutRecovery.links_panic]
    exact further
  -- The loop takes the same step at the handle as at the error itself.
  cases before with
  | again recognised seenBefore further =>
      cases seenBefore
  | @enter _ _ _ rest identity recognised new further =>
      have step :=
        Walks.enter (handleRecognised.trans recognised)
          (layoutRecovery.apart recovery heldInUse recognised) (onward further)
      exact ⟨rest, .enter recognised new further, isChain, behind step⟩
  | @anonymous _ _ _ rest unrecognised further =>
      have step := Walks.anonymous (handleRecognised.trans unrecognised) (onward further)
      exact ⟨rest, .anonymous unrecognised further, isChain, behind step⟩

end IsRecovery

end Layout

end Graph

end Fault
