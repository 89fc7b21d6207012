import Fault.Proofs.ClaimSteps

/-!
# Recovered panics

A panic can carry an error. When it is recovered, the graph grows by a recovered panic, which holds
the payload and leads to the error, and by an occurrence around it. The chain of the new error goes
over the recovered panic to the chain of the error that the panic carried.
-/

namespace Fault.Graph

/-- Whether a payload is an error of a graph: a handle to an error of any type, or an occurrence. -/
inductive Carries (graph : Graph) : Payload → ErrorId → Prop where
  | shared
      {error : ErrorId}
      (inGraph : error.index < graph.size) :
      Carries graph (.shared error) error
  | occurrence
      {error : ErrorId}
      {found : Occurrence}
      (isOccurrence : graph.occurrence? error = some found) :
      Carries graph (.occurrence error) error

namespace Carries

variable {graph : Graph} {payload : Payload} {error : ErrorId}

theorem index_lt_size (carries : graph.Carries payload error) :
    error.index < graph.size := by
  cases carries with
  | shared inGraph =>
      exact inGraph
  | occurrence isOccurrence =>
      exact index_lt_size_of_get?_eq_some (get?_of_occurrence?_eq_some isOccurrence)

theorem error?_eq (carries : graph.Carries payload error) :
    payload.error? = some error := by
  cases carries <;> rfl

theorem describe_eq (carries : graph.Carries payload error) :
    payload.describe graph.message = graph.message error := by
  cases carries <;> rfl

end Carries

/-! ## The new errors -/

/-- What a graph is after a panic was recovered in it: it has a recovered panic and an occurrence
around it, and everything else is as before. -/
structure IsRecovery
    (graph : Graph)
    (occasion : Occasion)
    (payload : Payload)
    (created panic : ErrorId)
    (after : Graph) :
    Prop where
  grows : graph.GrowsTo after
  size_eq : after.size = graph.size + 2
  panicIndex : panic.index = graph.size
  createdIndex : created.index = graph.size + 1
  isPanic :
    after.get? panic =
      some (.recovered ⟨payload.describe graph.message, some payload, payload.error?⟩)
  isCreated :
    after.get? created =
      some (.occurrence
        ⟨occasion.definition, "panic: " ++ payload.describe graph.message,
          .single panic (some "errdef::panic::PanicError"), occasion.stack⟩)

/-- To recover a panic leads to what a recovery is. -/
theorem isRecovery_recover
    (graph : Graph)
    (occasion : Occasion)
    (payload : Payload) :
    graph.IsRecovery occasion payload (graph.recover occasion payload).1
      (graph.recoverPayload payload).1 (graph.recover occasion payload).2 := by
  have found :
      (graph.recoverPayload payload).2.get? (graph.recoverPayload payload).1 =
        some (.recovered ⟨payload.describe graph.message, some payload, payload.error?⟩) :=
    graph.get?_add _
  have recovered :
      graph.recover occasion payload =
        (graph.recoverPayload payload).2.add
          (.occurrence
            ⟨occasion.definition, "panic: " ++ payload.describe graph.message,
              .single (graph.recoverPayload payload).1 (some "errdef::panic::PanicError"),
              occasion.stack⟩) := by
    simp only [recover, wrapWith, raise, causeOf, found, Option.map_some, Node.typeName, if_true]
  simp only [recovered]
  constructor
  case grows =>
    exact (graph.growsTo_add _).trans (growsTo_add _ _)
  case size_eq =>
    simp [add, recoverPayload, size]
  case panicIndex =>
    rfl
  case createdIndex =>
    simp [add, recoverPayload, size]
  case isPanic =>
    exact growsTo_add _ _ _ _ found
  case isCreated =>
    exact get?_add _ _

namespace IsRecovery

variable
  {graph after : Graph}
  {occasion : Occasion}
  {payload : Payload}
  {created panic error : ErrorId}

/-- The errors that were there before are not the new ones. -/
theorem ne_of_index_lt_size
    (recovery : graph.IsRecovery occasion payload created panic after)
    {other : ErrorId}
    (inGraph : other.index < graph.size) :
    other ≠ created ∧ other ≠ panic := by
  have createdIndex := recovery.createdIndex
  have panicIndex := recovery.panicIndex
  constructor
  · rintro rfl
    omega
  · rintro rfl
    omega

/-- The recovered panic and the error around it are two errors. -/
theorem panic_ne_created (recovery : graph.IsRecovery occasion payload created panic after) :
    panic ≠ created := by
  have createdIndex := recovery.createdIndex
  have panicIndex := recovery.panicIndex
  rintro rfl
  omega

/-- A graph looks the same after a recovery, as far as its errors were there before. -/
theorem looksLike
    (recovery : graph.IsRecovery occasion payload created panic after)
    (closed : graph.IsClosed) :
    graph.LooksLike (fun identity => identity.index < graph.size) after :=
  closed.looksLike_of_growsTo recovery.grows

/-- The new error leads to the recovered panic, and nowhere else. -/
theorem causes_created
    (recovery : graph.IsRecovery occasion payload created panic after)
    (visible : occasion.definition.isBoundary = false) :
    after.causes created = [panic] := by
  simp [causes, links, recovery.isCreated, occurrenceLinks, visible]

/-- The recovered panic leads to the error that was carried. -/
theorem causes_panic
    (recovery : graph.IsRecovery occasion payload created panic after)
    (carries : graph.Carries payload error) :
    after.causes panic = [error] := by
  simp [causes, links, recovery.isPanic, carries.error?_eq, Link.untyped]

/-- The new error leads to the recovered panic, and this to the error that the panic carried. -/
theorem chain_created
    (recovery : graph.IsRecovery occasion payload created panic after)
    (closed : graph.IsClosed)
    (visible : occasion.definition.isBoundary = false)
    (carries : graph.Carries payload error) :
    after.chain created = created :: panic :: graph.chain error := by
  have createdIdentified : after.isIdentified created = true := by
    simp [isIdentified, recovery.isCreated, Node.isMarker]
  have panicIdentified : after.isIdentified panic = true := by
    simp [isIdentified, recovery.isPanic, Node.isMarker]
  have panicNew := recovery.panic_ne_created
  -- Nothing behind the error leads to the new errors, so that they were seen makes no difference.
  have behind : after.walk [panic, created] [error] = graph.chain error := by
    rw [← (recovery.looksLike closed).walk_eq (by simpa using carries.index_lt_size)]
    refine walk_congr fun other identified => ?_
    obtain ⟨notCreated, notPanic⟩ := recovery.ne_of_index_lt_size (index_lt_size identified)
    simp [notCreated, notPanic]
  rw [chain, walk, dif_pos createdIdentified, dif_neg (by simp), recovery.causes_created visible,
    List.append_nil, walk, dif_pos panicIdentified, dif_neg (by simpa using panicNew),
    recovery.causes_panic carries, List.append_nil, behind]

/-- All errors but the two new ones have the causes that they had. -/
theorem causes_of_ne
    (recovery : graph.IsRecovery occasion payload created panic after)
    (closed : graph.IsClosed)
    {other : ErrorId}
    (notCreated : other ≠ created)
    (notPanic : other ≠ panic) :
    after.causes other = graph.causes other := by
  by_cases inGraph : other.index < graph.size
  · exact ((recovery.looksLike closed).causes_eq inGraph).symm
  · have outside : after.size ≤ other.index := by
      have createdIndex := recovery.createdIndex
      have panicIndex := recovery.panicIndex
      have size_eq := recovery.size_eq
      by_contra inside
      rcases (by omega : other.index = created.index ∨ other.index = panic.index) with same | same
      · exact notCreated (congrArg ErrorId.mk same)
      · exact notPanic (congrArg ErrorId.mk same)
    rw [causes_eq_nil_of_size_le outside, causes_eq_nil_of_size_le (Nat.le_of_not_lt inGraph)]

end IsRecovery

end Fault.Graph
