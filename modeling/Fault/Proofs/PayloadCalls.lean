import Fault.Panic.Access
import Fault.Proofs.RecoveredReferences
import Fault.Proofs.TakenPayloads

/-!
# Calls on recovered panics

A program that found a recovered panic can take the payload, look at it, or read its data as one of
some type. A call goes by the payload that is held and, if it takes it, leaves none. So every call
of a sequence sees the payload if and only if none before it took it, and what the graph is without
its payloads stays the same. An error that a panic carried is reached by the other copy that the
recovered panic holds of it, so that it stays reachable whatever is called.
-/

namespace Fault

/-- A call on a recovered panic: take the payload, make something of it, or read its data. -/
inductive PayloadCall where
  | take
  | withPayload {α : Type} (look : Option Payload → α)
  | payloadAs {α : Type} (read? : Payload → Option α)

namespace PayloadCall

/-- The type of what a call returns. -/
def Answer : PayloadCall → Type
  | .take => Option Payload
  | @withPayload α _ => α
  | @payloadAs α _ => Option α

def isTake : PayloadCall → Bool
  | .take => true
  | _ => false

/-- What a call returns that sees a payload, or sees none. -/
def answer
    (seen : Option Payload) :
    (call : PayloadCall) → call.Answer
  | .take => seen
  | .withPayload look => look seen
  | .payloadAs read? => seen.bind read?

/-- What is left of a payload after calls: all of it, unless one of them took it. -/
def left
    (held : Option Payload)
    (calls : List PayloadCall) :
    Option Payload :=
  if calls.any isTake then none else held

end PayloadCall

/-- A call together with what it returned. -/
structure AnsweredCall where
  call : PayloadCall
  answer : call.Answer

namespace Graph

/-- Carry out a call: what it returns, and the graph after it. -/
def answerCall
    (graph : Graph)
    (panic : ErrorId) :
    (call : PayloadCall) → call.Answer × Graph
  | .take => graph.takePayload panic
  | .withPayload look => (graph.withPayload panic look, graph)
  | .payloadAs read? => (graph.payloadAs panic read?, graph)

/-- Carry out calls one after another: what each of them returned, and the graph after all. -/
def runCalls
    (graph : Graph)
    (panic : ErrorId) :
    List PayloadCall → List AnsweredCall × Graph
  | [] => ([], graph)
  | call :: rest =>
      let (answer, next) := graph.answerCall panic call
      let (answers, last) := next.runCalls panic rest
      (⟨call, answer⟩ :: answers, last)

section Calls

variable (graph : Graph) (panic : ErrorId)

/-! ## One call -/

/-- To take the payload returns the one that is held. -/
theorem takePayload_fst :
    (graph.takePayload panic).1 = graph.heldPayload? panic := by
  simp only [takePayload, heldPayload?]
  cases graph.recovered? panic <;> rfl

/-- A payload is taken by putting the same panic without it in the place of the panic. -/
theorem takePayload_snd
    {graph : Graph}
    {panic : ErrorId}
    {recovered : Recovered}
    (found : graph.recovered? panic = some recovered) :
    (graph.takePayload panic).2 =
      graph.replace panic (.recovered { recovered with payload := none }) := by
  simp only [takePayload, found]

/-- A recovered panic that is found is an error of the graph. -/
theorem get?_of_recovered?
    {graph : Graph}
    {panic : ErrorId}
    {recovered : Recovered}
    (found : graph.recovered? panic = some recovered) :
    graph.get? panic = some (.recovered recovered) := by
  obtain ⟨node, isNode, isRecovered⟩ := Option.bind_eq_some_iff.mp found
  cases node <;> cases isRecovered
  exact isNode

/-- An error that replaces another one is found under its identity. -/
theorem get?_replace_self
    {graph : Graph}
    {identity : ErrorId}
    (inGraph : identity.index < graph.size)
    (node : Node) :
    (graph.replace identity node).get? identity = some node := by
  simp only [replace, get?, Array.getElem?_setIfInBounds_self]
  exact if_pos inGraph

/-- An error that differs from another one by its payload only can replace it unseen. -/
theorem withoutPayloads_replace
    {graph : Graph}
    {identity : ErrorId}
    {old new : Node}
    (found : graph.get? identity = some old)
    (same : new.withoutPayload = old.withoutPayload) :
    (graph.replace identity new).withoutPayloads = graph.withoutPayloads := by
  refine congrArg Graph.mk (Array.ext_getElem? fun index => ?_)
  simp only [replace, Array.getElem?_map, Array.getElem?_setIfInBounds]
  split
  case isTrue here =>
    subst here
    have inGraph : identity.index < graph.nodes.size := index_lt_size_of_get?_eq_some found
    rw [if_pos inGraph, Option.map_some, same]
    exact (congrArg (Option.map Node.withoutPayload) found).symm
  case isFalse =>
    rfl

/-- After a payload was taken none is held. -/
theorem heldPayload?_takePayload :
    (graph.takePayload panic).2.heldPayload? panic = none := by
  cases found : graph.recovered? panic with
  | none =>
      simp only [takePayload, found, heldPayload?, Option.bind_none]
  | some recovered =>
      have inGraph := index_lt_size_of_get?_eq_some (get?_of_recovered? found)
      simp only [takePayload_snd found, heldPayload?, recovered?, get?_replace_self inGraph,
        Option.bind_some, Node.recovered?]

/-- To take a payload changes nothing but the payload. -/
theorem withoutPayloads_takePayload :
    (graph.takePayload panic).2.withoutPayloads = graph.withoutPayloads := by
  cases found : graph.recovered? panic with
  | none =>
      simp only [takePayload, found]
  | some recovered =>
      rw [takePayload_snd found]
      exact withoutPayloads_replace (get?_of_recovered? found) rfl

/-- A call returns what it has to where it sees what is held. -/
theorem answerCall_fst (call : PayloadCall) :
    (graph.answerCall panic call).1 = call.answer (graph.heldPayload? panic) := by
  cases call with
  | take =>
      exact graph.takePayload_fst panic
  | withPayload look =>
      rfl
  | payloadAs read? =>
      rfl

/-- After a call the payload is held that the call leaves. -/
theorem heldPayload?_answerCall (call : PayloadCall) :
    (graph.answerCall panic call).2.heldPayload? panic =
      PayloadCall.left (graph.heldPayload? panic) [call] := by
  cases call with
  | take =>
      exact graph.heldPayload?_takePayload panic
  | withPayload look =>
      rfl
  | payloadAs read? =>
      rfl

/-- A call changes nothing but the payload. -/
theorem withoutPayloads_answerCall (call : PayloadCall) :
    (graph.answerCall panic call).2.withoutPayloads = graph.withoutPayloads := by
  cases call with
  | take =>
      exact graph.withoutPayloads_takePayload panic
  | withPayload look =>
      rfl
  | payloadAs read? =>
      rfl

/-! ## Sequences of calls -/

@[simp] theorem length_runCalls (calls : List PayloadCall) :
    (graph.runCalls panic calls).1.length = calls.length := by
  induction calls generalizing graph with
  | nil =>
      rfl
  | cons call rest inductionHypothesis =>
      simp only [runCalls, List.length_cons, inductionHypothesis]

theorem runCalls_append (earlier later : List PayloadCall) :
    graph.runCalls panic (earlier ++ later) =
      ((graph.runCalls panic earlier).1 ++
          ((graph.runCalls panic earlier).2.runCalls panic later).1,
        ((graph.runCalls panic earlier).2.runCalls panic later).2) := by
  induction earlier generalizing graph with
  | nil =>
      rfl
  | cons call rest inductionHypothesis =>
      simp only [List.cons_append, runCalls, inductionHypothesis]

/-- After calls the payload is held that they leave. -/
theorem heldPayload?_runCalls (calls : List PayloadCall) :
    (graph.runCalls panic calls).2.heldPayload? panic =
      PayloadCall.left (graph.heldPayload? panic) calls := by
  induction calls generalizing graph with
  | nil =>
      rfl
  | cons call rest inductionHypothesis =>
      simp only [runCalls, inductionHypothesis, heldPayload?_answerCall]
      cases taken : call.isTake <;> simp [PayloadCall.left, taken]

/-- Calls change nothing but the payload. -/
theorem withoutPayloads_runCalls (calls : List PayloadCall) :
    (graph.runCalls panic calls).2.withoutPayloads = graph.withoutPayloads := by
  induction calls generalizing graph with
  | nil =>
      rfl
  | cons call rest inductionHypothesis =>
      simp only [runCalls, inductionHypothesis, withoutPayloads_answerCall]

/-- Every call of a sequence returns what it has to where it sees the payload that the calls before
it left. -/
theorem getElem?_runCalls
    (earlier later : List PayloadCall)
    (call : PayloadCall) :
    (graph.runCalls panic (earlier ++ call :: later)).1[earlier.length]? =
      some ⟨call, call.answer (PayloadCall.left (graph.heldPayload? panic) earlier)⟩ := by
  have atFront :
      ((graph.runCalls panic earlier).2.runCalls panic (call :: later)).1[0]? =
        some ⟨call, call.answer (PayloadCall.left (graph.heldPayload? panic) earlier)⟩ := by
    simp only [runCalls, List.getElem?_cons_zero, answerCall_fst, heldPayload?_runCalls]
  rw [runCalls_append, List.getElem?_append_right (by simp), length_runCalls, Nat.sub_self]
  exact atFront

/-- Calls change no output. -/
theorem sameOutputs_runCalls
    (calls : List PayloadCall)
    (error : ErrorId) :
    graph.SameOutputs (graph.runCalls panic calls).2 error :=
  sameOutputs_of_withoutPayloads_eq (graph.withoutPayloads_runCalls panic calls).symm error

end Calls

/-! ## Recovered errors -/

variable
  {graph after : Graph}
  {occasion : Occasion}
  {payload : Payload}
  {created panic error : ErrorId}

/-- What a graph shows of an error that was carried by a panic, once the panic was recovered. -/
structure ShowsRecovered
    (graph : Graph)
    (occasion : Occasion)
    (payload : Payload)
    (error created panic : ErrorId)
    (after : Graph) :
    Prop where
  createdIsNew : graph.get? created = none
  panicIsNew : graph.get? panic = none
  /-- The new error tells of the panic in the words of the error. -/
  occurrence :
    after.occurrence? created =
      some
        ⟨occasion.definition, "panic: " ++ graph.message error,
          .single panic (some "errdef::panic::PanicError"), occasion.stack⟩
  /-- When the message of the error ends, these words are the text that it shows. -/
  words :
    ∀ block,
      graph.block? .display error = some block →
        (after.occurrence? created).map Occurrence.message = some ("panic: " ++ block.toText)
  recovered : after.recovered? panic = some ⟨graph.message error, some payload, some error⟩
  chain : after.chain created = created :: panic :: graph.chain error
  /-- The recovered panic is the first of its kind, so that a search for one finds it. -/
  found : after.firstRecovered? created = some panic
  isIn : after.isIn error created = true
  /-- Every error that was there before has the outputs that it had. -/
  kept : ∀ other : ErrorId, other.index < graph.size → graph.SameOutputs after other

/-- A graph shows a recovered error when it is what recovery makes of it. -/
theorem IsRecovery.showsRecovered
    (recovery : graph.IsRecovery occasion payload created panic after)
    (closed : graph.IsClosed)
    (visible : occasion.definition.isBoundary = false)
    (carries : graph.Carries payload error) :
    graph.ShowsRecovered occasion payload error created panic after := by
  have chain := recovery.chain_created closed visible carries
  have occurrence :
      after.occurrence? created =
        some
          ⟨occasion.definition, "panic: " ++ graph.message error,
            .single panic (some "errdef::panic::PanicError"), occasion.stack⟩ := by
    rw [← carries.describe_eq]
    simp only [occurrence?, recovery.isCreated, Option.bind_some, Node.occurrence?]
  constructor
  case createdIsNew =>
    exact Array.getElem?_eq_none (by simp [recovery.createdIndex, size])
  case panicIsNew =>
    exact Array.getElem?_eq_none (by simp [recovery.panicIndex, size])
  case occurrence =>
    exact occurrence
  case words =>
    intro block shown
    rw [occurrence, message_of_block?_eq_some shown, Option.map_some]
  case recovered =>
    rw [← carries.describe_eq, ← carries.error?_eq]
    simp only [recovered?, recovery.isPanic, Option.bind_some, Node.recovered?]
  case chain =>
    exact chain
  case found =>
    simp [firstRecovered?, find?, chain, recovery.isCreated, recovery.isPanic, Node.recovered?]
  case isIn =>
    have inChain : error ∈ graph.chain error := mem_chain_iff.mpr .refl
    refine List.any_eq_true.mpr ⟨error, ?_, sameError_self after error⟩
    rw [chain]
    exact List.mem_cons_of_mem _ (List.mem_cons_of_mem _ inChain)
  case kept =>
    intro other inGraph
    exact (recovery.looksLike closed).sameOutputs inGraph

/-- An error that a panic carried stays reachable after the panic was recovered: the new error tells
of it, and its chain goes over the recovered panic to the chain of the error. However the values of
errors lie in memory, the handle that is kept is recognised as the error, and a walk goes on from it
over the references that lead on from the error. The payload is seen by every call up to the first
one that takes it, by that one too, and by none after it, and no calls change any output. -/
theorem recover_keepsError
    (closed : graph.IsClosed)
    (visible : occasion.definition.isBoundary = false)
    (carries : graph.Carries payload error)
    (result : graph.recover occasion payload = (created, after)) :
    ∃ panic,
      graph.ShowsRecovered occasion payload error created panic after ∧
        (∀ (layout : graph.Layout) (held : Reference) (place clone : Nat),
          layout.InUse held →
            held.error = error →
            (∀ reference, layout.InUse reference → reference.place ≠ place) →
            (∃ later : after.Layout,
              layout.IsRecovery payload created panic held place clone later) ∧
            ∀ later : after.Layout,
              layout.IsRecovery payload created panic held place clone later →
              layout.KeepsHandle payload created panic held place clone later) ∧
        (∀ earlier call later,
          (after.runCalls panic (earlier ++ call :: later)).1[earlier.length]? =
            some ⟨call, call.answer (PayloadCall.left (some payload) earlier)⟩) ∧
        ∀ calls other, after.SameOutputs (after.runCalls panic calls).2 other := by
  have recovery :
      graph.IsRecovery occasion payload created (graph.recoverPayload payload).1 after := by
    simpa only [result] using graph.isRecovery_recover occasion payload
  have shows := recovery.showsRecovered closed visible carries
  refine ⟨(graph.recoverPayload payload).1, shows, ?_, ?_, ?_⟩
  · intro layout held place clone heldInUse isHeld free
    constructor
    · exact Layout.exists_isRecovery recovery closed visible carries heldInUse isHeld free clone
    · intro later layoutRecovery
      exact layoutRecovery.keepsHandle recovery carries heldInUse isHeld
  · intro earlier call later
    have isHeld : after.heldPayload? (graph.recoverPayload payload).1 = some payload := by
      simp only [heldPayload?, shows.recovered, Option.bind_some]
    rw [getElem?_runCalls, isHeld]
  · intro calls other
    exact after.sameOutputs_runCalls _ calls other

/-- An occurrence and a foreign error that lead to each other. -/
def loopingGraph : Graph where
  nodes :=
    #[.occurrence
        ⟨.declare .standard 0 ⟨"task"⟩ [.noTrace], "task died", .single ⟨1⟩ none, []⟩,
      .foreign (Foreign.holding "Outer" "outer" ⟨0⟩)]

/-- An occasion to recover a panic. -/
def crash : Occasion :=
  ⟨.declare .standard 1 ⟨"crash"⟩ [.noTrace], [], .standard⟩

/-- An error of a cycle is recovered: its chain goes on around the cycle, and its payload can be
taken once. -/
theorem recover_keepsError_loopingGraph :
    ∃ panic after,
      loopingGraph.IsClosed ∧
        crash.definition.isBoundary = false ∧
        loopingGraph.Carries (.occurrence ⟨0⟩) ⟨0⟩ ∧
        loopingGraph.recover crash (.occurrence ⟨0⟩) = (⟨3⟩, after) ∧
        after.chain ⟨3⟩ = [⟨3⟩, panic, ⟨0⟩, ⟨1⟩] ∧
        (after.occurrence? ⟨3⟩).map Occurrence.message = some "panic: task died" ∧
        (∃ (layout : loopingGraph.Layout) (later : after.Layout),
          layout.KeepsHandle (.occurrence ⟨0⟩) ⟨3⟩ panic ⟨0, ⟨0⟩⟩ 2 4 later) ∧
        (after.runCalls panic
              ([.payloadAs Payload.occurrence?] ++ .take :: [.withPayload Option.isSome])).1[1]? =
            some ⟨.take, some (.occurrence ⟨0⟩)⟩ ∧
        (after.runCalls panic
              ([.payloadAs Payload.occurrence?, .take] ++ .withPayload Option.isSome :: [])).1[2]? =
            some ⟨.withPayload Option.isSome, false⟩ ∧
        after.SameOutputs (after.runCalls panic [.take]).2 ⟨3⟩ := by
  have closed : loopingGraph.IsClosed := by
    decide
  have visible : crash.definition.isBoundary = false :=
    rfl
  have carries : loopingGraph.Carries (.occurrence ⟨0⟩) ⟨0⟩ :=
    .occurrence rfl
  have result :
      loopingGraph.recover crash (.occurrence ⟨0⟩) =
        (⟨3⟩, (loopingGraph.recover crash (.occurrence ⟨0⟩)).2) :=
    rfl
  have chain : loopingGraph.chain ⟨0⟩ = [⟨0⟩, ⟨1⟩] := by
    cbv
  have message : loopingGraph.message ⟨0⟩ = "task died" := by
    cbv
  obtain ⟨panic, shows, handles, answers, outputs⟩ :=
    recover_keepsError closed visible carries result
  obtain ⟨⟨later, isRecovery⟩, keeps⟩ :=
    handles (.direct closed) ⟨0, ⟨0⟩⟩ 2 4 ⟨by decide, rfl⟩ rfl fun reference inUse => by
      have inGraph : reference.error.index < 2 := inUse.1
      rw [inUse.2]
      omega
  refine ⟨panic, _, closed, visible, carries, result, chain ▸ shows.chain, ?_,
    ⟨_, later, keeps later isRecovery⟩, answers _ _ _, answers _ _ _, outputs _ _⟩
  rw [shows.occurrence, message]
  rfl

end Graph

end Fault
