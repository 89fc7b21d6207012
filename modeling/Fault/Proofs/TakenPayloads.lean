import Fault.Proofs.LikeOutputs

/-!
# No output shows a payload

A recovered panic holds its payload beside the words and the error that were made of it. Links,
texts, forms, log values and dumps go by the words and the error alone. So the outputs of a graph
are those of the graph without its payloads, and an error has the same outputs in all graphs that
are the same but for payloads.
-/

namespace Fault

open Fault.Text (Block)

/-- An error without the payload that it may hold. -/
def Node.withoutPayload : Node → Node
  | .recovered panic => .recovered { panic with payload := none }
  | node => node

namespace Graph

/-- A graph without the payloads that its errors hold. -/
def withoutPayloads (graph : Graph) : Graph :=
  ⟨graph.nodes.map Node.withoutPayload⟩

variable (graph : Graph)

/-- Without payloads every error is the same but for its payload. -/
theorem get?_withoutPayloads (identity : ErrorId) :
    graph.withoutPayloads.get? identity = (graph.get? identity).map Node.withoutPayload := by
  simp [withoutPayloads, get?]

@[simp] theorem size_withoutPayloads :
    graph.withoutPayloads.size = graph.size := by
  simp [withoutPayloads, size]

/-! ## Links, chains and trees -/

@[simp] theorem occurrence?_withoutPayloads :
    graph.withoutPayloads.occurrence? = graph.occurrence? := by
  funext identity
  simp only [occurrence?, get?_withoutPayloads]
  cases graph.get? identity with
  | none =>
      rfl
  | some node =>
      cases node <;> rfl

@[simp] theorem members_withoutPayloads :
    graph.withoutPayloads.members = graph.members := by
  funext identity
  simp only [members, get?_withoutPayloads]
  cases graph.get? identity with
  | none =>
      rfl
  | some node =>
      cases node <;> rfl

@[simp] theorem isIdentified_withoutPayloads :
    graph.withoutPayloads.isIdentified = graph.isIdentified := by
  funext identity
  simp only [isIdentified, get?_withoutPayloads]
  cases graph.get? identity with
  | none =>
      rfl
  | some node =>
      cases node <;> rfl

@[simp] theorem occurrenceLinks_withoutPayloads :
    graph.withoutPayloads.occurrenceLinks = graph.occurrenceLinks := by
  funext error
  simp only [occurrenceLinks, members_withoutPayloads]

/-- Links do not depend on payloads. -/
@[simp] theorem links_withoutPayloads :
    graph.withoutPayloads.links = graph.links := by
  funext identity
  simp only [links, get?_withoutPayloads, occurrenceLinks_withoutPayloads]
  cases graph.get? identity with
  | none =>
      rfl
  | some node =>
      cases node <;> rfl

@[simp] theorem causes_withoutPayloads :
    graph.withoutPayloads.causes = graph.causes := by
  funext identity
  simp only [causes, links_withoutPayloads]

@[simp] theorem source?_withoutPayloads :
    graph.withoutPayloads.source? = graph.source? := by
  funext identity
  simp only [source?, get?_withoutPayloads]
  cases graph.get? identity with
  | none =>
      rfl
  | some node =>
      cases node <;> rfl

/-- A walk does not depend on payloads. -/
theorem walk_withoutPayloads (seen pending : List ErrorId) :
    graph.withoutPayloads.walk seen pending = graph.walk seen pending := by
  fun_induction graph.walk seen pending with
  | case1 seen =>
      simp [walk]
  | case2 seen identity rest identified seenBefore inductionHypothesis =>
      rw [walk, dif_pos (by simpa using identified), dif_pos seenBefore]
      exact inductionHypothesis
  | case3 seen identity rest identified new inductionHypothesis =>
      rw [walk, dif_pos (by simpa using identified), dif_neg new, causes_withoutPayloads,
        inductionHypothesis]
  | case4 seen identity rest unidentified inductionHypothesis =>
      rw [walk, dif_neg (by simpa using unidentified), inductionHypothesis]

@[simp] theorem chain_withoutPayloads :
    graph.withoutPayloads.chain = graph.chain := by
  funext start
  exact graph.walk_withoutPayloads [] [start]

@[simp] theorem firstOccurrence?_withoutPayloads :
    graph.withoutPayloads.firstOccurrence? = graph.firstOccurrence? := by
  funext start
  simp only [firstOccurrence?, chain_withoutPayloads, occurrence?_withoutPayloads]

/-- What links unfold to does not depend on payloads. -/
theorem unfold_withoutPayloads
    (path : List ErrorId)
    (links : List Link) :
    graph.withoutPayloads.unfold path links = graph.unfold path links := by
  induction path, links using graph.unfold_induction with
  | nil path =>
      simp [unfold]
  | cut path link rest cut inductionHypothesis =>
      simp only [unfold_cons, isCut, isIdentified_withoutPayloads, inductionHypothesis] at cut ⊢
      simp only [cut, if_true]
  | node path link rest kept belowHypothesis restHypothesis =>
      simp only [unfold_cons, isCut, extend, isIdentified_withoutPayloads, links_withoutPayloads,
        restHypothesis] at kept belowHypothesis ⊢
      simp only [kept, belowHypothesis]

@[simp] theorem causeTree_withoutPayloads :
    graph.withoutPayloads.causeTree = graph.causeTree := by
  funext root
  simp only [causeTree, startPath, isIdentified_withoutPayloads, links_withoutPayloads,
    unfold_withoutPayloads]

/-! ## Texts -/

@[simp] theorem snapshot_withoutPayloads :
    graph.withoutPayloads.snapshot = graph.snapshot := by
  funext error
  simp only [snapshot, occurrenceLinks_withoutPayloads]

theorem entries_withoutPayloads
    (text : Verb → ErrorId → Option Block)
    (forest : Forest) :
    graph.withoutPayloads.entries text forest = graph.entries text forest := by
  induction forest with
  | nil =>
      rfl
  | cut target rest inductionHypothesis =>
      exact inductionHypothesis
  | node link reentered below rest belowHypothesis restHypothesis =>
      simp only [entries, occurrence?_withoutPayloads, belowHypothesis, restHypothesis]

theorem standardText_withoutPayloads :
    graph.withoutPayloads.standardText = graph.standardText := by
  funext text identity error verb
  cases verb <;>
    simp only [standardText, causeTree_withoutPayloads, entries_withoutPayloads]

theorem occurrenceText_withoutPayloads :
    graph.withoutPayloads.occurrenceText = graph.occurrenceText := by
  funext text identity error verb
  simp only [occurrenceText, standardText_withoutPayloads, snapshot_withoutPayloads]

/-- Texts do not depend on payloads, in however many steps they are found. -/
@[simp] theorem text?_withoutPayloads (steps : Nat) :
    graph.withoutPayloads.text? steps = graph.text? steps := by
  induction steps with
  | zero =>
      rfl
  | succ steps inductionHypothesis =>
      funext verb identity
      simp only [text?, get?_withoutPayloads, occurrenceText_withoutPayloads, inductionHypothesis]
      cases graph.get? identity with
      | none =>
          rfl
      | some node =>
          cases node with
          | recovered panic =>
              cases verb <;> rfl
          | _ =>
              rfl

@[simp] theorem block?_withoutPayloads :
    graph.withoutPayloads.block? = graph.block? := by
  funext verb identity
  simp only [block?, textDepth, size_withoutPayloads, text?_withoutPayloads]

@[simp] theorem message_withoutPayloads :
    graph.withoutPayloads.message = graph.message := by
  funext identity
  simp only [message, text, block?_withoutPayloads]

/-! ## Forms, log values and dumps -/

theorem shownType_withoutPayloads :
    graph.withoutPayloads.shownType = graph.shownType := by
  funext link
  simp only [shownType, get?_withoutPayloads]
  cases graph.get? link.target with
  | none =>
      rfl
  | some node =>
      cases node <;> rfl

theorem causeJson_withoutPayloads :
    graph.withoutPayloads.causeJson = graph.causeJson := by
  funext link causes
  simp only [causeJson, plainJson, occurrence?_withoutPayloads, snapshot_withoutPayloads,
    message_withoutPayloads, shownType_withoutPayloads]

theorem causesJson_withoutPayloads (forest : Forest) :
    graph.withoutPayloads.causesJson forest = graph.causesJson forest := by
  induction forest with
  | nil =>
      rfl
  | cut target rest inductionHypothesis =>
      exact inductionHypothesis
  | node link reentered below rest belowHypothesis restHypothesis =>
      simp only [causesJson, causeJson_withoutPayloads, belowHypothesis, restHypothesis]

/-- Forms do not depend on payloads. -/
@[simp] theorem toJson_withoutPayloads :
    graph.withoutPayloads.toJson = graph.toJson := by
  funext identity error
  simp only [toJson, snapshot_withoutPayloads, causeTree_withoutPayloads,
    causesJson_withoutPayloads]

theorem toJsonText_withoutPayloads :
    graph.withoutPayloads.toJsonText = graph.toJsonText := by
  funext identity error
  simp only [toJsonText, toJson_withoutPayloads]

/-- Log values do not depend on payloads. -/
@[simp] theorem logValue_withoutPayloads :
    graph.withoutPayloads.logValue = graph.logValue := by
  funext error
  simp only [logValue, standardLog, snapshot_withoutPayloads, occurrenceLinks_withoutPayloads,
    message_withoutPayloads]

@[simp] theorem severity_withoutPayloads :
    graph.withoutPayloads.severity = graph.severity := by
  funext identity
  simp only [severity, Key.read?, firstOccurrence?_withoutPayloads]

theorem linkDump_withoutPayloads :
    graph.withoutPayloads.linkDump = graph.linkDump := by
  funext link
  simp only [linkDump, message_withoutPayloads]

theorem nodeDumps_withoutPayloads (forest : Forest) :
    graph.withoutPayloads.nodeDumps forest = graph.nodeDumps forest := by
  induction forest with
  | nil =>
      rfl
  | cut target rest inductionHypothesis =>
      exact inductionHypothesis
  | node link reentered below rest belowHypothesis restHypothesis =>
      simp only [nodeDumps, nodeDump, message_withoutPayloads, belowHypothesis, restHypothesis]

/-! ## All outputs -/

/-- An error has the same outputs without the payloads. -/
theorem sameOutputs_withoutPayloads (error : ErrorId) :
    graph.SameOutputs graph.withoutPayloads error := by
  constructor <;> intros <;>
    simp only [chain_withoutPayloads, causes_withoutPayloads, source?_withoutPayloads,
      causeTree_withoutPayloads, block?_withoutPayloads, occurrence?_withoutPayloads,
      toJson_withoutPayloads, toJsonText_withoutPayloads, logValue_withoutPayloads, event,
      severity_withoutPayloads, linksDump, linkDump_withoutPayloads, links_withoutPayloads,
      forestDump, nodeDumps_withoutPayloads, Definition.claims, Resolver.origin?,
      firstOccurrence?_withoutPayloads]

/-- Two graphs whose outputs are those of a third one have the same outputs. -/
theorem SameOutputs.of_common
    {first second common : Graph}
    {error : ErrorId}
    (left : first.SameOutputs common error)
    (right : second.SameOutputs common error) :
    first.SameOutputs second error where
  chain := left.chain.trans right.chain.symm
  causes := left.causes.trans right.causes.symm
  source := left.source.trans right.source.symm
  tree := left.tree.trans right.tree.symm
  text verb := (left.text verb).trans (right.text verb).symm
  json := left.json.trans right.json.symm
  jsonText := left.jsonText.trans right.jsonText.symm
  logValue := left.logValue.trans right.logValue.symm
  event := left.event.trans right.event.symm
  linksDump := left.linksDump.trans right.linksDump.symm
  treeDump := left.treeDump.trans right.treeDump.symm
  claims definition := (left.claims definition).trans (right.claims definition).symm
  origin resolver := (left.origin resolver).trans (right.origin resolver).symm

/-- Graphs that are the same but for payloads have the same outputs. -/
theorem sameOutputs_of_withoutPayloads_eq
    {first second : Graph}
    (same : first.withoutPayloads = second.withoutPayloads)
    (error : ErrorId) :
    first.SameOutputs second error := by
  have left := first.sameOutputs_withoutPayloads error
  rw [same] at left
  exact left.of_common (second.sameOutputs_withoutPayloads error)

end Graph

end Fault
