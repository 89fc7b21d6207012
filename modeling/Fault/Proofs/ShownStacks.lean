import Fault.Proofs.CallTraces
import Fault.Proofs.Recipes
import Fault.Proofs.TextLayout
import Fault.Render.Log

/-!
# Call stacks from capture to output

The call stack of an error is told by the history of its definition and by the calls that led to the
error: so many frames behind the skipped ones, and none when tracing was turned off. All outputs
show these frames and no others, in this order, and show no stack when there are none.
-/

namespace Fault

open Fault.Text (Block)

/-! ## What is captured -/

/-- Without a setting, or with one that is no depth, some frames are kept. -/
theorem Defaults.depth_read_pos (depth trace : Option String) : 0 < (read depth trace).depth := by
  simp only [read, readDepth]
  split
  · next value found =>
      have positive := (Option.filter_eq_some_iff.mp found).2
      simp only [Bool.and_eq_true, decide_eq_true_eq] at positive
      omega
  · decide

/-- A depth is positive when the default one is, whatever was set last. -/
theorem Defaults.depthOf_pos
    {defaults : Defaults}
    (positive : 0 < defaults.depth)
    (last : Option Int) :
    0 < defaults.depthOf last := by
  cases last with
  | none =>
      exact positive
  | some count =>
      simp only [depthOf]
      split
      · omega
      · exact positive

namespace Recipe

/-- Whether a history turned tracing off. -/
def stopsTracing
    (defaults : Defaults)
    (recipe : Recipe) :
    Bool :=
  (recipe.history defaults).any Setting.stopsTracing

/-- The frames that a history leaves out: the sum of all it was told, up to the greatest number. -/
def skip
    (defaults : Defaults)
    (recipe : Recipe) :
    Nat :=
  min ((recipe.history defaults).filterMap Setting.skip?).sum Template.greatestSkip

/-- The frames that a history keeps: the last number it was told when that is positive. -/
def depth
    (defaults : Defaults)
    (recipe : Recipe) :
    Nat :=
  defaults.depthOf ((recipe.history defaults).filterMap Setting.depth?).getLast?

end Recipe

/-- The frames of a trace that an error of a definition keeps, with their addresses. -/
def Definition.resolve
    (defaults : Defaults)
    (definition : Definition)
    (trace : CallTrace) :
    List (Nat × Frame) :=
  if definition.isTraced defaults then
    trace.resolve definition.template.skip definition.template.depth
  else
    []

/-- How an error keeps the calls that led to it, for the recipe of its definition. -/
structure Occurrence.KeepsCalls
    (error : Occurrence)
    (defaults : Defaults)
    (recipe : Recipe)
    (trace : CallTrace) :
    Prop where
  frames :
    error.stack =
      if recipe.stopsTracing defaults then
        []
      else
        (trace.calls.drop (recipe.skip defaults)).take (recipe.depth defaults)
  /-- Where the library's own frames are the innermost ones, all others are counted. -/
  programFrames :
    trace.IsParted →
      error.stack =
        if recipe.stopsTracing defaults then
          []
        else
          (trace.program.drop (recipe.skip defaults)).take (recipe.depth defaults)
  empty_iff :
    error.stack = [] ↔
      recipe.stopsTracing defaults = true ∨
        trace.calls.length ≤ recipe.skip defaults ∨ trace.calls = []
  /-- The frames are those of the captured addresses, and there are as many program counters. -/
  resolved : error.stack = (error.definition.resolve defaults trace).map Prod.snd
  counted :
    ((error.definition.resolve defaults trace).map Prod.fst).length = error.stack.length

/-- An error that is created from the definition of a recipe keeps calls as the history of the
recipe says. -/
theorem Recipe.keepsCalls
    {defaults : Defaults}
    (traced : defaults.traced = true)
    (positive : 0 < defaults.depth)
    (recipe : Recipe)
    (trace : CallTrace)
    {error : Occurrence}
    (isMade : error.definition = recipe.definition defaults)
    (isCaptured : error.stack = error.definition.capture defaults trace.calls) :
    error.KeepsCalls defaults recipe trace := by
  have template := recipe.template_definition defaults
  have isTraced : error.definition.isTraced defaults = !recipe.stopsTracing defaults := by
    rw [isMade, Definition.isTraced, template, traced, Bool.and_true]
    rfl
  have skip : error.definition.template.skip = recipe.skip defaults := by
    rw [isMade, template]
    rfl
  have depth : error.definition.template.depth = recipe.depth defaults := by
    rw [isMade, template]
    rfl
  have someDepth : 0 < recipe.depth defaults := Defaults.depthOf_pos positive _
  have resolved : error.stack = (error.definition.resolve defaults trace).map Prod.snd := by
    rw [isCaptured, Definition.capture, Definition.resolve]
    split
    · exact (trace.map_snd_resolve _ _).symm
    · rfl
  have frames :
      error.stack =
        if recipe.stopsTracing defaults then
          []
        else
          (trace.calls.drop (recipe.skip defaults)).take (recipe.depth defaults) := by
    rw [isCaptured, Definition.capture, isTraced, skip, depth]
    cases recipe.stopsTracing defaults <;> rfl
  refine ⟨frames, ?_, ?_, resolved, ?_⟩
  · intro parted
    rw [frames, CallTrace.calls_eq_program parted]
  · rw [frames]
    cases recipe.stopsTracing defaults with
    | true =>
        simp
    | false =>
        have noDepth : recipe.depth defaults ≠ 0 := Nat.ne_of_gt someDepth
        simp only [Bool.false_eq_true, if_false, false_or, List.take_eq_nil_iff, noDepth,
          List.drop_eq_nil_iff]
        constructor
        · exact .inl
        · rintro (reached | noCalls)
          · exact reached
          · simp [noCalls]
  · rw [resolved, List.length_map, List.length_map]

/-! ## Where an error is shown -/

namespace Detailed

/-- The lines below a headline, down to the next line that does not start with a space. -/
def below?
    (headline : List Char)
    (lines : Block) :
    Option Block :=
  if headline ∈ lines then
    some (((lines.dropWhile (· != headline)).drop 1).takeWhile isIndented)
  else
    none

/-- A section is found by its headline, when no line above it or below it is the same. -/
theorem below?_append
    {headline : List Char}
    {above below after : Block}
    (notAbove : headline ∉ above)
    (indented : ∀ line ∈ below, isIndented line = true)
    (ends : ∀ line ∈ after.head?, isIndented line = false) :
    below? headline (above ++ headline :: below ++ after) = some below := by
  have present : headline ∈ above ++ headline :: below ++ after := by
    simp
  have skipped :
      (above ++ headline :: below ++ after).dropWhile (· != headline) =
        headline :: below ++ after := by
    have others : ∀ line ∈ above, (line != headline) = true := by
      intro line member
      have differs : line ≠ headline := fun same => notAbove (same ▸ member)
      simpa using differs
    rw [List.append_assoc, List.dropWhile_append_of_pos others]
    simp
  have stops : after.takeWhile isIndented = [] := by
    cases after with
    | nil =>
        rfl
    | cons line rest =>
        simp [ends line rfl]
  rw [below?, if_pos present, skipped]
  simp [List.takeWhile_append_of_pos indented, stops]

namespace HasPlainLines

variable {error : Occurrence}

/-- The headline of the stack stands above its frames only. -/
theorem stack_not_mem
    (plain : HasPlainLines error)
    (entries : List Block)
    (truncated : Bool) :
    "stack:".toList ∉
        kindLines error.definition.kind ++ fieldsLines error.definition.fields ∧
      "stack:".toList ∉ causesLines entries truncated := by
  have isHeadline : isIndented "stack:".toList = false := rfl
  have notKind : "stack:".toList ≠ ("kind: " ++ error.definition.kind.label).toList := by
    simp
  have notCauses : "stack:".toList ≠ causesHeadline entries.length truncated := by
    simp [causesHeadline]
  rw [List.mem_append, not_or]
  exact
    ⟨⟨(isOptionalSection_kindLines plain.kind).not_mem isHeadline notKind,
      (isOptionalSection_fieldsLines _).not_mem isHeadline (by decide)⟩,
    (isOptionalSection_causesLines entries truncated).not_mem isHeadline notCauses⟩

/-- Every frame takes up two lines below the headline. -/
theorem stackLines_eq
    (plain : HasPlainLines error)
    (someFrames : error.stack ≠ []) :
    stackLines error.stack =
      "stack:".toList ::
        error.stack.flatMap fun frame =>
          [("  " ++ frame.function).toList, ("    " ++ frame.position).toList] := by
  have sameLines :
      ∀ frame ∈ error.stack,
        frameLines frame =
          [("  " ++ frame.function).toList, ("    " ++ frame.position).toList] := by
    intro frame member
    obtain ⟨function, file⟩ := plain.frames frame member
    exact frameLines_eq function file
  have isNotEmpty : error.stack.isEmpty = false := by
    simpa using someFrames
  rw [stackLines, isNotEmpty, ← List.flatMap_congr sameLines]
  rfl

/-- Below the headline of the stack stand the lines of its frames. -/
theorem below?_sections
    (plain : HasPlainLines error)
    (entries : List Block)
    (truncated : Bool) :
    below? "stack:".toList (sections error entries truncated) =
      if error.stack = [] then
        none
      else
        some (error.stack.flatMap fun frame =>
          [("  " ++ frame.function).toList, ("    " ++ frame.position).toList]) := by
  obtain ⟨notAbove, notBelow⟩ := plain.stack_not_mem entries truncated
  by_cases noFrames : error.stack = []
  · have absent : "stack:".toList ∉ sections error entries truncated := by
      have noLines : stackLines error.stack = [] := by
        rw [noFrames]
        rfl
      rw [sections, noLines, List.append_nil, List.mem_append, not_or]
      exact ⟨notAbove, notBelow⟩
    rw [below?, if_neg absent, if_pos noFrames]
  · have ends := (isOptionalSection_causesLines entries truncated).isIndented_head?
    rw [sections, plain.stackLines_eq noFrames, if_neg noFrames]
    refine below?_append notAbove (fun line member => ?_) ends
    obtain ⟨frame, _, inFrame⟩ := List.mem_flatMap.mp member
    exact isIndented_of_mem_frame inFrame

end HasPlainLines

theorem occurrence_ne_nil
    (error : Occurrence)
    (entries : List Block)
    (truncated : Bool) :
    occurrence error entries truncated ≠ [] := by
  have message := Block.ofList_ne_nil error.message.toList
  simp only [occurrence, withSections]
  split
  · exact message
  · simp

/-- The sections of a detailed text are what is left behind the message and the line of dashes. -/
theorem HasPlainLines.drop_occurrence
    {error : Occurrence}
    (plain : HasPlainLines error)
    (entries : List Block)
    (truncated : Bool) :
    (occurrence error entries truncated).drop ((Block.ofString error.message).length + 1) =
      sections error entries truncated := by
  rw [plain.occurrence_eq]
  split
  · next empty =>
      rw [List.isEmpty_iff.mp empty]
      exact List.drop_of_length_le (Nat.le_succ _)
  · simp [List.drop_append]

end Detailed

/-- A backtrace numbers the frames and shows the position of each. -/
theorem Stack.backtraceFrom_eq
    (number : Nat)
    (stack : Stack) :
    backtraceFrom number stack =
      String.join ((stack.zipIdx number).map fun numbered =>
        column numbered.2 ++ ": " ++ numbered.1.function ++ "\n" ++
          "             at " ++ numbered.1.position ++ "\n") := by
  induction stack generalizing number with
  | nil =>
      rfl
  | cons frame rest inductionHypothesis =>
      simp only [backtraceFrom, inductionHypothesis, List.zipIdx_cons, List.map_cons,
        String.join_cons]

namespace Graph

/-- How the outputs of an error without renderers show a call stack. -/
structure ShowsStack
    (graph : Graph)
    (identity : ErrorId)
    (error : Occurrence)
    (stack : Stack) :
    Prop where
  json :
    ∀ form,
      graph.toJson identity error = .ok form →
        form.member? "stack" =
          if stack = [] then none else some (.array (stack.map Frame.toJson))
  /-- The section of the stack stands between those of the fields and of the causes. -/
  text :
    ∀ shown,
      graph.block? .alternate identity = some shown →
        ∃ entries truncated,
          shown =
            Detailed.withSections (Block.ofString error.message)
              (Detailed.kindLines error.definition.kind ++
                Detailed.fieldsLines error.definition.fields ++
                (if stack = [] then
                  []
                else
                  "stack:".toList ::
                    stack.flatMap fun frame =>
                      Block.ofString ("  " ++ frame.function) ++
                        Block.ofString ("    " ++ frame.position)) ++
                Detailed.causesLines entries truncated)
  /-- Where neither kind nor frames have line feeds, the section is found by its headline. -/
  found :
    Detailed.HasPlainLines error →
      (graph.block? .alternate identity).isSome = true →
      Detailed.below? "stack:".toList
          ((Block.ofString (graph.text .alternate identity)).drop
            ((Block.ofString error.message).length + 1)) =
        if stack = [] then
          none
        else
          some (stack.flatMap fun frame =>
            [("  " ++ frame.function).toList, ("    " ++ frame.position).toList])
  backtrace :
    error.stack.backtrace =
      "stack backtrace:\n" ++
        String.join (stack.zipIdx.map fun numbered =>
          Stack.column numbered.2 ++ ": " ++ numbered.1.function ++ "\n" ++
            "             at " ++ numbered.1.position ++ "\n")
  log : (graph.logValue error).get? "origin" = stack.head?.map frameLog

/-- All outputs of an error without renderers show its call stack. -/
theorem showsStack
    {graph : Graph}
    {identity : ErrorId}
    {error : Occurrence}
    (isOccurrence : graph.occurrence? identity = some error)
    (noFormatter : error.definition.template.formatter = none)
    (noMarshaler : error.definition.template.marshaler = none)
    (noLogValuer : error.definition.template.logValuer = none) :
    graph.ShowsStack identity error error.stack where
  json form rendered := by
    obtain ⟨fields, items, _, _, rfl⟩ := exists_form_of_toJson_eq_ok noMarshaler rendered
    cases shown : error.stack <;>
      simp [Json.member?, Json.members?, WireForm.get?_sorted, WireForm.ofOccurrence, shown,
        Stack.toJson]
  text shown found := by
    rw [block?_of_occurrence_of_not_formatted isOccurrence noFormatter] at found
    obtain ⟨entries, _, rfl⟩ := Option.map_eq_some_iff.mp found
    refine ⟨entries, (graph.causeTree identity).isTruncated, ?_⟩
    have isSection :
        Detailed.stackLines error.stack =
          if error.stack = [] then
            []
          else
            "stack:".toList ::
              error.stack.flatMap fun frame =>
                Block.ofString ("  " ++ frame.function) ++
                  Block.ofString ("    " ++ frame.position) := by
      cases error.stack <;> rfl
    rw [← isSection]
    rfl
  found plain ends := by
    obtain ⟨shown, isShown⟩ := Option.isSome_iff_exists.mp ends
    have isSplit := graph.findsSplit_block? isShown
    have isText := text_of_block?_eq_some isShown
    rw [block?_of_occurrence_of_not_formatted isOccurrence noFormatter] at isShown
    obtain ⟨entries, _, rfl⟩ := Option.map_eq_some_iff.mp isShown
    have nonempty :=
      Detailed.occurrence_ne_nil error entries (graph.causeTree identity).isTruncated
    rw [isText, Block.ofString_toText nonempty isSplit, plain.drop_occurrence,
      plain.below?_sections]
  backtrace := congrArg ("stack backtrace:\n" ++ ·) (error.stack.backtraceFrom_eq 0)
  log := by
    simp only [logValue, noLogValuer, standardLog, LogValue.get?]
    cases error.stack with
    | nil =>
        simp
    | cons frame rest =>
        by_cases noCauses : graph.occurrenceLinks error = [] <;> simp [noCauses]

/-! ## Errors that are created -/

/-- Whether an occasion turns a graph into another one with a new error of its definition. -/
inductive Creates (graph : Graph) (occasion : Occasion) : ErrorId × Graph → Prop where
  | create
      (message : String) :
      graph.Creates occasion (graph.create occasion message)
  | wrap
      (handle : Handle) :
      graph.Creates occasion (graph.wrap occasion handle)
  | wrapWith
      (message : String)
      (handle : Handle) :
      graph.Creates occasion (graph.wrapWith occasion message handle)
  | join
      {members : List ErrorId}
      {result : ErrorId × Graph} :
      graph.join? occasion members = some result →
      graph.Creates occasion result
  | recover
      (payload : Payload) :
      graph.Creates occasion (graph.recover occasion payload)

/-- An error is created in one way only. -/
theorem Creates.exists_raise
    {graph : Graph}
    {occasion : Occasion}
    {result : ErrorId × Graph}
    (creates : graph.Creates occasion result) :
    ∃ (base : Graph) (message : String) (cause : Cause),
      result = base.raise occasion message cause := by
  cases creates with
  | create message =>
      exact ⟨graph, message, .none, rfl⟩
  | wrap handle =>
      exact ⟨graph, _, graph.causeOf handle, rfl⟩
  | wrapWith message handle =>
      exact ⟨graph, message, graph.causeOf handle, rfl⟩
  | join joined =>
      obtain ⟨gathered, _, rfl⟩ := Option.map_eq_some_iff.mp joined
      exact ⟨gathered.2, _, .joined gathered.1, rfl⟩
  | recover payload =>
      exact ⟨_, _, _, rfl⟩

/-- An error that is created is an occurrence of the definition, with the calls that led to it. -/
theorem Creates.exists_occurrence
    {graph : Graph}
    {occasion : Occasion}
    {result : ErrorId × Graph}
    (creates : graph.Creates occasion result) :
    ∃ error,
      result.2.occurrence? result.1 = some error ∧
        error.definition = occasion.definition ∧
        error.stack = occasion.stack := by
  obtain ⟨base, message, cause, rfl⟩ := creates.exists_raise
  refine ⟨⟨occasion.definition, message, cause, occasion.stack⟩, ?_, rfl, rfl⟩
  rw [occurrence?, get?_raise]
  rfl

/-- An error that is created by a definition keeps the calls that led to it as the history of the
definition says, and all outputs show what it keeps. -/
theorem created_keepsCalls
    {graph : Graph}
    {depth trace : Option String}
    {recipe : Recipe}
    {calls : CallTrace}
    {result : ErrorId × Graph}
    (traced : (Defaults.read depth trace).traced = true)
    (creates :
      graph.Creates
        ⟨recipe.definition (.read depth trace), calls.calls, .read depth trace⟩ result) :
    ∃ error,
      result.2.occurrence? result.1 = some error ∧
        error.definition = recipe.definition (.read depth trace) ∧
        error.KeepsCalls (.read depth trace) recipe calls ∧
        (error.definition.template.formatter = none →
          error.definition.template.marshaler = none →
          error.definition.template.logValuer = none →
          result.2.ShowsStack result.1 error error.stack) := by
  obtain ⟨error, isOccurrence, isMade, isCaptured⟩ := creates.exists_occurrence
  refine ⟨error, isOccurrence, isMade, ?_, showsStack isOccurrence⟩
  refine recipe.keepsCalls traced (Defaults.depth_read_pos depth trace) calls isMade ?_
  rw [isCaptured, isMade]
  rfl

/-- A frame of a function, in the line of a number. -/
def frameOf
    (function : String)
    (line : UInt32) :
    Frame :=
  ⟨function, "src/main.rs", line⟩

/-- A call stack below three frames of its own: one for the capture, and two for the creation of the
error, of which the last was inlined into the program. -/
def inlinedTrace : CallTrace where
  sites :=
    [⟨1, frameOf "errdef::stack::Stack::capture" 80, []⟩,
      ⟨2, frameOf "errdef::definition::Definition::instance" 330,
        [frameOf "errdef::definition::Definition::new" 100, frameOf "app::fail" 1]⟩,
      ⟨3, frameOf "app::serve" 2, []⟩,
      ⟨4, frameOf "app::main" 3, []⟩]
  fits := by
    decide
  bounded := by
    decide

/-- The recipe of a definition that skips a frame, and keeps one at last. -/
def oneFrameRecipe : Recipe :=
  ⟨0, ⟨"net"⟩, [.stackSkip 1, .stackDepth 0], [.bySettings 1 [.stackDepth 1]]⟩

/-- The occasion of an error of this definition, below these calls. -/
def inlinedOccasion : Occasion :=
  ⟨oneFrameRecipe.definition (.read none none), inlinedTrace.calls, .read none none⟩

/-- Of the inlined trace one frame is kept: the library's own are left out, and one more is skipped.
-/
theorem created_keepsCalls_inlinedTrace :
    (Defaults.read none none).traced = true ∧
      empty.Creates inlinedOccasion (empty.create inlinedOccasion "m") ∧
      ∃ error,
        (empty.create inlinedOccasion "m").2.occurrence? ⟨0⟩ = some error ∧
          error.KeepsCalls (.read none none) oneFrameRecipe inlinedTrace ∧
          (empty.create inlinedOccasion "m").2.ShowsStack ⟨0⟩ error [frameOf "app::serve" 2] := by
  have creates : empty.Creates inlinedOccasion (empty.create inlinedOccasion "m") := .create "m"
  obtain ⟨error, isOccurrence, isMade, keeps, shows⟩ := created_keepsCalls rfl creates
  have template := congrArg Definition.template isMade
  have isKept : error.stack = [frameOf "app::serve" 2] :=
    keeps.frames.trans (by cbv)
  have noFormatter : error.definition.template.formatter = none :=
    (congrArg Template.formatter template).trans (by cbv)
  have noMarshaler : error.definition.template.marshaler = none :=
    (congrArg Template.marshaler template).trans (by cbv)
  have noLogValuer : error.definition.template.logValuer = none :=
    (congrArg Template.logValuer template).trans (by cbv)
  exact ⟨rfl, creates, error, isOccurrence, keeps,
    isKept ▸ shows noFormatter noMarshaler noLogValuer⟩

end Graph

end Fault
