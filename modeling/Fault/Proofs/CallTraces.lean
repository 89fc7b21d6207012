import Fault.Definition.Basic
import Mathlib.Data.List.Infix
import Mathlib.Data.List.TakeWhile

/-!
# Call traces

A call stack is captured as a list of return addresses, no more of them than can be needed: as many
as are skipped and kept, and a few more for the calls that capture the stack and create the error.
An address stands for several calls when some were inlined into others, so it is known only after
the addresses are resolved how many frames there are, and how many of them belong to the capture
itself. What is kept does not depend on any of this: the same frames would be kept of the complete
stack, counted from the first one outside.
-/

namespace Fault

/-! ## Frames that belong to the capture -/

/-- The paths whose frames are left out above the first frame of any other path. -/
def Frame.internalPaths : List String :=
  ["backtrace", "errdef::stack::Stack", "errdef::stack::raw_trace", "errdef::stack::symbolize",
    "errdef::definition::Definition", "errdef::error::Error", "errdef::panic::PanicError",
    "errdef::convert", "errdef::resolver::Resolver"]

/-- The path under which frames of extended results are called, whatever their own path is. -/
def Frame.resultPath : String :=
  " as errdef::convert::ResultExt"

/-- Whether a frame belongs to the capture of a stack or to the creation of an error: its function
is one of the internal paths, or lies below one, or belongs to a type with such a path. -/
def Frame.isInternal (frame : Frame) : Bool :=
  let name := frame.function.toList.dropWhile (· == '<')
  (internalPaths.any fun path =>
    path.toList.isPrefixOf name &&
      let rest := name.drop path.toList.length
      rest.isEmpty || "::".toList.isPrefixOf rest || " as ".toList.isPrefixOf rest) ||
    frame.function.toList.tails.any fun rest => resultPath.toList.isPrefixOf rest

/-! ## Traces -/

/-- A return address, and the calls that are active there, the innermost one first. -/
structure Site where
  address : Nat
  innermost : Frame
  around : List Frame

namespace Site

/-- The calls at an address. -/
def frames (site : Site) : List Frame :=
  site.innermost :: site.around

/-- Whether all calls at an address belong to the capture. -/
def isInternal (site : Site) : Bool :=
  site.frames.all Frame.isInternal

/-- The calls at an address with the address. -/
def resolved (site : Site) : List (Nat × Frame) :=
  site.frames.map fun frame => (site.address, frame)

/-- The frames of sites, each with its address. -/
def symbols (sites : List Site) : List (Nat × Frame) :=
  sites.flatMap resolved

end Site

/-- The number of addresses that are reserved for the calls that capture a stack. -/
def Site.reserved : Nat :=
  16

/-- The sites of a whole call stack, the innermost one first. -/
structure CallTrace where
  sites : List Site
  /-- The calls that capture the stack take up no more than the addresses reserved for them. -/
  fits : (sites.takeWhile Site.isInternal).length ≤ Site.reserved
  /-- A stack is no longer than there are addresses. -/
  bounded : (Site.symbols sites).length ≤ Template.greatestSkip

namespace CallTrace

/-- The addresses that are captured: for the frames to be skipped and kept, and those reserved. -/
def limit (skip depth : Nat) : Nat :=
  min (min (skip + depth) Template.greatestSkip + Site.reserved) Template.greatestSkip

/-- Whether a frame with its address belongs to the capture. -/
def isInternal (symbol : Nat × Frame) : Bool :=
  symbol.2.isInternal

/-- The frames that are kept of a stack, with their addresses. Only the captured addresses are
resolved. -/
def resolve
    (trace : CallTrace)
    (skip depth : Nat) :
    List (Nat × Frame) :=
  let symbols := Site.symbols (trace.sites.take (limit skip depth))
  let firstExternal := symbols.findIdx fun symbol => !isInternal symbol
  (symbols.drop (min (firstExternal + skip) Template.greatestSkip)).take depth

/-- The frames of the whole stack from the first one outside. -/
def external (trace : CallTrace) : List (Nat × Frame) :=
  (Site.symbols trace.sites).dropWhile isInternal

/-- The calls that led to the error, the innermost one first. -/
def calls (trace : CallTrace) : Stack :=
  trace.external.map Prod.snd

/-- The calls that do not belong to the capture, wherever they stand. -/
def program (trace : CallTrace) : Stack :=
  ((Site.symbols trace.sites).filter fun symbol => !isInternal symbol).map Prod.snd

/-- Whether no call that belongs to the capture stands further out than one that does not. -/
def IsParted (trace : CallTrace) : Prop :=
  ∀ symbol ∈ trace.external, isInternal symbol = false

end CallTrace

/-! ## What is kept -/

namespace Site

theorem symbols_append
    (first second : List Site) :
    symbols (first ++ second) = symbols first ++ symbols second :=
  List.flatMap_append

/-- Every site has at least one frame. -/
theorem length_le_length_symbols (sites : List Site) :
    sites.length ≤ (symbols sites).length := by
  induction sites with
  | nil =>
      exact Nat.le_refl 0
  | cons site rest inductionHypothesis =>
      have present : (symbols (site :: rest)).length =
          site.frames.length + (symbols rest).length := by
        simp [symbols, resolved]
      simp only [present, frames, List.length_cons]
      omega

/-- A site that belongs to the capture has no other frames. -/
theorem isInternal_of_mem_resolved
    {site : Site}
    (internal : site.isInternal = true) :
    ∀ symbol ∈ site.resolved, CallTrace.isInternal symbol = true := by
  intro symbol member
  obtain ⟨frame, isFrame, rfl⟩ := List.mem_map.mp member
  exact List.all_eq_true.mp internal frame isFrame

/-- Sites that belong to the capture have no other frames. -/
theorem isInternal_of_mem_symbols
    {sites : List Site}
    (internal : ∀ site ∈ sites, site.isInternal = true) :
    ∀ symbol ∈ symbols sites, CallTrace.isInternal symbol = true := by
  intro symbol member
  obtain ⟨site, isSite, inSite⟩ := List.mem_flatMap.mp member
  exact isInternal_of_mem_resolved (internal site isSite) symbol inSite

/-- Some frame of a site with a frame outside is not left out. -/
theorem dropWhile_resolved_ne_nil
    {site : Site}
    (outside : site.isInternal = false) :
    site.resolved.dropWhile CallTrace.isInternal ≠ [] := by
  intro dropped
  have internal := List.dropWhile_eq_nil_iff.mp dropped
  have all : site.isInternal = true := by
    refine List.all_eq_true.mpr fun frame member => ?_
    have isSymbol : (site.address, frame) ∈ site.resolved := List.mem_map_of_mem member
    exact internal (site.address, frame) isSymbol
  rw [outside] at all
  cases all

/-- From a site with a frame outside on, no site is left out as a whole. -/
theorem dropWhile_symbols_cons
    {site : Site}
    (outside : site.isInternal = false)
    (rest : List Site) :
    (symbols (site :: rest)).dropWhile CallTrace.isInternal =
      site.resolved.dropWhile CallTrace.isInternal ++ symbols rest := by
  have kept := dropWhile_resolved_ne_nil outside
  rw [symbols, List.flatMap_cons, List.dropWhile_append, if_neg (by simpa using kept)]
  rfl

/-- What comes later makes no difference to what is taken from the front. -/
theorem take_drop_append
    {α : Type}
    {front : List α}
    (back : List α)
    {skip depth : Nat}
    (enough : skip + depth ≤ front.length) :
    ((front ++ back).drop skip).take depth = (front.drop skip).take depth := by
  rw [List.take_drop, List.take_drop, List.take_append_of_le_length enough]

/-- A site with a frame outside and those behind it have a frame each at least. -/
theorem le_length_dropWhile_resolved_append
    {site : Site}
    (outside : site.isInternal = false)
    {rest : List Site}
    {wanted count : Nat}
    (more : count + 1 < (site :: rest).length)
    (wide : wanted ≤ count + 1) :
    wanted ≤
      (site.resolved.dropWhile CallTrace.isInternal ++ symbols (rest.take count)).length := by
  have present := List.length_pos_iff.mpr (dropWhile_resolved_ne_nil outside)
  have others := length_le_length_symbols (rest.take count)
  simp only [List.length_cons, Nat.add_lt_add_iff_right] at more
  rw [List.length_take, Nat.min_eq_left (Nat.le_of_lt more)] at others
  rw [List.length_append]
  omega

/-- As many sites as frames are enough, from the first site with a frame outside on. -/
theorem take_drop_dropWhile_symbols_take
    {sites : List Site}
    (outside : ∀ site ∈ sites.head?, site.isInternal = false)
    {skip depth count : Nat}
    (enough : skip + depth ≤ count ∨ sites.length ≤ count) :
    (((symbols (sites.take count)).dropWhile CallTrace.isInternal).drop skip).take depth =
      (((symbols sites).dropWhile CallTrace.isInternal).drop skip).take depth := by
  by_cases all : sites.length ≤ count
  · rw [List.take_of_length_le all]
  · have wide : skip + depth ≤ count := enough.resolve_right all
    cases count with
    | zero =>
        have noDepth : depth = 0 := by
          omega
        rw [noDepth, List.take_zero, List.take_zero]
    | succ count =>
        cases sites with
        | nil =>
            rfl
        | cons site rest =>
            have isOutside := outside site rfl
            have wideFront := le_length_dropWhile_resolved_append isOutside (Nat.not_le.mp all) wide
            have restSplit :
                symbols rest = symbols (rest.take count) ++ symbols (rest.drop count) := by
              rw [← symbols_append, List.take_append_drop]
            rw [List.take_succ_cons, dropWhile_symbols_cons isOutside,
              dropWhile_symbols_cons isOutside, restSplit, ← List.append_assoc]
            exact (take_drop_append _ wideFront).symm

end Site

namespace CallTrace

/-- The addresses of the capture are left out as a whole. -/
theorem dropWhile_symbols_append
    (trace : CallTrace)
    (others : List Site) :
    (Site.symbols (trace.sites.takeWhile Site.isInternal ++ others)).dropWhile isInternal =
      (Site.symbols others).dropWhile isInternal := by
  have ownInternal :
      ∀ symbol ∈ Site.symbols (trace.sites.takeWhile Site.isInternal), isInternal symbol = true :=
    Site.isInternal_of_mem_symbols fun _ => List.mem_takeWhile_imp
  rw [Site.symbols_append, List.dropWhile_append_of_pos ownInternal]

/-- To leave out more frames than there can be leaves none, whether the sum is saturated or not. -/
theorem drop_min_greatestSkip
    {α : Type}
    {items : List α}
    (bounded : items.length ≤ Template.greatestSkip)
    (count : Nat) :
    items.drop (min count Template.greatestSkip) = items.drop count := by
  by_cases small : count ≤ Template.greatestSkip
  · rw [Nat.min_eq_left small]
  · rw [List.drop_of_length_le (by omega), List.drop_of_length_le (by omega)]

/-- The frames of captured addresses are no more than those of the whole stack. -/
theorem length_symbols_take_le
    (trace : CallTrace)
    (count : Nat) :
    (Site.symbols (trace.sites.take count)).length ≤ Template.greatestSkip := by
  have both := Site.symbols_append (trace.sites.take count) (trace.sites.drop count)
  rw [List.take_append_drop] at both
  have together := congrArg List.length both
  rw [List.length_append] at together
  have bounded := trace.bounded
  omega

/-- The captured addresses take in those of the capture itself, and behind them as many as frames
are skipped and kept, or all there are: a limit that is saturated takes in every stack. -/
theorem limit_reaches
    (trace : CallTrace)
    (skip depth : Nat) :
    let own := trace.sites.takeWhile Site.isInternal
    let others := trace.sites.dropWhile Site.isInternal
    own.length ≤ limit skip depth ∧
      (skip + depth ≤ limit skip depth - own.length ∨
        others.length ≤ limit skip depth - own.length) := by
  intro own others
  have sameLength : own.length + others.length = trace.sites.length := by
    rw [← List.length_append, List.takeWhile_append_dropWhile]
  have sitesBounded : trace.sites.length ≤ Template.greatestSkip :=
    Nat.le_trans (Site.length_le_length_symbols trace.sites) trace.bounded
  have reservedBounded : Site.reserved ≤ Template.greatestSkip := by
    decide
  have ownFits : own.length ≤ Site.reserved := trace.fits
  simp only [limit]
  omega

/-- The frames that are kept are those that are kept of the whole stack, counted from the first one
outside. -/
theorem resolve_eq
    (trace : CallTrace)
    (skip depth : Nat) :
    trace.resolve skip depth = (trace.external.drop skip).take depth := by
  let own := trace.sites.takeWhile Site.isInternal
  let others := trace.sites.dropWhile Site.isInternal
  let count := limit skip depth
  have split : own ++ others = trace.sites := List.takeWhile_append_dropWhile
  obtain ⟨ownCaptured, enough⟩ := trace.limit_reaches skip depth
  have captured : trace.sites.take count = own ++ others.take (count - own.length) := by
    rw [← split, List.take_append, List.take_of_length_le ownCaptured]
  have outside : ∀ site ∈ others.head?, site.isInternal = false := by
    intro site isHead
    have stopped := List.head?_dropWhile_not Site.isInternal trace.sites
    rwa [isHead] at stopped
  calc
    trace.resolve skip depth
    _ = (((Site.symbols (trace.sites.take count)).dropWhile isInternal).drop skip).take depth := by
        rw [List.dropWhile_eq_drop_findIdx_not, List.drop_drop,
          ← drop_min_greatestSkip (trace.length_symbols_take_le count)]
        rfl
    _ = (((Site.symbols (others.take (count - own.length))).dropWhile isInternal).drop
          skip).take depth := by
        rw [captured, trace.dropWhile_symbols_append]
    _ = (((Site.symbols others).dropWhile isInternal).drop skip).take depth :=
        Site.take_drop_dropWhile_symbols_take outside enough
    _ = (trace.external.drop skip).take depth := by
        rw [← trace.dropWhile_symbols_append others, split]
        rfl

/-- The calls of a parted trace are all those that do not belong to the capture. -/
theorem calls_eq_program
    {trace : CallTrace}
    (parted : trace.IsParted) :
    trace.calls = trace.program := by
  have ownDropped :
      ((Site.symbols trace.sites).takeWhile isInternal).filter (fun symbol => !isInternal symbol) =
        [] := by
    refine List.filter_eq_nil_iff.mpr fun symbol member => ?_
    simp [List.mem_takeWhile_imp member]
  have othersKept :
      trace.external.filter (fun symbol => !isInternal symbol) = trace.external := by
    refine List.filter_eq_self.mpr fun symbol member => ?_
    simp [parted symbol member]
  calc
    trace.calls
    _ = (trace.external.filter fun symbol => !isInternal symbol).map Prod.snd := by
        rw [othersKept]
        rfl
    _ = (((Site.symbols trace.sites).takeWhile isInternal ++ trace.external).filter
          fun symbol => !isInternal symbol).map Prod.snd := by
        rw [List.filter_append, ownDropped, List.nil_append]
    _ = trace.program := by
        rw [external, List.takeWhile_append_dropWhile]
        rfl

/-- The frames that are kept are what is captured of the calls that led to the error. -/
theorem map_snd_resolve
    (trace : CallTrace)
    (skip depth : Nat) :
    (trace.resolve skip depth).map Prod.snd = Stack.capture skip depth trace.calls := by
  rw [resolve_eq, List.map_take, List.map_drop]
  rfl

end CallTrace

end Fault
