import Fault.Dump
import Fault.Json.Basic

/-!
# Call stacks

A call stack is a list of frames, the innermost first. A captured stack leaves out the frames that
a definition skips and keeps no more than its depth.
-/

namespace Fault

/-- One call of a stack. -/
structure Frame where
  function : String
  file : String
  line : UInt32
  deriving DecidableEq, Repr

namespace Frame

/-- Where the call stands in its file. -/
def position (frame : Frame) : String :=
  frame.file ++ ":" ++ Text.showNat frame.line.toNat

/-- The text of a frame. -/
def text (frame : Frame) : String :=
  frame.function ++ " (" ++ frame.position ++ ")"

/-- The dump of a frame. -/
def dump (frame : Frame) : Dump :=
  .record "Frame"
    [("func", .quoted frame.function), ("file", .quoted frame.file),
      ("line", .natural frame.line.toNat)]

/-- The JSON form of a frame. -/
def toJson (frame : Frame) : Json :=
  Json.ofMembers
    [("func", .text frame.function),
      ("file", .text frame.file),
      ("line", Json.ofNat frame.line.toNat)]

end Frame

/-- A call stack, the innermost frame first. -/
abbrev Stack := List Frame

namespace Stack

/-- The part of a call stack that is kept: `depth` frames behind the skipped ones. -/
def capture
    (skip depth : Nat)
    (calls : Stack) :
    Stack :=
  (calls.drop skip).take depth

/-- A number in a column of four places. -/
def column (number : Nat) : String :=
  let digits := Text.natural number
  String.ofList (List.replicate (4 - digits.length) ' ' ++ digits)

/-- The lines of a stack from a given number on. -/
def backtraceFrom (number : Nat) : Stack → String
  | [] => ""
  | frame :: rest =>
      column number ++ ": " ++ frame.function ++ "\n" ++
        "             at " ++ frame.position ++ "\n" ++ backtraceFrom (number + 1) rest

/-- The stack as a numbered backtrace. -/
def backtrace (stack : Stack) : String :=
  "stack backtrace:\n" ++ backtraceFrom 0 stack

/-- The dump of a stack. -/
def dump (stack : Stack) : Dump :=
  .list (stack.map Frame.dump)

/-- The JSON form of a stack. -/
def toJson (stack : Stack) : Json :=
  .array (stack.map Frame.toJson)

end Stack

end Fault
