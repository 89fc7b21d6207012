import Fault.Text.Blank
import Fault.Text.Integer

/-!
# Defaults

The defaults of a process: how many frames of a call stack are kept unless a definition says
otherwise, and whether call stacks are captured at all. Both are read from settings of the
environment, and a setting that cannot be read counts as absent.
-/

namespace Fault

/-- What holds for every definition that does not say otherwise. -/
structure Defaults where
  depth : Nat
  traced : Bool
  deriving DecidableEq, Repr

namespace Defaults

/-- The defaults of an environment without settings. -/
def standard : Defaults :=
  ⟨32, true⟩

/-- The depth of a setting: a positive number of 64 bits, else the standard depth. -/
def readDepth (setting : Option String) : Nat :=
  let number := setting.bind fun text => Text.readInteger? (Text.trim text.toList)
  match number.filter fun value => 0 < value && value < 9_223_372_036_854_775_808 with
  | some value => value.toNat
  | none => standard.depth

/-- The switch of a setting: one of the words for on and off, in any case of letters. -/
def readSwitch (setting : Option String) : Bool :=
  match setting with
  | none => standard.traced
  | some text =>
      let word := String.ofList ((Text.trim text.toList).map Char.toLower)
      if ["1", "true", "yes", "on"].contains word then true
      else if ["0", "false", "no", "off"].contains word then false
      else standard.traced

/-- The defaults of an environment's settings. -/
def read (depth trace : Option String) : Defaults :=
  ⟨readDepth depth, readSwitch trace⟩

end Defaults

end Fault
