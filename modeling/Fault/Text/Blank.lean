/-!
# Blank and control characters

The two character classes that decide whether a text can stand bare in a line of output. A blank
is a character with the property `White_Space`, a control one of the general category `Cc`.
-/

namespace Fault.Text

/-- Whether a character is white space: the twenty-five code points of that property. -/
def isBlank (character : Char) : Bool :=
  let code := character.toNat
  (0x9 ≤ code && code ≤ 0xd) || code == 0x20 || code == 0x85 || code == 0xa0 ||
    code == 0x1680 || (0x2000 ≤ code && code ≤ 0x200a) || code == 0x2028 || code == 0x2029 ||
    code == 0x202f || code == 0x205f || code == 0x3000

/-- Whether a character is a control: the first block, DEL, and the block behind it. -/
def isControl (character : Char) : Bool :=
  let code := character.toNat
  code < 0x20 || (0x7f ≤ code && code ≤ 0x9f)

/-- A text without the blanks at its end. -/
def trimEnd (text : List Char) : List Char :=
  (text.reverse.dropWhile isBlank).reverse

/-- A text without the blanks at either end. -/
def trim (text : List Char) : List Char :=
  trimEnd (text.dropWhile isBlank)

end Fault.Text
