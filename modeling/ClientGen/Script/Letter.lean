import ClientGen.Text.Hex
import ClientGen.Text.Identifier

/-! The classes of characters in a script. -/

set_option autoImplicit false

namespace ClientGen.Script

/-- White space between the tokens of a script: space, tabs, the form feed, the byte order mark and the space
separators of Unicode. -/
def blankRanges : Text.Ranges := [
  (0x0009, 0x0009), (0x000B, 0x000C), (0x0020, 0x0020), (0x00A0, 0x00A0), (0x1680, 0x1680),
  (0x180E, 0x180E), (0x2000, 0x200A), (0x202F, 0x202F), (0x205F, 0x205F), (0x3000, 0x3000),
  (0xFEFF, 0xFEFF)]

def isBlank (c : Char) : Bool := blankRanges.covers c.toNat

def isLineEnd (c : Char) : Bool := c = '\n' || c = '\r' || c.toNat = 0x2028 || c.toNat = 0x2029

def isNameStart (c : Char) : Bool := c = '$' || c = '\\' || Text.isIdentifierStart c

/-- Whether the character may stand inside a name; the zero-width joiners may. -/
def isNamePart (c : Char) : Bool :=
  c = '$' || c = '\\' || c.toNat = 0x200C || c.toNat = 0x200D || Text.isIdentifierPart c

def isOctal (c : Char) : Bool := '0' ≤ c && c ≤ '7'

end ClientGen.Script
