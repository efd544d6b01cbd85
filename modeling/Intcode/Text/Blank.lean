import Intcode.Text.Ranges
import Intcode.Text.Trim

/-!
# White space

The Unicode property `White_Space`: twenty-five characters.  U+001C to U+001F, U+180E, U+200B and
U+FEFF do not have it.
-/

namespace Intcode.Text

def whiteSpace : Ranges :=
  [(0x0009, 0x000D), (0x0020, 0x0020), (0x0085, 0x0085), (0x00A0, 0x00A0), (0x1680, 0x1680),
    (0x2000, 0x200A), (0x2028, 0x2029), (0x202F, 0x202F), (0x205F, 0x205F), (0x3000, 0x3000)]

def isBlank (char : Char) : Bool :=
  whiteSpace.contains char

def trimBlanks (text : List Char) : List Char :=
  trim isBlank text

end Intcode.Text
