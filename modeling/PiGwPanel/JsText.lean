import Mathlib.Data.List.DropRight
import Mathlib.Data.String.Basic

/-!
# Text operations of the interface's language

What `String.prototype.trim` takes off. It differs from `str.strip` in five control
characters it leaves and in the byte-order mark it takes.
-/

namespace PiGwPanel.JsText

/-- White space and line terminators. -/
def isSpace (c : Char) : Bool :=
  let n := c.toNat
  n = 0x20 || (0x9 ≤ n && n ≤ 0xD) || n = 0xA0 || n = 0x1680 || (0x2000 ≤ n && n ≤ 0x200A) ||
    n = 0x2028 || n = 0x2029 || n = 0x202F || n = 0x205F || n = 0x3000 || n = 0xFEFF

/-- `trim` on characters. -/
def trimChars (text : List Char) : List Char := (text.dropWhile isSpace).rdropWhile isSpace

/-- `text.trim()`. -/
def trim (text : String) : String := String.ofList (trimChars text.toList)

end PiGwPanel.JsText
