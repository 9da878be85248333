import Mathlib

/-!
The functions of Go's `strings` and `unicode` packages the configuration code calls.
-/

namespace GoStrings

/-- `unicode.IsSpace`: the Latin-1 spaces, then the rest of the Unicode `White_Space` table. -/
def isSpace (rune : Char) : Bool :=
  if rune.val ≤ 0xFF then
    rune.val = 0x09 || rune.val = 0x0A || rune.val = 0x0B || rune.val = 0x0C ||
      rune.val = 0x0D || rune.val = 0x20 || rune.val = 0x85 || rune.val = 0xA0
  else
    rune.val = 0x1680 || (0x2000 ≤ rune.val && rune.val ≤ 0x200A) || rune.val = 0x2028 ||
      rune.val = 0x2029 || rune.val = 0x202F || rune.val = 0x205F || rune.val = 0x3000

/-- `strings.TrimSpace`: leading and trailing white space removed. -/
def trimSpace (text : List Char) : List Char := (text.dropWhile isSpace).rdropWhile isSpace

/-- `strings.Split` with a one-character separator: the pieces between the separators. -/
def split (text : List Char) (separator : Char) : List (List Char) := text.splitOn separator

/-- `strings.HasPrefix`. -/
def hasPrefix (text pref : List Char) : Bool := pref.isPrefixOf text

end GoStrings
