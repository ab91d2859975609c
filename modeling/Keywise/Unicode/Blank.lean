/-
# White space

The property White_Space: the blanks of all scripts, the line breaks, and no
zero-width character.

Key definitions: `Unicode.whitespace`, `Unicode.isWhitespace`, `Unicode.trim`.
-/
import Keywise.Unicode.Boundaries

namespace Keywise
namespace Unicode

/-- Boundaries of the class of white space. -/
def whitespace : List Nat := [
  0x9, 0xE, 0x20, 0x21, 0x85, 0x86, 0xA0, 0xA1, 0x1680, 0x1681, 0x2000, 0x200B, 0x2028, 0x202A,
  0x202F, 0x2030, 0x205F, 0x2060, 0x3000, 0x3001]

/-- Whether `c` is white space. -/
def isWhitespace (c : Char) : Bool := within whitespace c

/-- The text without the white space it begins with. -/
def trimStart (s : List Char) : List Char := s.dropWhile isWhitespace

/-- The text without the white space at either end. -/
def trim (s : List Char) : List Char :=
  ((trimStart s).reverse.dropWhile isWhitespace).reverse

theorem trimStart_cons_blank {c : Char} (h : isWhitespace c = true) (s : List Char) :
    trimStart (c :: s) = trimStart s := by
  simp [trimStart, h]

theorem trimStart_cons_of_not_blank {c : Char} (h : isWhitespace c = false) (s : List Char) :
    trimStart (c :: s) = c :: s := by
  simp [trimStart, h]

end Unicode
end Keywise
