/-
# Quoted text

A text between quotation marks, on one line: characters that cannot be told
apart by sight, line breaks and the marks themselves are written with a
backslash.

Key definitions: `Quoted.escape`, `Quoted.encode`.
Key theorems: `Quoted.escape_of_visible`.
-/
import Keywise.Unicode.Visible

namespace Keywise
namespace Quoted

/-- A number in hexadecimal digits. -/
def hex (n : Nat) : List Char := Nat.toDigits 16 n

/-- How a character is written. -/
def escape (c : Char) : List Char :=
  match c with
  | '\x00' => ['\\', '0']
  | '\t' => ['\\', 't']
  | '\n' => ['\\', 'n']
  | '\r' => ['\\', 'r']
  | '"' => ['\\', '"']
  | '\\' => ['\\', '\\']
  | c => if Unicode.isVisible c then [c] else ['\\', 'u', '\x7b'] ++ hex c.toNat ++ ['\x7d']

/-- A text with quotation marks around it. -/
def encode (s : List Char) : List Char := '"' :: s.flatMap escape ++ ['"']

/-- A visible character other than the mark and the backslash stands for
itself. -/
theorem escape_of_visible {c : Char} (h : Unicode.isVisible c = true) (hm : c ≠ '"')
    (hb : c ≠ '\\') (h0 : c ≠ '\x00') (ht : c ≠ '\t') (hn : c ≠ '\n') (hr : c ≠ '\r') :
    escape c = [c] := by
  unfold escape
  split <;> first | contradiction | simp [h]

end Quoted
end Keywise
