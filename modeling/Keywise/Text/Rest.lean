/-
# Where a cursor may rest

Between commands the cursor rests on a character of a line, or at the start
of an empty line. A text that ends in a break does not have a line after it
for this purpose.

Key definitions: `Text.lastLine`, `Text.firstNonBlank`, `Text.rest`.
-/
import Keywise.Text.Basic

namespace Keywise
namespace Text

/-- The number of the last line the cursor may rest on. An empty line after
the last break is none, unless it is the only line. -/
def lastLine (t : Text) : Nat :=
  if lineCount t > 1 ∧ (line t (lineCount t - 1)).length = 0 then lineCount t - 2
  else lineCount t - 1

/-- Whether a line is indented by `c`. -/
def isIndent (c : Char) : Bool := c == ' ' || c == '\t'

/-- The offset of the first character of line `l` that is neither a space nor
a tab, or of its last character if all are. -/
def firstNonBlank (t : Text) (l : Line) : Nat :=
  let indent := (t.content l).takeWhile isIndent
  if indent.length < (t.content l).length then l.start + indent.length else l.last

/-- The resting place for a cursor at offset `o`: on the same line if the
cursor may rest there, and otherwise on the last one. -/
def rest (t : Text) (o : Nat) : Nat :=
  let here := t.lineAt o
  let l := if here.number > t.lastLine then t.line t.lastLine else here
  max l.start (min o l.last)

theorem lastLine_lt (t : Text) : t.lastLine < t.lineCount := by
  have h : 0 < t.lineCount := List.length_pos_iff.mpr (lines_ne_nil t)
  unfold lastLine; split <;> omega

end Text
end Keywise
