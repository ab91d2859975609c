/-
# Ranges of whole lines

The further behind an offset is, the further behind its line. So the lines
from one offset to another are told by the numbers of the first and the last
of them, and do not change when an end of the range is moved on its line
(`Range.lines_congr`). From a range of characters that is not empty the lines
are found again when its last character is taken for its end
(`Range.lines_through`).

Key theorems: `Text.monotone_number_lineAt`, `Range.lines_left`,
`Range.lines_right`, `Range.lines_congr`, `Range.lines_through`.
-/
import Keywise.Text.Offset
import Keywise.Text.Range
import Keywise.Proofs.Text.RowPlaces

namespace Keywise
namespace Text

/-- **Lines are in the order** of the offsets they hold. -/
theorem monotone_number_lineAt (t : Text) : Monotone fun p => (t.lineAt p).number :=
  fun _ _ h => (lineAtFrom_le 0 0 t.lines h).1

end Text

namespace Range

variable {t : Text} {a b a' b' : Nat}

theorem lines_left (t : Text) (a b : Nat) : (lines t a b).left =
    (t.line (min (t.lineAt a).number (t.lineAt b).number)).start := by
  have hfirst : (t.lineAt (min a b)).number = min (t.lineAt a).number (t.lineAt b).number :=
    t.monotone_number_lineAt.map_min
  rw [← hfirst, Text.line_number_lineAt]
  rfl

theorem lines_right (t : Text) (a b : Nat) : (lines t a b).right =
    t.nextStart (max (t.lineAt a).number (t.lineAt b).number) := by
  have hlast : (t.lineAt (max a b)).number = max (t.lineAt a).number (t.lineAt b).number :=
    t.monotone_number_lineAt.map_max
  rw [← hlast]
  rfl

/-- **An end of the range** may be moved on its line. -/
theorem lines_congr (ha : t.lineAt a = t.lineAt a') (hb : t.lineAt b = t.lineAt b') :
    lines t a b = lines t a' b' := by
  have hleft : (lines t a b).left = (lines t a' b').left := by
    rw [lines_left, lines_left, ha, hb]
  have hright : (lines t a b).right = (lines t a' b').right := by
    rw [lines_right, lines_right, ha, hb]
  exact Range.ext hleft hright

/-- **The lines of the characters** from one offset through another are the
lines from one to the other, if there are characters at both or none at
all. -/
theorem lines_through (hlen : t.length ≤ Offset.max)
    (h : t = [] ∨ a < t.length ∧ b < t.length) :
    lines t (through t a b).left
        (max (Offset.shift (through t a b).right (-1)) (through t a b).left) =
      lines t a b := by
  rcases h with rfl | ⟨ha, hb⟩
  · exact lines_congr rfl rfl
  · have hright : (through t a b).right = max a b + 1 := by
      show max (min (max a b + 1) t.length) (max a b) = max a b + 1
      omega
    have hlast : Offset.shift (max a b + 1) (-1) = max a b := by
      rw [Offset.shift_of_mem (by omega)]
      omega
    have hleft : (through t a b).left = min a b := rfl
    have hends : max (max a b) (min a b) = max a b := by omega
    rw [hright, hlast, hleft, hends]
    rcases Nat.le_total a b with hle | hle
    · rw [Nat.min_eq_left hle, Nat.max_eq_right hle]
    · rw [Nat.min_eq_right hle, Nat.max_eq_left hle, lines_comm]

end Range
end Keywise
