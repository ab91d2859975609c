/-
# The number of a line

A line is gone to by its number, which is typed as a command line or as the
count of the motion to the last line. The motion counts the lines on which the
cursor may rest (`Normal.handle_lastLine`). The command counts all lines, and
so a number that is too great leads it to the empty line behind the last break,
if there is one; from there the cursor is put to rest at the end of the line
before, and not on its first character that is no blank
(`ExCommand.rest_lineTarget`).

Key definitions: `Text.linePlace`, `Text.Overshoots`.
Key theorems: `Text.rest_length`, `ExCommand.rest_lineTarget`,
`ExCommand.parse_toDigits`, `Normal.handle_lastLine`.
-/
import Keywise.Proofs.Config.Commands
import Keywise.Proofs.Mode.Counts
import Keywise.Proofs.Text.Tiling

namespace Keywise

/-! ### Lines by their numbers, and what is behind the last one -/

namespace Text

/-- The place of line number `n`: the first character that is no blank, on the
last line on which the cursor may rest if there are fewer. -/
def linePlace (t : Text) (n : Nat) : Nat := t.firstNonBlank (t.line (min (n - 1) t.lastLine))

/-- Line number `n` is behind the last line on which the cursor may rest, and
so is an empty line. -/
def Overshoots (t : Text) (n : Nat) : Prop := t.lastLine + 1 < n ∧ t.lastLine + 1 < t.lineCount

instance (t : Text) (n : Nat) : Decidable (t.Overshoots n) :=
  inferInstanceAs (Decidable (_ ∧ _))

theorem exists_lines_eq_concat (t : Text) : ∃ pre l, t.lines = pre ++ [l] := by
  obtain ⟨pre, l, h⟩ := (List.eq_nil_or_concat t.lines).resolve_left (lines_ne_nil t)
  exact ⟨pre, l, h.trans (List.concat_eq_append ..)⟩

theorem firstNonBlank_line_le {t : Text} {k : Nat} (hk : k < t.lineCount) :
    t.firstNonBlank (t.line k) ≤ t.length :=
  Nat.le_trans (t.firstNonBlank_bounds _).2 (Nat.le_trans (Line.last_le_stop _) (stop_line_le hk))

theorem linePlace_le (t : Text) (n : Nat) : t.linePlace n ≤ t.length :=
  firstNonBlank_line_le (Nat.lt_of_le_of_lt (Nat.min_le_right _ _) t.lastLine_lt)

/-- A line behind those on which the cursor may rest is empty and ends the
text. -/
theorem line_of_lastLine_lt {t : Text} (h : t.lastLine + 1 < t.lineCount) :
    t.line (t.lineCount - 1) = ⟨t.lineCount - 1, t.length, 0⟩ := by
  obtain ⟨pre, l, hlines⟩ := t.exists_lines_eq_concat
  have hcount : t.lineCount = pre.length + 1 := lineCount_eq hlines
  have hl : l = [] := by
    by_contra hl
    have hlast := lastLine_eq hlines
    rw [if_neg fun hn => hl hn.2] at hlast
    omega
  have hlen : t.length = pre.flatten.length := by
    have hlen := length_eq hlines
    rw [hl] at hlen
    exact hlen
  rw [hcount, Nat.add_sub_cancel, line_eq hlines, hl, hlen]
  rfl

/-- **From such a line** the cursor is put to rest at the end of the last line
on which it may. -/
theorem rest_length {t : Text} (h : t.lastLine + 1 < t.lineCount) :
    t.rest t.length = (t.line t.lastLine).last := by
  have hnumber : (t.lineAt t.length).number > t.lastLine := by
    rw [lineAt_of_length_le (Nat.le_refl _), line_of_lastLine_lt h]
    show t.lastLine < t.lineCount - 1
    omega
  have hstart := (t.line t.lastLine).start_le_last
  have hend := Nat.le_trans (t.line t.lastLine).last_le_stop (stop_line_le t.lastLine_lt)
  simp only [rest, if_pos hnumber, Nat.min_eq_right hend, Nat.max_eq_right hstart]

end Text

namespace ExCommand

/-- **Where a line number leads** once the cursor is put to rest: to the first
character that is no blank, on the last line if there are fewer, unless it
overshoots. -/
theorem rest_lineTarget (t : Text) (n : Nat) :
    t.rest (lineTarget t n) =
      if t.Overshoots n then (t.line t.lastLine).last else t.linePlace n := by
  have hlast := t.lastLine_lt
  unfold lineTarget
  by_cases hover : t.Overshoots n
  · obtain ⟨hn, hbehind⟩ := hover
    have hcount : t.lineCount ≤ t.lastLine + 2 := by
      unfold Text.lastLine
      split <;> omega
    have hmin : min (n - 1) (t.lineCount - 1) = t.lineCount - 1 := by omega
    rw [if_pos ⟨hn, hbehind⟩, hmin, Text.line_of_lastLine_lt hbehind, ← Text.rest_length hbehind]
    rfl
  · have hmin : min (n - 1) (t.lineCount - 1) = min (n - 1) t.lastLine := by
      unfold Text.Overshoots at hover
      omega
    rw [if_neg hover, hmin, Text.rest_firstNonBlank_line (Nat.min_le_right _ _)]
    rfl

theorem lineTarget_le (t : Text) (n : Nat) : lineTarget t n ≤ t.length := by
  have hlast := t.lastLine_lt
  exact Text.firstNonBlank_line_le (by omega)

end ExCommand

/-! ### The number that is typed -/

namespace Decimal

theorem value_of_isDigit {s : List Char} (h : ∀ c ∈ s, c.isDigit = true) (acc : Nat) :
    value acc s = some (Nat.ofDigitChars 10 s acc) := by
  induction s generalizing acc with
  | nil => rfl
  | cons c s ih =>
    rw [value, if_pos (h c List.mem_cons_self)]
    exact ih (fun d hd => h d (List.mem_cons_of_mem c hd)) _

theorem isDigit_of_mem_toDigits {n : Nat} : ∀ c ∈ Nat.toDigits 10 n, c.isDigit = true :=
  fun _ => Nat.isDigit_of_mem_toDigits (by decide) (by decide)

/-- **A number is read** from its digits, if it is within the limit. -/
theorem read_toDigits {limit n : Nat} (h : n ≤ limit) :
    read limit (Nat.toDigits 10 n) = some n := by
  have hvalue : value 0 (Nat.toDigits 10 n) = some n := by
    rw [value_of_isDigit isDigit_of_mem_toDigits,
      Nat.ofDigitChars_toDigits (by decide) (by decide)]
  have hdigit := isDigit_of_mem_toDigits (n := n)
  obtain ⟨c, s, hcons⟩ := List.exists_cons_of_ne_nil (Nat.toDigits_ne_nil (n := n) (b := 10))
  rw [hcons] at hvalue hdigit ⊢
  have hplus : c ≠ '+' := by
    rintro rfl
    exact absurd (hdigit '+' List.mem_cons_self) (by decide)
  rw [read_cons hplus, ofDigits, hvalue, Option.filter_some, if_pos (decide_eq_true h)]

end Decimal

theorem Unicode.isWhitespace_eq_false_of_isDigit {c : Char} (h : c.isDigit = true) :
    isWhitespace c = false := by
  have hbounds : 48 ≤ c.toNat ∧ c.toNat ≤ 57 := by
    simp only [Char.isDigit, Bool.and_eq_true, decide_eq_true_eq] at h
    exact h
  simp only [isWhitespace, within, whitespace, withinFrom]
  rw [if_neg (by omega), if_neg (by omega), if_neg (by omega), if_neg (by omega),
    if_pos (by omega)]
  rfl

namespace ExCommand

/-- **The digits of a number** are the command to go to that line. -/
theorem parse_toDigits {n : Nat} (hn : n ≤ Offset.max) : parse (Nat.toDigits 10 n) = goto n := by
  have hdigit := Decimal.isDigit_of_mem_toDigits (n := n)
  have htrimmed : Unicode.Trimmed (Nat.toDigits 10 n) :=
    ⟨fun c hc => Unicode.isWhitespace_eq_false_of_isDigit (hdigit c (List.mem_of_mem_head? hc)),
      fun c hc => Unicode.isWhitespace_eq_false_of_isDigit (hdigit c (List.mem_of_mem_getLast? hc))⟩
  have hcolon : ∀ c ∈ (Nat.toDigits 10 n).head?, c ≠ ':' := by
    rintro c hc rfl
    exact absurd (hdigit ':' (List.mem_of_mem_head? hc)) (by decide)
  have hne : (Nat.toDigits 10 n).isEmpty = false := by
    rw [List.isEmpty_eq_false_iff]
    exact Nat.toDigits_ne_nil
  unfold parse
  simp only [body_of_trimmed htrimmed hcolon, hne, Decimal.read_toDigits hn]
  rfl

end ExCommand

namespace Normal

/-- **The motion to the last line** with a count goes to the line of that
number. -/
theorem handle_lastLine (e : Editor) {n : Nat} (hn : 1 ≤ n) (hlimit : n ≤ Count.limit) :
    handle { count := some n } e (.char 'G') =
      (idle, e.moveTo (e.text.linePlace n) .column, true) := by
  have htotal : total { count := some n } = some n := by
    show some (min (n * 1) Count.limit) = some n
    rw [Nat.mul_one, Nat.min_eq_left hlimit]
  have hfollow : e.follow (.line .lastLine) (some n) =
      (e.moveTo (e.text.rest (e.text.firstNonBlank
        (LineMotion.namedLine e.text (some n) e.text.lastLine))) .column, none) := rfl
  have hattempt : attempt { count := some n } e (.char 'G') =
      finish (e.follow (.line .lastLine) (total { count := some n })) := rfl
  unfold handle
  rw [hattempt, htotal, hfollow, LineMotion.namedLine, Nat.max_eq_left hn,
    Text.rest_firstNonBlank_line (Nat.min_le_right _ _)]
  rfl

end Normal
end Keywise
