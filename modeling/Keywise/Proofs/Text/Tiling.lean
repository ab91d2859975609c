/-
# Lines tile a text

Each line starts where the one before it ends, and every line but the last one
has a character. So the starts of the lines are in order, and a character is on
one line only (`Text.onLine_iff`): to look for the line of an offset and to look
for the start of a line undo each other (`Text.lineAt_of_onLine`). The end of the
text, and all that is past it, is on the last line
(`Text.lineAt_of_length_le`).

A range of whole lines has the characters of these lines
(`Range.IsLines.contains_iff`). The one from one offset to another is the least
that includes the lines of both (`Text.tiles`).

Key definitions: `Text.OnLine`, `Range.IsLines`.
Key theorems: `Text.start_line_lt`, `Text.onLine_iff`, `Text.lineAt_of_onLine`,
`Range.isLines_lines`, `Range.lines_subset`, `Text.tiles`.
-/
import Mathlib.Order.Interval.Set.Defs
import Keywise.Proofs.Text.Contents
import Keywise.Proofs.Text.Ranges

namespace Keywise

namespace Text

variable {t : Text} {i j p : Nat}

/-- Offset `p` is on line `i`: on a character of it, or on what ends it. -/
def OnLine (t : Text) (i p : Nat) : Prop := (t.line i).start ≤ p ∧ p < t.nextStart i

/-! ### The starts of lines -/

theorem start_line_zero (t : Text) : (t.line 0).start = 0 := by
  have hcount : 0 < t.lineCount := Nat.zero_lt_of_lt t.lastLine_lt
  obtain ⟨pre, l, post, -, hlen, hline⟩ := exists_line_eq hcount
  obtain rfl := List.length_eq_zero_iff.mp hlen
  rw [hline]
  rfl

theorem nextStart_of_lt (h : i + 1 < t.lineCount) : t.nextStart i = (t.line (i + 1)).start :=
  if_pos h

theorem start_line_le_nextStart (hi : i < t.lineCount) : (t.line i).start ≤ t.nextStart i := by
  obtain ⟨pre, l, post, hlines, rfl, hline⟩ := exists_line_eq hi
  rw [nextStart_eq hlines, hline]
  exact Nat.le_add_right _ _

theorem exists_ended_line (h : i + 1 < t.lineCount) : ∃ pre body b post,
    t.lines = pre ++ (body ++ b) :: post ∧ pre.length = i ∧ t.line i = .after pre (body ++ b) ∧
      (∀ c ∈ body, isBreak c = false) ∧ IsEnding b := by
  obtain ⟨pre, l, post, hlines, hlen, hline⟩ := exists_line_eq (Nat.lt_of_succ_lt h)
  have hpost : post ≠ [] := by
    rintro rfl
    rw [lineCount_eq hlines, ← hlen] at h
    exact Nat.lt_irrefl _ h
  have hcut : Cut (l :: post) := (hlines ▸ cut_lines t : Cut (pre ++ l :: post)).of_append (by simp)
  obtain ⟨body, b, rfl, hbody, hb, -⟩ := hcut.exists_body hpost
  exact ⟨pre, body, b, post, hlines, hlen, hline, hbody, hb⟩

/-- **Every line but the last one** has a character. -/
theorem start_line_lt_nextStart (h : i + 1 < t.lineCount) :
    (t.line i).start < t.nextStart i := by
  obtain ⟨pre, body, b, post, hlines, rfl, hline, -, hb⟩ := exists_ended_line h
  have hpos := List.length_pos_iff.mpr hb.ne_nil
  rw [nextStart_eq hlines, hline, List.length_append]
  show pre.flatten.length < _
  omega

/-- **Lines start in order.** -/
theorem start_line_lt (hij : i < j) (hj : j < t.lineCount) :
    (t.line i).start < (t.line j).start := by
  induction j, hij using Nat.le_induction with
  | base =>
    rw [← nextStart_of_lt hj]
    exact start_line_lt_nextStart hj
  | succ j hij ih =>
    have hnext := start_line_lt_nextStart hj
    rw [nextStart_of_lt hj] at hnext
    exact Nat.lt_trans (ih (Nat.lt_of_succ_lt hj)) hnext

theorem start_line_le (hij : i ≤ j) (hj : j < t.lineCount) :
    (t.line i).start ≤ (t.line j).start := by
  rcases Nat.eq_or_lt_of_le hij with rfl | hlt
  · exact Nat.le_refl _
  · exact Nat.le_of_lt (start_line_lt hlt hj)

theorem nextStart_le_start_line (hij : i < j) (hj : j < t.lineCount) :
    t.nextStart i ≤ (t.line j).start := by
  rw [nextStart_of_lt (Nat.lt_of_le_of_lt hij hj)]
  exact start_line_le hij hj

theorem nextStart_le_nextStart (hij : i ≤ j) (hj : j < t.lineCount) :
    t.nextStart i ≤ t.nextStart j := by
  rcases Nat.eq_or_lt_of_le hij with rfl | hlt
  · exact Nat.le_refl _
  · exact Nat.le_trans (nextStart_le_start_line hlt hj) (start_line_le_nextStart hj)

/-! ### The line of an offset -/

theorem number_lineAt_lt (t : Text) (p : Nat) : (t.lineAt p).number < t.lineCount := by
  obtain ⟨pre, l, post, h⟩ := t.exists_holds p
  rw [h.lineAt, lineCount_eq h.lines]
  show pre.length < _
  omega

/-- **An offset on a line** is found to be on it. -/
theorem lineAt_of_onLine (hi : i < t.lineCount) (h : t.OnLine i p) : t.lineAt p = t.line i := by
  obtain ⟨pre, l, post, hlines, rfl, hline⟩ := exists_line_eq hi
  obtain ⟨hstart, hnext⟩ := h
  rw [hline] at hstart
  rw [nextStart_eq hlines] at hnext
  have hholds : t.Holds pre l post p := ⟨hlines, hstart, Or.inr hnext⟩
  rw [hholds.lineAt, hline]

theorem onLine_number_lineAt (hp : p < t.length) : t.OnLine (t.lineAt p).number p := by
  obtain ⟨pre, l, post, h⟩ := t.exists_holds p
  have hnumber : (t.lineAt p).number = pre.length := by
    rw [h.lineAt]
    rfl
  rw [hnumber]
  refine ⟨?_, ?_⟩
  · rw [line_eq h.lines]
    exact h.start_le
  · rw [nextStart_eq h.lines]
    exact h.lt_next_of_lt hp

/-- **A character is on one line only.** -/
theorem onLine_iff (hi : i < t.lineCount) (hp : p < t.length) :
    t.OnLine i p ↔ i = (t.lineAt p).number := by
  constructor
  · intro h
    rw [lineAt_of_onLine hi h, number_line hi]
  · rintro rfl
    exact onLine_number_lineAt hp

/-- **Past the characters** is the last line. -/
theorem lineAt_of_length_le (h : t.length ≤ p) : t.lineAt p = t.line (t.lineCount - 1) := by
  obtain ⟨pre, l, post, hholds⟩ := t.exists_holds p
  have hlast : post = [] ∨ p < t.length := by
    refine hholds.lt_next.imp_right fun hlt => ?_
    have hlen := length_eq hholds.lines
    omega
  obtain rfl := hlast.resolve_right (Nat.not_lt.mpr h)
  have hcount : t.lineCount - 1 = pre.length := by
    rw [lineCount_eq hholds.lines]
    rfl
  rw [hholds.lineAt, hcount, line_eq hholds.lines]

end Text

/-! ### Ranges of whole lines -/

namespace Range

/-- The offsets of a range are among those of another. -/
instance : HasSubset Range := ⟨fun r r' => r'.left ≤ r.left ∧ r.right ≤ r'.right⟩

/-- The range is the lines from `i` to `j`. -/
structure IsLines (t : Text) (i j : Nat) (r : Range) : Prop where
  le : i ≤ j
  lt_lineCount : j < t.lineCount
  left : r.left = (t.line i).start
  right : r.right = t.nextStart j

variable {t : Text} {i j : Nat} {r : Range}

/-- **The characters of the range** are those of the lines. -/
theorem IsLines.contains_iff (h : r.IsLines t i j) {p : Nat} (hp : p < t.length) :
    r.contains p = true ↔ i ≤ (t.lineAt p).number ∧ (t.lineAt p).number ≤ j := by
  obtain ⟨hstart, hnext⟩ := Text.onLine_number_lineAt hp
  have hcount := t.number_lineAt_lt p
  have hcontains : r.contains p = true ↔ (t.line i).start ≤ p ∧ p < t.nextStart j := by
    simp [contains, h.left, h.right]
  rw [hcontains]
  constructor
  · rintro ⟨hleft, hright⟩
    constructor
    · by_contra hlt
      have hbefore := Text.nextStart_le_start_line (Nat.not_le.mp hlt)
        (Nat.lt_of_le_of_lt h.le h.lt_lineCount)
      omega
    · by_contra hlt
      have hbehind := Text.nextStart_le_start_line (Nat.not_le.mp hlt) hcount
      omega
  · rintro ⟨hi, hj⟩
    have hleft := Text.start_line_le hi hcount
    have hright := Text.nextStart_le_nextStart hj h.lt_lineCount
    omega

/-- **From one offset to another** are the lines from the first to the last of
the two lines. -/
theorem isLines_lines (t : Text) (a b : Nat) :
    (lines t a b).IsLines t (min (t.lineAt a).number (t.lineAt b).number)
      (max (t.lineAt a).number (t.lineAt b).number) := by
  have hlt : max (t.lineAt a).number (t.lineAt b).number < t.lineCount :=
    Nat.max_lt.mpr ⟨t.number_lineAt_lt a, t.number_lineAt_lt b⟩
  exact ⟨Nat.le_trans (Nat.min_le_left _ _) (Nat.le_max_left _ _), hlt, lines_left t a b,
    lines_right t a b⟩

/-- **There are no fewer lines** that include those of both offsets. -/
theorem lines_subset (h : r.IsLines t i j) {a b : Nat} (ha : (t.lineAt a).number ∈ Set.Icc i j)
    (hb : (t.lineAt b).number ∈ Set.Icc i j) : lines t a b ⊆ r := by
  have hlines := isLines_lines t a b
  refine ⟨?_, ?_⟩
  · rw [h.left, hlines.left]
    exact Text.start_line_le (Nat.le_min.mpr ⟨ha.1, hb.1⟩)
      (Nat.lt_of_le_of_lt hlines.le hlines.lt_lineCount)
  · rw [h.right, hlines.right]
    exact Text.nextStart_le_nextStart (Nat.max_le.mpr ⟨ha.2, hb.2⟩) h.lt_lineCount

end Range

/-- **Lines tile a text.** The first one starts the text, the starts are in order,
and each line goes on to the start of the next one, the last one to the end of
the text. Of an offset that line is found which holds it, and no other does;
the end of the text is on the last line. All offsets of a line lead back to it.
The range of lines from one offset to another does not depend on which comes
first: it is whole lines that include those of both, and the least of these. -/
theorem Text.tiles (t : Text) :
    (t.line 0).start = 0 ∧
    (∀ i j, i < j → j < t.lineCount → (t.line i).start < (t.line j).start) ∧
    (∀ i < t.lineCount, t.nextStart i =
      if i + 1 < t.lineCount then (t.line (i + 1)).start else t.length) ∧
    (∀ o, let p := min o t.length
      ∃ i < t.lineCount, t.lineAt o = t.line i ∧
        ((p < t.length ∧ ∀ j < t.lineCount, t.OnLine j p ↔ j = i) ∨
          (p = t.length ∧ i = t.lineCount - 1))) ∧
    (∀ i < t.lineCount, ∀ p, t.OnLine i p → t.lineAt p = t.line i) ∧
    ∀ a b, Range.lines t a b = Range.lines t b a ∧
      (∃ i j, (Range.lines t a b).IsLines t i j ∧
        (t.lineAt a).number ∈ Set.Icc i j ∧ (t.lineAt b).number ∈ Set.Icc i j ∧
        ∀ p < t.length, (Range.lines t a b).contains p = true ↔
          (t.lineAt p).number ∈ Set.Icc i j) ∧
      ∀ i j r, r.IsLines t i j → (t.lineAt a).number ∈ Set.Icc i j →
        (t.lineAt b).number ∈ Set.Icc i j → Range.lines t a b ⊆ r := by
  refine ⟨t.start_line_zero, fun i j => start_line_lt, fun i _ => rfl, fun o => ?_,
    fun i hi p => lineAt_of_onLine hi, fun a b => ⟨Range.lines_comm t a b, ?_, fun i j r h =>
      Range.lines_subset h⟩⟩
  · intro p
    refine ⟨(t.lineAt o).number, t.number_lineAt_lt o, (t.line_number_lineAt o).symm, ?_⟩
    rcases Nat.lt_or_ge o t.length with ho | ho
    · have hp : p = o := Nat.min_eq_left (Nat.le_of_lt ho)
      rw [hp]
      exact Or.inl ⟨ho, fun j hj => onLine_iff hj ho⟩
    · refine Or.inr ⟨Nat.min_eq_right ho, ?_⟩
      rw [lineAt_of_length_le ho]
      exact number_line (Nat.sub_one_lt_of_lt (Nat.zero_lt_of_lt t.lastLine_lt))
  · have hlines := Range.isLines_lines t a b
    exact ⟨_, _, hlines, ⟨Nat.min_le_left _ _, Nat.le_max_left _ _⟩,
      ⟨Nat.min_le_right _ _, Nat.le_max_right _ _⟩, fun p hp => hlines.contains_iff hp⟩

end Keywise
