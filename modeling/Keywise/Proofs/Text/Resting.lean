/-
# The places where a cursor may rest

A resting place is one that `Text.rest` leaves as it is. Every place that
`Text.rest` leads to is one (`Text.rest_rest`), and so is the first character
that is no blank of the line of any character (`Text.rest_firstNonBlank`). The
place past the last character is none, unless the text is empty
(`Text.rest_lt_length`).

For the place of a character it depends only on the text up to there: it is
a resting place unless the text up to it ends with a line feed or carriage
return that ends a line with something before it (`Text.rest_eq_self_iff`).

Key definitions: `Text.endsFullLine`.
Key theorems: `Text.le_lastLine_iff`, `Text.rest_of_mem`, `Text.rest_rest`,
`Text.rest_lt_length`, `Text.rest_firstNonBlank`, `Text.rest_eq_self_iff`.
-/
import Keywise.Proofs.Text.Lines

namespace Keywise
namespace Text

section

variable {t : Text} {pre : List Text} {l : Text} {post : List Text}

/-! ### The lines a cursor may rest on -/

theorem lastLine_eq (h : t.lines = pre ++ [l]) :
    t.lastLine = if pre ≠ [] ∧ l = [] then pre.length - 1 else pre.length := by
  have hcount : t.lineCount = pre.length + 1 := lineCount_eq h
  have hline : t.line (t.lineCount - 1) = .after pre l := by
    rw [hcount, Nat.add_sub_cancel]
    exact line_eq h
  have hlen : (Line.after pre l).length = l.length := by
    have hcut : Cut [l] := (h ▸ cut_lines t : Cut (pre ++ [l])).of_append (by simp)
    exact contentLength_of_isBreak_eq_false hcut.isBreak_of_mem_last
  have hcond : t.lineCount > 1 ∧ (t.line (t.lineCount - 1)).length = 0 ↔ pre ≠ [] ∧ l = [] := by
    rw [hline, hlen, hcount, ← List.length_pos_iff, List.length_eq_zero_iff, gt_iff_lt,
      Nat.lt_add_left_iff_pos]
  unfold lastLine
  rw [if_congr hcond rfl rfl, hcount]
  rfl

/-- **The cursor may rest on a line** if it has characters or is the only
one. -/
theorem le_lastLine_iff (h : t.lines = pre ++ l :: post) :
    pre.length ≤ t.lastLine ↔ l ≠ [] ∨ pre = [] := by
  rcases List.eq_nil_or_concat post with rfl | ⟨mid, last, rfl⟩
  · rw [lastLine_eq h]
    by_cases hpre : pre = []
    · simp [hpre]
    · have hpos := List.length_pos_iff.mpr hpre
      by_cases hl : l = []
      · rw [if_pos ⟨hpre, hl⟩]
        refine iff_of_false (by omega) ?_
        simp [hpre, hl]
      · rw [if_neg (fun hn => hl hn.2)]
        exact iff_of_true (Nat.le_refl _) (Or.inl hl)
  · rw [List.concat_eq_append] at h
    have hlines : t.lines = (pre ++ l :: mid) ++ [last] := by
      rw [h]
      simp
    have hle : pre.length ≤ t.lastLine := by
      rw [lastLine_eq hlines, List.length_append, List.length_cons]
      split <;> omega
    have hl : l ≠ [] := by
      have hcut : Cut (l :: (mid ++ [last])) := (h ▸ cut_lines t : Cut _).of_append (by simp)
      obtain ⟨body, b, rfl, -, hb, -⟩ := hcut.exists_body (by simp)
      simp [hb.ne_nil]
    exact iff_of_true hle (Or.inl hl)

theorem last_after_lt (hl : l ≠ []) :
    (Line.after pre l).last < pre.flatten.length + l.length := by
  have hpos := List.length_pos_iff.mpr hl
  have hle := contentLength_le l
  show (if contentLength l = 0 then pre.flatten.length
    else pre.flatten.length + contentLength l - 1) < _
  split <;> omega

theorem holds_of_mem (h : t.lines = pre ++ l :: post) (hle : pre.length ≤ t.lastLine) {p : Nat}
    (hstart : pre.flatten.length ≤ p) (hlast : p ≤ (Line.after pre l).last) :
    t.Holds pre l post p := by
  refine ⟨h, hstart, ?_⟩
  by_cases hl : l = []
  · left
    have hcount := lineCount_eq h
    have hlt := t.lastLine_lt
    have hpre : pre = [] := by simpa [hl] using (le_lastLine_iff h).mp hle
    subst hpre hl
    by_contra hpost
    have hcut : Cut ([] :: post) := by
      have hlines := cut_lines t
      rwa [h] at hlines
    obtain ⟨body, b, hnil, -, hb, -⟩ := hcut.exists_body hpost
    exact hb.ne_nil (List.append_eq_nil_iff.mp hnil.symm).2
  · right
    exact Nat.lt_of_le_of_lt hlast (last_after_lt hl)

/-- **On such a line**, every place from the start to the last character is a
resting place. -/
theorem rest_of_mem (h : t.lines = pre ++ l :: post) (hle : pre.length ≤ t.lastLine) {p : Nat}
    (hstart : pre.flatten.length ≤ p) (hlast : p ≤ (Line.after pre l).last) : t.rest p = p := by
  unfold rest
  rw [(holds_of_mem h hle hstart hlast).lineAt]
  have hnum : ¬ (Line.after pre l).number > t.lastLine := Nat.not_lt.mpr hle
  simp only [if_neg hnum]
  show max pre.flatten.length _ = _
  omega

theorem exists_rest_eq (t : Text) (o : Nat) : ∃ pre l post, t.lines = pre ++ l :: post ∧
    pre.length ≤ t.lastLine ∧
      t.rest o = max pre.flatten.length (min o (Line.after pre l).last) := by
  obtain ⟨pre, l, post, h⟩ := exists_holds t o
  unfold rest
  rw [h.lineAt]
  by_cases hle : pre.length ≤ t.lastLine
  · have hnum : ¬ (Line.after pre l).number > t.lastLine := Nat.not_lt.mpr hle
    exact ⟨pre, l, post, h.lines, hle, by simp only [if_neg hnum]; rfl⟩
  · have hnum : (Line.after pre l).number > t.lastLine := Nat.not_le.mp hle
    obtain ⟨pre', l', post', hlines, hlen⟩ : ∃ pre' l' post', t.lines = pre' ++ l' :: post' ∧
        pre'.length = t.lastLine := by
      have hlt : t.lastLine < t.lines.length := t.lastLine_lt
      refine ⟨t.lines.take t.lastLine, t.lines[t.lastLine], t.lines.drop (t.lastLine + 1), ?_, ?_⟩
      · rw [List.getElem_cons_drop, List.take_append_drop]
      · rw [List.length_take]
        omega
    refine ⟨pre', l', post', hlines, Nat.le_of_eq hlen, ?_⟩
    simp only [if_pos hnum]
    rw [← hlen, line_eq hlines]
    rfl

end

/-! ### Resting places -/

/-- **What is led to is a resting place.** -/
theorem rest_rest (t : Text) (o : Nat) : t.rest (t.rest o) = t.rest o := by
  obtain ⟨pre, l, post, h, hle, hrest⟩ := t.exists_rest_eq o
  have hstart := (Line.after pre l).start_le_last
  have hs : (Line.after pre l).start = pre.flatten.length := rfl
  exact rest_of_mem h hle (by omega) (by omega)

/-- **The end of a text** is no resting place, unless the text is empty. -/
theorem rest_lt_length {t : Text} (ht : t ≠ []) (o : Nat) : t.rest o < t.length := by
  obtain ⟨pre, l, post, h, hle, hrest⟩ := t.exists_rest_eq o
  have hlen := length_eq h
  have hl : l ≠ [] := by
    rcases (le_lastLine_iff h).mp hle with hl | rfl
    · exact hl
    · rintro rfl
      have hholds : t.Holds [] [] post 0 :=
        holds_of_mem h hle (Nat.zero_le _) (Nat.zero_le _)
      rcases hholds.lt_next with rfl | hlt
      · exact ht (List.length_eq_zero_iff.mp (by simpa using hlen))
      · simp at hlt
  have hlast : (Line.after pre l).last < pre.flatten.length + l.length := last_after_lt hl
  have hstart := (Line.after pre l).start_le_last
  have hs : (Line.after pre l).start = pre.flatten.length := rfl
  omega

theorem rest_le_length (t : Text) (o : Nat) : t.rest o ≤ t.length := by
  by_cases ht : t = []
  · subst ht
    exact Nat.le_of_eq (by simp [rest, lines, lineAt, lineAtFrom, Line.last, contentLength])
  · exact Nat.le_of_lt (rest_lt_length ht o)

theorem le_length_of_rest_eq_self {t : Text} {p : Nat} (h : t.rest p = p) : p ≤ t.length :=
  h ▸ t.rest_le_length p

theorem Holds.le_lastLine {t : Text} {pre : List Text} {l : Text} {post : List Text} {p : Nat}
    (h : t.Holds pre l post p) (hp : p < t.length) : pre.length ≤ t.lastLine := by
  refine (le_lastLine_iff h.lines).mpr (Or.inl fun hl => ?_)
  have hlt := h.lt_next_of_lt hp
  have hle := h.start_le
  rw [hl, List.length_nil] at hlt
  omega

theorem firstNonBlank_bounds (t : Text) (l : Line) :
    l.start ≤ t.firstNonBlank l ∧ t.firstNonBlank l ≤ l.last := by
  have hcontent : (t.content l).length ≤ l.length := by
    unfold content slice
    rw [List.length_take]
    exact Nat.min_le_left _ _
  have hlast := l.start_le_last
  simp only [firstNonBlank]
  split
  · next hlt =>
    have hne : l.length ≠ 0 := by omega
    unfold Line.last Line.stop
    rw [if_neg hne]
    omega
  · exact ⟨hlast, Nat.le_refl _⟩

/-- **On the line of a character**, the first one that is no blank is a
resting place. -/
theorem rest_firstNonBlank {t : Text} {p : Nat} (hp : p < t.length) :
    t.rest (t.firstNonBlank (t.lineAt p)) = t.firstNonBlank (t.lineAt p) := by
  obtain ⟨pre, l, post, h⟩ := exists_holds t p
  rw [h.lineAt]
  obtain ⟨hstart, hlast⟩ := t.firstNonBlank_bounds (.after pre l)
  exact rest_of_mem h.lines (h.le_lastLine hp) hstart hlast

/-- Behind a text that ends with a line feed is a line of its own. -/
theorem start_lineAt_length (t : Text) :
    (lineAt (t ++ ['\n']) (t ++ ['\n']).length).start = (t ++ ['\n']).length := by
  obtain ⟨pre, l, post, h⟩ := exists_holds (t ++ ['\n']) (t ++ ['\n']).length
  have hlen := length_eq h.lines
  rw [h.lineAt]
  show pre.flatten.length = _
  rcases h.lt_next with rfl | hlt
  · have hno : ∀ c ∈ l, isBreak c = false := by
      have hcut := cut_lines (t ++ ['\n'])
      rw [h.lines] at hcut
      exact (hcut.of_append (by simp)).isBreak_of_mem_last
    have hl : l = [] := by
      by_contra hl
      have hflat : t ++ ['\n'] = pre.flatten ++ l := by
        rw [← flatten_lines (t ++ ['\n']), h.lines]
        simp
      have hlast : some '\n' = some (l.getLast hl) := by
        rw [← List.getLast?_concat, hflat, List.getLast?_append_of_ne_nil _ hl,
          List.getLast?_eq_some_getLast hl]
      have hbreak := hno _ (List.getLast_mem hl)
      rw [← Option.some.inj hlast] at hbreak
      exact absurd hbreak (by decide)
    subst hl
    simpa using hlen.symm
  · omega

/-! ### The places of characters -/

/-- Whether a text ends with a line feed or a carriage return that ends a line
with something before it. -/
def endsFullLine (u : Text) : Bool :=
  match u.reverse with
  | c :: d :: _ => isReturn c && !startsLine d (some c)
  | _ => false

/-- The place of a character is a resting place unless it is past the content
of its line and not the first place there. -/
theorem rest_eq_self_iff_lineAt {t : Text} {p : Nat} (hp : p < t.length) :
    t.rest p = p ↔ ¬ ((t.lineAt p).stop ≤ p ∧ (t.lineAt p).start ≠ p) := by
  obtain ⟨pre, l, post, h⟩ := exists_holds t p
  have hnum : ¬ (Line.after pre l).number > t.lastLine := Nat.not_lt.mpr (h.le_lastLine hp)
  have hstart : (Line.after pre l).start ≤ p := h.start_le
  unfold rest
  rw [h.lineAt]
  simp only [if_neg hnum, Line.last, Line.stop]
  split <;> omega

/-- **The place of a character** is a resting place unless the text up to it
ends a line with something before it. -/
theorem rest_eq_self_iff {t : Text} {p : Nat} (hp : p < t.length) :
    t.rest p = p ↔ endsFullLine (t.take (p + 1)) = false := by
  rw [rest_eq_self_iff_lineAt hp, stop_lineAt_le_iff hp, ne_eq, start_lineAt_eq_iff hp,
    List.getElem?_eq_getElem hp, Option.any_some]
  cases p with
  | zero =>
    obtain ⟨c, t, rfl⟩ := List.exists_cons_of_length_pos hp
    simp [endsFullLine]
  | succ p =>
    have hlast : t.take (p + 1 + 1) = t.take p ++ [t[p], t[p + 1]] := by
      rw [List.take_succ_eq_append_getElem hp,
        List.take_succ_eq_append_getElem (Nat.lt_of_succ_lt hp), List.append_assoc]
      rfl
    rw [hlast, Nat.add_sub_cancel, List.getElem?_eq_getElem (Nat.lt_of_succ_lt hp),
      Option.any_some]
    simp [endsFullLine]

theorem rest_append_eq_self_iff {u : Text} (hu : u ≠ []) (v : Text) :
    (u ++ v).rest (u.length - 1) = u.length - 1 ↔ endsFullLine u = false := by
  have hpos := List.length_pos_iff.mpr hu
  have hlt : u.length - 1 < (u ++ v).length := by
    rw [List.length_append]
    omega
  rw [rest_eq_self_iff hlt, Nat.sub_add_cancel hpos, List.take_left]

end Text
end Keywise
