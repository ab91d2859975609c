/-
# Places on rows

Where the line feed is the only break, the line of an offset is known by the
number of its row (`Rows.number_lineAt`), and a line by its number is that
row's (`Rows.rowAt_start_line`). The first character of a row that is no
blank is where the cursor is put on its line, and a place where it may rest if
the row counts as a line (`Rows.rest_place`).

Key theorems: `Rows.number_lineAt`, `Rows.start_lineAt`,
`Rows.rowAt_start_line`, `Rows.firstNonBlank_line_text`, `Rows.rest_place`.
-/
import Mathlib.Order.MinMax
import Keywise.Proofs.Text.Rows

namespace Keywise

namespace Text

theorem line_number_lineAt (t : Text) (p : Nat) : t.line (t.lineAt p).number = t.lineAt p := by
  obtain ⟨pre, l, post, h⟩ := t.exists_holds p
  rw [h.lineAt]
  exact line_eq h.lines

theorem exists_line_eq {t : Text} {k : Nat} (hk : k < t.lineCount) :
    ∃ pre l post, t.lines = pre ++ l :: post ∧ pre.length = k ∧ t.line k = .after pre l := by
  have hlt : k < t.lines.length := hk
  have hlines : t.lines = t.lines.take k ++ t.lines[k] :: t.lines.drop (k + 1) := by
    rw [List.getElem_cons_drop, List.take_append_drop]
  have hlen : (t.lines.take k).length = k := List.length_take_of_le (Nat.le_of_lt hlt)
  have hline := line_eq hlines
  rw [hlen] at hline
  exact ⟨_, _, _, hlines, hlen, hline⟩

/-- **On a line that the cursor may rest on**, the first character that is no
blank is a resting place. -/
theorem rest_firstNonBlank_line {t : Text} {k : Nat} (hk : k ≤ t.lastLine) :
    t.rest (t.firstNonBlank (t.line k)) = t.firstNonBlank (t.line k) := by
  obtain ⟨pre, l, post, hlines, hlen, hline⟩ :=
    exists_line_eq (Nat.lt_of_le_of_lt hk t.lastLine_lt)
  obtain ⟨hstart, hlast⟩ := t.firstNonBlank_bounds (t.line k)
  rw [hline] at hstart hlast ⊢
  exact rest_of_mem hlines (by rwa [hlen]) hstart hlast

theorem stop_line_le {t : Text} {k : Nat} (hk : k < t.lineCount) :
    (t.line k).stop ≤ t.length := by
  obtain ⟨pre, l, post, hlines, -, hline⟩ := exists_line_eq hk
  have hlen := length_eq hlines
  have hle := contentLength_le l
  rw [hline]
  show pre.flatten.length + contentLength l ≤ t.length
  omega

theorem bounds_of_rest_eq_self {t : Text} {p : Nat} (h : t.rest p = p) :
    (t.lineAt p).number ≤ t.lastLine ∧ (t.lineAt p).start ≤ p ∧ p ≤ (t.lineAt p).last := by
  obtain ⟨pre, l, post, hlines, hle, hrest⟩ := t.exists_rest_eq p
  have hstart : (Line.after pre l).start = pre.flatten.length := rfl
  have hle' := (Line.after pre l).start_le_last
  have hp : pre.flatten.length ≤ p ∧ p ≤ (Line.after pre l).last := by omega
  have hholds := holds_of_mem hlines hle hp.1 hp.2
  rw [hholds.lineAt]
  exact ⟨hle, hp.1, hp.2⟩

end Text

namespace Rows

/-! ### Lines by their numbers -/

/-- **The number of a line** is that of the line feeds before it. -/
theorem number_lineAt {t : Text} (h : t.FeedsOnly) (p : Nat) :
    (t.lineAt p).number = t.rowAt p := by
  have hw := whole_rows h
  obtain ⟨A, r, B, hhas⟩ := exists_has (rows_ne_nil t) p
  rw [← text_rows t, hhas.lineAt hw, hhas.rowAt hw]
  rfl

theorem monotone_rowAt (t : Text) : Monotone t.rowAt := fun _ _ h =>
  (List.take_sublist_take_left h).count_le '\n'

theorem start_lineAt {t : Text} (h : t.FeedsOnly) (p : Nat) :
    (t.lineAt p).start = start t.rows (t.rowAt p) := by
  have hw := whole_rows h
  obtain ⟨A, r, B, hhas⟩ := exists_has (rows_ne_nil t) p
  have hstart : start t.rows A.length = (fed A).length := by
    unfold start
    rw [hhas.eq, List.take_left]
  have hline := hhas.lineAt hw
  have hrow := hhas.rowAt hw
  rw [text_rows] at hline hrow
  rw [hline, hrow, hstart]
  rfl

theorem lineAt_eq_of_rowAt_eq {t : Text} (h : t.FeedsOnly) {p q : Nat}
    (hrow : t.rowAt p = t.rowAt q) : t.lineAt p = t.lineAt q := by
  rw [← t.line_number_lineAt p, ← t.line_number_lineAt q, number_lineAt h, number_lineAt h, hrow]

theorem exists_eq_append {rows : List Text} {k : Nat} (hk : k < rows.length) :
    ∃ A r B, rows = A ++ r :: B ∧ A.length = k :=
  ⟨rows.take k, rows[k], rows.drop (k + 1),
    by rw [List.getElem_cons_drop, List.take_append_drop],
    List.length_take_of_le (Nat.le_of_lt hk)⟩

theorem lastLine_eq {t : Text} (h : t.FeedsOnly) : t.lastLine = last t.rows := by
  have hlast := lastLine_text (whole_rows h) (rows_ne_nil t)
  rwa [text_rows] at hlast

theorem rowAt_start_line {t : Text} (h : t.FeedsOnly) {k : Nat} (hk : k < t.rows.length) :
    t.rowAt (t.line k).start = k := by
  obtain ⟨A, r, B, hrows, rfl⟩ := exists_eq_append hk
  have hw : Whole (A ++ r :: B) := hrows ▸ whole_rows h
  have ht : t = text (A ++ r :: B) := by rw [← hrows, text_rows]
  have hA : ∀ q ∈ A, '\n' ∉ q := fun q hq => hw.notMem q (List.mem_append_left _ hq)
  rw [ht, line_text hw]
  show ((text (A ++ r :: B)).take (fed A).length).count '\n' = _
  rw [text_append (List.cons_ne_nil r B), List.take_left, count_fed hA]

/-! ### The first character that is no blank -/

theorem slice_text {A B : List Text} {r : Text} :
    (text (A ++ r :: B)).slice (fed A).length r.length = r := by
  unfold Text.slice
  rw [text_append (List.cons_ne_nil r B), List.drop_left]
  by_cases hB : B = []
  · rw [hB, text_singleton, List.take_length]
  · rw [text_cons hB, List.take_left]

/-- **The first character that is no blank** on the line of a row. -/
theorem firstNonBlank_line {A B : List Text} {r : Text} :
    (text (A ++ r :: B)).firstNonBlank (line A r) = (fed A).length + indent r := by
  have hcontent : (text (A ++ r :: B)).content (line A r) = r := slice_text
  simp only [Text.firstNonBlank, hcontent, indent]
  split
  · rfl
  · show (if r.length = 0 then (fed A).length else (fed A).length + r.length - 1) = _
    by_cases hr : r.length = 0
    · rw [if_pos hr, hr]
      rfl
    · rw [if_neg hr]
      omega

theorem place_append (A B : List Text) (r : Text) :
    place (A ++ r :: B) A.length = (fed A).length + indent r := by
  simp [place, start]

theorem indent_le_length_text (A : List Text) (r : Text) (B : List Text) :
    (fed A).length + indent r ≤ (text (A ++ r :: B)).length := by
  have hindent : indent r ≤ r.length := by
    simp only [indent]
    split <;> omega
  have hrow : r.length ≤ (text (r :: B)).length := by
    by_cases hB : B = []
    · exact Nat.le_of_eq (by rw [hB, text_singleton])
    · rw [text_cons hB, List.length_append]
      exact Nat.le_add_right _ _
  rw [text_append (List.cons_ne_nil r B), List.length_append]
  omega

/-- **The first character that is no blank** on a line by its number. -/
theorem firstNonBlank_line_text {rows : List Text} (h : Whole rows) {k : Nat}
    (hk : k < rows.length) : (text rows).firstNonBlank ((text rows).line k) = place rows k := by
  obtain ⟨A, r, B, rfl, rfl⟩ := exists_eq_append hk
  rw [line_text h, firstNonBlank_line, place_append]

theorem place_le_length {rows : List Text} {k : Nat} (hk : k < rows.length) :
    place rows k ≤ (text rows).length := by
  obtain ⟨A, r, B, rfl, rfl⟩ := exists_eq_append hk
  rw [place_append]
  exact indent_le_length_text A r B

/-- The first character of a row that is no blank is a resting place if the row
counts as a line. -/
theorem rest_place {rows : List Text} (h : Whole rows) (hne : rows ≠ []) {k : Nat}
    (hk : k ≤ last rows) : (text rows).rest (place rows k) = place rows k := by
  rw [← firstNonBlank_line_text h (Nat.lt_of_le_of_lt hk (last_lt hne))]
  exact Text.rest_firstNonBlank_line (by rwa [lastLine_text h hne])

end Rows
end Keywise
