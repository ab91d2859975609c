/-
# Edits within a row

Where the line feed is the only break, a range that does not leave its row is
some columns of it (`Rows.Spans`). What stands there is all that is taken with
the range, and another text without a break in its place changes this row and no
other (`Rows.Spans.rows_splice`). So an operator that removes the range
leaves the other rows as they are, and hands a register what it has removed
(`Normal.tookColumns_operate`).

A cursor at rest is on a character of its row, or the row is empty
(`Editor.Rests.exists_stands`). All the ranges that the commands on characters
take are columns of that row: as many from the cursor on as are counted and
there (`Editor.Stands.spans_charsOnLine`), as many before it
(`Editor.Stands.spans_before`), and the rest of the row without the line feed
behind it (`Editor.Stands.spans_lineEnd`).

Key definitions: `Text.columnAt`, `Rows.columns`, `Rows.withColumns`, `Rows.Spans`,
`Editor.Stands`, `Editor.TookColumns`.
Key theorems: `Rows.Spans.rows_splice`, `Normal.tookColumns_operate`,
`Editor.Rests.exists_stands`.
-/
import Keywise.Proofs.Editor.WholeLines
import Keywise.Proofs.Mode.Writing
import Keywise.Proofs.Motion.LineCounts

namespace Keywise

/-- How far an offset is behind the start of its row. -/
def Text.columnAt (t : Text) (p : Nat) : Nat := p - Rows.start t.rows (t.rowAt p)

namespace Rows

open Text (isBreak)

/-- What stands at the columns from `a` to `b` of row `i`. -/
def columns (rows : List Text) (i a b : Nat) : Text := ((rows.getD i []).take b).drop a

/-- The rows with `new` at the columns from `a` to `b` of row `i`. The other rows
are as before. -/
def withColumns (rows : List Text) (i a b : Nat) (new : Text) : List Text :=
  rows.modify i fun r => r.take a ++ new ++ r.drop b

/-- Range `g` of text `t` is the columns from `a` to `b` of row `r`, which has the
rows `A` before it and `B` behind. -/
structure Spans (t : Text) (g : Range) (A : List Text) (r : Text) (B : List Text) (a b : Nat) :
    Prop where
  rows : t.rows = A ++ r :: B
  left : g.left = (fed A).length + a
  right : g.right = (fed A).length + b
  le_length : b ≤ r.length

theorem text_cons_eq (r : Text) (B : List Text) : text (r :: B) = r ++ text ([] :: B) := by
  by_cases hB : B = []
  · rw [hB, text_singleton, text_singleton, List.append_nil]
  · rw [text_cons hB, text_cons hB, List.nil_append]

namespace Spans

variable {t : Text} {g : Range} {A B : List Text} {r : Text} {a b : Nat}

theorem text_eq (h : Spans t g A r B a b) : t = fed A ++ (r ++ text ([] :: B)) := by
  rw [← text_cons_eq, ← text_append (List.cons_ne_nil r B), ← h.rows, text_rows]

theorem le (h : Spans t g A r B a b) : a ≤ b := by
  have hle := g.left_le_right
  have hleft := h.left
  have hright := h.right
  omega

theorem length_eq (h : Spans t g A r B a b) : g.length = b - a := by
  unfold Range.length
  rw [h.left, h.right]
  omega

theorem columns_eq (h : Spans t g A r B a b) : columns t.rows A.length a b = (r.take b).drop a := by
  simp [columns, h.rows]

/-- **What is taken** with the range is what stands at the columns. -/
theorem within_eq (h : Spans t g A r B a b) : t.within g = columns t.rows A.length a b := by
  have hle := h.le_length
  have hab := h.le
  rw [h.columns_eq, List.drop_take]
  unfold Text.within Text.slice
  rw [h.length_eq, h.left, h.text_eq, List.drop_length_add_append,
    List.drop_append_of_le_length (by omega), List.take_append_of_le_length]
  rw [List.length_drop]
  omega

theorem splice_eq (h : Spans t g A r B a b) (new : Text) :
    t.splice g.left g.length new = text (A ++ (r.take a ++ new ++ r.drop b) :: B) := by
  have hle := h.le_length
  have hab := h.le
  have hend : (fed A).length + a + (b - a) = (fed A).length + b := by omega
  rw [text_append (List.cons_ne_nil _ B), text_cons_eq]
  unfold Text.splice
  rw [h.length_eq, h.left, hend, h.text_eq, List.take_length_add_append,
    List.take_append_of_le_length (by omega), List.drop_length_add_append,
    List.drop_append_of_le_length hle]
  simp only [List.append_assoc]

/-- **Another text at the columns** changes this row only, if no break is in it. -/
theorem rows_splice (h : Spans t g A r B a b) (hw : Whole t.rows) {new : Text}
    (hnew : ∀ c ∈ new, isBreak c = false) :
    (t.splice g.left g.length new).rows = withColumns t.rows A.length a b new := by
  have hwhole : Whole (A ++ (r.take a ++ new ++ r.drop b) :: B) := by
    rw [h.rows] at hw
    intro q hq c hc
    rcases List.mem_append.mp hq with hq | hq
    · exact hw q (List.mem_append_left _ hq) c hc
    · rcases List.mem_cons.mp hq with rfl | hq
      · have hr := hw r (by simp)
        rcases List.mem_append.mp hc with hc | hc
        · rcases List.mem_append.mp hc with hc | hc
          · exact hr c (List.mem_of_mem_take hc)
          · exact hnew c hc
        · exact hr c (List.mem_of_mem_drop hc)
      · exact hw q (by simp [hq]) c hc
  rw [h.splice_eq, rows_text hwhole (by simp), withColumns, h.rows,
    List.modify_eq_take_cons_drop (by simp)]
  simp

end Spans
end Rows

/-! ### Operators on the columns of a row -/

namespace Editor

/-- In `e'` the columns from `a` to `b` of row `i` of `e` are gone, and a register
has got what stood there. -/
structure TookColumns (e e' : Editor) (i a b : Nat) (register : Option Char) : Prop where
  rows : e'.text.rows = Rows.withColumns e.text.rows i a b []
  registers : e'.registers =
    e.registers.write register ⟨Rows.columns e.text.rows i a b, .text⟩

theorem TookColumns.of_eq {e e' e'' : Editor} {i a b : Nat} {register : Option Char}
    (h : e.TookColumns e' i a b register) (htext : e''.text = e'.text)
    (hregisters : e''.registers = e'.registers) : e.TookColumns e'' i a b register :=
  ⟨htext ▸ h.rows, hregisters ▸ h.registers⟩

end Editor

namespace Normal

theorem text_settleAfter (op : Operator) (e : Editor) : (settleAfter op e).text = e.text := by
  unfold settleAfter
  split
  · rfl
  · exact e.text_settle .column

theorem text_operate {op : Operator} (hop : op ≠ .yank) (e : Editor) (g : Range)
    (register : Option Char) :
    (operate op e g .text register).text = e.text.splice g.left g.length [] := by
  have hkind : (TextKind.text = .lines) = False := eq_false nofun
  unfold operate
  rw [text_settleAfter]
  cases op with
  | yank => exact absurd rfl hop
  | delete =>
    simp only [Operator.apply, Editor.text_moveTo, Editor.replace, Editor.text_modifyRegisters,
      Operator.removal, hkind, decide_false, Bool.false_and, Bool.false_eq_true, if_false]
  | change =>
    simp only [Operator.apply, Editor.request, Editor.text_moveTo, Editor.replace,
      Editor.text_modifyRegisters, hkind, decide_false, Bool.false_and, Bool.false_eq_true,
      if_false]

/-- **An operator on columns of a row** removes them and hands them to a
register. -/
theorem tookColumns_operate {op : Operator} (hop : op ≠ .yank) {e : Editor} {g : Range}
    {A B : List Text} {r : Text} {a b : Nat} (h : Rows.Spans e.text g A r B a b)
    (hw : Rows.Whole e.text.rows) (register : Option Char) :
    e.TookColumns (operate op e g .text register) A.length a b register := by
  refine ⟨?_, ?_⟩
  · rw [text_operate hop]
    exact h.rows_splice hw nofun
  · rw [registers_operate, ← h.within_eq]
    rfl

end Normal

/-! ### The ranges taken from a cursor at rest -/

namespace Editor

/-- The cursor is at column `c` of row `r`, which has the rows `A` before it and
`B` behind: on a character of it, unless it is empty. -/
structure Stands (e : Editor) (A : List Text) (r : Text) (B : List Text) (c : Nat) : Prop where
  rows : e.text.rows = A ++ r :: B
  whole : Rows.Whole e.text.rows
  line : e.line = Rows.line A r
  counts : A.length ≤ e.text.lastLine
  cursor : e.cursor = (Rows.fed A).length + c
  on : c < r.length ∨ r = [] ∧ c = 0

/-- **A cursor at rest** stands on a row. -/
theorem Rests.exists_stands {e : Editor} (h : e.Rests) (hfeeds : e.text.FeedsOnly) :
    ∃ A r B, A.length = e.text.rowAt e.cursor ∧
      e.Stands A r B (e.text.columnAt e.cursor) := by
  have hw := Rows.whole_rows hfeeds
  obtain ⟨A, r, B, hhas⟩ := Rows.exists_has (Rows.rows_ne_nil e.text) e.cursor
  have hline : e.line = Rows.line A r := by
    have hlineAt := hhas.lineAt hw
    rwa [Rows.text_rows] at hlineAt
  have hrow : A.length = e.text.rowAt e.cursor := by
    have hrowAt := hhas.rowAt hw
    rw [Rows.text_rows] at hrowAt
    exact hrowAt.symm
  have hstart : Rows.start e.text.rows (e.text.rowAt e.cursor) = (Rows.fed A).length := by
    rw [← hrow, Rows.start, hhas.eq, List.take_left]
  obtain ⟨hnumber, hle, hlast⟩ := Text.bounds_of_rest_eq_self h
  have hline' : e.text.lineAt e.cursor = Rows.line A r := hline
  rw [hline'] at hnumber hle hlast
  refine ⟨A, r, B, hrow, hhas.eq, hw, hline, hnumber, ?_, ?_⟩
  · unfold Text.columnAt
    rw [hstart]
    have hle' : (Rows.fed A).length ≤ e.cursor := hle
    omega
  · unfold Text.columnAt
    rw [hstart]
    have hlast' : e.cursor ≤ if r.length = 0 then (Rows.fed A).length else
        (Rows.fed A).length + r.length - 1 := hlast
    rcases Nat.eq_zero_or_pos r.length with hzero | hpos
    · rw [if_pos hzero] at hlast'
      exact .inr ⟨List.length_eq_zero_iff.mp hzero, Nat.sub_eq_zero_of_le hlast'⟩
    · rw [if_neg (Nat.ne_of_gt hpos)] at hlast'
      have hle' : (Rows.fed A).length ≤ e.cursor := hle
      omega

namespace Stands

variable {e : Editor} {A B : List Text} {r : Text} {c : Nat}

theorem le_length (h : e.Stands A r B c) : c ≤ r.length := by
  rcases h.on with hlt | ⟨-, rfl⟩
  · exact Nat.le_of_lt hlt
  · exact Nat.zero_le _

theorem stop_line (h : e.Stands A r B c) : e.line.stop = (Rows.fed A).length + r.length := by
  rw [h.line]
  rfl

/-- **As many characters from the cursor on** as are counted and there. -/
theorem spans_charsOnLine (h : e.Stands A r B c) (n : Nat) :
    Rows.Spans e.text (e.charsOnLine n) A r B c (min (c + n) r.length) := by
  have hle := h.le_length
  have hcursor := h.cursor
  have hstop := h.stop_line
  refine ⟨h.rows, ?_, ?_, Nat.min_le_right _ _⟩
  · show min e.cursor (max (min (e.cursor + n) e.line.stop) e.cursor) = _
    omega
  · show max e.cursor (max (min (e.cursor + n) e.line.stop) e.cursor) = _
    omega

/-- **As many characters before the cursor.** -/
theorem spans_before (h : e.Stands A r B c) (n : Nat) :
    Rows.Spans e.text (.between (max (e.cursor - n) e.line.start) e.cursor) A r B (c - n) c := by
  have hcursor := h.cursor
  have hstart : e.line.start = (Rows.fed A).length := by
    rw [h.line]
    rfl
  refine ⟨h.rows, ?_, ?_, h.le_length⟩
  · show min (max (e.cursor - n) e.line.start) e.cursor = _
    omega
  · show max (max (e.cursor - n) e.line.start) e.cursor = _
    omega

theorem getElem?_add (h : e.Stands A r B c) (k : Nat) :
    e.text[(Rows.fed A).length + k]? = (r ++ Rows.text ([] :: B))[k]? := by
  have htext : e.text = Rows.fed A ++ (r ++ Rows.text ([] :: B)) := by
    rw [← Rows.text_cons_eq, ← Rows.text_append (List.cons_ne_nil r B), ← h.rows, Rows.text_rows]
  rw [htext, List.getElem?_append_right (Nat.le_add_right _ _), Nat.add_sub_cancel_left]

theorem destination_lineEnd (h : e.Stands A r B c) (hlen : e.text.length ≤ Offset.max) :
    LineMotion.lineEnd.destination e.text e.sticky none e.cursor =
      (Rows.fed A).length + (r.length - 1) := by
  have hnumber : e.line.number ≤ e.text.lastLine := by
    rw [h.line]
    exact h.counts
  have hdestination : LineMotion.lineEnd.destination e.text e.sticky none e.cursor = e.line.last :=
    LineMotion.destination_lineEnd_none hlen hnumber e.sticky
  rw [hdestination, h.line]
  show (if r.length = 0 then (Rows.fed A).length else (Rows.fed A).length + r.length - 1) = _
  split <;> omega

/-- **The rest of the row**, and no line feed behind it. -/
theorem spans_lineEnd (h : e.Stands A r B c) :
    Rows.Spans e.text ((Motion.line .lineEnd).span e.text e.cursor
      ((Rows.fed A).length + (r.length - 1))) A r B c r.length := by
  have hcursor := h.cursor
  have hget := h.getElem?_add (r.length - 1)
  have hspan : ∀ q, (Motion.line .lineEnd).span e.text e.cursor q =
      if (e.text[q]? == some '\n' || e.text[q]? == some '\r') && e.cursor ≤ q then
        .between e.cursor q
      else .through e.text e.cursor q := fun _ => rfl
  rw [hspan]
  rcases h.on with hlt | ⟨rfl, rfl⟩
  · -- the last character of the row is no break and is taken
    have hlast : (r ++ Rows.text ([] :: B))[r.length - 1]? = some r[r.length - 1] := by
      rw [List.getElem?_append_left (by omega), List.getElem?_eq_getElem]
    have hbreak : Text.isBreak r[r.length - 1] = false :=
      h.whole r (by simp [h.rows]) _ (List.getElem_mem _)
    rw [hlast] at hget
    have hin := (List.getElem?_eq_some_iff.mp hget).1
    have hno : ∀ b, Text.isBreak b = true → r[r.length - 1] ≠ b := by
      rintro b hb rfl
      rw [hb] at hbreak
      cases hbreak
    have hfeed := hno '\n' rfl
    have hreturn := hno '\r' rfl
    rw [hget, if_neg (by simp [hfeed, hreturn])]
    refine ⟨h.rows, ?_, ?_, Nat.le_refl _⟩
    · show min e.cursor _ = _
      omega
    · show max (min (max e.cursor _ + 1) e.text.length) (max e.cursor _) = _
      omega
  · -- on an empty row there is a line feed, which is not taken, or the text ends
    have hq : (Rows.fed A).length + (([] : Text).length - 1) = e.cursor := hcursor.symm
    rw [hq] at hget ⊢
    have hempty : ∀ g : Range, g.left = e.cursor → g.right = e.cursor →
        Rows.Spans e.text g A [] B 0 ([] : Text).length := fun g hleft hright =>
      ⟨h.rows, hleft.trans hcursor, hright.trans hcursor, Nat.le_refl _⟩
    split
    · exact hempty _ (Nat.min_self _) (Nat.max_self _)
    · next hno =>
      have hend : e.text.length ≤ e.cursor := by
        by_cases hB : B = []
        · rw [hB] at hget
          exact List.getElem?_eq_none_iff.mp hget
        · rw [Rows.text_cons hB] at hget
          have hfeed : e.text[e.cursor]? = some '\n' := hget
          exact absurd (by simp [hfeed]) hno
      refine hempty _ (Nat.min_self _) ?_
      show max (min (max e.cursor e.cursor + 1) e.text.length) (max e.cursor e.cursor) = _
      omega

end Stands
end Editor
end Keywise
