/-
# Operators on whole lines

Where the line feed is the only break, a range of whole lines is a list of
rows with rows before and behind it (`Rows.Takes`). Each row in it but the
last of the text is there with its line feed. An operator hands the register
these rows, with a line feed behind each. It leaves the rows before and
behind them: to delete is to leave no others, to change is to leave an empty
one in their place (`Operator.rowsLeft`).

The last row of the text has no line feed, so that with it the line feed
before it goes, which ends the row that is the last one then.

Key definitions: `Rows.Takes`, `Operator.rowsLeft`, `Operator.placeLeft`,
`Editor.TookRows`.
Key theorems: `Rows.takes_lines`, `Operator.delete_takes`,
`Operator.change_takes`, `Operator.yank_takes`, `Editor.tookRows_apply`.
-/
import Keywise.Proofs.Editor.PutLines
import Keywise.Proofs.Mode.Resting

namespace Keywise

namespace Rows

/-- What is taken with the rows `M` if the rows `B` are behind them. -/
def body (M B : List Text) : Text := text M ++ ending B

/-- Range `r` of text `t` takes the rows `M`, with the rows `A` before and `B`
behind them. The last of them counts as a line. -/
structure Takes (t : Text) (r : Range) (A M B : List Text) : Prop where
  rows : t.rows = A ++ M ++ B
  whole : Whole t.rows
  ne_nil : M ≠ []
  counts : A.length + M.length ≤ last t.rows + 1
  left : r.left = (fed A).length
  right : r.right = (fed A).length + (body M B).length

namespace Takes

variable {t : Text} {r : Range} {A M B : List Text}

theorem text_eq (h : Takes t r A M B) : t = fed A ++ body M B ++ text B := by
  have ht : t = text (A ++ (M ++ B)) := by rw [← List.append_assoc, ← h.rows, text_rows]
  rw [ht, text_append (List.append_ne_nil_of_left_ne_nil h.ne_nil B)]
  by_cases hB : B = []
  · subst hB
    simp [body, ending, text]
  · rw [text_append hB, body, ending, if_neg hB, text_append_feed h.ne_nil, List.append_assoc]

/-- A line feed is behind each row that is taken, in a register. -/
theorem body_eq_fed (h : Takes t r A M B) (hB : B ≠ []) : body M B = fed M := by
  rw [body, ending, if_neg hB, text_append_feed h.ne_nil]

theorem body_nil : body M [] = text M := by simp [body, ending]

theorem endsLine_body (M : List Text) (hB : B ≠ []) : (body M B).endsLine = true := by
  rw [body, ending, if_neg hB]
  exact Text.endsLine_feed _

/-- Without rows behind, what is taken ends with no line feed: an empty row at
the end would not count as a line. -/
theorem endsLine_body_nil (h : Takes t r A M []) : (body M []).endsLine = false := by
  by_contra hends
  rw [Bool.not_eq_false] at hends
  obtain ⟨M', m, rfl⟩ := List.eq_nil_or_concat M |>.resolve_left h.ne_nil
  rw [List.concat_eq_append] at hends h
  rw [body_nil, text_concat] at hends
  have hrows : t.rows = (A ++ M') ++ [m] := by rw [h.rows]; simp
  by_cases hm : m = []
  · have hcounts := h.counts
    unfold last at hcounts
    rw [hrows, hm, List.getLast?_concat] at hcounts
    simp only [List.length_append, List.length_singleton] at hcounts
    have hone : ¬ 1 < A.length + M'.length + 1 := by
      intro hlt
      rw [if_pos ⟨hlt, trivial⟩] at hcounts
      omega
    have hM' : M' = [] := List.length_eq_zero_iff.mp (by omega)
    rw [hm, hM'] at hends
    exact absurd hends (by decide)
  · rw [Text.endsLine_append_of_ne_nil hm, Text.endsLine, List.getLast?_eq_some_getLast hm] at hends
    have hfeed : m.getLast hm = '\n' := by simpa using hends
    have hmem : m ∈ t.rows := by rw [hrows]; simp
    exact h.whole.notMem m hmem (hfeed ▸ List.getLast_mem hm)

theorem length_eq (h : Takes t r A M B) : r.length = (body M B).length := by
  unfold Range.length
  rw [h.left, h.right]
  omega

theorem within_eq (h : Takes t r A M B) : t.within r = body M B := by
  unfold Text.within Text.slice
  rw [h.length_eq, h.left, h.text_eq, List.append_assoc, List.drop_left, List.take_left]

theorem registerText_eq (h : Takes t r A M B) : Operator.registerText t r .lines = fed M := by
  unfold Operator.registerText
  rw [h.within_eq]
  by_cases hB : B = []
  · subst hB
    rw [h.endsLine_body_nil, body_nil]
    exact text_append_feed h.ne_nil
  · rw [endsLine_body M hB, h.body_eq_fed hB]
    rfl

theorem whole_before (h : Takes t r A M B) : Whole A :=
  h.whole.of_mem fun q hq => by simp [h.rows, hq]

theorem whole_behind (h : Takes t r A M B) : Whole B :=
  h.whole.of_mem fun q hq => by simp [h.rows, hq]

theorem splice_eq (h : Takes t r A M B) (new : Text) :
    t.splice r.left r.length new = fed A ++ new ++ text B := by
  unfold Text.splice
  have hdrop : t.drop (r.left + r.length) = text B := by
    rw [h.length_eq, h.left, ← List.length_append, h.text_eq, List.drop_left]
  have htake : t.take r.left = fed A := by
    rw [h.left, h.text_eq, List.append_assoc, List.take_left]
  rw [hdrop, htake]

theorem rowAt_start (h : Takes t r A M B) : t.rowAt (fed A).length = A.length := by
  unfold Text.rowAt
  rw [h.text_eq, List.append_assoc, List.take_left]
  exact count_fed h.whole_before.notMem

/-- Where rows are behind what is taken, or none before it, nothing else
goes. -/
theorem removal_eq (h : Takes t r A M B) (hrows : A = [] ∨ B ≠ []) :
    Operator.removal t r .lines = r := by
  refine if_neg ?_
  rw [h.within_eq]
  rcases hrows with rfl | hB
  · have hleft : r.left = 0 := h.left
    simp [hleft]
  · simp [endsLine_body M hB]

theorem removal_of_last (h : Takes t r A M []) (hA : A ≠ []) :
    (Operator.removal t r .lines).left = (text A).length ∧
      (Operator.removal t r .lines).right = t.length := by
  have hfed : (fed A).length = (text A).length + 1 := by
    rw [← text_append_feed hA, List.length_append]
    rfl
  have hright : r.right = t.length := by
    have hnil : text [] = [] := rfl
    rw [h.text_eq, hnil, List.append_nil, List.length_append]
    exact h.right
  have hpos : 0 < r.left := by
    rw [h.left]
    omega
  have hremoval : Operator.removal t r .lines = .between (r.left - 1) r.right := by
    refine if_pos ?_
    rw [h.within_eq]
    simp [h.endsLine_body_nil, hright, hpos]
  have hle := r.left_le_right
  have hleft := h.left
  rw [hremoval]
  constructor
  · show min (r.left - 1) r.right = _
    omega
  · show max (r.left - 1) r.right = _
    omega

/-- **What is left** are the rows before and behind. -/
theorem splice_removal (h : Takes t r A M B) :
    t.splice (Operator.removal t r .lines).left (Operator.removal t r .lines).length [] =
      text (A ++ B) := by
  by_cases hrows : A = [] ∨ B ≠ []
  · rw [h.removal_eq hrows, h.splice_eq, List.append_nil]
    rcases hrows with rfl | hB
    · rfl
    · rw [text_append hB]
  · simp only [not_or, not_not] at hrows
    obtain ⟨hA, rfl⟩ := hrows
    obtain ⟨hleft, hright⟩ := h.removal_of_last hA
    have hend : (text A).length + ((Operator.removal t r .lines).length) = t.length := by
      have hle := (Operator.removal t r .lines).left_le_right
      unfold Range.length
      omega
    unfold Text.splice
    rw [hleft, hend, List.drop_length, List.append_nil, List.append_nil, List.append_nil, h.text_eq,
      ← text_append_feed hA, List.append_assoc, List.append_assoc, List.take_left]

end Takes

/-- **Behind a line** of some rows what they take ends. -/
theorem nextStart_eq {t : Text} (h : t.FeedsOnly) {A M B : List Text} (hrows : t.rows = A ++ M ++ B)
    (hM : M ≠ []) :
    t.nextStart (A.length + M.length - 1) = (fed A).length + (body M B).length := by
  obtain ⟨M, m, rfl⟩ := List.eq_nil_or_concat M |>.resolve_left hM
  rw [List.concat_eq_append] at hrows ⊢
  have hsplit : t.rows = (A ++ M) ++ m :: B := by rw [hrows]; simp
  have hnext := nextStart_text (hsplit ▸ whole_rows h)
  rw [← hsplit, text_rows, fed_append, List.length_append, List.length_append] at hnext
  have hnumber : A.length + (M ++ [m]).length - 1 = A.length + M.length := by
    rw [List.length_append, List.length_singleton]
    omega
  rw [hnumber, hnext, body, text_concat, List.length_append, List.length_append]
  omega

/-- **The lines between two offsets** are the rows from that of one to that of
the other. -/
theorem takes_lines {t : Text} (h : t.FeedsOnly) {p q i j : Nat}
    (hi : min (t.rowAt p) (t.rowAt q) = i) (hj : max (t.rowAt p) (t.rowAt q) = j)
    (hlast : j ≤ last t.rows) :
    Takes t (.lines t p q)
      (t.rows.take i) ((t.rows.take (j + 1)).drop i) (t.rows.drop (j + 1)) := by
  have hle : i ≤ j := by omega
  have hlt : j < t.rows.length := Nat.lt_of_le_of_lt hlast (last_lt (rows_ne_nil t))
  have hA : (t.rows.take i).length = i := List.length_take_of_le (by omega)
  have hM : ((t.rows.take (j + 1)).drop i).length = j + 1 - i := by
    rw [List.length_drop, List.length_take_of_le hlt]
  have hrows : t.rows = t.rows.take i ++ (t.rows.take (j + 1)).drop i ++ t.rows.drop (j + 1) := by
    have htake : t.rows.take i = (t.rows.take (j + 1)).take i := by
      rw [List.take_take, Nat.min_eq_left (by omega)]
    rw [htake, List.take_append_drop, List.take_append_drop]
  have hne : (t.rows.take (j + 1)).drop i ≠ [] := List.ne_nil_of_length_pos (by omega)
  have hstart : (t.lineAt (min p q)).start = (fed (t.rows.take i)).length := by
    rw [start_lineAt h, (monotone_rowAt t).map_min, hi]
    rfl
  have hnext : t.nextStart (t.lineAt (max p q)).number = (fed (t.rows.take i)).length +
      (body ((t.rows.take (j + 1)).drop i) (t.rows.drop (j + 1))).length := by
    rw [← nextStart_eq h hrows hne, number_lineAt h, (monotone_rowAt t).map_max, hj, hA, hM]
    congr 1
    omega
  exact ⟨hrows, whole_rows h, hne, by rw [hA, hM]; omega, hstart, hnext⟩

/-- **After an edit** the cursor is put on the line of an offset, or on the
last one. -/
theorem lineAfterEdit_eq {rows : List Text} (h : Whole rows) (hne : rows ≠ []) (p : Nat) :
    Operator.lineAfterEdit (text rows) p =
      place rows (min ((text rows).lineAt p).number (last rows)) := by
  have hlast := lastLine_text h hne
  have hlt := last_lt hne
  rw [← firstNonBlank_line_text h (by omega)]
  simp only [Operator.lineAfterEdit, hlast]
  split
  · rw [Nat.min_eq_right (by omega)]
  · rw [Nat.min_eq_left (by omega), Text.line_number_lineAt]

/-- The offset where rows behind others begin, or the end if there are none. -/
def seam (A B : List Text) : Nat := if A = [] ∨ B ≠ [] then (fed A).length else (text A).length

/-- **The seam** is on the first row behind, or on the last one. -/
theorem min_number_lineAt_seam {A B : List Text} (h : Whole (A ++ B)) :
    min ((text (A ++ B)).lineAt (seam A B)).number (last (filled (A ++ B))) =
      min A.length (last (filled (A ++ B))) := by
  by_cases hB : B = []
  · subst hB
    rw [List.append_nil] at h ⊢
    rcases List.eq_nil_or_concat A with rfl | ⟨A, r, rfl⟩
    · rfl
    · rw [List.concat_eq_append] at h ⊢
      have hne : A ++ [r] ≠ [] := List.append_ne_nil_of_right_ne_nil A (List.cons_ne_nil r [])
      have hseam : seam (A ++ [r]) [] = (text (A ++ [r])).length := if_neg (by simp)
      have hhas : Has (A ++ [r]) A r [] (text (A ++ [r])).length := by
        refine ⟨rfl, ?_, Or.inl rfl⟩
        rw [text_concat, List.length_append]
        exact Nat.le_add_right _ _
      have hlast := last_lt hne
      rw [List.length_append, List.length_singleton] at hlast
      rw [hseam, hhas.lineAt h, filled_eq hne, List.length_append, List.length_singleton]
      show min A.length _ = _
      omega
  · obtain ⟨b, B, rfl⟩ := List.exists_cons_of_ne_nil hB
    have hseam : seam A (b :: B) = (fed A).length := if_pos (Or.inr hB)
    have hhas : Has (A ++ b :: B) A b B (fed A).length :=
      ⟨rfl, Nat.le_refl _, Or.inr (Nat.le_add_right _ _)⟩
    rw [hseam, hhas.lineAt h]
    rfl

theorem Takes.left_removal {t : Text} {r : Range} {A M B : List Text} (h : Takes t r A M B) :
    (Operator.removal t r .lines).left = seam A B := by
  unfold seam
  split
  · next hrows => rw [h.removal_eq hrows, h.left]
  · next hrows =>
    simp only [not_or, not_not] at hrows
    obtain ⟨hA, rfl⟩ := hrows
    exact (h.removal_of_last hA).1

theorem Takes.whole_append {t : Text} {r : Range} {A M B : List Text} (h : Takes t r A M B) :
    Whole (A ++ B) :=
  h.whole.of_mem fun q hq => by
    rw [h.rows]
    rcases List.mem_append.mp hq with hq | hq <;> simp [hq]

end Rows

namespace Operator

/-- The rows that an operator leaves where it is applied to rows `i` to `j`. -/
def rowsLeft (op : Operator) (rows : List Text) (i j : Nat) : List Text :=
  match op with
  | yank => rows
  | delete => Rows.filled (rows.take i ++ rows.drop (j + 1))
  | change => rows.take i ++ [] :: rows.drop (j + 1)

/-- Where the cursor is then, if it was at `p`. -/
def placeLeft (op : Operator) (rows : List Text) (i j p : Nat) : Nat :=
  match op with
  | yank => p
  | delete => Rows.place (op.rowsLeft rows i j) (min i (Rows.last (op.rowsLeft rows i j)))
  | change => Rows.start (op.rowsLeft rows i j) i

variable {e : Editor} {r : Range} {A M B : List Text}

/-- **To delete rows** is to leave those before and behind. -/
theorem delete_takes (h : Rows.Takes e.text r A M B) (register : Option Char) :
    let rows := Rows.filled (A ++ B)
    (delete.apply e r .lines register).text = Rows.text rows ∧
      (delete.apply e r .lines register).cursor =
        Rows.place rows (min A.length (Rows.last rows)) := by
  intro rows
  have hwhole : Rows.Whole rows := h.whole_append.filled
  have hne : rows ≠ [] := Rows.filled_ne_nil _
  have htext : e.text.splice (removal e.text r .lines).left (removal e.text r .lines).length [] =
      Rows.text rows := by
    rw [h.splice_removal]
    exact (Rows.text_filled _).symm
  have hplace : lineAfterEdit (Rows.text rows) (removal e.text r .lines).left =
      Rows.place rows (min A.length (Rows.last rows)) := by
    rw [h.left_removal, Rows.lineAfterEdit_eq hwhole hne, Rows.text_filled,
      Rows.min_number_lineAt_seam h.whole_append]
  have hle : Rows.place rows (min A.length (Rows.last rows)) ≤ (Rows.text rows).length :=
    Rows.place_le_length (Nat.lt_of_le_of_lt (Nat.min_le_right _ _) (Rows.last_lt hne))
  unfold apply
  simp only
  constructor
  · rw [Editor.text_moveTo]
    simp only [Editor.replace, Editor.text_modifyRegisters]
    exact htext
  · rw [Editor.cursor_moveTo]
    simp only [Editor.replace, Editor.text_modifyRegisters]
    rw [htext, hplace, Nat.min_eq_left hle]

/-- **To change rows** is to leave an empty one in their place. -/
theorem change_takes (h : Rows.Takes e.text r A M B) (register : Option Char) :
    (change.apply e r .lines register).text = Rows.text (A ++ [] :: B) ∧
      (change.apply e r .lines register).cursor = (Rows.fed A).length := by
  have hkept : (if (e.text.within r).endsLine = true then ['\n'] else []) = Rows.ending B := by
    rw [h.within_eq]
    unfold Rows.ending
    by_cases hB : B = []
    · subst hB
      simp [h.endsLine_body_nil]
    · simp [hB, Rows.Takes.endsLine_body M hB]
  have htext : e.text.splice r.left r.length (Rows.ending B) = Rows.text (A ++ [] :: B) := by
    rw [h.splice_eq, Rows.text_append (List.cons_ne_nil [] B), List.append_assoc,
      Rows.text_nil_cons]
  have hchange : change.apply e r .lines register =
      (((e.modifyRegisters (·.write register ⟨registerText e.text r .lines, .lines⟩)).replace r.left
        r.length (Rows.ending B)).moveTo r.left .column).request .insert [] := by
    unfold apply
    simp only [Editor.text_modifyRegisters, decide_true, Bool.true_and, hkept]
  rw [hchange]
  constructor
  · show (Editor.moveTo _ _ _).text = _
    rw [Editor.text_moveTo]
    simp only [Editor.replace, Editor.text_modifyRegisters]
    exact htext
  · show (Editor.moveTo _ _ _).cursor = _
    rw [Editor.cursor_moveTo]
    simp only [Editor.replace, Editor.text_modifyRegisters]
    rw [htext, h.left, Rows.text_append (List.cons_ne_nil [] B), List.length_append]
    exact Nat.min_eq_left (Nat.le_add_right _ _)

/-- **To yank rows** is to leave the text and a cursor on the first of them. -/
theorem yank_takes (hfeeds : e.text.FeedsOnly) (hrests : e.Rests) (h : Rows.Takes e.text r A M B)
    (hrow : e.text.rowAt e.cursor = A.length) (register : Option Char) :
    (yank.apply e r .lines register).text = e.text ∧
      (yank.apply e r .lines register).cursor = e.cursor := by
  obtain ⟨-, hstart, hlast⟩ := Text.bounds_of_rest_eq_self hrests
  have hline : e.text.lineAt r.left = e.line := by
    have hleft : e.text.rowAt r.left = A.length := by
      rw [h.left]
      exact h.rowAt_start
    exact Rows.lineAt_eq_of_rowAt_eq hfeeds (hleft.trans hrow.symm)
  have hplace : sameColumn e r.left = e.cursor := by
    simp only [sameColumn, hline]
    show min ((e.text.lineAt e.cursor).start + (e.cursor - (e.text.lineAt e.cursor).start))
      (e.text.lineAt e.cursor).last = e.cursor
    omega
  have hsame : sameColumn (e.modifyRegisters
      (·.write register ⟨registerText e.text r .lines, .lines⟩)) r.left = e.cursor := by
    rw [← hplace]
    simp only [sameColumn, Editor.line, Editor.text_modifyRegisters, Editor.cursor_modifyRegisters]
  unfold apply
  simp only
  constructor
  · rw [Editor.text_moveTo, Editor.text_modifyRegisters]
  · rw [Editor.cursor_moveTo, hsame, Editor.text_modifyRegisters]
    exact Nat.min_eq_left hrests.cursor_le

end Operator

namespace Editor

/-- In `e'` an operator has been applied to rows `i` to `j` of `e`: what has
become of the text and the cursor, and what a register has got. -/
structure TookRows (e e' : Editor) (op : Operator) (i j : Nat) (register : Option Char) :
    Prop where
  rows : e'.text.rows = op.rowsLeft e.text.rows i j
  cursor : e'.cursor = op.placeLeft e.text.rows i j e.cursor
  registers : e'.registers =
    e.registers.write register ⟨Rows.fed ((e.text.rows.take (j + 1)).drop i), .lines⟩

variable {e e' e'' : Editor} {op : Operator} {i j : Nat} {register : Option Char}

theorem TookRows.of_eq (h : e.TookRows e' op i j register) (htext : e''.text = e'.text)
    (hcursor : e''.cursor = e'.cursor) (hregisters : e''.registers = e'.registers) :
    e.TookRows e'' op i j register :=
  ⟨htext ▸ h.rows, hcursor ▸ h.cursor, hregisters ▸ h.registers⟩

theorem cursor_settle (h : e.Rests) (s : Stickiness) : (e.settle s).cursor = e.cursor := by
  have hrest : e.text.rest e.cursor = e.cursor := h
  unfold settle
  rw [cursor_moveTo, hrest, Nat.min_eq_left h.cursor_le]

theorem text_settle (e : Editor) (s : Stickiness) : (e.settle s).text = e.text := e.text_moveTo _ _

theorem TookRows.settle (h : e.TookRows e' op i j register) (hrests : e'.Rests) (s : Stickiness) :
    e.TookRows (e'.settle s) op i j register :=
  h.of_eq (e'.text_settle s) (cursor_settle hrests s) (e'.registers_settle s)

/-- **An operator on lines** leaves the rows before and behind, and hands the
rows to a register. It leaves the cursor at rest unless text is to be typed. -/
theorem tookRows_apply (op : Operator) (hfeeds : e.text.FeedsOnly) {p q : Nat}
    (hi : min (e.text.rowAt p) (e.text.rowAt q) = i)
    (hj : max (e.text.rowAt p) (e.text.rowAt q) = j) (hlast : j ≤ Rows.last e.text.rows)
    (hyank : op = .yank → e.Rests ∧ e.text.rowAt e.cursor = i) (register : Option Char) :
    e.TookRows (op.apply e (.lines e.text p q) .lines register) op i j register ∧
      (op ≠ .change → (op.apply e (.lines e.text p q) .lines register).Rests) := by
  have htakes := Rows.takes_lines hfeeds hi hj hlast
  have hregisters := op.registers_apply e (.lines e.text p q) .lines register
  unfold Operator.taken at hregisters
  rw [htakes.registerText_eq] at hregisters
  have hA : (e.text.rows.take i).length = i := by
    have hlt := Rows.last_lt (Rows.rows_ne_nil e.text)
    exact List.length_take_of_le (by omega)
  cases op with
  | delete =>
    obtain ⟨htext, hcursor⟩ := Operator.delete_takes htakes register
    have hwhole := htakes.whole_append.filled
    have hne := Rows.filled_ne_nil (e.text.rows.take i ++ e.text.rows.drop (j + 1))
    rw [hA] at hcursor
    refine ⟨⟨?_, hcursor, hregisters⟩, fun _ => ?_⟩
    · rw [htext, Rows.rows_text hwhole hne]
      rfl
    · unfold Rests
      rw [htext, hcursor]
      exact Rows.rest_place hwhole hne (Nat.min_le_right _ _)
  | yank =>
    obtain ⟨hrests, hrow⟩ := hyank rfl
    obtain ⟨htext, hcursor⟩ :=
      Operator.yank_takes hfeeds hrests htakes (hrow.trans hA.symm) register
    refine ⟨⟨congrArg Text.rows htext, hcursor, hregisters⟩, fun _ => ?_⟩
    unfold Rests
    rw [htext, hcursor]
    exact hrests
  | change =>
    obtain ⟨htext, hcursor⟩ := Operator.change_takes htakes register
    have hwhole : Rows.Whole (e.text.rows.take i ++ [] :: e.text.rows.drop (j + 1)) :=
      htakes.whole_before.append (Rows.whole_nil_row.append htakes.whole_behind)
    refine ⟨⟨?_, ?_, hregisters⟩, fun hop => absurd rfl hop⟩
    · rw [htext, Rows.rows_text hwhole (by simp)]
      rfl
    · rw [hcursor]
      show _ = Rows.start (e.text.rows.take i ++ [] :: e.text.rows.drop (j + 1)) i
      unfold Rows.start
      rw [List.take_left' hA]

end Editor
end Keywise
