/-
# Putting whole lines

Where the line feed is the only break, a register of whole lines that is put
adds its lines to the rows of the text, between the cursor's row and the one
before or after it, as often as the count says (`Editor.put_whole_lines`).

Behind a last row that no line feed ends the text itself is added
differently: its first character is the line feed that ends that row, and its
last row is not ended. The rows are the same as anywhere else, since to have
line feeds between rows is all there is to a text of rows.

Key definitions: `PutSide.rowsPassed`, `Editor.PutsBetween`.
Key theorems: `Editor.exists_putsBetween`, `Editor.put_whole_lines`.
-/
import Keywise.Proofs.Editor.Registers
import Keywise.Proofs.Text.RowPlaces

namespace Keywise

/-- How many rows, from the cursor's on, stay in front of what is put. -/
def PutSide.rowsPassed : PutSide → Nat
  | .before => 0
  | .after => 1

namespace Rows

theorem chomp_fed {A : List Text} (hA : A ≠ []) : Text.chomp (fed A) = text A := by
  rw [← text_append_feed hA]
  unfold Text.chomp
  rw [if_pos (Text.endsLine_feed _), List.dropLast_concat]

theorem flatten_replicate_ne_nil {n : Nat} (hn : 1 ≤ n) {L : List Text} (hL : L ≠ []) :
    (List.replicate n L).flatten ≠ [] := by
  obtain ⟨n, rfl⟩ : ∃ i, n = i + 1 := ⟨n - 1, by omega⟩
  rw [List.replicate_succ, List.flatten_cons]
  exact List.append_ne_nil_of_left_ne_nil hL _

end Rows

namespace Editor

variable {e : Editor} {A B M : List Text} {r : Text}

theorem cursor_moveTo_place (htext : e.text = Rows.text (A ++ r :: B))
    (hwhole : Rows.Whole (A ++ r :: B)) (s : Stickiness) :
    (e.moveTo (e.text.firstNonBlank (e.text.lineAt (Rows.fed A).length)) s).cursor =
      Rows.place (A ++ r :: B) A.length := by
  have hhas : Rows.Has (A ++ r :: B) A r B (Rows.fed A).length :=
    ⟨rfl, Nat.le_refl _, Or.inr (Nat.le_add_right _ _)⟩
  have hplace : e.text.firstNonBlank (e.text.lineAt (Rows.fed A).length) =
      Rows.place (A ++ r :: B) A.length := by
    rw [htext, hhas.lineAt hwhole, Rows.firstNonBlank_line, Rows.place_append]
  rw [cursor_moveTo, hplace, Nat.min_eq_left]
  rw [htext, Rows.place_append]
  exact Rows.indent_le_length_text A r B

theorem text_replace_zero {u v : Text} (htext : e.text = u ++ v) (new : Text) :
    (e.replace u.length 0 new).text = u ++ new ++ v := by
  show e.text.splice u.length 0 new = _
  unfold Text.splice
  rw [htext, List.take_left, Nat.add_zero, List.drop_left]

/-- Whole lines `M` that are put come between the rows `C` and `D`, and the
cursor goes to the first of them. -/
def PutsBetween (e : Editor) (M : List Text) (side : PutSide) (C D : List Text) : Prop :=
  ∃ e' : Editor, e'.text = Rows.text (C ++ M ++ D) ∧ e.putLines (Rows.fed M) side =
    e'.moveTo (e'.text.firstNonBlank (e'.text.lineAt (Rows.fed C).length)) .column

theorem putsBetween_before (htext : e.text = Rows.text (A ++ r :: B))
    (hline : e.line = Rows.line A r) (M : List Text) : e.PutsBetween M .before A (r :: B) := by
  have hrB : r :: B ≠ [] := List.cons_ne_nil r B
  rw [Rows.text_append hrB] at htext
  refine ⟨e.replace (Rows.fed A).length 0 (Rows.fed M), ?_, ?_⟩
  · rw [text_replace_zero htext, Rows.text_append hrB, Rows.fed_append]
  · unfold putLines
    rw [hline]
    rfl

/-- Where nothing ends the cursor's row the line feed comes first, and not
last. -/
theorem putsBetween_behind_last (htext : e.text = Rows.text (A ++ [r]))
    (hwhole : Rows.Whole (A ++ [r])) (hline : e.line = Rows.line A r) (hM : M ≠ []) :
    e.PutsBetween M .after (A ++ [r]) [] := by
  have hend : e.text = Rows.fed A ++ r ++ [] := by rw [htext, Rows.text_concat, List.append_nil]
  have hstop : (Rows.line A r).stop = e.text.length := by
    rw [hend, List.append_nil, List.length_append]
    rfl
  have hnext : e.text.nextStart (Rows.line A r).number = (Rows.fed A ++ r).length := by
    rw [List.length_append, htext]
    exact Rows.nextStart_text hwhole
  have hfirst : (Rows.fed (A ++ [r])).length = (Rows.fed A ++ r).length + 1 := by
    rw [Rows.fed_append, Rows.fed_singleton, ← List.append_assoc, List.length_append]
    rfl
  refine ⟨e.replace (Rows.fed A ++ r).length 0 ('\n' :: Text.chomp (Rows.fed M)), ?_, ?_⟩
  · rw [text_replace_zero hend, Rows.chomp_fed hM, List.append_nil, List.append_nil,
      Rows.text_append hM, Rows.fed_append, Rows.fed_singleton]
    simp
  · unfold putLines
    simp only [hline, if_pos hstop]
    rw [hnext, hfirst]

theorem putsBetween_behind (htext : e.text = Rows.text (A ++ r :: B))
    (hwhole : Rows.Whole (A ++ r :: B)) (hline : e.line = Rows.line A r) (hB : B ≠ [])
    (M : List Text) : e.PutsBetween M .after (A ++ [r]) B := by
  have hsplit : e.text = Rows.fed (A ++ [r]) ++ Rows.text B := by
    rw [htext, ← Rows.text_append hB, List.append_assoc, List.singleton_append]
  have hfed : (Rows.fed (A ++ [r])).length = (Rows.fed A).length + r.length + 1 := by
    rw [Rows.fed_append, Rows.fed_singleton, List.length_append, List.length_append]
    rfl
  have hnext : e.text.nextStart (Rows.line A r).number = (Rows.fed (A ++ [r])).length := by
    have hending : Rows.ending B = ['\n'] := if_neg hB
    have hnext := Rows.nextStart_text hwhole
    rw [hending, ← htext] at hnext
    rw [hfed]
    exact hnext
  have hstop : ¬ (Rows.line A r).stop = e.text.length := by
    have hline : (Rows.line A r).stop = (Rows.fed A).length + r.length := rfl
    rw [hline, hsplit, List.length_append, hfed]
    omega
  refine ⟨e.replace (Rows.fed (A ++ [r])).length 0 (Rows.fed M), ?_, ?_⟩
  · rw [text_replace_zero hsplit, Rows.text_append hB, Rows.fed_append (A ++ [r]) M]
  · unfold putLines
    simp only [hline, if_neg hstop, hnext]

/-- **Whole lines that are put** come before or behind the cursor's row. -/
theorem exists_putsBetween (htext : e.text = Rows.text (A ++ r :: B))
    (hwhole : Rows.Whole (A ++ r :: B)) (hhas : Rows.Has (A ++ r :: B) A r B e.cursor)
    (hM : M ≠ []) (side : PutSide) :
    ∃ C D, C ++ D = A ++ r :: B ∧ C.length = A.length + side.rowsPassed ∧
      e.PutsBetween M side C D := by
  have hline : e.line = Rows.line A r := by
    unfold Editor.line
    rw [htext, hhas.lineAt hwhole]
  cases side with
  | before => exact ⟨A, r :: B, rfl, rfl, putsBetween_before htext hline M⟩
  | after =>
    refine ⟨A ++ [r], B, by simp, by simp [PutSide.rowsPassed], ?_⟩
    by_cases hB : B = []
    · subst hB
      exact putsBetween_behind_last htext hwhole hline hM
    · exact putsBetween_behind htext hwhole hline hB M

/-- **A register of whole lines** is put as often as the count says. -/
theorem put_fed {register : Option Char} {L : List Text} (hL : L ≠ [])
    (hread : e.registers.read register = some ⟨Rows.fed L, .lines⟩) {n : Nat} (hn : 1 ≤ n)
    (side : PutSide) : e.put register n side =
      .ok (e.putLines (Rows.fed (List.replicate n L).flatten) side) := by
  have hmax : max n 1 = n := Nat.max_eq_left hn
  have hne : Rows.fed (List.replicate n L).flatten ≠ [] :=
    Rows.fed_ne_nil (Rows.flatten_replicate_ne_nil hn hL)
  unfold put
  simp only [hread, hmax, ← Rows.fed_replicate]
  exact if_neg (by simpa using hne)

/-- **Whole lines are put between the rows**, as often as the count says, and
the cursor goes to the first character of theirs that is no blank. -/
theorem put_whole_lines {e : Editor} (hfeeds : e.text.FeedsOnly) {register : Option Char}
    {L : List Text} (hL : L ≠ []) (hwhole : Rows.Whole L)
    (hread : e.registers.read register = some ⟨Rows.fed L, .lines⟩) {n : Nat} (hn : 1 ≤ n)
    (side : PutSide) :
    let k := e.text.rowAt e.cursor + side.rowsPassed
    ∃ e', e.put register n side = .ok e' ∧
      e'.text.rows = e.text.rows.take k ++ (List.replicate n L).flatten ++ e.text.rows.drop k ∧
      e'.cursor = Rows.place e'.text.rows k := by
  intro k
  obtain ⟨A, r, B, hhas⟩ := Rows.exists_has (Rows.rows_ne_nil e.text) e.cursor
  have htext : e.text = Rows.text (A ++ r :: B) := by rw [← hhas.eq, Rows.text_rows]
  have hwholeS : Rows.Whole (A ++ r :: B) := hhas.eq ▸ Rows.whole_rows hfeeds
  have hrow : e.text.rowAt e.cursor = A.length := by
    rw [htext]
    exact (hhas.eq ▸ hhas).rowAt hwholeS
  have hM : (List.replicate n L).flatten ≠ [] := Rows.flatten_replicate_ne_nil hn hL
  obtain ⟨C, D, hCD, hC, e', he', hput⟩ :=
    exists_putsBetween htext hwholeS (hhas.eq ▸ hhas) hM side
  have hk : k = C.length := by
    show e.text.rowAt e.cursor + side.rowsPassed = C.length
    rw [hrow, hC]
  have hS : e.text.rows = C ++ D := hhas.eq.trans hCD.symm
  have hwhole' : Rows.Whole (C ++ (List.replicate n L).flatten ++ D) := by
    have hCDwhole : Rows.Whole (C ++ D) := hCD ▸ hwholeS
    have hC' : Rows.Whole C := hCDwhole.of_mem fun q hq => List.mem_append_left D hq
    have hD' : Rows.Whole D := hCDwhole.of_mem fun q hq => List.mem_append_right C hq
    exact (hC'.append (hwhole.replicate n)).append hD'
  have hrows : e'.text.rows = C ++ (List.replicate n L).flatten ++ D := by
    rw [he', Rows.rows_text hwhole']
    exact List.append_ne_nil_of_left_ne_nil (List.append_ne_nil_of_right_ne_nil C hM) D
  refine ⟨_, put_fed hL hread hn side, ?_, ?_⟩
  · rw [hput, text_moveTo, hrows, hk, hS, List.take_left, List.drop_left]
  · obtain ⟨m, M, hm⟩ := List.exists_cons_of_ne_nil hM
    have hsplit : C ++ (List.replicate n L).flatten ++ D = C ++ m :: (M ++ D) := by
      rw [hm, List.append_assoc, List.cons_append]
    rw [hput, text_moveTo, hrows, hk, hsplit]
    exact cursor_moveTo_place (he'.trans (congrArg Rows.text hsplit)) (hsplit ▸ hwhole') .column

/-- Two lines are put twice after a line that nothing ends. -/
theorem put_two_lines_twice :
    let e : Editor :=
      { text := ['a', '\n', ' ', 'b'], cursor := 3
        shared := { named := fun c => if c = 'x' then some ⟨['c', '\n', '\n'], .lines⟩ else none } }
    ∃ e', e.put (some 'x') 2 .after = .ok e' ∧
      e'.text.rows = [['a'], [' ', 'b'], ['c'], [], ['c'], []] ∧ e'.cursor = 5 := by
  intro e
  have hfeeds : e.text.FeedsOnly := by decide
  have hwhole : Rows.Whole [['c'], []] := by decide
  have hread : e.registers.read (some 'x') = some ⟨Rows.fed [['c'], []], .lines⟩ := by decide
  obtain ⟨e', hput, hrows, hcursor⟩ :=
    put_whole_lines hfeeds (List.cons_ne_nil _ _) hwhole hread (n := 2) (by decide) .after
  have hrows' : e'.text.rows = [['a'], [' ', 'b'], ['c'], [], ['c'], []] := hrows.trans (by decide)
  exact ⟨e', hput, hrows', hcursor.trans (by rw [hrows']; decide)⟩

end Editor
end Keywise
