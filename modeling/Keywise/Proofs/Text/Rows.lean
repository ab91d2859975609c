/-
# Texts whose lines all end with line feeds

Where the line feed is the only break, a text is known by its rows, which are
what `List.splitOn` leaves of it at the line feeds: one more than there are
line feeds, the last one empty if the text ends with one. The rows before a
row, each with a line feed behind it, are the text before it
(`Rows.text_append`), so offsets are lengths of such texts.

What is asked about the line of an offset, about a line by its number and
about the last line is answered from the rows (`Rows.Has.lineAt`,
`Rows.line_text`, `Rows.lastLine_text`).

Key definitions: `Text.rows`, `Text.rowAt`, `Rows.text`, `Rows.fed`, `Rows.Whole`,
`Rows.last`, `Rows.start`, `Rows.place`, `Rows.Has`.
Key theorems: `Rows.rows_text`, `Rows.text_append`, `Rows.exists_lines_text`,
`Rows.Has.lineAt`, `Rows.lastLine_text`.
-/
import Keywise.Proofs.Text.Resting

namespace Keywise

namespace Text

/-- The line feed is the only break. -/
def FeedsOnly (t : Text) : Prop := ∀ c ∈ t, isBreak c = true → c = '\n'

instance (t : Text) : Decidable t.FeedsOnly :=
  List.decidableBAll (fun c => isBreak c = true → c = '\n') t

/-- What is between the line feeds of a text. -/
def rows (t : Text) : List Text := t.splitOn '\n'

/-- The number of the row an offset is on. -/
def rowAt (t : Text) (p : Nat) : Nat := (t.take p).count '\n'

end Text

namespace Rows

open Text (isBreak isIndent)

/-- The text of rows: a line feed stands between each and the next. -/
def text (rows : List Text) : Text := ['\n'].intercalate rows

/-- The rows with a line feed behind each. -/
def fed (rows : List Text) : Text := rows.flatMap (· ++ ['\n'])

/-- No row has a break in it. -/
def Whole (rows : List Text) : Prop := ∀ r ∈ rows, ∀ c ∈ r, isBreak c = false

instance (rows : List Text) : Decidable (Whole rows) :=
  have : DecidablePred fun r : Text => ∀ c ∈ r, isBreak c = false :=
    List.decidableBAll fun c => isBreak c = false
  List.decidableBAll (fun r : Text => ∀ c ∈ r, isBreak c = false) rows

/-- The number of the last row that counts as a line: an empty one at the end
does not, unless it is the only one. -/
def last (rows : List Text) : Nat :=
  if 1 < rows.length ∧ rows.getLast? = some [] then rows.length - 2 else rows.length - 1

/-- The offset at which row `k` starts. -/
def start (rows : List Text) (k : Nat) : Nat := (fed (rows.take k)).length

/-- The column of the first character of a row that is no blank, or of its
last character if all are. -/
def indent (row : Text) : Nat :=
  let blanks := row.takeWhile isIndent
  if blanks.length < row.length then blanks.length else row.length - 1

/-- The offset of the first character of row `k` that is no blank, or of its
last character if all are. -/
def place (rows : List Text) (k : Nat) : Nat := start rows k + indent (rows.getD k [])

/-! ### Rows and texts -/

theorem text_rows (t : Text) : text t.rows = t := List.intercalate_splitOn '\n'

theorem Whole.notMem {rows : List Text} (h : Whole rows) : ∀ r ∈ rows, '\n' ∉ r := by
  intro r hr hc
  exact absurd (h r hr '\n' hc) (by decide)

/-- **Rows are found again** in their text. -/
theorem rows_text {rows : List Text} (h : Whole rows) (hne : rows ≠ []) : (text rows).rows = rows :=
  List.splitOn_intercalate '\n' h.notMem hne

theorem rows_ne_nil (t : Text) : t.rows ≠ [] := List.splitOn_ne_nil '\n' t

theorem fed_append (A B : List Text) : fed (A ++ B) = fed A ++ fed B := List.flatMap_append

theorem fed_cons (r : Text) (A : List Text) : fed (r :: A) = r ++ '\n' :: fed A := by
  simp [fed, List.flatMap_cons]

theorem fed_singleton (r : Text) : fed [r] = r ++ ['\n'] := by simp [fed]

theorem text_cons {B : List Text} (hB : B ≠ []) (r : Text) :
    text (r :: B) = r ++ '\n' :: text B := by
  simp [text, List.intercalate_cons_of_ne_nil hB]

theorem text_singleton (r : Text) : text [r] = r := List.intercalate_singleton

/-- **The rows before others** are there with a line feed behind each. -/
theorem text_append {B : List Text} (hB : B ≠ []) : ∀ A : List Text, text (A ++ B) = fed A ++ text B
  | [] => rfl
  | r :: A => by
    have hne : A ++ B ≠ [] := List.append_ne_nil_of_right_ne_nil A hB
    rw [List.cons_append, text_cons hne, text_append hB A, fed_cons, List.append_assoc]
    rfl

theorem text_concat (A : List Text) (r : Text) : text (A ++ [r]) = fed A ++ r := by
  rw [text_append (List.cons_ne_nil r []), text_singleton]

/-- To have a line feed behind the last row is to have one behind each. -/
theorem text_append_feed {A : List Text} (hA : A ≠ []) : text A ++ ['\n'] = fed A := by
  obtain ⟨A, r, rfl⟩ := List.eq_nil_or_concat A |>.resolve_left hA
  rw [List.concat_eq_append, text_concat, fed_append, fed_singleton, List.append_assoc]

theorem fed_flatten (Ls : List (List Text)) : fed Ls.flatten = (Ls.map fed).flatten := by
  induction Ls with
  | nil => rfl
  | cons L Ls ih => rw [List.flatten_cons, fed_append, ih, List.map_cons, List.flatten_cons]

theorem fed_replicate (n : Nat) (L : List Text) :
    fed (List.replicate n L).flatten = (List.replicate n (fed L)).flatten := by
  rw [fed_flatten, List.map_replicate]

theorem fed_ne_nil {A : List Text} (hA : A ≠ []) : fed A ≠ [] := by
  rw [← text_append_feed hA]
  exact List.append_ne_nil_of_right_ne_nil _ (List.cons_ne_nil _ _)

theorem mem_text {rows : List Text} {r : Text} (hr : r ∈ rows) {c : Char} (hc : c ∈ r) :
    c ∈ text rows := by
  obtain ⟨A, B, rfl⟩ := List.append_of_mem hr
  rw [text_append (List.cons_ne_nil r B)]
  refine List.mem_append_right _ ?_
  by_cases hB : B = []
  · rwa [hB, text_singleton]
  · rw [text_cons hB]
    exact List.mem_append_left _ hc

theorem notMem_of_mem_rows {t : Text} {r : Text} (hr : r ∈ t.rows) : '\n' ∉ r := by
  induction t generalizing r with
  | nil =>
    rw [List.mem_singleton.mp hr]
    exact List.not_mem_nil
  | cons c t ih =>
    have hcons : Text.rows (c :: t) =
        if c == '\n' then [] :: Text.rows t else (Text.rows t).modifyHead (c :: ·) :=
      List.splitOn_cons_eq_if_modifyHead c t
    rw [hcons] at hr
    split at hr
    · rcases List.mem_cons.mp hr with rfl | hr
      · exact List.not_mem_nil
      · exact ih hr
    · next hc =>
      obtain ⟨q, qs, hq⟩ := List.exists_cons_of_ne_nil (rows_ne_nil t)
      rw [hq, List.modifyHead_cons] at hr
      rw [hq] at ih
      rcases List.mem_cons.mp hr with rfl | hr
      · intro hn
        rcases List.mem_cons.mp hn with rfl | hn
        · exact hc (beq_self_eq_true _)
        · exact ih List.mem_cons_self hn
      · exact ih (List.mem_cons_of_mem q hr)

theorem whole_rows {t : Text} (h : t.FeedsOnly) : Whole t.rows := by
  intro r hr c hc
  by_contra hbreak
  have hmem : c ∈ t := text_rows t ▸ mem_text hr hc
  have hfeed : c = '\n' := h c hmem (Bool.not_eq_false _ ▸ hbreak)
  exact notMem_of_mem_rows hr (hfeed ▸ hc)

theorem Whole.of_mem {rows rows' : List Text} (h : Whole rows) (hsub : ∀ r ∈ rows', r ∈ rows) :
    Whole rows' :=
  fun r hr => h r (hsub r hr)

theorem Whole.append {A B : List Text} (hA : Whole A) (hB : Whole B) : Whole (A ++ B) :=
  fun r hr => (List.mem_append.mp hr).elim (hA r) (hB r)

theorem whole_nil_row : Whole [[]] := by
  intro r hr
  rw [List.mem_singleton.mp hr]
  exact fun c hc => absurd hc List.not_mem_nil

theorem Whole.replicate {L : List Text} (h : Whole L) (n : Nat) :
    Whole (List.replicate n L).flatten := by
  refine h.of_mem fun r hr => ?_
  obtain ⟨L', hL', hr⟩ := List.mem_flatten.mp hr
  exact List.eq_of_mem_replicate hL' ▸ hr

/-- The rows, or an empty one if there are none. -/
def filled (rows : List Text) : List Text := if rows = [] then [[]] else rows

theorem filled_ne_nil (rows : List Text) : filled rows ≠ [] := by
  unfold filled
  split
  · exact List.cons_ne_nil _ _
  · assumption

theorem filled_eq {rows : List Text} (h : rows ≠ []) : filled rows = rows := if_neg h

theorem text_filled (rows : List Text) : text (filled rows) = text rows := by
  unfold filled
  split
  · next h => rw [h]; rfl
  · rfl

theorem Whole.filled {rows : List Text} (h : Whole rows) : Whole (filled rows) := by
  unfold Rows.filled
  split
  · exact whole_nil_row
  · exact h

/-! ### The lines of rows -/

theorem lines_cons {c : Char} (hc : isBreak c = false) (t : Text) :
    Text.lines (c :: t) = Text.consFirst c (Text.lines t) := by
  have hcr : c ≠ '\r' := by
    rintro rfl
    exact absurd hc (by decide)
  rw [Text.lines.eq_3 c t fun _ h => absurd h hcr, hc]
  rfl

theorem lines_row {r : Text} (hr : ∀ c ∈ r, isBreak c = false) : Text.lines r = [r] := by
  induction r with
  | nil => rfl
  | cons c r ih =>
    rw [lines_cons (hr c List.mem_cons_self), ih fun d hd => hr d (List.mem_cons_of_mem c hd)]
    rfl

theorem lines_row_append {r : Text} (hr : ∀ c ∈ r, isBreak c = false) {t l : Text}
    {ls : List Text} (h : Text.lines t = l :: ls) : Text.lines (r ++ t) = (r ++ l) :: ls := by
  induction r with
  | nil => exact h
  | cons c r ih =>
    rw [List.cons_append, lines_cons (hr c List.mem_cons_self),
      ih fun d hd => hr d (List.mem_cons_of_mem c hd)]
    rfl

theorem lines_row_feed {r : Text} (hr : ∀ c ∈ r, isBreak c = false) (t : Text) :
    Text.lines (r ++ '\n' :: t) = (r ++ ['\n']) :: Text.lines t :=
  lines_row_append hr rfl

theorem lines_fed_append {A : List Text} (hA : Whole A) (t : Text) :
    Text.lines (fed A ++ t) = A.map (· ++ ['\n']) ++ Text.lines t := by
  induction A with
  | nil => rfl
  | cons r A ih =>
    have hr := hA r List.mem_cons_self
    have hA' : Whole A := hA.of_mem fun q hq => List.mem_cons_of_mem r hq
    rw [fed_cons, List.append_assoc, List.cons_append, lines_row_feed hr, ih hA']
    rfl

/-- What ends a row: a line feed if others follow. -/
def ending (B : List Text) : Text := if B = [] then [] else ['\n']

theorem text_nil_cons (B : List Text) : text ([] :: B) = ending B ++ text B := by
  unfold ending
  by_cases hB : B = []
  · subst hB
    rfl
  · rw [text_cons hB, if_neg hB]
    rfl

/-- **The lines of a text of rows** are its rows with what ends them. -/
theorem exists_lines_text {A B : List Text} {r : Text} (h : Whole (A ++ r :: B)) :
    ∃ post, (text (A ++ r :: B)).lines = A.map (· ++ ['\n']) ++ (r ++ ending B) :: post ∧
      post.length = B.length := by
  have hA : Whole A := h.of_mem fun q hq => List.mem_append_left _ hq
  have hr := h r (List.mem_append_right A List.mem_cons_self)
  induction B generalizing A r with
  | nil =>
    refine ⟨[], ?_, rfl⟩
    rw [text_concat, lines_fed_append hA, lines_row hr]
    simp [ending]
  | cons q B ih =>
    have hmove : A ++ r :: q :: B = (A ++ [r]) ++ q :: B := by simp
    have hAr : Whole (A ++ [r]) := h.of_mem fun p hp => by
      rw [hmove]
      exact List.mem_append_left _ hp
    obtain ⟨post, hlines, hlen⟩ :=
      ih (hmove ▸ h) hAr (h q (List.mem_append_right A (by simp)))
    refine ⟨(q ++ ending B) :: post, ?_, by rw [List.length_cons, hlen, List.length_cons]⟩
    rw [hmove, hlines]
    simp [ending]

/-- The line of a row, which has the rows `A` before it. -/
def line (A : List Text) (r : Text) : Line := ⟨A.length, (fed A).length, r.length⟩

theorem flatten_map_feed (A : List Text) : (A.map (· ++ ['\n'])).flatten = fed A := by
  rw [fed, List.flatMap_def]

theorem after_eq_line {A B : List Text} {r : Text} (hr : ∀ c ∈ r, isBreak c = false) :
    Line.after (A.map (· ++ ['\n'])) (r ++ ending B) = line A r := by
  have hlen : Text.contentLength (r ++ ending B) = r.length := by
    unfold ending
    split
    · rw [List.append_nil, Text.contentLength_of_isBreak_eq_false hr]
    · rw [Text.contentLength_append_singleton hr]
      rfl
  unfold Line.after line
  rw [List.length_map, flatten_map_feed, hlen]

section

variable {A B : List Text} {r : Text}

/-- **A line by its number** is that of the row. -/
theorem line_text (h : Whole (A ++ r :: B)) : (text (A ++ r :: B)).line A.length = line A r := by
  obtain ⟨post, hlines, -⟩ := exists_lines_text h
  have hline := Text.line_eq hlines
  rw [List.length_map, after_eq_line (h r (by simp))] at hline
  exact hline

theorem nextStart_text (h : Whole (A ++ r :: B)) :
    (text (A ++ r :: B)).nextStart A.length = (fed A).length + r.length + (ending B).length := by
  obtain ⟨post, hlines, -⟩ := exists_lines_text h
  have hnext := Text.nextStart_eq hlines
  rw [List.length_map, flatten_map_feed, List.length_append, ← Nat.add_assoc] at hnext
  exact hnext

/-- **The last line** the cursor may rest on is that of the last row that
counts. -/
theorem lastLine_text {rows : List Text} (h : Whole rows) (hne : rows ≠ []) :
    (text rows).lastLine = last rows := by
  obtain ⟨A, r, rfl⟩ := List.eq_nil_or_concat rows |>.resolve_left hne
  rw [List.concat_eq_append] at h ⊢
  obtain ⟨post, hlines, hpost⟩ := exists_lines_text h
  have hnil : post = [] := List.length_eq_zero_iff.mp hpost
  rw [hnil] at hlines
  rw [Text.lastLine_eq hlines]
  have hcond : A.map (· ++ ['\n']) ≠ [] ∧ r ++ ending [] = [] ↔
      1 < (A ++ [r]).length ∧ (A ++ [r]).getLast? = some [] := by
    simp [ending, List.length_pos_iff]
  unfold last
  rw [if_congr hcond rfl rfl, List.length_map, List.length_append, List.length_singleton]
  rfl

theorem last_lt {rows : List Text} (h : rows ≠ []) : last rows < rows.length := by
  have hpos := List.length_pos_iff.mpr h
  unfold last
  split <;> omega

/-! ### The row of an offset -/

/-- Offset `p` is on row `r`, which has the rows `A` before it and `B` behind
it: on a character of it or on the line feed that ends it. What is past the
end is on the last row. -/
structure Has (rows A : List Text) (r : Text) (B : List Text) (p : Nat) : Prop where
  eq : rows = A ++ r :: B
  start_le : (fed A).length ≤ p
  le_stop : B = [] ∨ p ≤ (fed A).length + r.length

theorem exists_has : ∀ {rows : List Text}, rows ≠ [] → ∀ p, ∃ A r B, Has rows A r B p
  | [r], _, p => ⟨[], r, [], rfl, Nat.zero_le p, Or.inl rfl⟩
  | r :: q :: rows, _, p => by
    by_cases hp : p ≤ r.length
    · exact ⟨[], r, q :: rows, rfl, Nat.zero_le p, Or.inr (by simpa [fed] using hp)⟩
    · obtain ⟨A, r', B, heq, hle, hstop⟩ :=
        exists_has (List.cons_ne_nil q rows) (p - (r.length + 1))
      have hlen : (fed (r :: A)).length = r.length + 1 + (fed A).length := by
        rw [fed_cons, List.length_append, List.length_cons]
        omega
      exact ⟨r :: A, r', B, by rw [heq]; rfl, by omega, hstop.imp_right fun h => by omega⟩

/-- **The line of an offset** is that of its row. -/
theorem Has.lineAt {rows : List Text} (hw : Whole rows) {p : Nat} (h : Has rows A r B p) :
    (text rows).lineAt p = line A r := by
  obtain ⟨rfl, hle, hstop⟩ := h
  obtain ⟨post, hlines, hpost⟩ := exists_lines_text hw
  have hholds : (text (A ++ r :: B)).Holds (A.map (· ++ ['\n'])) (r ++ ending B) post p := by
    refine ⟨hlines, by rwa [flatten_map_feed], ?_⟩
    rw [flatten_map_feed]
    by_cases hB : B = []
    · left
      rw [hB] at hpost
      exact List.length_eq_zero_iff.mp hpost
    · right
      have hend : ending B = ['\n'] := if_neg hB
      have hp := hstop.resolve_left hB
      rw [hend, List.length_append, List.length_singleton]
      omega
  rw [hholds.lineAt, after_eq_line (hw r (by simp))]

theorem count_fed {A : List Text} (hA : ∀ r ∈ A, '\n' ∉ r) : (fed A).count '\n' = A.length := by
  induction A with
  | nil => rfl
  | cons r A ih =>
    have hr : r.count '\n' = 0 := List.count_eq_zero.mpr (hA r List.mem_cons_self)
    rw [fed_cons, List.count_append, List.count_cons_self, hr,
      ih fun q hq => hA q (List.mem_cons_of_mem r hq), List.length_cons]
    omega

theorem Has.rowAt {rows : List Text} (hw : Whole rows) {p : Nat} (h : Has rows A r B p) :
    (text rows).rowAt p = A.length := by
  unfold Text.rowAt
  obtain ⟨rfl, hle, hstop⟩ := h
  have hmem := hw.notMem
  have hA : (fed A).count '\n' = A.length :=
    count_fed fun q hq => hmem q (List.mem_append_left _ hq)
  have hr : '\n' ∉ r := hmem r (by simp)
  obtain ⟨i, rfl⟩ : ∃ i, p = (fed A).length + i := ⟨p - (fed A).length, by omega⟩
  have htake : ((text (r :: B)).take i).count '\n' = 0 := by
    rw [List.count_eq_zero]
    intro hc
    apply hr
    by_cases hB : B = []
    · rw [hB, text_singleton] at hc
      exact List.mem_of_mem_take hc
    · have hi : i ≤ r.length := by
        have := hstop.resolve_left hB
        omega
      rw [text_cons hB, List.take_append_of_le_length hi] at hc
      exact List.mem_of_mem_take hc
  rw [text_append (List.cons_ne_nil r B), List.take_length_add_append, List.count_append, hA, htake,
    Nat.add_zero]

end

end Rows
end Keywise
