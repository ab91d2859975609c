/-
# Texts whose lines end with line feeds and carriage returns

Where these are the only breaks, a line is its content and what ends it, and
there is no break in the content (`Text.ReturnsOnly.exists_parts`). So every
place from the start of a line up to the end of its content is on that line
(`Text.ReturnsOnly.lineAt_eq`).

Key definitions: `Text.ReturnsOnly`, `Text.Parts`.
Key theorems: `Text.ReturnsOnly.exists_parts`, `Text.ReturnsOnly.lineAt_eq`,
`Text.lastLine_le_length`.
-/
import Keywise.Proofs.Text.RowPlaces

namespace Keywise
namespace Text

/-- Line feeds and carriage returns are the only breaks. -/
def ReturnsOnly (t : Text) : Prop := ∀ c ∈ t, isBreak c = true → isReturn c = true

instance (t : Text) : Decidable t.ReturnsOnly :=
  List.decidableBAll (fun c => isBreak c = true → isReturn c = true) t

variable {t : Text} {pre : List Text} {l : Text} {post : List Text}

theorem mem_of_mem_line (hlines : t.lines = pre ++ l :: post) {c : Char} (hc : c ∈ l) : c ∈ t := by
  rw [← flatten_lines t, hlines, List.mem_flatten]
  exact ⟨l, by simp, hc⟩

/-- What ends a line of such a text. Nothing ends the last one. -/
def IsReturns (b : Text) : Prop :=
  b = [] ∨ b = ['\r', '\n'] ∨ ∃ c, isReturn c = true ∧ b = [c]

theorem contentLength_append_returns {body b : Text} (hbody : ∀ c ∈ body, isBreak c = false)
    (hb : IsReturns b) : contentLength (body ++ b) = body.length := by
  rcases hb with rfl | rfl | ⟨c, hc, rfl⟩
  · rw [List.append_nil]
    exact contentLength_of_isBreak_eq_false hbody
  · exact contentLength_append_pair body
  · rw [contentLength_append_singleton hbody, if_pos hc]

/-- Line `l`, which has `post` behind it, is its content and what ends it.
There is no break in the content, and it might be any other text without one:
it would be cut off the lines behind it in the same place. -/
structure Parts (l : Text) (post : List Text) (body b : Text) : Prop where
  eq : l = body ++ b
  body : ∀ c ∈ body, isBreak c = false
  returns : IsReturns b
  ne_nil : post ≠ [] → b ≠ []
  cut : ∀ new : Text, (∀ c ∈ new, isBreak c = false) → Cut ((new ++ b) :: post)

theorem Parts.contentLength {body b : Text} (h : Parts l post body b) :
    contentLength l = body.length := by
  rw [h.eq]
  exact contentLength_append_returns h.body h.returns

/-- **A line is its content and what ends it.** -/
theorem ReturnsOnly.exists_parts (h : t.ReturnsOnly) (hlines : t.lines = pre ++ l :: post) :
    ∃ body b, Parts l post body b := by
  have hcut : Cut (l :: post) :=
    (hlines ▸ cut_lines t : Cut (pre ++ l :: post)).of_append (List.cons_ne_nil l post)
  by_cases hpost : post = []
  · subst hpost
    refine ⟨l, [], (List.append_nil l).symm, hcut.isBreak_of_mem_last, Or.inl rfl,
      fun hn => absurd rfl hn, fun new hnew => ?_⟩
    rw [List.append_nil]
    exact .last hnew
  · obtain ⟨body, b, rfl, hbody, hb, hpair⟩ := hcut.exists_body hpost
    refine ⟨body, b, rfl, hbody, Or.inr ?_, fun _ => hb.ne_nil,
      fun new hnew => .cons hnew hb hpair (hcut.tail hpost)⟩
    rcases hb with rfl | ⟨c, hc, rfl⟩
    · exact Or.inl rfl
    · exact Or.inr ⟨c, h c (mem_of_mem_line hlines (by simp)) hc, rfl⟩

/-- **The places of a line** are those from its start up to the end of its
content. -/
theorem ReturnsOnly.lineAt_eq (h : t.ReturnsOnly) (hlines : t.lines = pre ++ l :: post) {p : Nat}
    (hstart : pre.flatten.length ≤ p) (hstop : p ≤ (Line.after pre l).stop) :
    t.lineAt p = .after pre l := by
  obtain ⟨body, b, hparts⟩ := h.exists_parts hlines
  have hstop' : p ≤ pre.flatten.length + body.length := by
    rw [← hparts.contentLength]
    exact hstop
  refine Holds.lineAt ⟨hlines, hstart, ?_⟩
  by_cases hpost : post = []
  · exact Or.inl hpost
  · right
    have hpos := List.length_pos_iff.mpr (hparts.ne_nil hpost)
    rw [hparts.eq, List.length_append]
    omega

theorem ReturnsOnly.lineAt_start_add (h : t.ReturnsOnly) {n i : Nat} (hn : n < t.lineCount)
    (hi : i ≤ (t.line n).length) : t.lineAt ((t.line n).start + i) = t.line n := by
  obtain ⟨pre, l, post, hlines, -, hline⟩ := exists_line_eq hn
  rw [hline] at hi ⊢
  exact h.lineAt_eq hlines (Nat.le_add_right _ _) (Nat.add_le_add_left hi _)

theorem number_line {n : Nat} (hn : n < t.lineCount) : (t.line n).number = n := by
  obtain ⟨pre, l, post, -, hlen, hline⟩ := exists_line_eq hn
  rw [hline]
  exact hlen

/-! ### How many lines there are -/

theorem Cut.length_le {ls : List Text} (h : Cut ls) : ls.length ≤ ls.flatten.length + 1 := by
  induction h with
  | last _ => exact Nat.le_add_left _ _
  | @cons body b ls _ hb _ _ ih =>
    have hpos := List.length_pos_iff.mpr hb.ne_nil
    simp only [List.length_cons, List.flatten_cons, List.length_append]
    omega

theorem lastLine_le_length (t : Text) : t.lastLine ≤ t.length := by
  have hcount : t.lineCount ≤ t.lines.flatten.length + 1 := (cut_lines t).length_le
  rw [flatten_lines] at hcount
  have hlt := t.lastLine_lt
  omega

end Text
end Keywise
