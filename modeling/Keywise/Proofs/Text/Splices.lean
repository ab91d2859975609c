/-
# What is put in the place of something else

A splice in the place of another one leaves nothing of it (`Text.splice_splice`),
so what was there before can be put back (`Text.splice_splice_slice`).

If the content of a line is replaced by a text without breaks, the other lines
stay as they are (`Text.ReturnsOnly.lines_splice`), and the line begins where it
did (`Text.ReturnsOnly.lineAt_splice`). A line that is left empty is an
exception, since its line feed may then follow the carriage return of the line
before, and the two are one break.

Key theorems: `Text.splice_splice`, `Text.splice_splice_slice`,
`Text.Cut.lines_flatten`, `Text.ReturnsOnly.lines_splice`,
`Text.ReturnsOnly.lineAt_splice`.
-/
import Keywise.Proofs.Text.Contents

namespace Keywise
namespace Text

section

variable {t : Text} {start : Nat}

theorem length_take_of_le (h : start ≤ t.length) : (t.take start).length = start := by
  rw [List.length_take, Nat.min_eq_left h]

theorem take_splice (h : start ≤ t.length) (len : Nat) (new : Text) :
    (t.splice start len new).take start = t.take start := by
  rw [splice, List.append_assoc]
  exact List.take_left' (length_take_of_le h)

theorem drop_splice (h : start ≤ t.length) (len : Nat) (new : Text) :
    (t.splice start len new).drop start = new ++ t.drop (start + len) := by
  rw [splice, List.append_assoc]
  exact List.drop_left' (length_take_of_le h)

/-- **What was put in is replaced** by something else. -/
theorem splice_splice (h : start ≤ t.length) (len : Nat) (new new' : Text) :
    (t.splice start len new).splice start new.length new' = t.splice start len new' := by
  have hdrop : (t.splice start len new).drop (start + new.length) = t.drop (start + len) := by
    rw [← List.drop_drop, drop_splice h]
    exact List.drop_left
  rw [splice, take_splice h, hdrop]
  rfl

theorem splice_splice_slice (h : start ≤ t.length) (len : Nat) (new : Text) :
    (t.splice start len new).splice start new.length (t.slice start len) = t := by
  rw [splice_splice h, splice_slice]

theorem mem_splice {len : Nat} {new : Text} {c : Char} (h : c ∈ t.splice start len new) :
    c ∈ t ∨ c ∈ new := by
  rw [splice, List.mem_append, List.mem_append] at h
  rcases h with (h | h) | h
  · exact Or.inl (List.mem_of_mem_take h)
  · exact Or.inr h
  · exact Or.inl (List.mem_of_mem_drop h)

end

/-! ### A cut is the lines of a text -/

theorem IsEnding.lines_append {b : Text} (hb : IsEnding b) {t : Text}
    (hpair : b = ['\r'] → t.head? ≠ some '\n') : lines (b ++ t) = b :: lines t := by
  rcases hb with rfl | ⟨c, hc, rfl⟩
  · rfl
  · have hno : ∀ t', c = '\r' → t ≠ '\n' :: t' := by
      rintro t' rfl rfl
      exact hpair rfl rfl
    rw [List.singleton_append, lines.eq_3 c t hno, if_pos hc]

/-- **Lines that are cut** are the lines of the text they come to. -/
theorem Cut.lines_flatten {ls : List Text} (h : Cut ls) : lines ls.flatten = ls := by
  induction h with
  | @last l hl =>
    rw [List.flatten_singleton]
    exact Rows.lines_row hl
  | @cons body b ls hbody hb hpair _ ih =>
    rw [List.flatten_cons, List.append_assoc]
    have hlines := hb.lines_append hpair
    rw [ih] at hlines
    exact Rows.lines_row_append hbody hlines

/-- Lines at the end of a cut may be others, if no line feed comes to stand
where there was none. -/
theorem Cut.append_of_head? {ls ls' : List Text} (hls : ls ≠ []) (h' : Cut ls')
    (hhead : ls.flatten.head? ≠ some '\n' → ls'.flatten.head? ≠ some '\n') :
    ∀ {pre : List Text}, Cut (pre ++ ls) → Cut (pre ++ ls')
  | [], _ => h'
  | p :: pre, h => by
    have hne : pre ++ ls ≠ [] := List.append_ne_nil_of_right_ne_nil _ hls
    have hrest : Cut (pre ++ ls') := append_of_head? hls h' hhead (h.tail hne)
    obtain ⟨body, b, rfl, hbody, hb, hpair⟩ := h.exists_body hne
    refine .cons hbody hb (fun hcr => ?_) hrest
    have hno : (pre ++ ls).flatten.head? ≠ some '\n' := hpair hcr
    show (pre ++ ls').flatten.head? ≠ some '\n'
    rw [List.flatten_append, List.head?_append] at hno ⊢
    cases hpre : pre.flatten.head? with
    | none =>
      rw [hpre, Option.none_or] at hno
      rw [Option.none_or]
      exact hhead hno
    | some c =>
      rw [hpre, Option.some_or] at hno
      rw [Option.some_or]
      exact hno

/-! ### The content of a line is replaced -/

section

variable {t : Text} {pre : List Text} {l : Text} {post : List Text} {new : Text}

theorem eq_flatten (hlines : t.lines = pre ++ l :: post) :
    t = pre.flatten ++ (l ++ post.flatten) := by
  rw [← flatten_lines t, hlines, List.flatten_append, List.flatten_cons]

theorem content_after (hlines : t.lines = pre ++ l :: post) :
    t.content (.after pre l) = l.take (contentLength l) := by
  have ht := eq_flatten hlines
  rw [content, slice, Line.after]
  show (t.drop pre.flatten.length).take (contentLength l) = _
  rw [ht, List.drop_left, List.take_append_of_le_length (contentLength_le l)]

theorem Parts.content_after {body b : Text} (h : Parts l post body b)
    (hlines : t.lines = pre ++ l :: post) : t.content (.after pre l) = body := by
  rw [Text.content_after hlines, h.contentLength, h.eq, List.take_left]

theorem stop_lineAt_le_length (t : Text) (p : Nat) : (t.lineAt p).stop ≤ t.length :=
  Nat.le_trans (t.lineAt_bounds p).1 (t.lineAt_bounds p).2

theorem length_content_lineAt (t : Text) (p : Nat) :
    (t.content (t.lineAt p)).length = (t.lineAt p).length := by
  have hstop := t.stop_lineAt_le_length p
  rw [Line.stop] at hstop
  rw [content, slice, List.length_take, List.length_drop]
  omega

namespace ReturnsOnly

theorem isBreak_of_mem_content (h : t.ReturnsOnly) {p : Nat} {c : Char}
    (hc : c ∈ t.content (t.lineAt p)) : isBreak c = false := by
  obtain ⟨pre, l, post, hholds⟩ := t.exists_holds p
  obtain ⟨body, b, hparts⟩ := h.exists_parts hholds.lines
  rw [hholds.lineAt, hparts.content_after hholds.lines] at hc
  exact hparts.body c hc

theorem isBreak_of_mem_line (h : t.ReturnsOnly) {l : Text} (hl : l ∈ t.lines) {c : Char}
    (hc : c ∈ l.take (contentLength l)) : isBreak c = false := by
  obtain ⟨pre, post, hlines⟩ := List.append_of_mem hl
  obtain ⟨body, b, hparts⟩ := h.exists_parts hlines
  rw [← Text.content_after hlines, hparts.content_after hlines] at hc
  exact hparts.body c hc

theorem splice (h : t.ReturnsOnly) (start len : Nat) (hnew : ∀ c ∈ new, isBreak c = false) :
    (t.splice start len new).ReturnsOnly := by
  intro c hc hbreak
  rcases mem_splice hc with hc | hc
  · exact h c hc hbreak
  · rw [hnew c hc] at hbreak
    cases hbreak

/-- **The other lines stay** if the content of a line is replaced. -/
theorem lines_splice (h : t.ReturnsOnly) (hlines : t.lines = pre ++ l :: post)
    (hnew : ∀ c ∈ new, isBreak c = false) (hne : new ≠ [] ∨ contentLength l = 0) :
    ∃ b, IsReturns b ∧
      (t.splice pre.flatten.length (contentLength l) new).lines = pre ++ (new ++ b) :: post := by
  obtain ⟨body, b, hparts⟩ := h.exists_parts hlines
  have hcut : Cut (pre ++ l :: post) := hlines ▸ cut_lines t
  have hhead : (l :: post).flatten.head? ≠ some '\n' →
      ((new ++ b) :: post).flatten.head? ≠ some '\n' := by
    rw [List.flatten_cons, List.flatten_cons, hparts.eq]
    cases new with
    | nil =>
      have hbody : body = [] := by
        have hlen := hne.resolve_left (fun hn => hn rfl)
        rw [hparts.contentLength] at hlen
        exact List.length_eq_zero_iff.mp hlen
      rw [hbody]
      exact id
    | cons c new =>
      intro _ hc
      obtain rfl : c = '\n' := Option.some.inj hc
      exact absurd (hnew _ List.mem_cons_self) (by decide)
  have hsplice : t.splice pre.flatten.length (contentLength l) new =
      (pre ++ (new ++ b) :: post).flatten := by
    rw [eq_flatten hlines, Text.splice, List.take_left, ← List.drop_drop, List.drop_left,
      hparts.contentLength, hparts.eq, List.append_assoc body, List.drop_left,
      List.flatten_append, List.flatten_cons]
    simp only [List.append_assoc]
  rw [hsplice]
  exact ⟨b, hparts.returns,
    (Cut.append_of_head? (List.cons_ne_nil _ _) (hparts.cut new hnew) hhead hcut).lines_flatten⟩

/-- **The line is where it was**, and its content is what was put in. -/
theorem lineAt_splice (h : t.ReturnsOnly) {p : Nat} (hnew : ∀ c ∈ new, isBreak c = false)
    (hne : new ≠ [] ∨ (t.lineAt p).length = 0) {q : Nat} (hstart : (t.lineAt p).start ≤ q)
    (hstop : q ≤ (t.lineAt p).start + new.length) :
    (t.splice (t.lineAt p).start (t.lineAt p).length new).lineAt q =
      ⟨(t.lineAt p).number, (t.lineAt p).start, new.length⟩ := by
  obtain ⟨pre, l, post, hholds⟩ := t.exists_holds p
  rw [hholds.lineAt] at hne hstart hstop ⊢
  obtain ⟨b, hb, hlines⟩ := h.lines_splice hholds.lines hnew hne
  have hlen := contentLength_append_returns hnew hb
  have hreturns : (t.splice pre.flatten.length (contentLength l) new).ReturnsOnly :=
    h.splice _ _ hnew
  have hline := hreturns.lineAt_eq hlines hstart (by
    show q ≤ pre.flatten.length + contentLength (new ++ b)
    rw [hlen]
    exact hstop)
  refine hline.trans ?_
  rw [Line.after, hlen]
  rfl

end ReturnsOnly
end

end Text
end Keywise
