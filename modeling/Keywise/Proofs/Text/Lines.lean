/-
# How a text is cut into lines

Every line but the last is its content and a break, nothing in a content is a
break, and no pair of carriage return and line feed is cut apart
(`Text.Cut`). What is asked about the line of an offset is answered by the
lines before it (`Text.Holds.lineAt`).

Two facts about single characters follow. Past the content of its line stand
the line feed and the carriage return, and no other character
(`Text.stop_lineAt_le_iff`). An offset starts a line if it is the first one or
a break is before it (`Text.start_lineAt_eq_iff`).

Key definitions: `Text.Cut`, `Line.after`, `Text.Holds`, `Text.isReturn`,
`Text.startsLine`.
Key theorems: `Text.cut_lines`, `Text.exists_holds`, `Text.Holds.lineAt`,
`Text.line_eq`, `Text.stop_lineAt_le_iff`, `Text.start_lineAt_eq_iff`.
-/
import Mathlib.Data.List.Basic
import Keywise.Text.Rest

namespace Keywise

/-- The line of the lines before it and of its own characters. -/
def Line.after (pre : List Text) (l : Text) : Line :=
  ⟨pre.length, pre.flatten.length, Text.contentLength l⟩

namespace Text

/-! ### The cut of a text -/

/-- What ends a line: the two characters of a pair, or one other. -/
def IsEnding (b : Text) : Prop := b = ['\r', '\n'] ∨ ∃ c, isBreak c = true ∧ b = [c]

/-- Lines as a text has them. -/
inductive Cut : List Text → Prop
  | last {l : Text} : (∀ c ∈ l, isBreak c = false) → Cut [l]
  | cons {body b : Text} {ls : List Text} : (∀ c ∈ body, isBreak c = false) → IsEnding b →
      (b = ['\r'] → ls.flatten.head? ≠ some '\n') → Cut ls → Cut ((body ++ b) :: ls)

theorem IsEnding.ne_nil {b : Text} (h : IsEnding b) : b ≠ [] := by
  rcases h with rfl | ⟨c, -, rfl⟩ <;> simp

theorem Cut.ne_nil {ls : List Text} (h : Cut ls) : ls ≠ [] := by
  cases h <;> simp

theorem Cut.consFirst {ls : List Text} (h : Cut ls) {c : Char} (hc : isBreak c = false) :
    Cut (consFirst c ls) := by
  cases h with
  | last hl =>
    refine .last fun d hd => ?_
    rcases List.mem_cons.mp hd with rfl | hd
    · exact hc
    · exact hl d hd
  | cons hbody hb hpair hls =>
    rename_i body b ls
    show Cut ((c :: body ++ b) :: ls)
    refine .cons (fun d hd => ?_) hb hpair hls
    rcases List.mem_cons.mp hd with rfl | hd
    · exact hc
    · exact hbody d hd

theorem cut_lines (t : Text) : Cut (lines t) := by
  fun_induction lines t with
  | case1 => exact .last (by simp)
  | case2 t ih =>
    show Cut (([] ++ ['\r', '\n']) :: lines t)
    exact .cons (by simp) (Or.inl rfl) (by simp) ih
  | case3 c t hpair hc ih =>
    show Cut (([] ++ [c]) :: lines t)
    refine .cons (by simp) (Or.inr ⟨c, hc, rfl⟩) ?_ ih
    intro hcr hnl
    rw [flatten_lines] at hnl
    obtain ⟨t', rfl⟩ : ∃ t', t = '\n' :: t' := by
      cases t with
      | nil => simp at hnl
      | cons d t' => exact ⟨t', by simpa using hnl⟩
    exact hpair t' (List.head_eq_of_cons_eq hcr) rfl
  | case4 c t _ hc ih => exact ih.consFirst (by simpa using hc)

theorem Cut.tail {l : Text} {ls : List Text} (h : Cut (l :: ls)) (hls : ls ≠ []) : Cut ls := by
  cases h with
  | last _ => exact absurd rfl hls
  | cons _ _ _ hrest => exact hrest

theorem Cut.of_append {ls : List Text} : ∀ {pre : List Text}, Cut (pre ++ ls) → ls ≠ [] → Cut ls
  | [], h, _ => h
  | _ :: _, h, hls => (h.tail (List.append_ne_nil_of_right_ne_nil _ hls)).of_append hls

theorem Cut.isBreak_of_mem_last {l : Text} (h : Cut [l]) : ∀ c ∈ l, isBreak c = false := by
  cases h with
  | last hlast => exact hlast
  | cons _ _ _ hrest => exact absurd rfl hrest.ne_nil

theorem Cut.exists_body {l : Text} {ls : List Text} (h : Cut (l :: ls)) (hls : ls ≠ []) :
    ∃ body b, l = body ++ b ∧ (∀ c ∈ body, isBreak c = false) ∧ IsEnding b ∧
      (b = ['\r'] → ls.flatten.head? ≠ some '\n') := by
  cases h with
  | last _ => exact absurd rfl hls
  | cons hbody hb hpair _ => exact ⟨_, _, rfl, hbody, hb, hpair⟩

/-! ### A line and what is before and behind it -/

/-- Offset `o` is on line `l`, which has `pre` before it and `post` behind it.
What is past the end is on the last line. -/
structure Holds (t : Text) (pre : List Text) (l : Text) (post : List Text) (o : Nat) : Prop where
  lines : t.lines = pre ++ l :: post
  start_le : pre.flatten.length ≤ o
  lt_next : post = [] ∨ o < pre.flatten.length + l.length

theorem exists_split (o : Nat) : ∀ {ls : List Text}, ls ≠ [] →
    ∃ pre l post, ls = pre ++ l :: post ∧ pre.flatten.length ≤ o ∧
      (post = [] ∨ o < pre.flatten.length + l.length)
  | [l], _ => ⟨[], l, [], rfl, Nat.zero_le o, Or.inl rfl⟩
  | l :: l' :: ls, _ => by
    by_cases ho : o < l.length
    · exact ⟨[], l, l' :: ls, rfl, Nat.zero_le o, Or.inr (by simpa using ho)⟩
    · obtain ⟨pre, l₁, post, hls, hle, hlt⟩ :=
        exists_split (o - l.length) (List.cons_ne_nil l' ls)
      have hlen : (l :: pre).flatten.length = l.length + pre.flatten.length := by simp
      refine ⟨l :: pre, l₁, post, by rw [hls]; rfl, by omega, hlt.imp_right fun h => by omega⟩

/-- Every offset is on some line. -/
theorem exists_holds (t : Text) (o : Nat) : ∃ pre l post, t.Holds pre l post o := by
  obtain ⟨pre, l, post, hls, hle, hlt⟩ := exists_split o (lines_ne_nil t)
  exact ⟨pre, l, post, hls, hle, hlt⟩

theorem lineAtFrom_append {l : Text} {post : List Text} : ∀ {pre : List Text} {n s o : Nat},
    pre.flatten.length ≤ o → (post = [] ∨ o < pre.flatten.length + l.length) →
      lineAtFrom n s (pre ++ l :: post) o =
        ⟨n + pre.length, s + pre.flatten.length, contentLength l⟩
  | [], n, s, o, _, hlt => by
    cases post with
    | nil => rfl
    | cons l' ls =>
      have ho : o < l.length := by simpa using hlt
      simp [lineAtFrom, ho]
  | p :: pre, n, s, o, hle, hlt => by
    have hlen : (p :: pre).flatten.length = p.length + pre.flatten.length := by simp
    have ih : lineAtFrom (n + 1) (s + p.length) (pre ++ l :: post) (o - p.length) =
        ⟨n + 1 + pre.length, s + p.length + pre.flatten.length, contentLength l⟩ :=
      lineAtFrom_append (by omega) (hlt.imp_right fun h => by omega)
    obtain ⟨q, qs, hq⟩ : ∃ q qs, pre ++ l :: post = q :: qs :=
      List.exists_cons_of_ne_nil (by simp)
    have ho : ¬ o < p.length := by omega
    rw [List.cons_append, hq, lineAtFrom, if_neg ho, ← hq, ih]
    simp only [List.length_cons, hlen, Line.mk.injEq, and_true]
    omega

/-- **The line of an offset** is told by the lines before it. -/
theorem Holds.lineAt {t : Text} {pre : List Text} {l : Text} {post : List Text} {o : Nat}
    (h : t.Holds pre l post o) : t.lineAt o = .after pre l := by
  unfold Text.lineAt
  rw [h.lines, lineAtFrom_append h.start_le h.lt_next, Nat.zero_add, Nat.zero_add, Line.after]

theorem start_lineAt_le (t : Text) (o : Nat) : (t.lineAt o).start ≤ o := by
  obtain ⟨pre, l, post, h⟩ := exists_holds t o
  rw [h.lineAt]
  exact h.start_le

theorem lineFrom_append {l : Text} {post : List Text} : ∀ {pre : List Text} {n s : Nat},
    lineFrom n s (pre ++ l :: post) pre.length =
      ⟨n + pre.length, s + pre.flatten.length, contentLength l⟩
  | [], n, s => by cases post <;> rfl
  | p :: pre, n, s => by
    have hlen : (p :: pre).flatten.length = p.length + pre.flatten.length := by simp
    have ih : lineFrom (n + 1) (s + p.length) (pre ++ l :: post) pre.length =
        ⟨n + 1 + pre.length, s + p.length + pre.flatten.length, contentLength l⟩ :=
      lineFrom_append
    obtain ⟨q, qs, hq⟩ : ∃ q qs, pre ++ l :: post = q :: qs :=
      List.exists_cons_of_ne_nil (by simp)
    rw [List.cons_append, hq, List.length_cons, lineFrom, ← hq, ih]
    simp only [hlen, Line.mk.injEq, and_true]
    omega

/-! ### Lines by their numbers -/

section

variable {t : Text} {pre : List Text} {l : Text} {post : List Text}

/-- **A line by its number** is told by the lines before it. -/
theorem line_eq (h : t.lines = pre ++ l :: post) : t.line pre.length = .after pre l := by
  unfold Text.line
  rw [h, lineFrom_append, Nat.zero_add, Nat.zero_add, Line.after]

theorem lineCount_eq (h : t.lines = pre ++ l :: post) :
    t.lineCount = pre.length + 1 + post.length := by
  unfold lineCount
  rw [h, List.length_append, List.length_cons]
  omega

theorem length_eq (h : t.lines = pre ++ l :: post) :
    t.length = pre.flatten.length + l.length + post.flatten.length := by
  rw [← flatten_lines t, h]
  simp [Nat.add_assoc]

theorem nextStart_eq (h : t.lines = pre ++ l :: post) :
    t.nextStart pre.length = pre.flatten.length + l.length := by
  unfold nextStart
  rw [lineCount_eq h]
  cases post with
  | nil =>
    rw [if_neg (by simp), length_eq h]
    simp
  | cons l' post =>
    have hnext : t.lines = (pre ++ [l]) ++ l' :: post := by
      rw [h]
      simp
    have hline := line_eq hnext
    rw [List.length_append, List.length_singleton] at hline
    rw [if_pos (by simp), hline]
    simp [Line.after]

theorem getElem?_start_add (h : t.lines = pre ++ l :: post) {i : Nat} (hi : i < l.length) :
    t[pre.flatten.length + i]? = l[i]? := by
  have ht : t = pre.flatten ++ (l ++ post.flatten) := by
    rw [← flatten_lines t, h]
    simp
  rw [ht, List.getElem?_append_right (Nat.le_add_right ..), Nat.add_sub_cancel_left,
    List.getElem?_append_left hi]

theorem Holds.lt_next_of_lt {o : Nat} (h : t.Holds pre l post o) (ho : o < t.length) :
    o < pre.flatten.length + l.length := by
  rcases h.lt_next with rfl | hlt
  · have hlen := length_eq h.lines
    simp only [List.flatten_nil, List.length_nil] at hlen
    omega
  · exact hlt

end

/-! ### Where contents end and lines begin -/

/-- The characters that are left out of a content: the line feed and the
carriage return. -/
def isReturn (c : Char) : Bool := c == '\n' || c == '\r'

theorem isBreak_of_isReturn {c : Char} (h : isReturn c = true) : isBreak c = true := by
  unfold isReturn at h
  unfold isBreak
  simp_all

theorem isReturn_of_isBreak_eq_false {c : Char} (h : isBreak c = false) : isReturn c = false := by
  by_contra hc
  rw [Bool.not_eq_false] at hc
  rw [isBreak_of_isReturn hc] at h
  cases h

theorem contentLength_of_isBreak_eq_false {l : Text} (h : ∀ c ∈ l, isBreak c = false) :
    contentLength l = l.length := by
  have hno : ∀ c ∈ l.reverse, isBreak c = false := fun c hc => h c (List.mem_reverse.mp hc)
  have hlen : l.reverse.length = l.length := List.length_reverse
  rw [← hlen]
  unfold contentLength
  split
  · next r heq => exact absurd (hno '\n' (by simp [heq])) (by decide)
  · next r _ heq => exact absurd (hno '\n' (by simp [heq])) (by decide)
  · next r heq => exact absurd (hno '\r' (by simp [heq])) (by decide)
  · rfl

theorem contentLength_append_pair (body : Text) :
    contentLength (body ++ ['\r', '\n']) = body.length := by
  simp [contentLength]

/-- The content of a line that another break ends: a line feed or a carriage
return is left out. -/
theorem contentLength_append_singleton {body : Text} (h : ∀ c ∈ body, isBreak c = false)
    (c : Char) :
    contentLength (body ++ [c]) = if isReturn c then body.length else body.length + 1 := by
  have hcr : ∀ r, body.reverse ≠ '\r' :: r := by
    intro r hr
    have hmem : '\r' ∈ body := List.mem_reverse.mp (by simp [hr])
    exact absurd (h '\r' hmem) (by decide)
  unfold contentLength
  rw [List.reverse_append, List.reverse_singleton, List.singleton_append]
  split
  · next r heq => exact absurd (List.cons.inj heq).2 (hcr r)
  · next r _ heq =>
    obtain ⟨rfl, rfl⟩ := List.cons.inj heq
    simp [isReturn]
  · next r heq =>
    obtain ⟨rfl, rfl⟩ := List.cons.inj heq
    simp [isReturn]
  · next r _ hnl hcr' =>
    have hc : isReturn c = false := by
      unfold isReturn
      have h₁ : c ≠ '\n' := fun hc => hnl _ (by rw [hc])
      have h₂ : c ≠ '\r' := fun hc => hcr' _ (by rw [hc])
      simp [h₁, h₂]
    simp [hc]

theorem contentLength_le (l : Text) : contentLength l ≤ l.length := by
  have hlen : l.reverse.length = l.length := List.length_reverse
  rw [← hlen]
  unfold contentLength
  split
  · next r heq =>
    rw [heq]
    exact Nat.le_add_right _ 2
  · next r _ heq =>
    rw [heq]
    exact Nat.le_add_right _ 1
  · next r heq =>
    rw [heq]
    exact Nat.le_add_right _ 1
  · exact Nat.le_refl _

/-- Between the content of a line and the start of the next one there is only
what ends the line. -/
theorem lineAt_bounds (t : Text) (o : Nat) :
    (t.lineAt o).stop ≤ t.nextStart (t.lineAt o).number ∧
      t.nextStart (t.lineAt o).number ≤ t.length := by
  obtain ⟨pre, l, post, h⟩ := exists_holds t o
  have hlen := length_eq h.lines
  have hle := contentLength_le l
  have hnext := nextStart_eq h.lines
  rw [h.lineAt]
  show pre.flatten.length + contentLength l ≤ t.nextStart pre.length ∧
    t.nextStart pre.length ≤ t.length
  omega

/-- In a line with what ends it, a line feed or carriage return stands at an
index exactly if the index is past the content. -/
theorem contentLength_le_iff_of_isEnding {body b : Text} (hbody : ∀ c ∈ body, isBreak c = false)
    (hb : IsEnding b) {i : Nat} (hi : i < (body ++ b).length) :
    contentLength (body ++ b) ≤ i ↔ (body ++ b)[i]?.any isReturn = true := by
  by_cases hin : i < body.length
  · have hle : body.length ≤ contentLength (body ++ b) := by
      rcases hb with rfl | ⟨c, -, rfl⟩
      · exact Nat.le_of_eq (contentLength_append_pair body).symm
      · rw [contentLength_append_singleton hbody]
        split <;> omega
    have hno : isReturn body[i] = false :=
      isReturn_of_isBreak_eq_false (hbody _ (List.getElem_mem hin))
    rw [List.getElem?_append_left hin, List.getElem?_eq_getElem hin, Option.any_some, hno]
    constructor
    · intro h
      omega
    · intro h
      cases h
  · obtain ⟨j, rfl⟩ : ∃ j, i = body.length + j := ⟨i - body.length, by omega⟩
    rw [List.getElem?_append_right (Nat.le_add_right ..), Nat.add_sub_cancel_left]
    rcases hb with rfl | ⟨c, -, rfl⟩
    · rw [contentLength_append_pair]
      have hj : j = 0 ∨ j = 1 := by
        simp only [List.length_append, List.length_cons, List.length_nil] at hi
        omega
      rcases hj with rfl | rfl <;> simp [isReturn]
    · rw [contentLength_append_singleton hbody]
      have hj : j = 0 := by
        simp only [List.length_append, List.length_singleton] at hi
        omega
      subst hj
      cases hc : isReturn c <;> simp [hc]

/-- **Past the content of its line** stand the line feeds and carriage
returns. -/
theorem stop_lineAt_le_iff {t : Text} {p : Nat} (hp : p < t.length) :
    (t.lineAt p).stop ≤ p ↔ t[p]?.any isReturn = true := by
  obtain ⟨pre, l, post, h⟩ := exists_holds t p
  have hlt := h.lt_next_of_lt hp
  obtain ⟨i, rfl⟩ : ∃ i, p = pre.flatten.length + i := ⟨p - pre.flatten.length, by
    have hle := h.start_le
    omega⟩
  have hi : i < l.length := by omega
  have hstop : (t.lineAt (pre.flatten.length + i)).stop ≤ pre.flatten.length + i ↔
      contentLength l ≤ i := by
    rw [h.lineAt]
    show pre.flatten.length + contentLength l ≤ pre.flatten.length + i ↔ contentLength l ≤ i
    omega
  have hcut : Cut (l :: post) := (h.lines ▸ cut_lines t : Cut (pre ++ l :: post)).of_append (by simp)
  rw [hstop, getElem?_start_add h.lines hi]
  by_cases hpost : post = []
  · have hl : ∀ c ∈ l, isBreak c = false := (hpost ▸ hcut).isBreak_of_mem_last
    have hno : isReturn l[i] = false := isReturn_of_isBreak_eq_false (hl _ (List.getElem_mem hi))
    rw [contentLength_of_isBreak_eq_false hl, List.getElem?_eq_getElem hi, Option.any_some, hno]
    constructor
    · intro hle
      omega
    · intro hf
      cases hf
  · obtain ⟨body, b, rfl, hbody, hb, -⟩ := hcut.exists_body hpost
    exact contentLength_le_iff_of_isEnding hbody hb hi

/-- Whether a line starts between two characters: the first one is a break,
and they are no pair. -/
def startsLine (c : Char) (d : Option Char) : Bool :=
  isBreak c && !(c == '\r' && d == some '\n')

theorem Cut.startsLine_getLast {l : Text} {ls : List Text} (h : Cut (l :: ls)) (hls : ls ≠ [])
    {c : Char} (hc : l.getLast? = some c) : startsLine c ls.flatten.head? = true := by
  obtain ⟨body, b, rfl, -, hb, hpair⟩ := h.exists_body hls
  rcases hb with rfl | ⟨d, hd, rfl⟩
  · have hcn : c = '\n' := by simpa using hc.symm
    subst hcn
    rfl
  · have hcd : c = d := by simpa using hc.symm
    subst hcd
    unfold startsLine
    rw [hd, Bool.true_and, Bool.not_eq_true', Bool.and_eq_false_iff]
    by_cases hcr : c = '\r'
    · right
      subst hcr
      simpa using hpair rfl
    · left
      simpa using hcr

theorem Cut.startsLine_of_lt {l : Text} {ls : List Text} (h : Cut (l :: ls)) {i : Nat}
    (hi : i + 1 < l.length) : startsLine l[i] l[i + 1]? = false := by
  by_cases hls : ls = []
  · subst hls
    unfold startsLine
    rw [h.isBreak_of_mem_last _ (List.getElem_mem _), Bool.false_and]
  · obtain ⟨body, b, rfl, hbody, hb, -⟩ := h.exists_body hls
    by_cases hin : i < body.length
    · unfold startsLine
      rw [List.getElem_append_left hin, hbody _ (List.getElem_mem hin), Bool.false_and]
    · rcases hb with rfl | ⟨c, -, rfl⟩
      · have hib : i = body.length := by
          simp only [List.length_append, List.length_cons, List.length_nil] at hi
          omega
        subst hib
        simp [startsLine]
      · simp only [List.length_append, List.length_singleton] at hi
        omega

/-- **An offset starts a line** if it is the first one, or one starts between
it and the character before it. -/
theorem start_lineAt_eq_iff {t : Text} {p : Nat} (hp : p < t.length) :
    (t.lineAt p).start = p ↔ p = 0 ∨ t[p - 1]?.any (startsLine · t[p]?) = true := by
  obtain ⟨pre, l, post, h⟩ := exists_holds t p
  have hlt := h.lt_next_of_lt hp
  have hle := h.start_le
  have hcut : Cut (pre ++ l :: post) := h.lines ▸ cut_lines t
  have hstart : (t.lineAt p).start = pre.flatten.length := by rw [h.lineAt]; rfl
  rw [hstart]
  by_cases hin : pre.flatten.length = p
  · refine iff_of_true hin ?_
    rcases List.eq_nil_or_concat pre with rfl | ⟨pre, q, rfl⟩
    · exact Or.inl hin.symm
    · right
      rw [List.concat_eq_append] at h hcut hin
      have hq : Cut (q :: l :: post) := by
        rw [List.append_assoc] at hcut
        exact hcut.of_append (by simp)
      obtain ⟨body, b, hqb, -, hb, -⟩ := hq.exists_body (by simp)
      have hqne : q ≠ [] := by
        rw [hqb]
        simp [hb.ne_nil]
      have hlen : p = pre.flatten.length + q.length := by
        rw [← hin]
        simp
      have hpos : 0 < q.length := List.length_pos_iff.mpr hqne
      have hlines : t.lines = pre ++ q :: (l :: post) := by
        rw [h.lines]
        simp
      have hbefore : t[p - 1]? = q.getLast? := by
        rw [List.getLast?_eq_getElem?, ← getElem?_start_add hlines (by omega), hlen,
          Nat.add_sub_assoc hpos]
      have hat : t[p]? = (l :: post).flatten.head? := by
        have hdrop : t = (pre ++ [q]).flatten ++ (l :: post).flatten := by
          rw [← flatten_lines t, h.lines]
          simp
        rw [hdrop, List.getElem?_append_right (by omega), hin, Nat.sub_self,
          List.head?_eq_getElem?]
      obtain ⟨c, hc⟩ := Option.ne_none_iff_exists'.mp (mt List.getLast?_eq_none_iff.mp hqne)
      rw [hbefore, hat, hc, Option.any_some]
      exact hq.startsLine_getLast (by simp) hc
  · refine iff_of_false hin ?_
    obtain ⟨i, rfl⟩ : ∃ i, p = pre.flatten.length + (i + 1) :=
      ⟨p - pre.flatten.length - 1, by omega⟩
    have hi : i + 1 < l.length := by omega
    have hcl : Cut (l :: post) := hcut.of_append (by simp)
    rw [← Nat.add_assoc, Nat.add_sub_cancel, Nat.add_assoc, getElem?_start_add h.lines hi,
      getElem?_start_add h.lines (Nat.lt_of_succ_lt hi), List.getElem?_eq_getElem
        (Nat.lt_of_succ_lt hi), Option.any_some, hcl.startsLine_of_lt hi]
    simp

end Text
end Keywise
