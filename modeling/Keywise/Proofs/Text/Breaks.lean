/-
# What ends a line

A line that another one follows is text without a break, and behind it one
break (`Text.exists_isBroken`). The content of the line leaves that break out if
it is a line feed, a carriage return or both. Any other break is the last
character of the content, which then ends where the next line starts
(`Text.IsBroken.leavesOutBreak_iff`).

To remove characters in front of the break is to keep it, with all that is
before the line and behind it (`Text.keepsBreak_splice`).

Key definitions: `Text.lineBreak`, `Text.LeavesOutBreak`, `Text.KeepsBreak`.
Key theorems: `Text.exists_isBroken`, `Text.IsBroken.length_eq`,
`Text.IsBroken.leavesOutBreak_iff`, `Text.keepsBreak_splice`.
-/
import Keywise.Proofs.Text.Tiling

namespace Keywise
namespace Text

/-! ### Slices of slices -/

section

variable (t : Text) (start : Nat)

theorem take_slice {len k : Nat} (h : k ≤ len) : (t.slice start len).take k = t.slice start k := by
  rw [slice, List.take_take, Nat.min_eq_left h]
  rfl

theorem drop_slice (len k : Nat) : (t.slice start len).drop k = t.slice (start + k) (len - k) := by
  rw [slice, List.drop_take, List.drop_drop]
  rfl

theorem slice_add (m n : Nat) : t.slice start (m + n) = t.slice start m ++ t.slice (start + m) n := by
  rw [slice, List.take_add, List.drop_drop]
  rfl

end

/-! ### The break of a line -/

/-- The characters of line `i`, and what ends it. -/
def wholeLine (t : Text) (i : Nat) : Text :=
  t.slice (t.line i).start (t.nextStart i - (t.line i).start)

/-- What ends line `i`: all of it from the first break on. -/
def lineBreak (t : Text) (i : Nat) : Text := (t.wholeLine i).dropWhile (!isBreak ·)

/-- The offset at which it stands. -/
def breakStart (t : Text) (i : Nat) : Nat := t.nextStart i - (t.lineBreak i).length

/-- The content of line `i` ends where the break stands: the break is all that
is behind it, and in it there is none. -/
structure LeavesOutBreak (t : Text) (i : Nat) : Prop where
  behind : t.slice (t.line i).stop (t.nextStart i - (t.line i).stop) = t.lineBreak i
  within : ∀ c ∈ t.content (t.line i), isBreak c = false

/-- In `t'` at most some characters of line `i` of `t` are gone, and all of them
stood in front of the break. -/
def KeepsBreak (t : Text) (i : Nat) (t' : Text) : Prop :=
  ∃ u, u.Sublist (t.slice (t.line i).start (t.breakStart i - (t.line i).start)) ∧
    t' = t.take (t.line i).start ++ u ++ t.drop (t.breakStart i)

/-- Line `i` is `body` without a break, and `b`, which ends it. -/
structure IsBroken (t : Text) (i : Nat) (body b : Text) : Prop where
  whole : t.wholeLine i = body ++ b
  unbroken : ∀ c ∈ body, isBreak c = false
  ending : IsEnding b
  nextStart : t.nextStart i = (t.line i).start + (body ++ b).length
  length : (t.line i).length = contentLength (body ++ b)

variable {t : Text} {i : Nat} {body b : Text}

/-- **A line that another one follows** has a break at its end. -/
theorem exists_isBroken (h : i + 1 < t.lineCount) : ∃ body b, t.IsBroken i body b := by
  obtain ⟨pre, body, b, post, hlines, rfl, hline, hbody, hb⟩ := exists_ended_line h
  have hnext := nextStart_eq hlines
  have htext : t = pre.flatten ++ ((body ++ b) ++ post.flatten) := by
    rw [← flatten_lines t, hlines]
    simp
  have hwhole : t.wholeLine pre.length = body ++ b := by
    rw [wholeLine, hnext, hline]
    show t.slice pre.flatten.length (pre.flatten.length + (body ++ b).length -
      pre.flatten.length) = _
    rw [Nat.add_sub_cancel_left, slice, htext, List.drop_left, List.take_left]
  refine ⟨body, b, hwhole, hbody, hb, ?_, ?_⟩
  · rw [hnext, hline]
    rfl
  · rw [hline]
    rfl

theorem IsEnding.exists_isBreak (h : IsEnding b) : ∃ c b', b = c :: b' ∧ isBreak c = true := by
  rcases h with rfl | ⟨c, hc, rfl⟩
  · exact ⟨'\r', ['\n'], rfl, rfl⟩
  · exact ⟨c, [], rfl, hc⟩

/-- **How much of a line is content**: not the break if it is a line feed, a
carriage return or both, and otherwise that too. -/
theorem IsEnding.contentLength_append (hb : IsEnding b) (hbody : ∀ c ∈ body, isBreak c = false) :
    contentLength (body ++ b) =
      if b.all isReturn then body.length else body.length + 1 := by
  rcases hb with rfl | ⟨c, -, rfl⟩
  · exact contentLength_append_pair body
  · rw [contentLength_append_singleton hbody, List.all_cons, List.all_nil, Bool.and_true]

namespace IsBroken

theorem lineBreak_eq (h : t.IsBroken i body b) : t.lineBreak i = b := by
  obtain ⟨c, b', hb, hc⟩ := h.ending.exists_isBreak
  have hbody : ∀ d ∈ body, (!isBreak d) = true := fun d hd => by rw [h.unbroken d hd]; rfl
  rw [lineBreak, h.whole, List.dropWhile_append_of_pos hbody, hb,
    List.dropWhile_cons_of_neg (by rw [hc]; nofun)]

theorem breakStart_eq (h : t.IsBroken i body b) :
    t.breakStart i = (t.line i).start + body.length := by
  rw [breakStart, h.lineBreak_eq, h.nextStart, List.length_append, ← Nat.add_assoc,
    Nat.add_sub_cancel]

theorem breakStart_lt (h : t.IsBroken i body b) : t.breakStart i < t.nextStart i := by
  have hpos := List.length_pos_iff.mpr h.ending.ne_nil
  rw [h.breakStart_eq, h.nextStart, List.length_append]
  omega

theorem length_eq (h : t.IsBroken i body b) : (t.line i).length =
    if b.all isReturn then body.length else body.length + 1 := by
  rw [h.length, h.ending.contentLength_append h.unbroken]

theorem length_of_not_isReturn (h : t.IsBroken i body b) (hb : ¬ b.all isReturn = true) :
    b.length = 1 := by
  rcases h.ending with rfl | ⟨c, -, rfl⟩
  · exact absurd rfl hb
  · rfl

theorem content_eq (h : t.IsBroken i body b) :
    t.content (t.line i) = (body ++ b).take (t.line i).length := by
  have hle : (t.line i).length ≤ t.nextStart i - (t.line i).start := by
    rw [h.nextStart, Nat.add_sub_cancel_left, h.length]
    exact contentLength_le _
  rw [← h.whole, wholeLine, take_slice t _ hle]
  rfl

theorem behind_eq (h : t.IsBroken i body b) :
    t.slice (t.line i).stop (t.nextStart i - (t.line i).stop) =
      (body ++ b).drop (t.line i).length := by
  rw [← h.whole, wholeLine, drop_slice, Nat.sub_sub]
  rfl

/-- **The break is left out** of the content if and only if it is a line feed, a
carriage return or both. -/
theorem leavesOutBreak_iff (h : t.IsBroken i body b) :
    t.LeavesOutBreak i ↔ b.all isReturn = true := by
  constructor
  · intro hout
    by_contra hb
    have hlen := h.length_of_not_isReturn hb
    obtain ⟨c, b', rfl, hc⟩ := h.ending.exists_isBreak
    have hall : t.content (t.line i) = body ++ c :: b' := by
      rw [h.content_eq, h.length_eq, if_neg hb, List.take_of_length_le]
      rw [List.length_append, hlen]
    have hno := hout.within c (by rw [hall]; simp)
    rw [hc] at hno
    cases hno
  · intro hb
    have hlen : (t.line i).length = body.length := by rw [h.length_eq, if_pos hb]
    refine ⟨?_, ?_⟩
    · rw [h.behind_eq, h.lineBreak_eq, hlen, List.drop_left]
    · rw [h.content_eq, hlen, List.take_left]
      exact h.unbroken

theorem stop_of_leavesOutBreak (h : t.IsBroken i body b) (hout : t.LeavesOutBreak i) :
    (t.line i).stop = t.breakStart i := by
  rw [h.breakStart_eq, Line.stop, h.length_eq, if_pos (h.leavesOutBreak_iff.mp hout)]

/-- **Otherwise** it is the last character of the content. -/
theorem stop_of_not_leavesOutBreak (h : t.IsBroken i body b) (hout : ¬ t.LeavesOutBreak i) :
    (t.line i).stop = t.nextStart i ∧ (t.line i).last = t.breakStart i := by
  have hb := mt h.leavesOutBreak_iff.mpr hout
  have hlen : (t.line i).length = body.length + 1 := by rw [h.length_eq, if_neg hb]
  have hstop : (t.line i).stop = (t.line i).start + (body.length + 1) := by rw [Line.stop, hlen]
  refine ⟨?_, ?_⟩
  · rw [hstop, h.nextStart, List.length_append, h.length_of_not_isReturn hb]
  · rw [Line.last, if_neg (by omega), hstop, h.breakStart_eq]
    rfl

end IsBroken

/-! ### Texts with the same break -/

theorem IsBroken.keepsBreak (h : t.IsBroken i body b) : t.KeepsBreak i t := by
  have hstart : (t.line i).start ≤ t.breakStart i := h.breakStart_eq ▸ Nat.le_add_right _ _
  refine ⟨_, List.Sublist.refl _, ?_⟩
  have htake : t.take (t.line i).start ++
      t.slice (t.line i).start (t.breakStart i - (t.line i).start) = t.take (t.breakStart i) := by
    rw [slice, ← List.take_add, Nat.add_sub_cancel' hstart]
  rw [htake, List.take_append_drop]

/-- **The break is kept** when characters in front of it are removed. -/
theorem keepsBreak_splice {g : Range} (hleft : (t.line i).start ≤ g.left)
    (hright : g.right ≤ t.breakStart i) : t.KeepsBreak i (t.splice g.left g.length []) := by
  have hle := g.left_le_right
  obtain ⟨m, hm⟩ := Nat.exists_eq_add_of_le hleft
  obtain ⟨k, hk⟩ := Nat.exists_eq_add_of_le hright
  have hlen : g.left + g.length = g.right := Nat.add_sub_cancel' hle
  have hbefore : t.breakStart i - (t.line i).start = m + (g.length + k) := by omega
  refine ⟨t.slice (t.line i).start m ++ t.slice g.right k, ?_, ?_⟩
  · rw [hbefore, slice_add, slice_add, ← hm, hlen]
    exact List.Sublist.append_left (List.sublist_append_right _ _) _
  · have htake : t.take g.left = t.take (t.line i).start ++ t.slice (t.line i).start m := by
      rw [hm, List.take_add]
      rfl
    have hdrop : t.drop g.right = t.slice g.right k ++ t.drop (t.breakStart i) := by
      rw [hk, ← List.drop_drop, slice, List.take_append_drop]
    rw [splice, hlen, htake, hdrop]
    simp only [List.append_assoc, List.append_nil]

end Text
end Keywise
