/-
# What the keys for the end of a line do about its break

The motion to the end of a line leads to the last character of its content, the
key that types there goes behind it, and the keys that delete from the cursor on
take no more than the content (`Editor.charsOnLine_right_le`,
`Editor.right_span_lineEnd_le`). So these keys spare the break of the line if the
content leaves it out. Of a line whose break is a character of the content they
do not (`Text.spares_break_iff`).

Key definitions: `Normal.SparesBreak`.
Key theorems: `Editor.right_span_lineEnd_le`, `Normal.sparesBreak`,
`Text.spares_break_iff`.
-/
import Keywise.Proofs.Mode.CharCommands
import Keywise.Proofs.Text.Breaks
import Keywise.Proofs.Text.Projection

namespace Keywise

namespace Normal

/-- From the cursor on line `i`, the motion to the end of the line does not reach
the break, unless the line starts with it. The key that types at the end of the
line goes no further than in front of it. The keys that delete characters, and the
rest of the line, keep it. -/
structure SparesBreak (s : Normal) (e : Editor) (i : Nat) : Prop where
  lineEnd : s.total = none → (s.handle e (.char '$')).2.1.cursor < e.text.breakStart i ∨
    (e.text.line i).start = e.text.breakStart i
  append : (s.handle e (.char 'A')).2.1.cursor ≤ e.text.breakStart i
  delete : e.text.KeepsBreak i (s.handle e (.char 'x')).2.1.text
  deleteRest : s.total = none → e.text.KeepsBreak i (s.handle e (.char 'D')).2.1.text

end Normal

theorem Line.last_lt_stop_or (l : Line) : l.last < l.stop ∨ l.start = l.stop := by
  unfold last stop
  split <;> omega

theorem Text.RestsOn.destination_lineEnd {t : Text} {i p : Nat} (h : t.RestsOn i p)
    (hlen : t.length ≤ Offset.max) (sticky : Option Sticky) :
    LineMotion.lineEnd.destination t sticky none p = (t.line i).last := by
  rw [LineMotion.destination_lineEnd_none hlen (h.number_lineAt.symm ▸ h.1), h.lineAt]

variable {s : Normal} {e : Editor} {m : Motion} {i : Nat}

/-! ### What is taken from the line -/

namespace Editor

theorem line_of_restsOn (h : e.text.RestsOn i e.cursor) : e.line = e.text.line i := h.lineAt

theorem charsOnLine_left (e : Editor) (n : Nat) : (e.charsOnLine n).left = e.cursor :=
  Nat.min_eq_left (Nat.le_max_right _ _)

/-- **The characters from the cursor on** are content. -/
theorem charsOnLine_right_le (h : e.text.RestsOn i e.cursor) (n : Nat) :
    (e.charsOnLine n).right ≤ (e.text.line i).stop := by
  obtain ⟨-, -, hlast⟩ := Text.restsOn_iff.mp h
  have hstop := Nat.le_trans hlast (e.text.line i).last_le_stop
  show max e.cursor (max (min (e.cursor + n) e.line.stop) e.cursor) ≤ _
  rw [line_of_restsOn h]
  omega

/-- A motion that takes the character it leads to takes no line feed or carriage
return. -/
theorem right_span_le (hborder : m.border = .inclusive) (t : Text) {p q r : Nat} (hp : p ≤ q)
    (hq : q ≤ r) (htaken : t[q]?.any Text.isReturn = false → q < t.length → q < r) :
    (m.span t p q).right ≤ r := by
  have hreturn : (t[q]? == some '\n' || t[q]? == some '\r') = t[q]?.any Text.isReturn := by
    cases t[q]? <;> rfl
  have hmax : max p q = q := Nat.max_eq_right hp
  simp only [Motion.span, hborder, hreturn]
  split
  · show max p q ≤ r
    omega
  · next hno =>
    have hchar : t[q]?.any Text.isReturn = false := by simpa [hp] using hno
    have htaken := htaken hchar
    show max (min (max p q + 1) t.length) (max p q) ≤ r
    omega

/-- **The rest of the line** is content too. If its last character is a line feed or
carriage return there is no content, and nothing is taken. -/
theorem right_span_lineEnd_le (h : e.text.RestsOn i e.cursor) :
    ((Motion.line .lineEnd).span e.text e.cursor (e.text.line i).last).right ≤
      (e.text.line i).stop := by
  obtain ⟨-, -, hlast⟩ := Text.restsOn_iff.mp h
  refine right_span_le rfl e.text hlast (e.text.line i).last_le_stop fun hchar hlt => ?_
  have hstop := Text.stop_lineAt_le_iff hlt
  rw [h.last.lineAt, hchar] at hstop
  exact Nat.not_le.mp fun hle => nomatch hstop.mp hle

theorem left_span_lineEnd (h : e.text.RestsOn i e.cursor) :
    ((Motion.line .lineEnd).span e.text e.cursor (e.text.line i).last).left = e.cursor := by
  obtain ⟨-, -, hlast⟩ := Text.restsOn_iff.mp h
  have hspan : ∀ q, (Motion.line .lineEnd).span e.text e.cursor q =
      if (e.text[q]? == some '\n' || e.text[q]? == some '\r') && e.cursor ≤ q then
        .between e.cursor q
      else .through e.text e.cursor q := fun _ => rfl
  rw [hspan]
  split <;> exact Nat.min_eq_left hlast

end Editor

namespace Normal

/-! ### What the keys do -/

theorem handle_lineEnd (hs : s.awaiting = .command) (hop : s.operator = none)
    (hcount : s.total = none) (hlen : e.text.length ≤ Offset.max)
    (h : e.text.RestsOn i e.cursor) :
    (s.handle e (.char '$')).2.1.cursor = (e.text.line i).last := by
  have hattempt : s.attempt e (.char '$') = finish (e.follow (.line .lineEnd) s.total) :=
    attempt_of_motion rfl hs hop (by decide) (fun _ => rfl) rfl fun _ => rfl
  have hfollow : e.follow (.line .lineEnd) none = (e.moveTo (e.text.rest
      (LineMotion.lineEnd.destination e.text e.sticky none e.cursor)) .lineEnd, none) := rfl
  rw [h.destination_lineEnd hlen, h.last.rest] at hfollow
  rw [hcount, hfollow] at hattempt
  rw [handle_of_attempt hattempt]
  show min (e.text.line i).last e.text.length = _
  exact Nat.min_eq_left (Nat.le_trans (e.text.line i).last_le_stop h.stop_le_length)

theorem handle_append (hs : s.awaiting = .command) (hop : s.operator = none)
    (h : e.text.RestsOn i e.cursor) :
    (s.handle e (.char 'A')).2.1.cursor = (e.text.line i).stop := by
  have hattempt : s.attempt e (.char 'A') = finish (typeAt e e.line.stop) :=
    attempt_of_command (c := 'A') hs hop rfl (by decide) (fun _ => rfl) rfl fun _ => rfl
  rw [handle_of_attempt hattempt, Editor.line_of_restsOn h]
  show min (e.text.line i).stop e.text.length = _
  exact Nat.min_eq_left h.stop_le_length

theorem handle_delete (hs : s.awaiting = .command) (hop : s.operator = none) :
    (s.handle e (.char 'x')).2.1 = if (e.charsOnLine (s.total.getD 1)).length = 0 then e
      else operate .delete e (e.charsOnLine (s.total.getD 1)) .text s.register := by
  have hattempt : s.attempt e (.char 'x') = finish (if (e.charsOnLine (s.total.getD 1)).length = 0
      then e else operate .delete e (e.charsOnLine (s.total.getD 1)) .text s.register, none) :=
    attempt_charCommand .delete hs hop
  rw [handle_of_attempt hattempt]

theorem handle_deleteRest (hs : s.awaiting = .command) (hop : s.operator = none)
    (hcount : s.total = none) (hlen : e.text.length ≤ Offset.max)
    (h : e.text.RestsOn i e.cursor) :
    (s.handle e (.char 'D')).2.1 = operate .delete e
      ((Motion.line .lineEnd).span e.text e.cursor (e.text.line i).last) .text s.register := by
  have hrun := runCommand_rest (e := e) (k := .deleteRest) rfl hcount
  rw [h.destination_lineEnd hlen] at hrun
  have hattempt : s.attempt e (.char 'D') = _ := (attempt_charCommand .deleteRest hs hop).trans hrun
  rw [handle_of_attempt hattempt]
  rfl

/-- **All of these keys spare the break** that the content leaves out. -/
theorem sparesBreak (hs : s.awaiting = .command) (hop : s.operator = none)
    (hlen : e.text.length ≤ Offset.max) (hi : i + 1 < e.text.lineCount)
    (h : e.text.RestsOn i e.cursor) (hout : e.text.LeavesOutBreak i) : s.SparesBreak e i := by
  obtain ⟨body, b, hbroken⟩ := Text.exists_isBroken hi
  have hstop := hbroken.stop_of_leavesOutBreak hout
  obtain ⟨-, hstart, -⟩ := Text.restsOn_iff.mp h
  have hkept : ∀ g : Range, (e.text.line i).start ≤ g.left → g.right ≤ (e.text.line i).stop →
      e.text.KeepsBreak i (operate .delete e g .text s.register).text := fun g hleft hright => by
    rw [text_operate (by decide)]
    exact Text.keepsBreak_splice hleft (hstop ▸ hright)
  refine ⟨fun hcount => ?_, ?_, ?_, fun hcount => ?_⟩
  · rw [handle_lineEnd hs hop hcount hlen h, ← hstop]
    exact (e.text.line i).last_lt_stop_or
  · rw [handle_append hs hop h, hstop]
  · rw [handle_delete hs hop]
    split
    · exact hbroken.keepsBreak
    · refine hkept _ ?_ (Editor.charsOnLine_right_le h _)
      exact Nat.le_trans hstart (Nat.le_of_eq (Editor.charsOnLine_left e _).symm)
  · rw [handle_deleteRest hs hop hcount hlen h]
    refine hkept _ ?_ (Editor.right_span_lineEnd_le h)
    rw [Editor.left_span_lineEnd h]
    exact hstart

end Normal

/-- **What ends a line and its content.** Behind the content of a line that another
one follows is the break that ends the line, and in the content there is none, if
and only if that break is a line feed, a carriage return or both. Any other is the
last character of the content. From a place on the line where the cursor may rest,
the keys for the end of the line spare the break if and only if it is left out. -/
theorem Text.spares_break_iff {t : Text} {i : Nat} (hi : i + 1 < t.lineCount) :
    IsEnding (t.lineBreak i) ∧
      (t.LeavesOutBreak i ↔ ∀ c ∈ t.lineBreak i, isReturn c = true) ∧
      (¬ t.LeavesOutBreak i → (t.line i).stop = t.nextStart i ∧
        (t.line i).last = t.breakStart i) ∧
      ∀ (s : Normal) (e : Editor), e.text = t → t.length ≤ Offset.max →
        t.RestsOn i e.cursor → s.awaiting = .command → s.operator = none →
          (t.LeavesOutBreak i ↔ s.SparesBreak e i) := by
  obtain ⟨body, b, hbroken⟩ := exists_isBroken hi
  have hbreak := hbroken.lineBreak_eq
  refine ⟨hbreak ▸ hbroken.ending, hbreak ▸ hbroken.leavesOutBreak_iff.trans List.all_eq_true,
    hbroken.stop_of_not_leavesOutBreak, ?_⟩
  rintro s e rfl hlen hrests hs hop
  refine ⟨Normal.sparesBreak hs hop hlen hi hrests, fun hspares => ?_⟩
  by_contra hin
  -- the key that types at the end of the line goes behind the break
  have hbehind := hspares.append
  rw [Normal.handle_append hs hop hrests, (hbroken.stop_of_not_leavesOutBreak hin).1] at hbehind
  exact absurd hbroken.breakStart_lt (Nat.not_lt.mpr hbehind)

/-- **A line feed behind a carriage return** is left out with it, and spared. -/
theorem Text.spares_break_pair :
    let t : Text := ['a', 'b', '\r', '\n', 'c']
    0 + 1 < t.lineCount ∧ t.LeavesOutBreak 0 ∧ Normal.idle.SparesBreak { text := t } 0 := by
  intro t
  have hi : 0 + 1 < t.lineCount := by decide
  obtain ⟨-, hreturns, -, hspares⟩ := spares_break_iff hi
  have hout : t.LeavesOutBreak 0 := hreturns.mpr (List.all_eq_true.mp (by decide))
  have hrests : t.RestsOn 0 0 := ⟨by decide, Or.inl ⟨by decide, by decide⟩⟩
  exact ⟨hi, hout, (hspares .idle { text := t } rfl (by decide) hrests rfl rfl).mp hout⟩

/-- **A vertical tab** is not. It ends the first line, and the content of that line
ends behind it: the motion to the end of the line leads to the vertical tab, and to
delete the rest of the line is to remove it, which makes the two lines one. -/
theorem Text.not_leavesOutBreak_vertical_tab :
    let t : Text := ['a', '\x0b', 'b']
    0 + 1 < t.lineCount ∧ t.lineBreak 0 = ['\x0b'] ∧ ¬ t.LeavesOutBreak 0 ∧
      t.content (t.line 0) = ['a', '\x0b'] ∧
      (Normal.idle.handle { text := t } (.char '$')).2.1.cursor = t.breakStart 0 ∧
      (Normal.idle.handle { text := t } (.char 'D')).2.1.text = ['b'] := by
  intro t
  refine ⟨by decide, by decide, fun hout => ?_, by decide, by decide, by decide⟩
  have hno := hout.within '\x0b' (by decide)
  cases hno

end Keywise
