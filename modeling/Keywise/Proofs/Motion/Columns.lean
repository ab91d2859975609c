/-
# Vertical motions remember their column

A motion up or down aims at a column: the one that is kept, or that of the
cursor if none is. The cursor goes to it on the line the motion leads to, or
to the last character of a shorter line, and what was aimed at is kept
(`Editor.follow_vertical`). So after any number of such motions the cursor is
on the line that the counts add up to, each sum clamped to the lines there are,
at the column that was aimed at first (`Editor.onColumn_foldl_stride`).

Where other breaks than line feeds and carriage returns end a line, they are
part of its content, and the place behind that is on the next line; so texts
without them are considered.

Key definitions: `Sticky.columnOn`, `VerticalMove`, `VerticalMove.target`,
`Editor.aim`, `Editor.stride`, `Editor.OnColumn`.
Key theorems: `VerticalMove.lineAway_eq`, `Text.ReturnsOnly.rest_onLine`,
`Editor.follow_vertical`, `Editor.onColumn_foldl_stride`.
-/
import Keywise.Proofs.Mode.Resting
import Keywise.Proofs.Text.Contents

namespace Keywise

/-- The column for what is aimed at, on a line of so many characters: that of
the last one at most. -/
def Sticky.columnOn (aim : Sticky) (length : Nat) : Nat :=
  match aim with
  | column c => min c (length - 1)
  | lineEnd => length - 1

/-- A motion up or down, by as many lines as the count says. -/
structure VerticalMove where
  down : Bool
  count : Option Nat
  count_mem : ∀ n ∈ count, 1 ≤ n ∧ n ≤ Count.limit

namespace VerticalMove

def motion (v : VerticalMove) : Motion := .line (if v.down then .down else .up)

/-- How many lines it goes. -/
def lines (v : VerticalMove) : Nat := v.count.getD 1

/-- The line it leads to from line `n`, the last one being `last`. -/
def target (v : VerticalMove) (last n : Nat) : Nat :=
  if v.down then min (n + v.lines) last else n - v.lines

variable (v : VerticalMove)

theorem lines_mem : 1 ≤ v.lines ∧ v.lines ≤ Count.limit := by
  unfold lines
  cases hcount : v.count with
  | none => exact ⟨Nat.le_refl 1, by decide⟩
  | some n => exact v.count_mem n hcount

theorem countOf_count : countOf v.count = v.lines := Nat.max_eq_left v.lines_mem.1

theorem target_le {last n : Nat} (hn : n ≤ last) : v.target last n ≤ last := by
  unfold target
  split <;> omega

theorem stickiness_motion : v.motion.stickiness = .keep := by
  unfold motion
  cases v.down <;> rfl

/-! ### Where it leads -/

/-- The lines between, counted downwards. -/
def delta : Int :=
  if v.down then Offset.signed v.lines else Offset.negate (Offset.signed v.lines)

theorem delta_eq : v.delta = if v.down then (v.lines : Int) else -(v.lines : Int) := by
  have hlimit : v.lines < 0x8000000000000000 := Nat.lt_of_le_of_lt v.lines_mem.2 (by decide)
  unfold delta
  rw [Offset.signed_of_lt hlimit, Offset.negate_of_lt hlimit]

/-- **A machine word is large enough** for a count and for the number of a
line, so the line is the one the count leads to. -/
theorem lineAway_eq {t : Text} (hlen : t.length ≤ Offset.max) {l : Line}
    (hl : l.number ≤ t.lastLine) :
    LineMotion.lineAway t l v.delta = t.line (v.target t.lastLine l.number) := by
  have hlast := t.lastLine_le_length
  have hmin : min (Offset.shift l.number v.delta) t.lastLine =
      v.target t.lastLine l.number := by
    rw [delta_eq]
    unfold Offset.shift target
    split <;> omega
  rw [LineMotion.lineAway, hmin]

theorem destination_motion (t : Text) (sticky : Option Sticky) (p : Nat) :
    v.motion.destination t sticky v.count p =
      .ok (Sticky.onLine sticky (p - (t.lineAt p).start)
        (LineMotion.lineAway t (t.lineAt p) v.delta)) := by
  have hn := v.countOf_count
  unfold motion delta
  cases v.down with
  | true =>
    rw [if_pos rfl, if_pos rfl, ← hn]
    rfl
  | false =>
    rw [if_neg Bool.false_ne_true, if_neg Bool.false_ne_true, ← hn]
    rfl

end VerticalMove

namespace Text.ReturnsOnly

variable {t : Text} {n : Nat}

theorem lineAt_columnOn (h : t.ReturnsOnly) (hn : n < t.lineCount) (aim : Sticky) :
    t.lineAt ((t.line n).start + aim.columnOn (t.line n).length) = t.line n := by
  refine h.lineAt_start_add hn ?_
  unfold Sticky.columnOn
  cases aim <;> simp only <;> omega

/-- **The cursor comes to rest** at what is aimed at. -/
theorem rest_onLine (h : t.ReturnsOnly) (hn : n ≤ t.lastLine) (aim : Sticky) (current : Nat) :
    t.rest (Sticky.onLine (some aim) current (t.line n)) =
      (t.line n).start + aim.columnOn (t.line n).length := by
  have hcount : n < t.lineCount := Nat.lt_of_le_of_lt hn t.lastLine_lt
  obtain ⟨i, hi, hplace, hcolumn⟩ : ∃ i ≤ (t.line n).length,
      Sticky.onLine (some aim) current (t.line n) = (t.line n).start + i ∧
        aim.columnOn (t.line n).length = min i ((t.line n).length - 1) := by
    cases aim with
    | column c =>
      refine ⟨min c (t.line n).length, Nat.min_le_right _ _, rfl, ?_⟩
      unfold Sticky.columnOn
      simp only
      omega
    | lineEnd => exact ⟨(t.line n).length, Nat.le_refl _, rfl, by
        unfold Sticky.columnOn
        simp only
        omega⟩
  have hnumber : ¬ (t.line n).number > t.lastLine := by
    rw [number_line hcount]
    exact Nat.not_lt.mpr hn
  unfold rest
  rw [hplace, hcolumn, h.lineAt_start_add hcount hi]
  simp only [if_neg hnumber, Line.last, Line.stop]
  split <;> omega

end Text.ReturnsOnly

namespace Editor

/-- The column that a vertical motion aims at. -/
def aim (e : Editor) : Sticky := e.sticky.getD (.column (e.cursor - e.line.start))

/-- The editor after a vertical motion. -/
def stride (e : Editor) (v : VerticalMove) : Editor :=
  let l := e.text.line (v.target e.text.lastLine e.line.number)
  { e with cursor := l.start + e.aim.columnOn l.length, sticky := some e.aim }

/-- The cursor is on line `n`, at the column for what is aimed at. -/
structure OnColumn (e : Editor) (n : Nat) (aim : Sticky) : Prop where
  number : e.line.number = n
  cursor : e.cursor = e.line.start + aim.columnOn e.line.length
  sticky : e.sticky = some aim

variable {e : Editor}

theorem keepColumn_vertical (v : VerticalMove) (h : e.cursor ≤ e.text.length) :
    e.keepColumn v.motion = { e with sticky := some e.aim } := by
  unfold keepColumn aim
  rw [v.stickiness_motion]
  cases hsticky : e.sticky with
  | none =>
    rw [if_pos ⟨rfl, rfl⟩]
    simp only [moveTo, Nat.min_eq_left h]
    rfl
  | some s =>
    rw [if_neg (fun hn => nomatch hn.2), Option.getD_some, ← hsticky]

theorem recording_vertical (e : Editor) (v : VerticalMove) : e.recording v.motion = e := by
  unfold recording VerticalMove.motion
  cases v.down <;> rfl

/-- **A vertical motion** leads to what it aims at. -/
theorem follow_vertical (hbreaks : e.text.ReturnsOnly) (hlen : e.text.length ≤ Offset.max)
    (hrests : e.Rests) (v : VerticalMove) : e.follow v.motion v.count = (e.stride v, none) := by
  have hline : e.line.number ≤ e.text.lastLine := (Text.bounds_of_rest_eq_self hrests).1
  have hdest : destination { e with sticky := some e.aim } v.motion v.count e.cursor =
      .ok (Sticky.onLine (some e.aim) (e.cursor - e.line.start)
        (e.text.line (v.target e.text.lastLine e.line.number))) := by
    rw [← v.lineAway_eq hlen hline]
    exact v.destination_motion e.text (some e.aim) e.cursor
  have hrest := hbreaks.rest_onLine (v.target_le hline) e.aim (e.cursor - e.line.start)
  have hle := e.text.rest_le_length (Sticky.onLine (some e.aim) (e.cursor - e.line.start)
    (e.text.line (v.target e.text.lastLine e.line.number)))
  rw [hrest] at hle
  unfold follow
  simp only [keepColumn_vertical v hrests.cursor_le, recording_vertical, hdest, hrest,
    v.stickiness_motion, moveTo, Nat.min_eq_left hle]
  rfl

theorem text_foldl_stride (vs : List VerticalMove) : (vs.foldl stride e).text = e.text := by
  induction vs generalizing e with
  | nil => rfl
  | cons v vs ih => exact ih

theorem rests_stride (hbreaks : e.text.ReturnsOnly) (hrests : e.Rests) (v : VerticalMove) :
    (e.stride v).Rests := by
  have hline : e.line.number ≤ e.text.lastLine := (Text.bounds_of_rest_eq_self hrests).1
  have hrest := hbreaks.rest_onLine (v.target_le hline) e.aim 0
  show e.text.rest ((e.text.line _).start + _) = (e.text.line _).start + _
  rw [← hrest]
  exact e.text.rest_rest _

theorem onColumn_stride (hbreaks : e.text.ReturnsOnly) (hrests : e.Rests) (v : VerticalMove) :
    (e.stride v).OnColumn (v.target e.text.lastLine e.line.number) e.aim := by
  have hline : e.line.number ≤ e.text.lastLine := (Text.bounds_of_rest_eq_self hrests).1
  have hcount := Nat.lt_of_le_of_lt (v.target_le hline) e.text.lastLine_lt
  have hat : (e.stride v).line = e.text.line (v.target e.text.lastLine e.line.number) :=
    hbreaks.lineAt_columnOn hcount e.aim
  refine ⟨?_, ?_, rfl⟩
  · rw [hat, Text.number_line hcount]
  · rw [hat]
    rfl

theorem OnColumn.aim_eq {n : Nat} {s : Sticky} (h : e.OnColumn n s) : e.aim = s := by
  rw [aim, h.sticky, Option.getD_some]

/-- **After vertical motions** one after the other the cursor is where their
counts lead, at what was aimed at first. -/
theorem onColumn_foldl_stride {vs : List VerticalMove} (hbreaks : e.text.ReturnsOnly)
    (hrests : e.Rests) (hne : vs ≠ []) :
    (vs.foldl stride e).OnColumn
      (vs.foldl (fun n v => v.target e.text.lastLine n) e.line.number) e.aim := by
  induction vs generalizing e with
  | nil => exact absurd rfl hne
  | cons v vs ih =>
    have hstep := onColumn_stride hbreaks hrests v
    by_cases hvs : vs = []
    · rw [hvs]
      exact hstep
    · have hrun := ih (e := e.stride v) hbreaks (rests_stride hbreaks hrests v) hvs
      rw [hstep.number, hstep.aim_eq] at hrun
      exact hrun

/-- Down and up again by as many lines leads back, if there are so many. -/
theorem cursor_stride_stride (hbreaks : e.text.ReturnsOnly) (hrests : e.Rests)
    (hsticky : e.sticky = none) {down up : VerticalMove} (hdown : down.down = true)
    (hup : up.down = false) (hlines : up.lines = down.lines)
    (hlast : e.line.number + down.lines ≤ e.text.lastLine) :
    ((e.stride down).stride up).cursor = e.cursor := by
  obtain ⟨-, hstart, hend⟩ := Text.bounds_of_rest_eq_self hrests
  have htarget : up.target e.text.lastLine (down.target e.text.lastLine e.line.number) =
      e.line.number := by
    simp only [VerticalMove.target, hdown, hup, hlines, if_true, Bool.false_eq_true, if_false]
    omega
  have hne : [down, up] ≠ [] := List.cons_ne_nil _ _
  have hon := onColumn_foldl_stride hbreaks hrests hne
  have hline : ((e.stride down).stride up).line = e.line := by
    have hnumber : ((e.stride down).stride up).line.number = e.line.number :=
      hon.number.trans htarget
    have hself : e.text.line e.line.number = e.line := e.text.line_number_lineAt e.cursor
    rw [← hself, ← hnumber]
    exact (e.text.line_number_lineAt _).symm
  have haim : e.aim = .column (e.cursor - e.line.start) := by
    rw [aim, hsticky, Option.getD_none]
  have hcursor : ((e.stride down).stride up).cursor =
      e.line.start + e.aim.columnOn e.line.length := by
    rw [← hline]
    exact hon.cursor
  rw [hcursor, haim, Sticky.columnOn]
  have hstart' : e.line.start ≤ e.cursor := hstart
  have hend' : e.cursor ≤ e.line.last := hend
  unfold Line.last Line.stop at hend'
  split at hend' <;> omega

end Editor
end Keywise
