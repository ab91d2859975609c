/-
# Which keys leave the cursor where it may not rest

Normal mode puts the cursor to rest after a motion and after an operator. Two
commands do not: text put from a register leaves the cursor on its last
character, and so do characters that replace others. Where that character is
a line feed or carriage return that ends a line with something before it, the
cursor is stranded on it; and where an empty line is put after a last line
that nothing ends, it is stranded behind the text (`Normal.strands`). No other
key does that (`Normal.rests_handle_iff`).

Key definitions: `Editor.Rests`, `Editor.strandsPutting`, `Normal.strands`.
Key theorems: `Editor.rests_putText_iff`, `Editor.rests_putLines_iff`,
`Normal.rests_replaceChars_iff`, `Normal.handle_of_strands`,
`Normal.rests_handle_iff`.
-/
import Keywise.Proofs.Mode.Asking

namespace Keywise

open Editor (Edited)

namespace Editor

/-- The cursor is where it may rest. -/
def Rests (e : Editor) : Prop := e.text.rest e.cursor = e.cursor

theorem Rests.cursor_le {e : Editor} (h : e.Rests) : e.cursor ≤ e.text.length :=
  Text.le_length_of_rest_eq_self h

/-- **Where the cursor is put to rest**, it rests. -/
theorem rests_settle (e : Editor) (s : Stickiness) : (e.settle s).Rests := by
  have hmin : min (e.text.rest e.cursor) e.text.length = e.text.rest e.cursor :=
    Nat.min_eq_left (e.text.rest_le_length _)
  unfold Rests settle
  rw [cursor_moveTo, text_moveTo, hmin, Text.rest_rest]

theorem Rests.follow {e e' : Editor} {m : Motion} {count : Option Nat}
    (h : e.follow m count = (e', none)) : e'.Rests := by
  obtain ⟨-, htext, q, hcursor⟩ := follow_ok h
  unfold Rests
  rw [htext, hcursor, Text.rest_rest]

/-! ### Text that is put -/

/-- The offset at which text is put. -/
def place (e : Editor) (side : PutSide) : Nat :=
  match side with
  | .before => e.cursor
  | .after => if e.line.length = 0 then e.cursor else min (e.cursor + 1) e.line.stop

theorem place_le {e : Editor} (h : e.cursor ≤ e.text.length) (side : PutSide) :
    e.place side ≤ e.text.length := by
  have hstop : e.line.stop ≤ e.text.length :=
    Nat.le_trans (e.text.lineAt_bounds e.cursor).1 (e.text.lineAt_bounds e.cursor).2
  cases side with
  | before => exact h
  | after =>
    show (if e.line.length = 0 then e.cursor else min (e.cursor + 1) e.line.stop) ≤ _
    split <;> omega

theorem rests_replace_moveTo_iff (e : Editor) {p : Nat} (len : Nat) {new : Text}
    (hp : p ≤ e.text.length) (hnew : new ≠ []) :
    ((e.replace p len new).moveTo (p + new.length - 1) .column).Rests ↔
      Text.endsFullLine (e.text.take p ++ new) = false := by
  have hpos := List.length_pos_iff.mpr hnew
  have hu : e.text.take p ++ new ≠ [] := List.append_ne_nil_of_right_ne_nil _ hnew
  have hlen : (e.text.take p ++ new).length = p + new.length := by
    rw [List.length_append, List.length_take, Nat.min_eq_left hp]
  have htext : (e.replace p len new).text = (e.text.take p ++ new) ++ e.text.drop (p + len) := rfl
  have hmin : min (p + new.length - 1) (e.replace p len new).text.length = p + new.length - 1 := by
    apply Nat.min_eq_left
    rw [htext, List.length_append, hlen]
    omega
  unfold Rests
  rw [cursor_moveTo, text_moveTo, hmin, htext, ← hlen]
  exact Text.rest_append_eq_self_iff hu _

/-- **Part of a line that is put** strands the cursor if it ends a line with
something before it. -/
theorem rests_putText_iff {e : Editor} (h : e.cursor ≤ e.text.length) {new : Text}
    (hnew : new ≠ []) (side : PutSide) :
    (e.putText new side).Rests ↔ Text.endsFullLine (e.text.take (e.place side) ++ new) = false :=
  e.rests_replace_moveTo_iff 0 (place_le h side) hnew

theorem rests_moveTo_firstNonBlank {e : Editor} {p : Nat} (hp : p < e.text.length) :
    (e.moveTo (e.text.firstNonBlank (e.text.lineAt p)) .column).Rests := by
  have hrest := Text.rest_firstNonBlank hp
  have hmin := Nat.min_eq_left (Text.le_length_of_rest_eq_self hrest)
  unfold Rests
  rw [cursor_moveTo, text_moveTo, hmin, hrest]

/-- Behind a text that ends with a line feed the cursor does not rest. -/
theorem not_rests_moveTo_end {e : Editor} {t : Text} (h : e.text = t ++ ['\n']) :
    ¬ (e.moveTo (e.text.firstNonBlank (e.text.lineAt e.text.length)) .column).Rests := by
  have hne : e.text ≠ [] := by simp [h]
  have hstart : (e.text.lineAt e.text.length).start = e.text.length := by
    rw [h]
    exact Text.start_lineAt_length t
  have hle := (e.text.firstNonBlank_bounds (e.text.lineAt e.text.length)).1
  have hmin : min (e.text.firstNonBlank (e.text.lineAt e.text.length)) e.text.length =
      e.text.length := by omega
  intro hrests
  unfold Rests at hrests
  rw [cursor_moveTo, text_moveTo, hmin] at hrests
  exact absurd hrests (Nat.ne_of_lt (Text.rest_lt_length hne _))

/-- Nothing is left of whole lines without the line feed at their end only if
they are one empty line. -/
theorem chomp_eq_nil_iff {new : Text} (h : new ≠ []) : Text.chomp new = [] ↔ new = ['\n'] := by
  constructor
  · intro hchomp
    unfold Text.chomp at hchomp
    split at hchomp
    · next hends =>
      have hlast : new.getLast? = some '\n' := by simpa [Text.endsLine] using hends
      rw [← List.dropLast_append_getLast? '\n' hlast, hchomp]
      rfl
    · exact absurd hchomp h
  · rintro rfl
    rfl

theorem length_replace (e : Editor) {start : Nat} (new : Text) :
    (e.replace start 0 new).text.length = e.text.length + new.length := by
  show (e.text.splice start 0 new).length = _
  simp only [Text.splice, List.length_append, List.length_take, List.length_drop]
  omega

/-- **Whole lines that are put** strand the cursor if they are one empty line
after a last line that nothing ends. -/
theorem rests_putLines_iff (e : Editor) {new : Text} (hnew : new ≠ []) (side : PutSide) :
    (e.putLines new side).Rests ↔
      ¬ (side = .after ∧ e.line.stop = e.text.length ∧ new = ['\n']) := by
  have hpos := List.length_pos_iff.mpr hnew
  obtain ⟨hstop, hnext⟩ := e.text.lineAt_bounds e.cursor
  have hstart := (e.text.lineAt e.cursor).start_le_stop
  unfold putLines
  cases side with
  | before =>
    refine iff_of_true (rests_moveTo_firstNonBlank ?_) (fun hn => nomatch hn.1)
    rw [length_replace]
    show (e.text.lineAt e.cursor).start < _
    omega
  | after =>
    by_cases hend : e.line.stop = e.text.length
    · have hp : e.text.nextStart e.line.number = e.text.length := Nat.le_antisymm hnext (hend ▸ hstop)
      simp only [if_pos hend, hp, true_and]
      by_cases hone : new = ['\n']
      · refine iff_of_false ?_ (fun hn => hn ⟨hend, hone⟩)
        have htext : (e.replace e.text.length 0 ('\n' :: Text.chomp new)).text = e.text ++ ['\n'] := by
          rw [(chomp_eq_nil_iff hnew).mpr hone]
          simp [replace, Text.splice]
        have hlen : e.text.length + 1 =
            (e.replace e.text.length 0 ('\n' :: Text.chomp new)).text.length := by
          rw [htext, List.length_append, List.length_singleton]
        rw [hlen]
        exact not_rests_moveTo_end htext
      · refine iff_of_true (rests_moveTo_firstNonBlank ?_) (fun hn => hone hn.2)
        have hchomp : 0 < (Text.chomp new).length :=
          List.length_pos_iff.mpr (mt (chomp_eq_nil_iff hnew).mp hone)
        rw [length_replace, List.length_cons]
        omega
    · simp only [if_neg hend]
      refine iff_of_true (rests_moveTo_firstNonBlank ?_) (fun hn => hend hn.2.1)
      rw [length_replace]
      show e.text.nextStart (e.text.lineAt e.cursor).number < _
      omega

/-- Whether the cursor is stranded when a text that is not empty is put. -/
def strandsPutting (e : Editor) (new : Text) (kind : TextKind) (side : PutSide) : Bool :=
  match kind with
  | .text => Text.endsFullLine (e.text.take (e.place side) ++ new)
  | .lines => decide (side = .after ∧ e.line.stop = e.text.length ∧ new = ['\n'])

/-- Whether the cursor is stranded when a register is put. If the register
holds nothing, it is not. -/
def strandsPut (e : Editor) (register : Option Char) (count : Nat) (side : PutSide) : Bool :=
  match e.registers.read register with
  | none => false
  | some content =>
    let new := (List.replicate (max count 1) content.text).flatten
    !new.isEmpty && e.strandsPutting new content.kind side

/-- **A register that is put** strands the cursor if what it holds does. -/
theorem rests_put_iff {e e' : Editor} (h : e.cursor ≤ e.text.length) {register : Option Char}
    {n : Nat} {side : PutSide} (hput : e.put register n side = .ok e') :
    e'.Rests ↔ e.strandsPut register n side = false := by
  unfold put at hput
  unfold strandsPut
  cases hread : e.registers.read register with
  | none =>
    rw [hread] at hput
    cases hput
  | some content =>
    rw [hread] at hput
    simp only at hput ⊢
    split at hput
    · cases hput
    · next hnew =>
      have hne : (List.replicate (max n 1) content.text).flatten ≠ [] :=
        fun hn => hnew (List.isEmpty_iff.mpr hn)
      obtain rfl := Except.ok.inj hput
      simp only [Bool.not_eq_true] at hnew
      simp only [hnew, Bool.not_false, Bool.true_and, strandsPutting]
      cases content.kind with
      | text => exact rests_putText_iff h hne side
      | lines => rw [decide_eq_false_iff_not]; exact e.rests_putLines_iff hne side

theorem exists_put_of_strandsPut {e : Editor} {register : Option Char} {n : Nat} {side : PutSide}
    (h : e.strandsPut register n side = true) : ∃ e', e.put register n side = .ok e' := by
  unfold strandsPut at h
  unfold put
  cases hread : e.registers.read register with
  | none =>
    rw [hread] at h
    cases h
  | some content =>
    rw [hread] at h
    have hnew : (List.replicate (max n 1) content.text).flatten.isEmpty = false := by
      simpa using (Bool.and_eq_true_iff.mp h).1
    simp only [hnew]
    exact ⟨_, rfl⟩

/-- Whether the cursor is stranded when characters are replaced. -/
def strandsReplacing (e : Editor) (c : Char) (n : Nat) : Bool :=
  decide (e.cursor + n ≤ e.line.stop) &&
    Text.endsFullLine (e.text.take e.cursor ++ List.replicate n c)

end Editor

namespace Normal

theorem rests_replaceChars_iff {e e' : Editor} (h : e.cursor ≤ e.text.length) {c : Char} {n : Nat}
    (hn : 0 < n) (hreplace : replaceChars e c n = (e', none)) :
    e'.Rests ↔ e.strandsReplacing c n = false := by
  unfold replaceChars at hreplace
  split at hreplace
  · cases hreplace
  · next hle =>
    obtain rfl := (Prod.mk.inj hreplace).1
    have hnew : List.replicate n c ≠ [] := by
      rw [ne_eq, List.replicate_eq_nil_iff]
      exact Nat.ne_of_gt hn
    have hrests := e.rests_replace_moveTo_iff n h hnew
    rw [List.length_replicate] at hrests
    unfold Editor.strandsReplacing
    rw [decide_eq_true (Nat.not_lt.mp hle), Bool.true_and]
    exact hrests

/-! ### Keys in Normal mode -/

/-- Whether the key leaves the cursor where it may not rest. -/
def strands (s : Normal) (e : Editor) (k : Key) : Bool :=
  match s.side? k with
  | some side => e.strandsPut s.register (s.total.getD 1) side
  | none =>
    match s.awaiting, k.char? with
    | .replacement, some c => e.strandsReplacing c (s.total.getD 1)
    | _, _ => false

theorem Counted.total_pos {s : Normal} (h : s.Counted) : 0 < s.total.getD 1 := by
  have hne := h.total_ne_zero
  cases htotal : s.total with
  | none => exact Nat.one_pos
  | some n =>
    rw [htotal] at hne
    exact Nat.pos_of_ne_zero fun hn => hne (congrArg some hn)

theorem Counted.handle {s : Normal} (h : s.Counted) (e : Editor) (k : Key) :
    (s.handle e k).1.Counted := by
  have heffect := effect_attempt s e k
  unfold Normal.handle
  generalize s.attempt e k = reply at heffect
  cases heffect with
  | reads s' used hs' => exact hs' h
  | _ => exact counted_idle

theorem code_ne_escape {k : Key} {c : Char} (h : k.char? = some c) : k.code ≠ .escape := by
  intro hn
  unfold Key.char? at h
  rw [hn] at h
  cases h

theorem attempt_of_command {s : Normal} (hawaiting : s.awaiting = .command)
    (hoperator : s.operator = none) {e : Editor} {k : Key} {c : Char} (hk : k.char? = some c)
    (hquote : c ≠ '"') (hdigit : ∀ count, Count.digit? count c = none)
    (hop : Operator.ofChar? c = none) (hmotion : ∀ r, readMotion r none c = .ok .noMotion) :
    s.attempt e k = runCommand s e c := by
  unfold attempt
  rw [if_neg (code_ne_escape hk)]
  simp only [hk, hawaiting, readAny, hoperator, if_neg hquote, hdigit, hop, readChar, hmotion,
    Option.isSome_none, Bool.or_false, Bool.false_eq_true, if_false]

theorem attempt_of_side? {s : Normal} {e : Editor} {k : Key} {side : PutSide}
    (h : s.side? k = some side) :
    s.attempt e k = finish (put e s.register (s.total.getD 1) side) := by
  unfold side? at h
  split at h
  · next hidle =>
    obtain ⟨hawaiting, hoperator⟩ := hidle
    split at h
    · next hk =>
      cases h
      exact attempt_of_command hawaiting hoperator hk (by decide) (fun _ => rfl) rfl fun _ => rfl
    · next hk =>
      cases h
      exact attempt_of_command hawaiting hoperator hk (by decide) (fun _ => rfl) rfl fun _ => rfl
    · cases h
  · cases h

theorem attempt_of_replacement {s : Normal} {e : Editor} {k : Key} {c : Char}
    (hs : s.awaiting = .replacement) (hk : k.char? = some c) :
    s.attempt e k = runReplacement s e c := by
  unfold attempt
  rw [if_neg (code_ne_escape hk)]
  simp only [hk, hs]

/-- **A key that strands the cursor** edits the text, and the cursor does not
rest. -/
theorem handle_of_strands {s : Normal} (hs : s.Counted) {e : Editor}
    (he : e.cursor ≤ e.text.length) {k : Key} (h : s.strands e k = true) :
    Edited [] e (s.handle e k).2.1 ∧ ¬ (s.handle e k).2.1.Rests := by
  unfold strands at h
  split at h
  · next side hside =>
    obtain ⟨e', hput⟩ := Editor.exists_put_of_strandsPut h
    have hhandle : s.handle e k = (idle, e', true) := by
      unfold handle
      rw [attempt_of_side? hside]
      simp only [put, hput]
      rfl
    rw [hhandle]
    refine ⟨Editor.edited_put hput, fun hrests => ?_⟩
    rw [Editor.rests_put_iff he hput, h] at hrests
    cases hrests
  · split at h
    · next c hawaiting hk =>
      have hle : ¬ e.cursor + s.total.getD 1 > e.line.stop :=
        Nat.not_lt.mpr (of_decide_eq_true (Bool.and_eq_true_iff.mp h).1)
      obtain ⟨e', hreplace⟩ : ∃ e', replaceChars e c (s.total.getD 1) = (e', none) :=
        ⟨_, if_neg hle⟩
      have hhandle : s.handle e k = ({ register := s.register }, e', true) := by
        unfold handle
        rw [attempt_of_replacement hawaiting hk]
        simp only [runReplacement, hreplace]
      rw [hhandle]
      refine ⟨edited_replaceChars hreplace, fun hrests => ?_⟩
      rw [rests_replaceChars_iff he hs.total_pos hreplace, h] at hrests
      cases hrests
    · cases h

/-- A key that does not strand the cursor leaves it at rest, if another mode
is not asked for. -/
theorem rests_handle_of_not_strands {s : Normal} (hs : s.Counted) {e : Editor} (he : e.Rests)
    {k : Key} (hrequests : (s.handle e k).2.1.requests = []) (h : s.strands e k = false) :
    (s.handle e k).2.1.Rests := by
  have heffect := effect_attempt s e k
  unfold handle at hrequests ⊢
  generalize s.attempt e k = reply at heffect hrequests
  cases heffect with
  | reads s' used _ => exact he
  | follows m e' hfollow => exact .follow hfollow
  | operates op find r kind =>
    have hedited := (e.edited_remember find).then (edited_operate op _ r kind s.register)
    have hop : op ≠ .change := by
      rintro rfl
      exact absurd (hedited.eq_nil hrequests) nofun
    unfold operate settleAfter
    rw [if_neg hop]
    exact Editor.rests_settle _ _
  | puts side e' hside hput =>
    unfold strands at h
    rw [hside] at h
    exact (Editor.rests_put_iff he.cursor_le hput).mpr h
  | replaces c e' hawaiting hk hreplace =>
    have hside : s.side? k = none := by
      unfold side?
      rw [if_neg (by simp [hawaiting])]
    unfold strands at h
    simp only [hside, hawaiting, hk] at h
    exact (rests_replaceChars_iff he.cursor_le hs.total_pos hreplace).mpr h
  | types start new p =>
    have hedited := (e.edited_replace_moveTo start 0 new p .column).then
      (Editor.edited_request _ .insert [])
    exact absurd (hedited.eq_nil hrequests) nofun
  | asks name args _ _ => exact absurd ((e.edited_request name args).eq_nil hrequests) nofun
  | fails s' find err =>
    unfold Editor.Rests
    show (e.remember find).text.rest (e.remember find).cursor = (e.remember find).cursor
    rw [e.text_remember, e.cursor_remember]
    exact he

/-- **After a key in Normal mode** the cursor rests if and only if the key
does not strand it. -/
theorem rests_handle_iff {s : Normal} (hs : s.Counted) {e : Editor} (he : e.Rests) {k : Key}
    (hrequests : (s.handle e k).2.1.requests = []) :
    (s.handle e k).2.1.Rests ↔ s.strands e k = false := by
  constructor
  · intro hrests
    by_contra hstrands
    exact (handle_of_strands hs he.cursor_le (Bool.not_eq_false _ ▸ hstrands)).2 hrests
  · exact rests_handle_of_not_strands hs he hrequests

end Normal
end Keywise
