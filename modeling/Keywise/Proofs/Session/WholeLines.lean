/-
# The operator keys on whole lines

In Normal mode the key of an operator typed twice applies it to the cursor's
line and those below it, as many as the count says; over a selection of lines
one key applies it to those. Where the line feed is the only break, both do
to the rows what `Operator.rowsLeft` says, and the mode is Insert mode then if
text is to be typed (`Session.tookRows_of_give`).

Key definitions: `Session.TookRows`.
Key theorems: `Normal.tookRows_handle`, `Visual.tookRows_operate`,
`Session.At.tookRows_give`, `Session.tookRows_of_give`.
-/
import Keywise.Proofs.Editor.WholeLines
import Keywise.Proofs.Mode.Writing
import Keywise.Proofs.Motion.LineCounts
import Keywise.Proofs.Session.InStep
import Keywise.Proofs.Session.Unfinished

namespace Keywise

/-! ### Counts of lines -/

theorem Editor.Rests.rowAt_le {e : Editor} (hfeeds : e.text.FeedsOnly) (h : e.Rests) :
    e.text.rowAt e.cursor ≤ Rows.last e.text.rows := by
  rw [← Rows.number_lineAt hfeeds, ← Rows.lastLine_eq hfeeds]
  exact (Text.bounds_of_rest_eq_self h).1

theorem Editor.TookRows.settleAfter {e e' : Editor} {op : Operator} {i j : Nat}
    {register : Option Char} (h : e.TookRows e' op i j register)
    (hrests : op ≠ .change → e'.Rests) : e.TookRows (Normal.settleAfter op e') op i j register ∧
      (op ≠ .change → (Normal.settleAfter op e').Rests) := by
  unfold Normal.settleAfter
  by_cases hop : op = .change
  · rw [if_pos hop]
    exact ⟨h, fun hn => absurd hop hn⟩
  · rw [if_neg hop]
    exact ⟨h.settle (hrests hop) .column, fun _ => e'.rests_settle .column⟩

namespace Normal

theorem countOf_total_le (s : Normal) : countOf s.total ≤ Count.limit := by
  have hone : 1 ≤ Count.limit := by
    unfold Count.limit
    omega
  refine Nat.max_le.mpr ⟨?_, hone⟩
  unfold total Count.product
  split
  · exact hone
  · exact Nat.min_le_right _ _

/-- The last line that a count leads to, the cursor's included: no count that
Normal mode has is too large for a machine word. -/
theorem rowAt_destination {t : Text} (h : t.FeedsOnly) (hlen : t.length ≤ Offset.max)
    (sticky : Option Sticky) (s : Normal) (p : Nat) :
    t.rowAt (LineMotion.currentLines.destination t sticky s.total p) =
      min (t.rowAt p + countOf s.total - 1) (Rows.last t.rows) := by
  have hlimit := s.countOf_total_le
  have hhalf : countOf s.total - 1 < Offset.half := by
    unfold Count.limit at hlimit
    unfold Offset.half
    omega
  have hmax : countOf s.total - 1 ≤ Offset.max := by
    unfold Offset.half at hhalf
    unfold Offset.max
    omega
  have hdown : t.lineDown (t.lineAt p).number (countOf s.total - 1) =
      min (t.rowAt p + countOf s.total - 1) (Rows.last t.rows) := by
    unfold Text.lineDown
    rw [if_pos hhalf, Rows.lastLine_eq h, Rows.number_lineAt h,
      Nat.add_sub_assoc (one_le_countOf s.total)]
  have hline := LineMotion.lineAway_signed hlen hmax p
  rw [hdown] at hline
  rw [(LineMotion.destination_of_lineAway rfl hline sticky).2.2 rfl, Rows.rowAt_start_line h]
  exact Nat.lt_of_le_of_lt (Nat.min_le_right _ _) (Rows.last_lt (Rows.rows_ne_nil t))

variable {s : Normal} {e : Editor} {op : Operator}

theorem handle_operator_twice (hop : s.operator = some op) (hs : s.awaiting = .command) :
    let stop := LineMotion.currentLines.destination e.text e.sticky s.total e.cursor
    s.handle e (.char op.char) =
      (idle, settleAfter op (op.apply e (.lines e.text e.cursor stop) .lines s.register), true) := by
  intro stop
  have hdigit : Count.digit? s.operandCount op.char = none := by cases op <;> rfl
  unfold handle
  rw [attempt_of_char rfl hs]
  simp only [readAny, hop, hdigit, if_true]
  rfl

/-- **The key of an operator typed twice** applies it to as many lines as the
count says. -/
theorem tookRows_handle (hfeeds : e.text.FeedsOnly) (hlen : e.text.length ≤ Offset.max)
    (hrests : e.Rests) (hop : s.operator = some op) (hs : s.awaiting = .command) :
    e.TookRows (s.handle e (.char op.char)).2.1 op (e.text.rowAt e.cursor)
        (min (e.text.rowAt e.cursor + countOf s.total - 1) (Rows.last e.text.rows)) s.register ∧
      (op ≠ .change → (s.handle e (.char op.char)).2.1.Rests) ∧
      (s.handle e (.char op.char)).2.1.requests = e.requests ++ op.requests := by
  rw [handle_operator_twice hop hs]
  generalize hq : LineMotion.currentLines.destination e.text e.sticky s.total e.cursor = q
  have hrow : e.text.rowAt q =
      min (e.text.rowAt e.cursor + countOf s.total - 1) (Rows.last e.text.rows) :=
    hq ▸ rowAt_destination hfeeds hlen e.sticky s e.cursor
  have hone := one_le_countOf s.total
  have hfirst := Editor.Rests.rowAt_le hfeeds hrests
  obtain ⟨htook, hrests'⟩ := Editor.tookRows_apply op hfeeds
    (Nat.min_eq_left (by omega : e.text.rowAt e.cursor ≤ e.text.rowAt q))
    (Nat.max_eq_right (by omega : e.text.rowAt e.cursor ≤ e.text.rowAt q))
    (by omega) (fun _ => ⟨hrests, rfl⟩) s.register
  rw [hrow] at htook
  obtain ⟨htook', hrests''⟩ := htook.settleAfter hrests'
  exact ⟨htook', hrests'', (edited_operate op e _ .lines s.register).requests⟩

end Normal

namespace Visual

variable {s : Visual} {e : Editor} {c : Char} {op : Operator} {wholeLines : Bool}

theorem handle_operator (hc : operatorOf? c = some (op, wholeLines)) (hname : s.awaitsName = false)
    (hlead : s.lead = none) : (s.handle e (.char c)).2.1 = operate e op wholeLines s.register := by
  rw [handle_operatorKey hc hname hlead]

/-- **An operator over selected lines** applies to them. -/
theorem tookRows_operate (hfeeds : e.text.FeedsOnly) {a h : Nat}
    (hsel : e.selection = some ⟨a, h, .lines⟩) {i j : Nat}
    (hi : min (e.text.rowAt a) (e.text.rowAt h) = i)
    (hj : max (e.text.rowAt a) (e.text.rowAt h) = j) (hlast : j ≤ Rows.last e.text.rows)
    (hop : op ≠ .yank) (wholeLines : Bool) (register : Option Char) :
    e.TookRows (operate e op wholeLines register) op i j register ∧
      (op ≠ .change → (operate e op wholeLines register).Rests) ∧
      (operate e op wholeLines register).requests =
        e.requests ++ [⟨if op = .change then .insert else .normal, []⟩] := by
  have hselected : selected e wholeLines = (.lines e.text a h, .lines) := by
    unfold selected Editor.selectionKind
    simp only [hsel, if_true]
    exact if_neg fun hn => nomatch hn.2
  obtain ⟨htook, hrests⟩ :=
    Editor.tookRows_apply op hfeeds hi hj hlast (fun hy => absurd hy hop) register
  unfold operate
  rw [hselected]
  have happly := op.edited_apply e (.lines e.text a h) .lines register
  by_cases hchange : op = .change
  · subst hchange
    exact ⟨htook, fun hn => absurd rfl hn, happly.requests⟩
  · have hrequests : op.requests = [] := by
      cases op with
      | change => exact absurd rfl hchange
      | _ => rfl
    have hsettled := hrests hchange
    simp only [if_neg hchange]
    refine ⟨(htook.settle hsettled .column).of_eq rfl rfl rfl, fun _ => Editor.rests_settle _ _, ?_⟩
    have hedited := happly.trans ((Editor.edited_settle _ .column).then
      (Editor.edited_request _ .normal []))
    rw [hrequests, List.nil_append] at hedited
    exact hedited.requests

end Visual

/-! ### Sessions -/

namespace Mode

theorem text_goTo (m : Mode) {m' : Mode} (e : Editor) (args : List ModeArg) :
    (m.goTo m' e args).2.text = e.text := by
  have hleave : (m.leave e).2.text = e.text := m.text_leave e
  have henter : (m'.enter (m.leave e).2 args).2.1.text = (m.leave e).2.text := by
    cases m' with
    | normal s => exact Editor.text_settle _ .keep
    | _ => rfl
  exact henter.trans hleave

theorem cursor_goTo (m : Mode) {m' : Mode} {e : Editor} (h : m'.name = .normal → e.Rests)
    (args : List ModeArg) : (m.goTo m' e args).2.cursor = e.cursor := by
  have hleave : (m.leave e).2.cursor = e.cursor := by cases m <;> rfl
  have henter : (m'.enter (m.leave e).2 args).2.1.cursor = (m.leave e).2.cursor := by
    cases m' with
    | normal s =>
      refine Editor.cursor_settle ?_ .keep
      unfold Editor.Rests
      rw [hleave, m.text_leave]
      exact h rfl
    | _ => rfl
  exact henter.trans hleave

end Mode

namespace Session

/-- An operator has been applied to rows `i` to `j`, and the mode is the one
to go on in. -/
structure TookRows (s : Session) (e : Editor) (op : Operator) (i j : Nat)
    (register : Option Char) : Prop where
  took : e.TookRows s.editor op i j register
  current : s.current = some (if op = .change then .insert else .normal)

/-- A key that applies an operator leaves text and cursor as they are then,
whether another mode is gone over to or not. -/
theorem At.tookRows_give {s : Session} {m : Mode} {e : Editor} (h : s.At m e) (he : e.Served)
    {k : Key} (hasks : Mode.Asks m.name e (m.handle e k).2.1) {op : Operator} {i j : Nat}
    {register : Option Char} (htook : e.TookRows (m.handle e k).2.1 op i j register)
    (hrests : op ≠ .change → (m.handle e k).2.1.Rests)
    (hnext :
      m.name = (if op = .change then .insert else .normal) ∧ (m.handle e k).2.1.requests = [] ∨
      (m.handle e k).2.1.requests = [⟨if op = .change then .insert else .normal, []⟩]) :
    (s.give k).1.TookRows e op i j register := by
  obtain ⟨m', e', hsettles, hat⟩ := h.give_of_asks he hasks
  have hcur := (current_of_currentMode? hat.current).1
  cases hsettles with
  | stays hserved =>
    have hname : m.name = if op = .change then .insert else .normal := by
      rcases hnext with ⟨hname, -⟩ | hone
      · exact hname
      · exact absurd (hserved.requests.symm.trans hone) nofun
    rw [Mode.name_handle, hname] at hcur
    exact ⟨hat.editor ▸ htook, hcur⟩
  | @goes r m' hrequests _ _ hname _ =>
    have hr : r = ⟨if op = .change then .insert else .normal, []⟩ := by
      rcases hnext with ⟨-, hnone⟩ | hone
      · exact absurd (hnone.symm.trans hrequests) nofun
      · exact (List.cons.inj (hrequests.symm.trans hone)).1
    have hnormal : m'.name = .normal → (m.handle e k).2.1.Rests := by
      intro hn
      refine hrests fun hop => ?_
      rw [hname, hr, if_pos hop] at hn
      cases hn
    have hwaiting : m'.name = .normal → (m.handle e k).2.1.withoutRequests.Rests := hnormal
    refine ⟨?_, ?_⟩
    · rw [hat.editor]
      exact htook.of_eq (Mode.text_goTo _ _ _) (Mode.cursor_goTo _ hwaiting _)
        (Mode.registers_goTo _ _ _ _)
    · have hnext' : m'.name = if op = .change then .insert else .normal := by rw [hname, hr]
      rw [hcur, ← hnext']
      exact congrArg some (Mode.name_enter m' _ _)

/-- **The key of an operator typed twice** in Normal mode, the second time,
applies it to the cursor's line and those below it. -/
theorem At.tookRows_normal {s : Session} {n : Normal} {e : Editor} (h : s.At (.normal n) e)
    (he : e.Served) (hfeeds : e.text.FeedsOnly) (hlen : e.text.length ≤ Offset.max)
    (hrests : e.Rests) {op : Operator} (hop : n.operator = some op) (hs : n.awaiting = .command) :
    (s.give (.char op.char)).1.TookRows e op (e.text.rowAt e.cursor)
      (min (e.text.rowAt e.cursor + countOf n.total - 1) (Rows.last e.text.rows)) n.register := by
  obtain ⟨htook, hrests', hrequests⟩ := Normal.tookRows_handle hfeeds hlen hrests hop hs
  refine h.tookRows_give he (Mode.asks_normal n e _) htook hrests' ?_
  rw [he.requests, List.nil_append] at hrequests
  cases op with
  | change => exact Or.inr hrequests
  | _ => exact Or.inl ⟨rfl, hrequests⟩

/-- **Operators on lines** act on the rows of the text. In Normal mode the key
of the operator typed twice applies it to the cursor's row `i` and those below
it, up to row `j` that the count says or the last one that counts; the second
time it does so whatever count was typed after the first. Over a selection of
lines that runs from row `i` to row `j`, or from `j` to `i`, the key of an
operator that removes them applies it to those. Text, cursor and register come
to the same. (No text is longer than an offset can say.) -/
theorem tookRows_of_give {s : Session} {e : Editor} (he : e.Served) (hfeeds : e.text.FeedsOnly)
    (hlen : e.text.length ≤ Offset.max) (i j : Nat) (op : Operator) :
    (∀ n : Normal, s.At (.normal n) e → n.awaiting = .command → e.Rests →
      i = e.text.rowAt e.cursor → j = min (i + countOf n.total - 1) (Rows.last e.text.rows) →
      (n.operator = none →
        ((s.give (.char op.char)).1.give (.char op.char)).1.TookRows e op i j n.register) ∧
      (n.operator = some op → (s.give (.char op.char)).1.TookRows e op i j n.register)) ∧
    (∀ (v : Visual) (c : Char) (wholeLines : Bool) (a h : Nat), s.At (.visual v) e →
      v.awaitsName = false → v.lead = none → Visual.operatorOf? c = some (op, wholeLines) →
      op ≠ .yank → e.selection = some ⟨a, h, .lines⟩ →
      i = min (e.text.rowAt a) (e.text.rowAt h) → j = max (e.text.rowAt a) (e.text.rowAt h) →
      j ≤ Rows.last e.text.rows → (s.give (.char c)).1.TookRows e op i j v.register) := by
  constructor
  · rintro n hat hs hrests rfl rfl
    constructor
    · intro hop
      -- the first time the key is typed it is known then, and nothing else
      have hext : n.Extends (.char op.char) { n with operator := some op } :=
        .operator op.char op (Key.char?_char _) hs hop op.ofChar?_char
      exact (hat.give_of_extends he hext).tookRows_normal he hfeeds hlen hrests rfl hs
    · intro hop
      exact hat.tookRows_normal he hfeeds hlen hrests hop hs
  · rintro v c wholeLines a h hat hname hlead hc hop hsel hi hj hlast
    have hhandle := Visual.handle_operator (e := e) hc hname hlead
    obtain ⟨htook, hrests, hrequests⟩ :=
      Visual.tookRows_operate hfeeds hsel hi.symm hj.symm hlast hop wholeLines v.register
    rw [← hhandle] at htook hrests hrequests
    rw [he.requests, List.nil_append] at hrequests
    exact hat.tookRows_give he (Mode.asks_visual v e _) htook hrests (Or.inr hrequests)

/-- The second of two lines is deleted, by its operator typed twice and as a
selection: the last one has no line feed, and with it the one before goes. -/
theorem tookRows_of_last_line :
    let s := configured { text := ['a', '\n', ' ', 'b'], cursor := 3 } {}
    let typed := ((s.give (.char 'd')).1.give (.char 'd')).1
    let selected := ((s.give (.char 'V')).1.give (.char 'd')).1
    typed.editor.text.rows = [['a']] ∧ typed.editor.cursor = 0 ∧
      typed.editor.registers.read none = some ⟨[' ', 'b', '\n'], .lines⟩ ∧
      selected.editor.text.rows = [['a']] ∧ selected.editor.cursor = 0 ∧
      selected.editor.registers.read none = some ⟨[' ', 'b', '\n'], .lines⟩ := by
  intro s typed selected
  let s' := (s.give (.char 'V')).1
  have hat : s.At (.normal .idle) s.editor := ⟨rfl, rfl, rfl⟩
  have hat' : s'.At (.visual (.idle .lines)) s'.editor := ⟨rfl, rfl, rfl⟩
  have hfeeds : s.editor.text.FeedsOnly := by decide
  have hfeeds' : s'.editor.text.FeedsOnly := by decide
  have hlen : s.editor.text.length ≤ Offset.max := by decide
  have hlen' : s'.editor.text.length ≤ Offset.max := by decide
  have hrests : s.editor.Rests := by
    unfold Editor.Rests
    decide
  obtain ⟨htyped, -⟩ := ((tookRows_of_give ⟨rfl, rfl⟩ hfeeds hlen 1 1 .delete).1 _ hat rfl hrests
    (by decide) (by decide)).1 rfl
  obtain ⟨hselected, -⟩ := (tookRows_of_give ⟨rfl, rfl⟩ hfeeds' hlen' 1 1 .delete).2 _ 'd' false 3 3
    hat' rfl rfl rfl (by decide) rfl (by decide) (by decide) (by decide)
  have hread : ∀ {r r' : Registers}, r = r' → r.read none = r'.read none :=
    congrArg fun r : Registers => r.read none
  exact ⟨htyped.rows.trans (by decide), htyped.cursor.trans (by decide),
    (hread htyped.registers).trans (by decide), hselected.rows.trans (by decide),
    hselected.cursor.trans (by decide), (hread hselected.registers).trans (by decide)⟩

end Session
end Keywise
