/-
# Commands on the characters of a row

The commands that remove characters of the cursor's row apply an operator to
columns of it: those from the cursor on, those before it, or all that are left
(`CharCommand.first`, `CharCommand.stop`). Where these are none, the two that
delete counted characters do nothing (`Normal.handle_charCommand`). The command that
replaces characters does so if there are as many from the cursor on as are
counted, and fails otherwise (`Normal.handle_replacement`).

Key definitions: `CharCommand`, `CharCommand.first`, `CharCommand.stop`.
Key theorems: `Normal.handle_charCommand`, `Normal.handle_replacement`.
-/
import Keywise.Proofs.Editor.RowColumns
import Keywise.Proofs.Mode.Unfinished

namespace Keywise

/-- The commands that remove characters of the cursor's row. -/
inductive CharCommand where
  /-- To delete characters from the cursor on. -/
  | delete
  /-- To type others in their place. -/
  | change
  /-- To delete characters before the cursor. -/
  | deleteBefore
  /-- To delete the rest of the row. -/
  | deleteRest
  /-- To type others in its place. -/
  | changeRest
  deriving DecidableEq, Repr

namespace CharCommand

/-- The key of the command. -/
def char : CharCommand → Char
  | delete => 'x'
  | change => 's'
  | deleteBefore => 'X'
  | deleteRest => 'D'
  | changeRest => 'C'

/-- The operator that the command applies. -/
def operator : CharCommand → Operator
  | delete | deleteBefore | deleteRest => .delete
  | change | changeRest => .change

/-- Whether the command removes as many characters as are counted. -/
def counts : CharCommand → Bool
  | delete | change | deleteBefore => true
  | deleteRest | changeRest => false

/-- The first column that the command removes with count `n` from column `c`. -/
def first (k : CharCommand) (c n : Nat) : Nat :=
  match k with
  | deleteBefore => c - n
  | _ => c

/-- The column behind the last one that it removes of a row of length `len`. -/
def stop (k : CharCommand) (c n len : Nat) : Nat :=
  match k with
  | delete | change => min (c + n) len
  | deleteBefore => c
  | deleteRest | changeRest => len

/-- Whether the command does nothing where there is nothing to remove. -/
def spares : CharCommand → Bool
  | delete | deleteBefore => true
  | change | deleteRest | changeRest => false

theorem operator_ne_yank (k : CharCommand) : k.operator ≠ .yank := by cases k <;> nofun

end CharCommand

namespace Normal

variable {s : Normal} {e : Editor} {A B : List Text} {r : Text} {c : Nat}

theorem handle_of_attempt {k : Key} {e' : Editor} (h : s.attempt e k = finish (e', none)) :
    s.handle e k = (idle, e', true) := by
  unfold handle
  rw [h]
  rfl

theorem attempt_charCommand (k : CharCommand) (hs : s.awaiting = .command)
    (hop : s.operator = none) : s.attempt e (.char k.char) = s.runCommand e k.char := by
  cases k <;> exact attempt_of_command hs hop rfl (by decide) (fun _ => rfl) rfl fun _ => rfl

/-- The keys that count no characters apply their operator to the rest of the line. -/
theorem runCommand_rest {k : CharCommand} (hk : k.counts = false) (hcount : s.total = none) :
    s.runCommand e k.char =
      finish (operate k.operator e ((Motion.line .lineEnd).span e.text e.cursor
        (LineMotion.lineEnd.destination e.text e.sticky none e.cursor)) .text s.register, none) := by
  rw [← hcount]
  cases k with
  | delete | change | deleteBefore => cases hk
  | deleteRest | changeRest => rfl

/-- **The keys that remove characters** apply their operator to the columns. Where
there are none to be deleted that are counted, they do nothing. -/
theorem handle_charCommand (k : CharCommand) (hs : s.awaiting = .command) (hop : s.operator = none)
    (hcount : k.counts = false → s.total = none) (h : e.Stands A r B c)
    (hlen : e.text.length ≤ Offset.max) :
    ∃ g, Rows.Spans e.text g A r B (k.first c (s.total.getD 1))
        (k.stop c (s.total.getD 1) r.length) ∧
      s.handle e (.char k.char) = (idle,
        if g.length = 0 ∧ k.spares = true then e
        else operate k.operator e g .text s.register, true) := by
  have hrun := attempt_charCommand (e := e) k hs hop
  have hrest := h.spans_lineEnd
  rw [← h.destination_lineEnd hlen] at hrest
  cases k with
  | delete | change =>
    refine ⟨_, h.spans_charsOnLine _, handle_of_attempt (hrun.trans ?_)⟩
    simp [runCommand, CharCommand.char, CharCommand.spares, CharCommand.operator]
  | deleteBefore =>
    refine ⟨_, h.spans_before _, handle_of_attempt (hrun.trans ?_)⟩
    simp [runCommand, CharCommand.char, CharCommand.spares, CharCommand.operator]
  | deleteRest | changeRest =>
    refine ⟨_, hrest, handle_of_attempt (hrun.trans ((runCommand_rest rfl (hcount rfl)).trans ?_))⟩
    rw [if_neg fun hn => nomatch hn.2]

/-! ### Replacing characters -/

theorem total_waiting (s : Normal) :
    total { count := s.total, register := s.register, awaiting := .replacement } = s.total := by
  unfold total Count.product
  cases s.count <;> cases s.operandCount <;> simp

/-- **The character that replaces others** does so if they are on the row. -/
theorem handle_replacement (hs : s.awaiting = .replacement) (h : e.Stands A r B c) {ch : Char}
    (hch : Text.isBreak ch = false) :
    if c + s.total.getD 1 ≤ r.length then
      ∃ e', s.handle e (.char ch) = ({ register := s.register }, e', true) ∧
        e'.text.rows = Rows.withColumns e.text.rows A.length c (c + s.total.getD 1)
          (List.replicate (s.total.getD 1) ch) ∧
        e'.registers = e.registers ∧ e'.requests = e.requests
    else s.handle e (.char ch) = (idle, e.report (.pastLineEnd "replace"), true) := by
  have hattempt := attempt_of_replacement (e := e) hs (Key.char?_char ch)
  have hcursor := h.cursor
  have hstop := h.stop_line
  unfold handle
  rw [hattempt]
  unfold runReplacement replaceChars
  generalize s.total.getD 1 = n
  split
  · next hin =>
    have hspans : Rows.Spans e.text ⟨e.cursor, e.cursor + n, Nat.le_add_right _ _⟩ A r B c
        (c + n) := ⟨h.rows, hcursor, by show e.cursor + n = _; omega, hin⟩
    have hnew : ∀ d ∈ List.replicate n ch, Text.isBreak d = false :=
      fun d hd => (List.eq_of_mem_replicate hd) ▸ hch
    have hrows := hspans.rows_splice h.whole hnew
    have hlength : Range.length ⟨e.cursor, e.cursor + n, Nat.le_add_right _ _⟩ = n :=
      Nat.add_sub_cancel_left ..
    rw [hlength] at hrows
    rw [if_neg (by omega)]
    refine ⟨_, rfl, ?_, ?_, ?_⟩
    · rw [Editor.text_moveTo]
      exact hrows
    · rw [Editor.registers_moveTo, Editor.registers_replace]
    · rfl
  · next hout =>
    rw [if_pos (by omega)]
    rfl

end Normal
end Keywise
