/-
# Keys whose argument is any character

In Normal mode the keys `f`, `F`, `t`, `T`, `r` and the register prefix wait
for one more character, and take it whatever it is: keys go through no map
meanwhile (`ArgumentKey.keyMap?_waiting`). It is searched for, or replaces
what is under the cursor, or names a register (`ArgumentKey.took_handle`).

Key definitions: `ArgumentKey`, `ArgumentKey.waiting`, `ArgumentKey.Took`.
Key theorems: `ArgumentKey.extends_waiting`, `ArgumentKey.took_handle`.
-/
import Keywise.Proofs.Editor.Registers
import Keywise.Proofs.Mode.Unfinished

namespace Keywise

/-- What becomes of Normal mode and the editor with a command that is
finished: they are as it leaves them, and its error is shown. -/
theorem Normal.handle_of_finish {s : Normal} {e : Editor} {k : Key}
    {p : Editor × Option CommandError} (h : s.attempt e k = Normal.finish p) :
    (s.handle e k).1 = .idle ∧ Editor.Edited [] p.1 (s.handle e k).2.1 ∧
      (s.handle e k).2.1.text = p.1.text ∧ (s.handle e k).2.1.registers = p.1.registers := by
  unfold Normal.handle
  rw [h]
  obtain ⟨e', _ | err⟩ := p
  · exact ⟨rfl, .refl e', rfl, rfl⟩
  · exact ⟨rfl, e'.edited_report err, rfl, rfl⟩

/-- A key of Normal mode that takes any character for its argument. -/
inductive ArgumentKey where
  | find (backward upTo : Bool)
  | replacement
  | registerName
  deriving DecidableEq, Repr

namespace ArgumentKey

/-- The character the key types. -/
def char : ArgumentKey → Char
  | find false false => 'f'
  | find true false => 'F'
  | find false true => 't'
  | find true true => 'T'
  | replacement => 'r'
  | registerName => '"'

/-- Normal mode once the key was typed, and nothing before it. -/
def waiting : ArgumentKey → Normal
  | find backward upTo => { awaiting := .motion (.find backward upTo) }
  | replacement => { awaiting := .replacement }
  | registerName => { awaiting := .registerName }

theorem extends_waiting (a : ArgumentKey) : Normal.idle.Extends (.char a.char) a.waiting := by
  cases a with
  | find backward upTo =>
    refine .lead (find backward upTo).char (.find backward upTo) rfl rfl ?_
    cases backward <;> cases upTo <;> rfl
  | replacement => exact .replacement rfl rfl rfl
  | registerName => exact .registerPrefix rfl rfl rfl

/-- **Keys go through no map** while an argument is waited for. -/
theorem keyMap?_waiting (a : ArgumentKey) : a.waiting.keyMap? = none := by
  cases a <;> rfl

/-- Character `c` was taken for the argument: editor `e` and Normal mode have
become `e'` and `n'`. It is recorded as the target of the last search, found
or not; it replaces the character under the cursor, if there is one on the
line; the register of that name is chosen, if there is one. -/
def Took (a : ArgumentKey) (c : Char) (e : Editor) (n' : Normal) (e' : Editor) : Prop :=
  match a with
  | find backward upTo => n' = .idle ∧ e'.registers.lastFind = some ⟨c, backward, upTo⟩
  | replacement =>
    n' = .idle ∧ e'.text = if e.cursor < e.line.stop then e.text.splice e.cursor 1 [c] else e.text
  | registerName =>
    n' = { register := if isRegisterName c then some c else none } ∧ e' = e

variable (a : ArgumentKey) (c : Char) (e : Editor)

theorem follow_find (find : CharSearch) (count : Option Nat) :
    Editor.Edited [] e (e.follow (.find find false true) count).1 ∧
      (e.follow (.find find false true) count).1.registers.lastFind = some find := by
  have hkeep : (Motion.find find false true).stickiness ≠ .keep := Stickiness.noConfusion
  have hcolumn : e.keepColumn (.find find false true) = e := if_neg fun h => hkeep h.1
  have hrecorded : Editor.Edited [] e (e.recording (.find find false true)) :=
    e.edited_modifyRegisters _
  have hlast : (e.recording (.find find false true)).registers.lastFind = some find := by
    show (e.modifyRegisters _).registers.lastFind = _
    rw [Editor.registers_modifyRegisters]
  unfold Editor.follow
  simp only [hcolumn]
  split
  · dsimp only
    refine ⟨hrecorded.then (Editor.edited_moveTo _ _ _), ?_⟩
    rw [Editor.registers_moveTo]
    exact hlast
  · exact ⟨hrecorded, hlast⟩

/-- What the character does: the search is made, the character replaced or
the register chosen. -/
theorem attempt_waiting : a.waiting.attempt e (.char c) =
    match a with
    | find backward upTo => Normal.finish (e.follow (.find ⟨c, backward, upTo⟩ false true) none)
    | replacement => Normal.runReplacement replacement.waiting e c
    | registerName => ({ register := if isRegisterName c then some c else none }, e, .ok true) := by
  unfold Normal.attempt
  rw [if_neg (Normal.code_ne_escape (Key.char?_char c)), Key.char?_char]
  cases a with
  | find backward upTo => rfl
  | replacement => rfl
  | registerName => rfl

theorem handle_replacement :
    (replacement.waiting.handle e (.char c)).1 = .idle ∧
      Editor.Edited [] e (replacement.waiting.handle e (.char c)).2.1 ∧
      (replacement.waiting.handle e (.char c)).2.1.text =
        if e.cursor < e.line.stop then e.text.splice e.cursor 1 [c] else e.text := by
  have hattempt : replacement.waiting.attempt e (.char c) =
      Normal.runReplacement replacement.waiting e c := attempt_waiting replacement c e
  have hone : replacement.waiting.total.getD 1 = 1 := rfl
  unfold Normal.runReplacement Normal.replaceChars at hattempt
  by_cases hstop : e.cursor < e.line.stop
  · have hle : ¬ e.cursor + 1 > e.line.stop := Nat.not_lt.mpr hstop
    rw [hone, if_neg hle] at hattempt
    unfold Normal.handle
    rw [hattempt, if_pos hstop]
    dsimp only
    refine ⟨rfl, e.edited_replace_moveTo _ _ _ _ _, ?_⟩
    rw [Editor.text_moveTo]
    rfl
  · have hlt : e.cursor + 1 > e.line.stop := Nat.lt_succ_of_le (Nat.not_lt.mp hstop)
    rw [hone, if_pos hlt] at hattempt
    obtain ⟨hidle, hedited, htext, -⟩ := Normal.handle_of_finish hattempt
    rw [if_neg hstop]
    exact ⟨hidle, hedited, htext⟩

/-- **Any character is taken for the argument.** -/
theorem took_handle :
    a.Took c e (a.waiting.handle e (.char c)).1 (a.waiting.handle e (.char c)).2.1 ∧
      Editor.Edited [] e (a.waiting.handle e (.char c)).2.1 := by
  have hattempt := attempt_waiting a c e
  cases a with
  | find backward upTo =>
    obtain ⟨hedited, hlast⟩ := follow_find e ⟨c, backward, upTo⟩ none
    obtain ⟨hidle, hreported, -, hregisters⟩ := Normal.handle_of_finish hattempt
    refine ⟨⟨hidle, ?_⟩, hedited.then hreported⟩
    rw [hregisters, hlast]
  | replacement =>
    obtain ⟨hidle, hedited, htext⟩ := handle_replacement c e
    exact ⟨⟨hidle, htext⟩, hedited⟩
  | registerName =>
    unfold Normal.handle
    rw [hattempt]
    exact ⟨⟨rfl, rfl⟩, .refl e⟩

end ArgumentKey
end Keywise
