/-
# Modes in a scope

A mode does in a scope what it does outside of one, to the registers of the
scope in the place of the shared ones: entering, leaving and handling a key
come to the same (`Mode.enter_inScope`, `Mode.leave_inScope`,
`Mode.handle_inScope`), and so does a command line (`ExCommand.run_inScope`).
The lemmas follow the functions of each mode in the order they call each
other.

Key theorems: `Normal.handle_inScope`, `Visual.handle_inScope`,
`ExCommand.run_inScope`, `Mode.handle_inScope`.
-/
import Keywise.Mode.Basic
import Keywise.Proofs.Editor.Scope

namespace Keywise

open Editor

variable (e : Editor) (r : Registers)

/-! ### Normal mode -/

namespace Normal

theorem finish_inScope (x : Editor × Option CommandError) :
    finish (outcomeInScope r x) = replyInScope r (finish x) := by
  obtain ⟨e, _ | err⟩ := x <;> rfl

theorem settleAfter_inScope (op : Operator) :
    settleAfter op (e.inScope r) = (settleAfter op e).inScope r := by
  unfold settleAfter
  split
  · rfl
  · exact e.settle_inScope r _

theorem operate_inScope (op : Operator) (range : Range) (kind : TextKind)
    (register : Option Char) :
    operate op (e.inScope r) range kind register =
      (operate op e range kind register).inScope r := by
  unfold operate
  rw [Operator.apply_inScope, settleAfter_inScope]

theorem operateOn_inScope (op : Operator) (o : TextObject) (count : Option Nat)
    (register : Option Char) :
    operateOn op (e.inScope r) o count register =
      outcomeInScope r (operateOn op e o count register) := by
  unfold operateOn
  rw [Editor.operate_inScope]
  obtain ⟨e', _ | err⟩ := e.operate op o count register
  · simp [settleAfter_inScope]
  · rfl

theorem operandMotion_inScope (op : Operator) (m : Motion) :
    operandMotion op (e.inScope r) m = operandMotion op e m := rfl

theorem runMotion_inScope (s : Normal) (m : Motion) :
    s.runMotion (e.inScope r) m = replyInScope r (s.runMotion e m) := by
  unfold runMotion
  cases s.operator with
  | none => simp only [follow_inScope, finish_inScope]
  | some op =>
    simp only [operandMotion_inScope, TextObject.region_inScope]
    obtain ⟨e', err | range⟩ :=
      (TextObject.motion (operandMotion op e m).1).region e s.total
    · rfl
    · simp only [outcomeInScope_mk, text_inScope, operate_inScope]
      rfl

theorem runLines_inScope (s : Normal) (op : Operator) :
    s.runLines (e.inScope r) op = replyInScope r (s.runLines e op) := by
  unfold runLines
  rw [operateOn_inScope, finish_inScope]

theorem runObject_inScope (s : Normal) (outer : Bool) (c : Char) :
    s.runObject (e.inScope r) outer c = replyInScope r (s.runObject e outer c) := by
  unfold runObject
  split
  · rw [operateOn_inScope, finish_inScope]
  · rfl

theorem replaceChars_inScope (c : Char) (n : Nat) :
    replaceChars (e.inScope r) c n = outcomeInScope r (replaceChars e c n) := by
  unfold replaceChars
  simp only [cursor_inScope, line_inScope, replace_inScope, moveTo_inScope]
  split <;> rfl

theorem runReplacement_inScope (s : Normal) (c : Char) :
    s.runReplacement (e.inScope r) c = replyInScope r (s.runReplacement e c) := by
  unfold runReplacement
  rw [replaceChars_inScope]
  obtain ⟨e', _ | err⟩ := replaceChars e c (s.total.getD 1) <;> rfl

theorem put_inScope (register : Option Char) (n : Nat) (side : PutSide) :
    put (e.inScope r) register n side = outcomeInScope r (put e register n side) := by
  unfold put
  rw [Editor.put_inScope]
  cases e.put register n side <;> rfl

theorem typeAt_inScope (p : Nat) : typeAt (e.inScope r) p = outcomeInScope r (typeAt e p) := by
  simp [typeAt]

theorem runCommand_inScope (s : Normal) (c : Char) :
    s.runCommand (e.inScope r) c = replyInScope r (s.runCommand e c) := by
  have hcut : ∀ range : Range, finish
      (if range.length = 0 then e.inScope r
        else (operate .delete e range .text s.register).inScope r, none) =
      replyInScope r (finish
        (if range.length = 0 then e else operate .delete e range .text s.register, none)) := by
    intro range
    split <;> rfl
  unfold runCommand
  simp only [line_inScope, charsOnLine_inScope, operate_inScope, operateOn_inScope, put_inScope,
    typeAt_inScope, replace_inScope, request_inScope, text_inScope, cursor_inScope]
  split
  case h_1 | h_3 => exact hcut _                       -- x, X
  all_goals first | rfl | exact finish_inScope r _

theorem readChar_inScope (s : Normal) (lead : Option MotionLead) (c : Char) :
    s.readChar (e.inScope r) lead c = replyInScope r (s.readChar e lead c) := by
  unfold readChar
  rw [registers_inScope]
  split
  · rfl
  · rfl
  · exact s.runMotion_inScope e r _
  · split
    · rfl
    · exact s.runCommand_inScope e r c

theorem readAny_inScope (s : Normal) (c : Char) :
    s.readAny (e.inScope r) c = replyInScope r (s.readAny e c) := by
  unfold readAny
  simp only [runLines_inScope, readChar_inScope]
  repeat' split
  all_goals rfl

theorem special_inScope (s : Normal) (k : Key) :
    s.special (e.inScope r) k = replyInScope r (s.special e k) := by
  unfold special
  simp only [runCommand_inScope, runMotion_inScope]
  repeat' split
  all_goals rfl

theorem attempt_inScope (s : Normal) (k : Key) :
    s.attempt (e.inScope r) k = replyInScope r (s.attempt e k) := by
  unfold attempt
  simp only [special_inScope, runReplacement_inScope, runObject_inScope, readChar_inScope,
    readAny_inScope]
  repeat' split
  all_goals rfl

theorem handle_inScope (s : Normal) (k : Key) :
    s.handle (e.inScope r) k = replyInScope r (s.handle e k) := by
  unfold handle
  rw [attempt_inScope]
  obtain ⟨s', e', err | used⟩ := s.attempt e k <;> rfl

end Normal

/-! ### Visual mode -/

namespace Visual

theorem runMotion_inScope (s : Visual) (m : Motion) :
    s.runMotion (e.inScope r) m = replyInScope r (s.runMotion e m) := by
  unfold runMotion
  rw [follow_inScope]
  obtain ⟨e', _ | err⟩ := e.follow m s.count <;> rfl

theorem selected_inScope (wholeLines : Bool) :
    selected (e.inScope r) wholeLines = selected e wholeLines := rfl

theorem operate_inScope (op : Operator) (wholeLines : Bool) (register : Option Char) :
    operate (e.inScope r) op wholeLines register =
      (operate e op wholeLines register).inScope r := by
  unfold operate
  simp only [selected_inScope, Operator.apply_inScope, settle_inScope, request_inScope]
  split <;> rfl

theorem exchange_inScope : exchange (e.inScope r) = (exchange e).inScope r := by
  unfold exchange
  rw [selection_inScope]
  cases e.selection with
  | none => rfl
  | some s =>
    exact moveTo_inScope { e with selection := some ⟨s.head, s.anchor, s.kind⟩ } r s.anchor .column

theorem switch_inScope (s : Visual) (kind : SelectionKind) :
    s.switch (e.inScope r) kind = (s.switch e kind).inScope r := by
  unfold switch
  simp only [selection_inScope, request_inScope]
  split <;> rfl

theorem runCommand_inScope (s : Visual) (c : Char) :
    s.runCommand (e.inScope r) c = replyInScope r (s.runCommand e c) := by
  unfold runCommand
  simp only [operate_inScope, exchange_inScope, switch_inScope, request_inScope]
  repeat' split
  all_goals rfl

theorem readChar_inScope (s : Visual) (c : Char) :
    s.readChar (e.inScope r) c = replyInScope r (s.readChar e c) := by
  unfold readChar
  rw [registers_inScope]
  split
  · rfl
  · rfl
  · exact runMotion_inScope e r _ _
  · split
    · rfl
    · exact s.runCommand_inScope e r c

theorem readAny_inScope (s : Visual) (c : Char) :
    s.readAny (e.inScope r) c = replyInScope r (s.readAny e c) := by
  unfold readAny
  simp only [readChar_inScope]
  repeat' split
  all_goals rfl

theorem attempt_inScope (s : Visual) (k : Key) :
    s.attempt (e.inScope r) k = replyInScope r (s.attempt e k) := by
  unfold attempt
  simp only [runMotion_inScope, readAny_inScope, request_inScope]
  repeat' split
  all_goals rfl

theorem handle_inScope (s : Visual) (k : Key) :
    s.handle (e.inScope r) k = replyInScope r (s.handle e k) := by
  unfold handle
  rw [attempt_inScope]
  obtain ⟨s', e', err | used⟩ := s.attempt e k <;> rfl

end Visual

/-! ### Modes that type -/

namespace Typing

theorem type_inScope (new : Text) : type (e.inScope r) new = (type e new).inScope r := by
  simp [type]

theorem escape_inScope : escape (e.inScope r) = (escape e).inScope r := by
  unfold escape
  simp only [cursor_inScope, line_inScope, moveTo_inScope]
  split <;> rfl

theorem deleteBackTo_inScope (start : Nat) :
    deleteBackTo (e.inScope r) start = (deleteBackTo e start).inScope r := by
  unfold deleteBackTo
  simp only [cursor_inScope, replace_inScope, moveTo_inScope]
  split <;> rfl

theorem arrow_inScope (m : LineMotion) : arrow (e.inScope r) m = (arrow e m).inScope r := by
  simp [arrow]

theorem control?_inScope (k : Key) (typedFrom : Option Nat) :
    control? (e.inScope r) k typedFrom = (control? e k typedFrom).map (·.inScope r) := by
  have hword : deleteWord (e.inScope r) = (deleteWord e).inScope r :=
    deleteBackTo_inScope e r _
  have htyped : deleteTyped (e.inScope r) typedFrom = (deleteTyped e typedFrom).inScope r :=
    deleteBackTo_inScope e r _
  have harrow : arrow (e.inScope r) = fun m => (arrow e m).inScope r :=
    funext fun m => arrow_inScope e r m
  unfold control?
  rw [hword, htyped, harrow, cursor_inScope, text_inScope]
  simp only [request_inScope, escape_inScope, type_inScope, replace_inScope]
  split
  · split <;> rfl
  · split
    · rfl
    · rfl
    · split <;> rfl
    · rw [Option.map_map]
      rfl

end Typing

theorem Insert.handle_inScope (s : Insert) (k : Key) :
    s.handle (e.inScope r) k = outcomeInScope r (s.handle e k) := by
  unfold handle
  simp only [Typing.control?_inScope, Typing.type_inScope, Typing.deleteBackTo_inScope,
    cursor_inScope]
  cases Typing.control? e k s.typedFrom with
  | some e' => rfl
  | none =>
    simp only [Option.map_none]
    repeat' split
    all_goals rfl

theorem Replace.restore_inScope (s : Replace) :
    s.restore (e.inScope r) = ((s.restore e).1, (s.restore e).2.inScope r) := by
  unfold restore
  simp only [cursor_inScope, replace_inScope, moveTo_inScope]
  repeat' split
  all_goals rfl

theorem Replace.overwrite_inScope (s : Replace) (c : Char) :
    s.overwrite (e.inScope r) c = ((s.overwrite e c).1, (s.overwrite e c).2.inScope r) := by
  have hunder : under? (e.inScope r) = under? e := rfl
  unfold overwrite
  simp only [hunder, cursor_inScope, replace_inScope, moveTo_inScope]

theorem Replace.handle_inScope (s : Replace) (k : Key) :
    s.handle (e.inScope r) k = replyInScope r (s.handle e k) := by
  unfold handle
  simp only [restore_inScope, overwrite_inScope, Typing.control?_inScope, Typing.type_inScope]
  cases Typing.control? e k s.typedFrom with
  | some e' =>
    simp only [Option.map_some]
    repeat' split
    all_goals rfl
  | none =>
    simp only [Option.map_none]
    repeat' split
    all_goals rfl

theorem Completion.complete_inScope (s : Completion) (forward : Bool) :
    s.complete (e.inScope r) forward =
      ((s.complete e forward).1, (s.complete e forward).2.inScope r) := by
  unfold complete
  rw [line_inScope, text_inScope, cursor_inScope]
  extract_lets l line s₁ s₂ e₂ e₁
  split
  · rfl
  · simp only [replace_inScope, moveTo_inScope, showInfo_inScope, e₂, e₁]

theorem Completion.handle_inScope (s : Completion) (k : Key) :
    s.handle (e.inScope r) k = replyInScope r (s.handle e k) := by
  unfold handle
  simp only [complete_inScope, request_inScope, replay_inScope]
  repeat' split
  all_goals rfl

/-! ### Lines typed at the bottom -/

/-- **A command line** does not see registers. -/
theorem ExCommand.run_inScope (line : List Char) :
    run (e.inScope r) line = outcomeInScope r (run e line) := by
  have hlist : ∀ maps lhs,
      showListings (e.inScope r) maps lhs = (showListings e maps lhs).inScope r := by
    intro maps lhs
    unfold showListings
    rw [keyMaps_inScope]
    split <;> rfl
  unfold run
  cases parse line with
  | nothing => rfl
  | goto n => simp [apply]
  | map maps recursive lhs rhs =>
    unfold apply
    simp only
    split <;> rfl
  | list maps lhs =>
    cases lhs with
    | none => simp [apply, hlist]
    | some lhs =>
      unfold apply
      simp only [hlist]
      split <;> rfl
  | unmap maps lhs =>
    unfold apply
    simp only
    split
    · rfl
    · split <;> rfl
  | mapclear maps => rfl
  | unknown line => rfl

namespace Prompt

theorem command_inScope (line : List Char) :
    command (e.inScope r) line = (command e line).inScope r := by
  unfold command
  rw [ExCommand.run_inScope]
  obtain ⟨e', _ | err⟩ := ExCommand.run e line <;> rfl

theorem search_inScope (backward : Bool) (line : List Char) :
    search backward (e.inScope r) line = (search backward e line).inScope r := by
  unfold search
  simp only [registers_inScope, modifyRegisters_inScope, destination_inScope, cursor_inScope,
    text_inScope, report_inScope, moveTo_inScope]
  repeat' split
  all_goals rfl

theorem handle_inScope (p : Prompt) (lead : Char) {run : Editor → List Char → Editor}
    (hrun : ∀ e line, run (e.inScope r) line = (run e line).inScope r) (k : Key) :
    p.handle lead run (e.inScope r) k = replyInScope r (p.handle lead run e k) := by
  unfold handle
  simp only [request_inScope, hrun]
  split <;> rfl

end Prompt

/-! ### All modes -/

namespace Mode

/-- **A mode is entered** in a scope as outside of one. -/
theorem enter_inScope (m : Mode) (args : List ModeArg) :
    m.enter (e.inScope r) args = replyInScope r (m.enter e args) := by
  cases m with
  | normal s => simp [enter, Normal.enter]
  | _ => rfl

/-- **A mode is left** in a scope as outside of one. -/
theorem leave_inScope (m : Mode) :
    m.leave (e.inScope r) = ((m.leave e).1, (m.leave e).2.inScope r) := by
  cases m <;> rfl

/-- **A key is handled** in a scope as outside of one, whatever the mode. -/
theorem handle_inScope (m : Mode) (k : Key) :
    m.handle (e.inScope r) k = replyInScope r (m.handle e k) := by
  cases m with
  | normal s => simp only [handle, Normal.handle_inScope]; rfl
  | visual s => simp only [handle, Visual.handle_inScope]; rfl
  | insert s => simp only [handle, Insert.handle_inScope]; rfl
  | replace s => simp only [handle, Replace.handle_inScope]; rfl
  | command p =>
    simp only [handle, Prompt.handle_inScope e r p _ fun e line => Prompt.command_inScope e r line]
    rfl
  | search p backward =>
    simp only [handle,
      Prompt.handle_inScope e r p _ fun e line => Prompt.search_inScope e r backward line]
    rfl
  | insertExpand s => simp only [handle, Completion.handle_inScope]; rfl
  | observer o =>
    have hobserver : Observer.handle (e.inScope r) k = (Observer.handle e k).inScope r := by
      unfold Observer.handle
      split <;> rfl
    simp only [handle, hobserver]
    rfl

end Mode
end Keywise
