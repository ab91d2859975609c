/-
# What a key writes to registers

Normal and Visual mode write to registers what an operator takes, under the
name typed for it; no mode writes anything else (`Mode.after_handle`). So
whole lines in registers end with a line feed after a key if they did before,
unless the key glues: part of a line is taken under a capital letter whose
register holds whole lines (`Mode.ended_handle_iff`).

Key definitions: `Mode.register?`, `Mode.Glues`.
Key theorems: `Normal.after_handle`, `Visual.after_handle`,
`Mode.after_handle`, `Mode.ended_handle_iff`.
-/
import Keywise.Proofs.Editor.Registers
import Keywise.Proofs.Session.Turn

namespace Keywise

/-! ### Modes that type -/

namespace Typing

@[simp]
theorem registers_type (e : Editor) (new : Text) : (type e new).registers = e.registers := by
  simp [type]

@[simp]
theorem registers_deleteBackTo (e : Editor) (start : Nat) :
    (deleteBackTo e start).registers = e.registers := by
  unfold deleteBackTo
  split <;> simp

theorem registers_escape (e : Editor) : (escape e).registers = e.registers := by
  unfold escape
  split <;> simp

theorem registers_control? {e e' : Editor} {k : Key} {typedFrom : Option Nat}
    (h : control? e k typedFrom = some e') : e'.registers = e.registers := by
  unfold control? at h
  split at h
  · split at h
    · exact Option.some.inj h ▸ rfl
    · exact Option.some.inj h ▸ registers_deleteBackTo e _
    · exact Option.some.inj h ▸ registers_deleteBackTo e _
    · cases h
  · split at h
    · exact Option.some.inj h ▸ registers_escape e
    · exact Option.some.inj h ▸ registers_type e _
    · obtain rfl := Option.some.inj h
      split <;> rfl
    · obtain ⟨m, -, rfl⟩ := Option.map_eq_some_iff.mp h
      exact e.registers_moveTo _ _

end Typing

theorem Insert.registers_handle (s : Insert) (e : Editor) (k : Key) :
    (s.handle e k).1.registers = e.registers := by
  unfold handle
  split
  · next e' hcontrol => exact Typing.registers_control? hcontrol
  · split
    · simp
    · split
      · split <;> simp
      · split <;> simp

theorem Replace.registers_restore (s : Replace) (e : Editor) :
    (s.restore e).2.registers = e.registers := by
  unfold restore
  split
  · rfl
  · split <;> simp

theorem Replace.registers_handle (s : Replace) (e : Editor) (k : Key) :
    (s.handle e k).2.1.registers = e.registers := by
  unfold handle
  split
  · exact s.registers_restore e
  · split
    · simp
    · split
      · next e' hcontrol => exact Typing.registers_control? hcontrol
      · split
        · simp [overwrite]
        · rfl

theorem Completion.registers_handle (s : Completion) (e : Editor) (k : Key) :
    (s.handle e k).2.1.registers = e.registers := by
  have hcomplete : ∀ forward, (s.complete e forward).2.registers = e.registers := by
    intro forward
    unfold complete
    extract_lets l line s
    split
    · rfl
    · rw [Editor.registers_showInfo, Editor.registers_moveTo]
      rfl
  unfold handle
  simp only
  split
  · exact hcomplete true
  · split
    · exact hcomplete false
    · rfl

/-! ### Lines typed at the bottom -/

theorem ExCommand.registers_run (e : Editor) (line : List Char) :
    (run e line).1.registers = e.registers := by
  have hlist : ∀ maps lhs, (showListings e maps lhs).registers = e.registers := by
    intro maps lhs
    unfold showListings
    split <;> rfl
  unfold run
  cases parse line with
  | nothing => rfl
  | goto n => exact e.registers_moveTo _ _
  | map maps recursive lhs rhs =>
    unfold apply
    simp only
    split <;> rfl
  | list maps lhs =>
    cases lhs with
    | none => exact hlist _ _
    | some lhs =>
      unfold apply
      simp only
      split
      · exact hlist _ _
      · rfl
  | unmap maps lhs =>
    unfold apply
    simp only
    split
    · rfl
    · split <;> rfl
  | mapclear maps => rfl
  | unknown line => rfl

namespace Prompt

theorem alike_command (e : Editor) (line : List Char) :
    e.registers.Alike (command e line).registers := by
  refine .of_eq ?_
  have hrun := ExCommand.registers_run e line
  unfold command
  split
  · next e' h =>
    rw [h] at hrun
    exact hrun
  · next e' err h =>
    rw [h] at hrun
    exact hrun

theorem alike_search (backward : Bool) (e : Editor) (line : List Char) :
    e.registers.Alike (search backward e line).registers := by
  unfold search
  simp only
  split
  · exact .of_eq rfl
  · split
    · exact .of_eq rfl
    · split
      · rw [Editor.registers_report, Editor.registers_modifyRegisters]
        exact ⟨rfl, rfl, rfl⟩
      · rw [Editor.registers_moveTo, Editor.registers_modifyRegisters]
        exact ⟨rfl, rfl, rfl⟩

theorem alike_handle (p : Prompt) (lead : Char) {run : Editor → List Char → Editor}
    (hrun : ∀ (e : Editor) line, e.registers.Alike (run e line).registers) (e : Editor) (k : Key) :
    e.registers.Alike (p.handle lead run e k).2.1.registers := by
  unfold handle
  split
  · exact .of_eq rfl
  · exact .of_eq rfl
  · exact hrun (e.request .normal []) _
  · exact .of_eq rfl

end Prompt

/-! ### Normal and Visual mode -/

theorem Normal.registers_operate (op : Operator) (e : Editor) (r : Range) (kind : TextKind)
    (register : Option Char) : (operate op e r kind register).registers =
      e.registers.write register (Operator.taken e.text r kind) := by
  unfold operate settleAfter
  split
  · exact op.registers_apply e r kind register
  · rw [Editor.registers_settle, op.registers_apply]

/-- **In Normal mode** a key writes what an operator takes, or nothing. -/
theorem Normal.after_handle (s : Normal) (e : Editor) (k : Key) :
    e.registers.After s.register (s.handle e k).2.1.registers := by
  have heffect := effect_attempt s e k
  unfold handle
  generalize s.attempt e k = reply at heffect
  cases heffect with
  | reads s' used _ => exact .of_eq rfl
  | follows m e' h => exact .same (Editor.alike_follow h)
  | operates op find r kind =>
    refine .written (Operator.taken (e.remember find).text r kind) (Operator.ended_taken _ _ _) ?_
    rw [registers_operate]
    exact (e.alike_remember find).write s.register _
  | puts side e' _ h => exact .of_eq (Editor.registers_put h)
  | replaces c e' _ _ h =>
    unfold replaceChars at h
    split at h
    · cases h
    · exact .of_eq ((Prod.mk.inj h).1 ▸ by simp)
  | types start new p => exact .of_eq (by simp)
  | asks name args _ _ => exact .of_eq rfl
  | fails s' find err => exact .same (e.alike_remember find)

theorem Visual.registers_operate (e : Editor) (op : Operator) (wholeLines : Bool)
    (register : Option Char) : (operate e op wholeLines register).registers =
      e.registers.write register
        (Operator.taken e.text (selected e wholeLines).1 (selected e wholeLines).2) := by
  unfold operate
  simp only
  split
  · exact op.registers_apply _ _ _ _
  · rw [Editor.registers_request, Editor.registers_settle, op.registers_apply]

theorem Visual.registers_exchange (e : Editor) : (exchange e).registers = e.registers := by
  unfold exchange
  split
  · rw [Editor.registers_moveTo]
    rfl
  · rfl

theorem Visual.registers_switch (s : Visual) (e : Editor) (kind : SelectionKind) :
    (s.switch e kind).registers = e.registers := by
  unfold switch
  split <;> rfl

/-- **In Visual mode** a key writes what an operator takes, or nothing. -/
theorem Visual.after_handle (s : Visual) (e : Editor) (k : Key) :
    e.registers.After s.register (s.handle e k).2.1.registers := by
  have heffect := effect_attempt s e k
  unfold handle
  generalize s.attempt e k = reply at heffect
  cases heffect with
  | reads s' used _ => exact .of_eq rfl
  | follows s' m e' _ h =>
    have halike : e.registers.Alike e'.registers := Editor.alike_follow h
    exact .same halike
  | operates s' op wholeLines _ =>
    have hwritten := registers_operate e op wholeLines s.register
    exact .written _ (Operator.ended_taken _ _ _) (.of_eq hwritten)
  | exchanges s' _ => exact .of_eq (registers_exchange e)
  | switches s' kind _ => exact .of_eq (s.registers_switch e kind)
  | leaves s' name _ _ => exact .of_eq rfl
  | fails s' find err _ => exact .same (e.alike_remember find)

/-! ### All modes -/

namespace Mode

/-- The register named for the command being typed. -/
def register? : Mode → Option Char
  | normal s => s.register
  | visual s => s.register
  | _ => none

/-- **A key** writes to the register named at most. -/
theorem after_handle (m : Mode) (e : Editor) (k : Key) :
    e.registers.After m.register? (m.handle e k).2.1.registers := by
  cases m with
  | normal s => exact s.after_handle e k
  | visual s => exact s.after_handle e k
  | insert s => exact .of_eq (s.registers_handle e k)
  | replace s => exact .of_eq (s.registers_handle e k)
  | command p => exact .same (p.alike_handle ':' Prompt.alike_command e k)
  | search p backward =>
    exact .same (p.alike_handle (searchLead backward) (Prompt.alike_search backward) e k)
  | insertExpand s => exact .of_eq (s.registers_handle e k)
  | observer o =>
    refine .of_eq ?_
    show (Observer.handle e k).registers = e.registers
    unfold Observer.handle
    split <;> rfl

theorem registers_goTo (m m' : Mode) (e : Editor) (args : List ModeArg) :
    (m.goTo m' e args).2.registers = e.registers := by
  have hleave : (m.leave e).2.registers = e.registers := by cases m <;> rfl
  have henter : (m'.enter (m.leave e).2 args).2.1.registers = (m.leave e).2.registers := by
    cases m' with
    | normal s => exact Editor.registers_settle _ .keep
    | _ => rfl
  exact henter.trans hleave

/-- The key writes part of a line under a capital letter whose register holds
whole lines. -/
def Glues (m : Mode) (e : Editor) (k : Key) : Prop :=
  ∃ new, (e.registers.write m.register? new).Alike (m.handle e k).2.1.registers ∧
    e.registers.Glues m.register? new

/-- **After a key** whole lines in registers end with a line feed if and only
if it does not glue. -/
theorem ended_handle_iff (m : Mode) {e : Editor} (h : e.registers.Ended) (k : Key) :
    (m.handle e k).2.1.registers.Ended ↔ ¬ m.Glues e k := by
  have hwrite : ∀ {new}, (e.registers.write m.register? new).Alike (m.handle e k).2.1.registers →
      new.Ended → ((m.handle e k).2.1.registers.Ended ↔ ¬ e.registers.Glues m.register? new) :=
    fun halike hnew => halike.ended_iff.symm.trans (Registers.ended_write_iff h hnew)
  constructor
  · rintro hended ⟨new, halike, hglues⟩
    have hnew : new.Ended := fun hlines => absurd (hglues.kind.symm.trans hlines) nofun
    exact (hwrite halike hnew).mp hended hglues
  · intro hno
    cases m.after_handle e k with
    | same halike => exact halike.ended h
    | written new hnew halike =>
      exact (hwrite halike hnew).mpr fun hglues => hno ⟨new, halike, hglues⟩

end Mode
end Keywise
