/-
# What registers hold

Whole lines in a register end with a line feed (`Registers.Ended`), so that
they can be put between other lines. An operator sees to that for what it
takes (`Operator.ended_taken`). A write keeps it true of all registers, with
one exception: a capital letter that appends part of a line to whole lines,
which stay whole lines by name (`Registers.Glues`, `Registers.ended_write_iff`).

Of the commands only operators write to registers; the others record
searches at most, and then the registers hold the same as before
(`Registers.Alike`).

Key definitions: `Content.Ended`, `Registers.Ended`, `Registers.Glues`,
`Registers.Alike`.
Key theorems: `Registers.ended_write_iff`, `Operator.registers_apply`,
`Operator.ended_taken`, `Editor.alike_follow`.
-/
import Keywise.Proofs.Editor.Edited

namespace Keywise

namespace Text

theorem endsLine_append_of_ne_nil {v : Text} (hv : v ≠ []) (u : Text) :
    Text.endsLine (u ++ v) = Text.endsLine v := by
  unfold Text.endsLine
  rw [List.getLast?_append_of_ne_nil u hv]

theorem endsLine_feed (u : Text) : Text.endsLine (u ++ ['\n']) = true := by
  rw [endsLine_append_of_ne_nil (List.cons_ne_nil _ _)]
  rfl

end Text

/-- Whole lines end with a line feed. -/
def Content.Ended (c : Content) : Prop := c.kind = .lines → c.text.endsLine = true

namespace Registers

variable {r r' : Registers}

/-! ### Whole lines -/

/-- In all registers whole lines end with a line feed. -/
structure Ended (r : Registers) : Prop where
  unnamed : ∀ c, r.unnamed = some c → c.Ended
  ring : ∀ c ∈ r.ring, c.Ended
  named : ∀ l c, r.named l = some c → c.Ended

theorem ended_empty : Ended {} where
  unnamed _ h := nomatch h
  ring _ h := absurd h List.not_mem_nil
  named _ _ h := nomatch h

theorem Ended.read (h : r.Ended) {name : Option Char} {c : Content}
    (hread : r.read name = some c) : c.Ended := by
  unfold Registers.read at hread
  split at hread
  · exact h.unnamed c hread
  · split at hread
    · exact h.unnamed c hread
    · split at hread
      · exact h.ring c (List.mem_of_getElem? hread)
      · obtain ⟨l, -, hl⟩ := Option.bind_eq_some_iff.mp hread
        exact h.named l c hl

/-- A write under this name would append part of a line to whole lines, and
leave them without a line feed at their end. -/
structure Glues (r : Registers) (name : Option Char) (new : Content) : Prop where
  lines : ∃ l old, name = some l ∧ l.isUpper = true ∧ r.named l.toLower = some old ∧
    old.kind = .lines
  kind : new.kind = .text
  ne_nil : new.text ≠ []
  unended : new.text.endsLine = false

theorem ended_append_iff {old new : Content} (hold : old.Ended) (hnew : new.Ended) :
    (append old new).Ended ↔
      ¬ (old.kind = .lines ∧ new.kind = .text ∧ new.text ≠ [] ∧ new.text.endsLine = false) := by
  unfold Content.Ended append
  by_cases hnil : new.text = []
  · -- nothing is appended
    have hkind : new.kind = .text := by
      cases hk : new.kind with
      | text => rfl
      | lines =>
        have hends := hnew hk
        rw [hnil] at hends
        exact absurd hends (by decide)
    rw [hnil, hkind]
    unfold Content.Ended at hold
    simpa using hold
  · simp only [Text.endsLine_append_of_ne_nil hnil]
    cases hk : new.kind with
    | lines => simpa using hnew hk
    | text =>
      cases hok : old.kind with
      | lines => simp [hnil]
      | text => simp

/-- **What a write leaves** is whole lines with a line feed at their end,
unless it glues. -/
theorem ended_payload_iff (h : r.Ended) {name : Option Char} {new : Content} (hnew : new.Ended) :
    (∀ p, r.payload name new = some p → p.Ended) ↔ ¬ r.Glues name new := by
  have hplain : r.payload name new = some new → (¬ ∃ l old, name = some l ∧ l.isUpper = true ∧
      r.named l.toLower = some old ∧ old.kind = .lines) →
      ((∀ p, r.payload name new = some p → p.Ended) ↔ ¬ r.Glues name new) := by
    intro hpayload hno
    refine iff_of_true (fun p hp => ?_) fun hglues => hno hglues.lines
    rw [hpayload] at hp
    exact Option.some.inj hp ▸ hnew
  unfold payload at hplain ⊢
  cases name with
  | none => exact hplain rfl fun ⟨l, _, hl, _⟩ => nomatch hl
  | some l =>
    by_cases hhole : l = '_'
    · simp only [if_pos hhole]
      refine iff_of_true nofun fun hglues => ?_
      obtain ⟨l', _, hl, hupper, -⟩ := hglues.lines
      rw [← Option.some.inj hl, hhole] at hupper
      exact absurd hupper (by decide)
    · simp only [if_neg hhole] at hplain ⊢
      by_cases hupper : l.isUpper = true
      · simp only [if_pos hupper] at hplain ⊢
        cases hold : r.named l.toLower with
        | none =>
          simp only [hold] at hplain ⊢
          refine hplain trivial fun ⟨l', old, hl, _, hnamed, _⟩ => ?_
          rw [← Option.some.inj hl, hold] at hnamed
          cases hnamed
        | some old =>
          have hone : (∀ p, some (append old new) = some p → p.Ended) ↔ (append old new).Ended :=
            ⟨fun hp => hp _ rfl, fun hp p h => Option.some.inj h ▸ hp⟩
          rw [hone, ended_append_iff (h.named _ _ hold) hnew, not_iff_not]
          constructor
          · rintro ⟨hlines, hkind, hne, hunended⟩
            exact ⟨⟨l, old, rfl, hupper, hold, hlines⟩, hkind, hne, hunended⟩
          · rintro ⟨⟨l', old', hl, -, hnamed, hlines⟩, hkind, hne, hunended⟩
            rw [← Option.some.inj hl, hold] at hnamed
            exact ⟨Option.some.inj hnamed ▸ hlines, hkind, hne, hunended⟩
      · simp only [if_neg hupper] at hplain ⊢
        refine hplain trivial fun ⟨l', _, hl, hup, _⟩ => ?_
        exact hupper (Option.some.inj hl ▸ hup)

/-- **A write keeps whole lines ended**, unless it glues. -/
theorem ended_write_iff (h : r.Ended) {name : Option Char} {new : Content} (hnew : new.Ended) :
    (r.write name new).Ended ↔ ¬ r.Glues name new := by
  rw [← ended_payload_iff h hnew]
  unfold write
  cases hpayload : r.payload name new with
  | none => exact iff_of_true h nofun
  | some p =>
    constructor
    · intro hended q hq
      exact Option.some.inj hq ▸ hended.unnamed p rfl
    · intro hp
      have hended : p.Ended := hp p rfl
      refine ⟨fun c hc => Option.some.inj hc ▸ hended, fun c hc => ?_, fun l c hc => ?_⟩
      · rcases List.mem_cons.mp (List.mem_of_mem_take hc) with rfl | hmem
        · exact hended
        · exact h.ring c hmem
      · cases hletter : name.bind letter? with
        | none =>
          simp only [hletter] at hc
          exact h.named l c hc
        | some l' =>
          simp only [hletter] at hc
          split at hc
          · exact Option.some.inj hc ▸ hended
          · exact h.named l c hc

/-! ### Registers that hold the same -/

/-- The registers hold the same; the last searches may differ. -/
structure Alike (r r' : Registers) : Prop where
  unnamed : r'.unnamed = r.unnamed
  ring : r'.ring = r.ring
  named : r'.named = r.named

theorem Alike.refl (r : Registers) : r.Alike r := ⟨rfl, rfl, rfl⟩

theorem Alike.of_eq (h : r' = r) : r.Alike r' := h ▸ .refl r

theorem Alike.ended (h : r.Alike r') (hr : r.Ended) : r'.Ended :=
  ⟨h.unnamed ▸ hr.unnamed, h.ring ▸ hr.ring, h.named ▸ hr.named⟩

theorem Alike.symm (h : r.Alike r') : r'.Alike r := ⟨h.unnamed.symm, h.ring.symm, h.named.symm⟩

theorem Alike.ended_iff (h : r.Alike r') : r.Ended ↔ r'.Ended := ⟨h.ended, h.symm.ended⟩

theorem Alike.write (h : r.Alike r') (name : Option Char) (new : Content) :
    (r.write name new).Alike (r'.write name new) := by
  have hpayload : r'.payload name new = r.payload name new := by
    unfold payload
    rw [h.named]
  unfold Registers.write
  rw [hpayload]
  split
  · exact h
  · exact ⟨rfl, by rw [h.ring], by rw [h.named]⟩

/-- Registers `r'` hold what `r` does, but for one write under `name` at most.
What was written ends with a line feed if it is whole lines. -/
inductive After (r : Registers) (name : Option Char) (r' : Registers) : Prop
  | same : r.Alike r' → After r name r'
  | written (new : Content) : new.Ended → (r.write name new).Alike r' → After r name r'

theorem After.of_eq {name : Option Char} (h : r' = r) : r.After name r' := .same (.of_eq h)

end Registers

namespace Editor

/-! ### What commands do to registers -/

@[simp]
theorem registers_modifyRegisters (e : Editor) (f : Registers → Registers) :
    (e.modifyRegisters f).registers = f e.registers := by
  unfold modifyRegisters registers
  cases e.own <;> rfl

@[simp]
theorem text_modifyRegisters (e : Editor) (f : Registers → Registers) :
    (e.modifyRegisters f).text = e.text := by
  unfold modifyRegisters
  cases e.own <;> rfl

@[simp]
theorem cursor_modifyRegisters (e : Editor) (f : Registers → Registers) :
    (e.modifyRegisters f).cursor = e.cursor := by
  unfold modifyRegisters
  cases e.own <;> rfl

@[simp]
theorem registers_moveTo (e : Editor) (p : Nat) (s : Stickiness) :
    (e.moveTo p s).registers = e.registers := by
  cases s <;> rfl

@[simp]
theorem registers_settle (e : Editor) (s : Stickiness) : (e.settle s).registers = e.registers :=
  e.registers_moveTo _ s

@[simp]
theorem registers_replace (e : Editor) (start len : Nat) (new : Text) :
    (e.replace start len new).registers = e.registers := rfl

@[simp]
theorem registers_request (e : Editor) (name : ModeName) (args : List ModeArg) :
    (e.request name args).registers = e.registers := rfl

@[simp]
theorem registers_showInfo (e : Editor) (message : String) :
    (e.showInfo message).registers = e.registers := rfl

@[simp]
theorem registers_report (e : Editor) (err : CommandError) :
    (e.report err).registers = e.registers := rfl

theorem alike_remember (e : Editor) (find : Option CharSearch) :
    e.registers.Alike (e.remember find).registers := by
  cases find with
  | none => exact .refl _
  | some s =>
    unfold remember
    rw [registers_modifyRegisters]
    exact ⟨rfl, rfl, rfl⟩

/-- **A motion** leaves all registers as they are. -/
theorem alike_follow {e e' : Editor} {m : Motion} {count : Option Nat}
    (h : e.follow m count = (e', none)) : e.registers.Alike e'.registers := by
  have hkeep : (e.keepColumn m).registers = e.registers := by
    unfold keepColumn
    split
    · exact e.registers_moveTo _ _
    · rfl
  have hrecord := (e.keepColumn m).alike_remember m.recording?
  unfold follow at h
  simp only at h
  split at h
  · obtain rfl := (Prod.mk.inj h).1
    rw [registers_moveTo, ← hkeep]
    exact hrecord
  · cases h

@[simp]
theorem registers_putText (e : Editor) (new : Text) (side : PutSide) :
    (e.putText new side).registers = e.registers := by
  unfold putText
  rw [registers_moveTo, registers_replace]

@[simp]
theorem registers_putLines (e : Editor) (new : Text) (side : PutSide) :
    (e.putLines new side).registers = e.registers := by
  unfold putLines
  cases side with
  | before => simp
  | after =>
    simp only
    split <;> simp

theorem registers_put {e e' : Editor} {register : Option Char} {n : Nat} {side : PutSide}
    (h : e.put register n side = .ok e') : e'.registers = e.registers := by
  unfold put at h
  split at h
  · cases h
  · simp only at h
    split at h
    · cases h
    · obtain rfl := Except.ok.inj h
      split <;> simp

end Editor

namespace Operator

/-- What an operator takes into a register. -/
def taken (t : Text) (r : Range) (kind : TextKind) : Content := ⟨registerText t r kind, kind⟩

/-- **What is taken** ends with a line feed if it is whole lines. -/
theorem ended_taken (t : Text) (r : Range) (kind : TextKind) : (taken t r kind).Ended := by
  intro hkind
  have hlines : kind = .lines := hkind
  show Text.endsLine (registerText t r kind) = true
  unfold registerText
  rw [hlines]
  by_cases hends : Text.endsLine (t.within r) = true
  · simp [hends]
  · simp [hends, Text.endsLine_feed]

/-- **An operator** writes what it takes to the register named, and to no
other. -/
theorem registers_apply (op : Operator) (e : Editor) (r : Range) (kind : TextKind)
    (register : Option Char) :
    (op.apply e r kind register).registers = e.registers.write register (taken e.text r kind) := by
  unfold apply taken
  cases op <;> simp

end Operator
end Keywise
