/-
# Commands in a scope

An editor in a scope has registers of its own, in use in the place of the
shared ones. Whatever a command does it does in a scope just as well: it
finds in the scope's registers what it would find in the shared ones, writes
there what it would write, and neither reads nor changes the shared registers
(`Editor.inScope`). Each function that works on an editor has one lemma that
says so, and none but `Editor.modifyRegisters_inScope` has to look at where
the registers are.

Key definitions: `Editor.inScope`, `Editor.outcomeInScope`,
`Editor.replyInScope`.
Key theorems: `Editor.modifyRegisters_inScope`, `Editor.follow_inScope`,
`TextObject.region_inScope`, `Operator.apply_inScope`, `Editor.put_inScope`.
-/
import Keywise.Mode.MotionKeys
import Keywise.Put

namespace Keywise
namespace Editor

/-- The same editor in a scope: the registers in use are those of the scope,
and `r` are the shared ones. -/
def inScope (e : Editor) (r : Registers) : Editor :=
  { e with own := some e.registers, shared := r }

/-- An editor with what a command says of itself, in a scope. -/
def outcomeInScope {α : Type} (r : Registers) (x : Editor × α) : Editor × α := (x.1.inScope r, x.2)

/-- What a mode keeps, the editor and what the mode says of itself, in a
scope. -/
def replyInScope {α β : Type} (r : Registers) (x : α × Editor × β) : α × Editor × β :=
  (x.1, x.2.1.inScope r, x.2.2)

variable (e : Editor) (r : Registers)

@[simp]
theorem outcomeInScope_mk {α : Type} (a : α) : outcomeInScope r (e, a) = (e.inScope r, a) := rfl

@[simp]
theorem replyInScope_mk {α β : Type} (a : α) (b : β) :
    replyInScope r (a, e, b) = (a, e.inScope r, b) := rfl

/-! ### What is read -/

@[simp]
theorem registers_inScope : (e.inScope r).registers = e.registers := rfl

@[simp]
theorem text_inScope : (e.inScope r).text = e.text := rfl

@[simp]
theorem cursor_inScope : (e.inScope r).cursor = e.cursor := rfl

@[simp]
theorem sticky_inScope : (e.inScope r).sticky = e.sticky := rfl

@[simp]
theorem selection_inScope : (e.inScope r).selection = e.selection := rfl

@[simp]
theorem keyMaps_inScope : (e.inScope r).keyMaps = e.keyMaps := rfl

@[simp]
theorem line_inScope : (e.inScope r).line = e.line := rfl

@[simp]
theorem charsOnLine_inScope (n : Nat) : (e.inScope r).charsOnLine n = e.charsOnLine n := rfl

@[simp]
theorem destination_inScope (m : Motion) (count : Option Nat) (p : Nat) :
    (e.inScope r).destination m count p = e.destination m count p := rfl

/-! ### What is changed -/

/-- **The registers changed are those in use.** -/
@[simp]
theorem modifyRegisters_inScope (f : Registers → Registers) :
    (e.inScope r).modifyRegisters f = (e.modifyRegisters f).inScope r := by
  unfold inScope modifyRegisters registers
  cases e.own <;> rfl

@[simp]
theorem moveTo_inScope (p : Nat) (s : Stickiness) :
    (e.inScope r).moveTo p s = (e.moveTo p s).inScope r := by
  cases s <;> rfl

@[simp]
theorem settle_inScope (s : Stickiness) : (e.inScope r).settle s = (e.settle s).inScope r :=
  e.moveTo_inScope r _ s

@[simp]
theorem replace_inScope (start len : Nat) (new : Text) :
    (e.inScope r).replace start len new = (e.replace start len new).inScope r := rfl

@[simp]
theorem request_inScope (name : ModeName) (args : List ModeArg) :
    (e.inScope r).request name args = (e.request name args).inScope r := rfl

@[simp]
theorem replay_inScope (k : Key) : (e.inScope r).replay k = (e.replay k).inScope r := rfl

@[simp]
theorem showInfo_inScope (message : String) :
    (e.inScope r).showInfo message = (e.showInfo message).inScope r := rfl

@[simp]
theorem report_inScope (err : CommandError) :
    (e.inScope r).report err = (e.report err).inScope r := rfl

@[simp]
theorem recording_inScope (m : Motion) :
    (e.inScope r).recording m = (e.recording m).inScope r := by
  unfold recording
  split
  · exact e.modifyRegisters_inScope r _
  · rfl

/-! ### Motions -/

@[simp]
theorem keepColumn_inScope (m : Motion) :
    (e.inScope r).keepColumn m = (e.keepColumn m).inScope r := by
  unfold keepColumn
  rw [sticky_inScope]
  split
  · exact e.moveTo_inScope r _ _
  · rfl

@[simp]
theorem follow_inScope (m : Motion) (count : Option Nat) :
    (e.inScope r).follow m count = outcomeInScope r (e.follow m count) := by
  unfold follow
  simp only [keepColumn_inScope, recording_inScope, destination_inScope, cursor_inScope,
    text_inScope, moveTo_inScope]
  cases ((e.keepColumn m).recording m).destination m count e.cursor <;> rfl

end Editor

/-! ### Text objects, operators and putting -/

variable (e : Editor) (r : Registers)

@[simp]
theorem TextObject.region_inScope (o : TextObject) (count : Option Nat) :
    o.region (e.inScope r) count = Editor.outcomeInScope r (o.region e count) := by
  cases o with
  | motion m => simp [region]
  | pair name left right =>
    simp only [region, Editor.recording_inScope, Editor.destination_inScope, Editor.cursor_inScope]
    cases (e.recording left).destination left none (e.recording left).cursor <;> rfl
  | subword outer => rfl
  | selection => rfl

@[simp]
theorem Operator.sameColumn_inScope (p : Nat) :
    Operator.sameColumn (e.inScope r) p = Operator.sameColumn e p := rfl

@[simp]
theorem Operator.apply_inScope (op : Operator) (range : Range) (kind : TextKind)
    (register : Option Char) :
    op.apply (e.inScope r) range kind register = (op.apply e range kind register).inScope r := by
  unfold apply
  cases op <;> simp

@[simp]
theorem Editor.operate_inScope (op : Operator) (o : TextObject) (count : Option Nat)
    (register : Option Char) :
    (e.inScope r).operate op o count register =
      outcomeInScope r (e.operate op o count register) := by
  unfold Editor.operate
  rw [TextObject.region_inScope]
  obtain ⟨e', range | range⟩ := o.region e count <;> simp [outcomeInScope]

@[simp]
theorem Editor.putText_inScope (new : Text) (side : PutSide) :
    (e.inScope r).putText new side = (e.putText new side).inScope r := by
  cases side <;> rfl

@[simp]
theorem Editor.putLines_inScope (new : Text) (side : PutSide) :
    (e.inScope r).putLines new side = (e.putLines new side).inScope r := by
  unfold putLines
  rw [line_inScope, text_inScope]
  cases side with
  | before => rfl
  | after =>
    simp only [replace_inScope]
    split <;> exact moveTo_inScope _ r _ _

@[simp]
theorem Editor.put_inScope (register : Option Char) (n : Nat) (side : PutSide) :
    (e.inScope r).put register n side = (e.put register n side).map (·.inScope r) := by
  unfold Editor.put
  rw [registers_inScope]
  cases e.registers.read register with
  | none => rfl
  | some content =>
    simp only
    split
    · rfl
    · cases content.kind <;> simp [Except.map]

end Keywise
