/-
# What commands leave alone

Most commands change the text, the cursor, the column aimed at and the
registers, and nothing else but messages; they may ask for a mode. Such an
editor is edited, with the modes asked for (`Editor.Edited`). The cursor of
one that is edited stays within the text.

A motion that fails does less: at most a character search is recorded
(`Editor.follow_error`). One that succeeds takes the cursor to a resting
place (`Editor.follow_ok`).

Key definitions: `Editor.Edited`, `Editor.remember`.
Key theorems: `Editor.edited_moveTo`, `Editor.edited_replace_moveTo`,
`Operator.edited_apply`, `Editor.follow_error`, `Editor.follow_ok`,
`TextObject.exists_remember_region`.
-/
import Keywise.Mode.MotionKeys
import Keywise.Proofs.Text.Resting
import Keywise.Put

namespace Keywise
namespace Editor

/-- Nothing but the text, the cursor, the column aimed at, registers, key maps
and messages differ from `e` in `e'`, and the modes `rs` are asked for. The
cursor stays within the text. -/
structure Edited (rs : List ModeRequest) (e e' : Editor) : Prop where
  selection : e'.selection = e.selection
  commandLine : e'.screen.commandLine = e.screen.commandLine
  display : e'.screen.mode = e.screen.mode
  requests : e'.requests = e.requests ++ rs
  replays : e'.replays = e.replays
  cursor_le : e.cursor ≤ e.text.length → e'.cursor ≤ e'.text.length

theorem Edited.refl (e : Editor) : Edited [] e e :=
  ⟨rfl, rfl, rfl, (List.append_nil _).symm, rfl, id⟩

theorem Edited.trans {rs rs' : List ModeRequest} {e e' e'' : Editor} (h : Edited rs e e')
    (h' : Edited rs' e' e'') : Edited (rs ++ rs') e e'' :=
  ⟨h'.selection.trans h.selection, h'.commandLine.trans h.commandLine,
    h'.display.trans h.display, by rw [h'.requests, h.requests, List.append_assoc],
    h'.replays.trans h.replays, fun hle => h'.cursor_le (h.cursor_le hle)⟩

theorem Edited.then {rs : List ModeRequest} {e e' e'' : Editor} (h : Edited [] e e')
    (h' : Edited rs e' e'') : Edited rs e e'' :=
  h.trans h'

theorem Edited.eq_nil {rs : List ModeRequest} {e e' : Editor} (h : Edited rs e e')
    (hnil : e'.requests = []) : rs = [] := by
  rw [h.requests] at hnil
  exact (List.append_eq_nil_iff.mp hnil).2

/-- A cursor that is moved is in the text, wherever it was. -/
theorem edited_replace_moveTo (e : Editor) (start len : Nat) (new : Text) (p : Nat)
    (s : Stickiness) : Edited [] e ((e.replace start len new).moveTo p s) := by
  cases s <;>
    exact ⟨rfl, rfl, rfl, (List.append_nil _).symm, rfl, fun _ => Nat.min_le_right _ _⟩

theorem edited_moveTo (e : Editor) (p : Nat) (s : Stickiness) : Edited [] e (e.moveTo p s) := by
  cases s <;>
    exact ⟨rfl, rfl, rfl, (List.append_nil _).symm, rfl, fun _ => Nat.min_le_right _ _⟩

theorem edited_settle (e : Editor) (s : Stickiness) : Edited [] e (e.settle s) :=
  e.edited_moveTo _ s

theorem edited_modifyRegisters (e : Editor) (f : Registers → Registers) :
    Edited [] e (e.modifyRegisters f) := by
  unfold modifyRegisters
  split <;> exact ⟨rfl, rfl, rfl, (List.append_nil _).symm, rfl, id⟩

theorem edited_request (e : Editor) (name : ModeName) (args : List ModeArg) :
    Edited [⟨name, args⟩] e (e.request name args) :=
  ⟨rfl, rfl, rfl, rfl, rfl, id⟩

theorem edited_showError (e : Editor) (message : String) : Edited [] e (e.showError message) :=
  ⟨rfl, rfl, rfl, (List.append_nil _).symm, rfl, id⟩

theorem edited_showInfo (e : Editor) (message : String) : Edited [] e (e.showInfo message) :=
  ⟨rfl, rfl, rfl, (List.append_nil _).symm, rfl, id⟩

theorem edited_report (e : Editor) (err : CommandError) : Edited [] e (e.report err) :=
  e.edited_showError err.message

/-! ### The last character search -/

/-- The editor with another last character search, if one is given. -/
def remember (e : Editor) (find : Option CharSearch) : Editor :=
  match find with
  | some s => e.modifyRegisters fun r => { r with lastFind := some s }
  | none => e

theorem remember_remember (e : Editor) (s s' : Option CharSearch) :
    (e.remember s).remember s' = e.remember (s'.or s) := by
  cases s <;> cases s' <;> try rfl
  unfold remember modifyRegisters
  cases e.own <;> rfl

theorem edited_remember (e : Editor) (find : Option CharSearch) :
    Edited [] e (e.remember find) := by
  cases find with
  | none => exact .refl e
  | some s => exact e.edited_modifyRegisters _

theorem text_remember (e : Editor) (find : Option CharSearch) :
    (e.remember find).text = e.text := by
  unfold remember modifyRegisters
  repeat' split
  all_goals rfl

theorem cursor_remember (e : Editor) (find : Option CharSearch) :
    (e.remember find).cursor = e.cursor := by
  unfold remember modifyRegisters
  repeat' split
  all_goals rfl

/-! ### Motions -/

theorem edited_keepColumn (e : Editor) (m : Motion) : Edited [] e (e.keepColumn m) := by
  unfold keepColumn
  split
  · exact e.edited_moveTo _ _
  · exact .refl e

theorem text_keepColumn (e : Editor) (m : Motion) : (e.keepColumn m).text = e.text := by
  unfold keepColumn
  split
  · exact e.text_moveTo _ _
  · rfl

/-- Only searches fail, and they do not keep a column. -/
theorem keepColumn_of_destination_error {e e' : Editor} {m : Motion} {count : Option Nat}
    {p : Nat} {err : CommandError} (h : e'.destination m count p = .error err) :
    e.keepColumn m = e := by
  have hkeep : m.stickiness ≠ .keep := by
    cases m with
    | line m => cases h
    | word s big => cases h
    | subword s => cases h
    | find s again recorded => exact Stickiness.noConfusion
    | search s => exact Stickiness.noConfusion
  unfold keepColumn
  rw [if_neg (fun hn => hkeep hn.1)]

/-- **A motion that fails** changes nothing but the last character search. -/
theorem follow_error {e e' : Editor} {m : Motion} {count : Option Nat} {err : CommandError}
    (h : e.follow m count = (e', some err)) : e' = e.remember m.recording? := by
  unfold follow at h
  simp only at h
  split at h
  · cases h
  · next err' hdest =>
    rw [keepColumn_of_destination_error hdest] at h
    exact (Prod.mk.inj h).1.symm

/-- **A motion that succeeds** takes the cursor to a resting place. -/
theorem follow_ok {e e' : Editor} {m : Motion} {count : Option Nat}
    (h : e.follow m count = (e', none)) :
    Edited [] e e' ∧ e'.text = e.text ∧ ∃ q, e'.cursor = e.text.rest q := by
  have htext : ((e.keepColumn m).recording m).text = e.text :=
    (text_remember _ _).trans (e.text_keepColumn m)
  unfold follow at h
  simp only at h
  split at h
  · next q hdest =>
    obtain rfl := (Prod.mk.inj h).1
    refine ⟨?_, ?_, q, ?_⟩
    · exact ((e.edited_keepColumn m).then (edited_remember _ _)).then (edited_moveTo _ _ _)
    · rw [text_moveTo, htext]
    · rw [cursor_moveTo, htext]
      exact Nat.min_eq_left (e.text.rest_le_length q)
  · cases h

end Editor

/-! ### Text objects and operators -/

/-- To find the range of an object is at most to record a search. -/
theorem TextObject.exists_remember_region (o : TextObject) (e : Editor) (count : Option Nat) :
    ∃ find, (o.region e count).1 = e.remember find := by
  cases o with
  | motion m => exact ⟨m.recording?, rfl⟩
  | pair name left right =>
    unfold region
    simp only
    split
    · exact ⟨left.recording?, rfl⟩
    · exact ⟨right.recording?.or left.recording?, e.remember_remember _ _⟩
  | subword outer => exact ⟨none, rfl⟩
  | selection => exact ⟨none, rfl⟩

namespace Operator

/-- The modes an operator asks for. -/
def requests : Operator → List ModeRequest
  | change => [⟨.insert, []⟩]
  | _ => []

/-- **An operator** edits, and asks for Insert mode if it is to change. -/
theorem edited_apply (op : Operator) (e : Editor) (r : Range) (kind : TextKind)
    (register : Option Char) : Editor.Edited op.requests e (op.apply e r kind register) := by
  have hwrite := e.edited_modifyRegisters (·.write register ⟨registerText e.text r kind, kind⟩)
  unfold apply requests
  cases op with
  | yank => exact hwrite.then (Editor.edited_moveTo _ _ _)
  | delete => exact hwrite.then (Editor.edited_replace_moveTo _ _ _ _ _ _)
  | change =>
    exact (hwrite.then (Editor.edited_replace_moveTo _ _ _ _ _ _)).then
      (Editor.edited_request _ _ _)

end Operator

namespace Editor

theorem edited_putText (e : Editor) (new : Text) (side : PutSide) :
    Edited [] e (e.putText new side) := by
  unfold putText
  exact e.edited_replace_moveTo _ _ _ _ _

theorem edited_putLines (e : Editor) (new : Text) (side : PutSide) :
    Edited [] e (e.putLines new side) := by
  unfold putLines
  cases side with
  | before => exact e.edited_replace_moveTo _ _ _ _ _
  | after =>
    simp only
    split <;> exact e.edited_replace_moveTo _ _ _ _ _

theorem edited_put {e e' : Editor} {register : Option Char} {n : Nat} {side : PutSide}
    (h : e.put register n side = .ok e') : Edited [] e e' := by
  unfold put at h
  split at h
  · cases h
  · simp only at h
    split at h
    · cases h
    · obtain rfl := Except.ok.inj h
      split
      · exact e.edited_putText _ _
      · exact e.edited_putLines _ _

end Editor
end Keywise
