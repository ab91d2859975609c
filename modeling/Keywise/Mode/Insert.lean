/-
# Insert and Replace mode

Both modes type text. Control keys delete a word or what was typed on the
line, and complete the line; the arrow keys move, as far as behind the last
character. Replace mode writes over characters and takes that back.

Key definitions: `Insert`, `Insert.handle`, `Replace`, `Replace.handle`,
`Typing.control?`.
-/
import Keywise.Mode.MotionKeys

namespace Keywise
namespace Typing

/-- Types a text at the cursor. -/
def type (e : Editor) (new : Text) : Editor :=
  (e.replace e.cursor 0 new).moveTo (e.cursor + new.length) .column

/-- Leaves for Normal mode; the cursor goes back onto the character before
it, on the same line. -/
def escape (e : Editor) : Editor :=
  (if e.cursor > e.line.start then e.moveTo (e.cursor - 1) .column else e).request .normal []

/-- Deletes what is between `start` and the cursor, if it is before it. -/
def deleteBackTo (e : Editor) (start : Nat) : Editor :=
  if start < e.cursor then (e.replace start (e.cursor - start) []).moveTo start .column else e

/-- Deletes the word before the cursor, or its part on the line. -/
def deleteWord (e : Editor) : Editor :=
  deleteBackTo e (max (Words.backward false e.text e.cursor) e.line.start)

/-- Deletes what was typed on the line since `typedFrom`, or what there is
before the cursor. -/
def deleteTyped (e : Editor) (typedFrom : Option Nat) : Editor :=
  let start := typedFrom.filter fun p => e.line.start ≤ p && p < e.cursor
  deleteBackTo e (start.getD e.line.start)

/-- The motion of an arrow key, whatever modifiers are held. -/
def arrow? : KeyCode → Option LineMotion
  | .left => some .left
  | .right => some .right
  | .up => some .up
  | .down => some .down
  | .home => some .lineStart
  | .endKey => some .lineEnd
  | _ => none

/-- Moves by an arrow key, to the end of a line behind its last character. -/
def arrow (e : Editor) (m : LineMotion) : Editor :=
  let p := m.destination e.text e.sticky none e.cursor
  e.moveTo (if m = .lineEnd then (e.text.lineAt p).stop else p) (Motion.line m).stickiness

/-- Handles the keys both modes treat alike. -/
def control? (e : Editor) (k : Key) (typedFrom : Option Nat) : Option Editor :=
  if k.mods.ctrl then
    match k.code with
    | .char 'x' => some (e.request .insertExpand [])
    | .char 'w' => some (deleteWord e)
    | .char 'u' => some (deleteTyped e typedFrom)
    | _ => none
  else
    match k.code with
    | .escape => some (escape e)
    | .tab => some (type e ['\t'])
    | .delete => some (if e.cursor < e.text.length then e.replace e.cursor 1 [] else e)
    | code => (arrow? code).map (arrow e)

theorem control?_of_char? (e : Editor) {k : Key} {c : Char} (h : k.char? = some c)
    (typedFrom : Option Nat) : control? e k typedFrom = none := by
  obtain ⟨code, mods⟩ := k
  cases code with
  | char d =>
    have hmods : ¬ (mods.ctrl || mods.alt) = true := by
      intro hm
      simp [Key.char?, hm] at h
    have hctrl : mods.ctrl = false := by
      rw [Bool.or_eq_true, not_or, Bool.not_eq_true] at hmods
      exact hmods.1
    simp [control?, arrow?, hctrl]
  | _ => cases h

end Typing

/-- Insert mode: where typing began. -/
structure Insert where
  typedFrom : Option Nat := none
  deriving DecidableEq, Repr

namespace Insert

/-- Begins typing, or goes on with it after a completion. -/
def enter (s : Insert) (e : Editor) (args : List ModeArg) : Insert :=
  if args.contains .resume && s.typedFrom.isSome then s else { typedFrom := some e.cursor }

/-- Handles a key: the editor after it, and whether it was of use. -/
def handle (s : Insert) (e : Editor) (k : Key) : Editor × Bool :=
  match Typing.control? e k s.typedFrom with
  | some e => (e, true)
  | none =>
    if k = .plain .enter then (Typing.type e ['\n'], true)
    else if k.code = .backspace then
      (if 0 < e.cursor then Typing.deleteBackTo e (e.cursor - 1) else e, true)
    else match k.char? with
      | some c => (Typing.type e [c], true)
      | none => (e, false)

end Insert

/-- Replace mode: where typing began, and for each key typed the character it
wrote over, if it wrote over one, the last first. -/
structure Replace where
  replaced : List (Option Char) := []
  typedFrom : Option Nat := none
  deriving DecidableEq, Repr

namespace Replace

/-- Begins writing over. -/
def enter (e : Editor) : Replace := { replaced := [], typedFrom := some e.cursor }

/-- The character at the cursor that would be written over: none at the end
of a line. -/
def under? (e : Editor) : Option Char :=
  e.text[e.cursor]?.filter fun c => c != '\n' && c != '\r'

/-- Writes a character. -/
def overwrite (s : Replace) (e : Editor) (c : Char) : Replace × Editor :=
  let under := under? e
  ({ s with replaced := under :: s.replaced },
    (e.replace e.cursor (if under.isSome then 1 else 0) [c]).moveTo (e.cursor + 1) .column)

/-- Takes back the last character written, if there is one, and goes back. -/
def restore (s : Replace) (e : Editor) : Replace × Editor :=
  if e.cursor = 0 then (s, e)
  else
    match s.replaced with
    | some c :: rest =>
      ({ s with replaced := rest },
        (e.replace (e.cursor - 1) 1 [c]).moveTo (e.cursor - 1) .column)
    | none :: rest =>
      ({ s with replaced := rest },
        (e.replace (e.cursor - 1) 1 []).moveTo (e.cursor - 1) .column)
    | [] => (s, e.moveTo (e.cursor - 1) .column)

/-- Handles a key. What control keys do cannot be taken back. -/
def handle (s : Replace) (e : Editor) (k : Key) : Replace × Editor × Bool :=
  if k.code = .backspace then
    let (s, e) := restore s e
    (s, e, true)
  else if k = .plain .enter then
    ({ s with replaced := none :: s.replaced }, Typing.type e ['\n'], true)
  else match Typing.control? e k s.typedFrom with
    | some e => ({ s with replaced := [] }, e, true)
    | none =>
      match k.char? with
      | some c =>
        let (s, e) := overwrite s e c
        (s, e, true)
      | none => (s, e, false)

end Replace
end Keywise
