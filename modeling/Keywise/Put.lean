/-
# Putting text from a register

Part of a line is put at the cursor or behind it, whole lines before the
cursor's line or after it.

Key definitions: `Editor.put`.
-/
import Keywise.Operator

namespace Keywise

/-- On which side of the cursor to put. -/
inductive PutSide where
  | after
  | before
  deriving DecidableEq, Repr

/-- A text without the line feed at its end, if it has one. -/
def Text.chomp (t : Text) : Text := if t.endsLine then t.dropLast else t

namespace Editor

/-- Puts a text that is not empty and part of a line. The cursor goes to its
last character. -/
def putText (e : Editor) (new : Text) (side : PutSide) : Editor :=
  let p := match side with
    | .before => e.cursor
    | .after => if e.line.length = 0 then e.cursor else min (e.cursor + 1) e.line.stop
  (e.replace p 0 new).moveTo (p + new.length - 1) .column

/-- Puts whole lines. The cursor goes to the first of them. A line is begun
for them after a last line that no break ends. -/
def putLines (e : Editor) (new : Text) (side : PutSide) : Editor :=
  let l := e.line
  let (e, first) := match side with
    | .before => (e.replace l.start 0 new, l.start)
    | .after =>
      let p := e.text.nextStart l.number
      if l.stop = e.text.length then (e.replace p 0 ('\n' :: Text.chomp new), p + 1)
      else (e.replace p 0 new, p)
  e.moveTo (e.text.firstNonBlank (e.text.lineAt first)) .column

/-- Puts what a register holds, as often as the count says and at least
once. -/
def put (e : Editor) (register : Option Char) (count : Nat) (side : PutSide) :
    Except CommandError Editor :=
  match e.registers.read register with
  | none => .error (.emptyRegister (register.getD '"'))
  | some content =>
    let new := (List.replicate (max count 1) content.text).flatten
    if new.isEmpty then .error (.emptyRegister (register.getD '"'))
    else .ok (match content.kind with
      | .text => e.putText new side
      | .lines => e.putLines new side)

end Editor
end Keywise
