/-
# Operators

An operator takes a range into a register and leaves it, removes it, or
removes it so that other text can be typed in its place. Whole lines in a
register always end with a line feed.

Key definitions: `Operator.apply`, `Operator.registerText`,
`Operator.removal`, `Editor.operate`.
-/
import Keywise.TextObject

namespace Keywise

/-- What to do with a range. -/
inductive Operator where
  | delete
  | yank
  | change
  deriving DecidableEq, Repr

/-- Whether the last character of a text is a line feed. -/
def Text.endsLine (t : Text) : Bool := t.getLast? == some '\n'

namespace Operator

/-- The operator of a key. -/
def ofChar? : Char → Option Operator
  | 'd' => some delete
  | 'y' => some yank
  | 'c' => some change
  | _ => none

/-- The key of the operator. -/
def char : Operator → Char
  | delete => 'd'
  | yank => 'y'
  | change => 'c'

theorem ofChar?_char (op : Operator) : ofChar? op.char = some op := by cases op <;> rfl

/-- What a register gets of a range. -/
def registerText (t : Text) (r : Range) (kind : TextKind) : Text :=
  if kind = .lines && !(t.within r).endsLine then t.within r ++ ['\n'] else t.within r

/-- What is removed with a range. Lines at the end of a text that does not
end with a line feed take the one before them along. -/
def removal (t : Text) (r : Range) (kind : TextKind) : Range :=
  if kind = .lines && !(t.within r).endsLine && r.right == t.length && 0 < r.left then
    .between (r.left - 1) r.right
  else r

/-- The first character that is no blank on the line of `p`, or on the last
line the cursor may rest on if that is earlier. -/
def lineAfterEdit (t : Text) (p : Nat) : Nat :=
  let l := t.lineAt p
  t.firstNonBlank (if l.number > t.lastLine then t.line t.lastLine else l)

/-- The column of the cursor on the line of `p`. -/
def sameColumn (e : Editor) (p : Nat) : Nat :=
  let l := e.text.lineAt p
  min (l.start + (e.cursor - e.line.start)) l.last

/-- Applies the operator to a range. -/
def apply (op : Operator) (e : Editor) (r : Range) (kind : TextKind) (register : Option Char) :
    Editor :=
  let taken := registerText e.text r kind
  let e := e.modifyRegisters (·.write register ⟨taken, kind⟩)
  match op with
  | yank =>
    e.moveTo (match kind with
      | .text => r.left
      | .lines => sameColumn e r.left) .column
  | delete =>
    let gone := removal e.text r kind
    let e := e.replace gone.left gone.length []
    e.moveTo (match kind with
      | .text => gone.left
      | .lines => lineAfterEdit e.text gone.left) .column
  | change =>
    let kept := if kind = .lines && (e.text.within r).endsLine then ['\n'] else []
    ((e.replace r.left r.length kept).moveTo r.left .column).request .insert []

end Operator

/-- Applies an operator to the text object at the cursor. -/
def Editor.operate (e : Editor) (op : Operator) (o : TextObject) (count : Option Nat)
    (register : Option Char) : Editor × Option CommandError :=
  match o.region e count with
  | (e, .ok r) => (op.apply e r o.kind register, none)
  | (e, .error err) => (e, some err)

end Keywise
