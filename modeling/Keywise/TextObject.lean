/-
# Text objects

A text object is a rule for a range: what a motion passes over, what lies
between the ends of two motions, a sub-word, or the selection.

Key definitions: `TextObject`, `TextObject.region`, `Motion.span`,
`Editor.charsOnLine`.
-/
import Keywise.Editor

namespace Keywise

/-- The range an operator takes for a motion from `p` to `q`. A motion that
takes the character it leads to does not take a line feed or carriage return
there. -/
def Motion.span (m : Motion) (t : Text) (p q : Nat) : Range :=
  match m.border with
  | .exclusive => .between p q
  | .inclusive =>
    if (t[q]? == some '\n' || t[q]? == some '\r') && p ≤ q then .between p q else .through t p q
  | .lines => .lines t p q

/-- A rule for a range. -/
inductive TextObject where
  | motion (m : Motion)
  /-- Between the ends of two motions, of which the second takes the count. -/
  | pair (name : String) (left right : Motion)
  | subword (outer : Bool)
  | selection
  deriving DecidableEq, Repr

namespace TextObject

/-- The run at the cursor, and further ones by the count. -/
def innerWord (big : Bool) : TextObject :=
  .pair (if big then "iW" else "iw") (.word .runStart big) (.word .runEnd big)

/-- From the start of the run at the cursor to the start of the next word. -/
def outerWord (big : Bool) : TextObject :=
  .pair (if big then "aW" else "aw") (.word .runStart big) (.word .forward big)

/-- The range of the object at the cursor. A motion that fails leaves none,
but a search to be recorded is recorded nevertheless. -/
def region (o : TextObject) (e : Editor) (count : Option Nat) :
    Editor × Except CommandError Range :=
  match o with
  | motion m =>
    let e := e.recording m
    (e, (e.destination m count e.cursor).map (m.span e.text e.cursor))
  | pair _ left right =>
    let e := e.recording left
    match e.destination left none e.cursor with
    | .error err => (e, .error err)
    | .ok p =>
      let e := e.recording right
      (e, (e.destination right count e.cursor).map fun q =>
        .between p (if right.border = .inclusive then Offset.shift q 1 else q))
  | subword outer => (e, .ok (subwordObject outer e.text count e.cursor))
  | selection =>
    (e, .ok (match e.selection with
      | some s => s.range e.text
      | none => .between e.cursor e.cursor))

/-- Whether the object is part of a line or whole lines. -/
def kind : TextObject → TextKind
  | motion m => m.border.textKind
  | _ => .text

/-- The name of the object. -/
def name : TextObject → String
  | motion m => m.name
  | pair name _ _ => name
  | subword outer => if outer then "a\\" else "i\\"
  | selection => "selection"

end TextObject

namespace Editor

/-- Whether the selection is of characters or of lines. -/
def selectionKind (e : Editor) : TextKind :=
  match e.selection with
  | some s => if s.kind = .lines then .lines else .text
  | none => .text

/-- The characters from the cursor on, at most `n` and all on its line. -/
def charsOnLine (e : Editor) (n : Nat) : Range :=
  .between e.cursor (max (min (e.cursor + n) e.line.stop) e.cursor)

end Editor
end Keywise
