/-
# Motions by characters, lines and the whole text

Key definitions: `LineMotion`, `LineMotion.destination`.
-/
import Keywise.Text.Rest
import Keywise.Text.Offset
import Keywise.Motion.Step

namespace Keywise

/-- The column that vertical motions aim at. -/
inductive Sticky where
  | column (n : Nat)
  | lineEnd
  deriving DecidableEq, Repr

namespace Sticky

/-- The offset on line `l` for a column, `current` if none is kept. -/
def onLine (sticky : Option Sticky) (current : Nat) (l : Line) : Nat :=
  match sticky with
  | some lineEnd => l.stop
  | some (column c) => l.start + min c l.length
  | none => l.start + min current l.length

end Sticky

/-- Motions that count characters or lines. -/
inductive LineMotion where
  | left
  | right
  | up
  | down
  | lineStart
  | firstNonBlank
  | lineEnd
  /-- To the line the count names, the first if there is none. -/
  | firstLine
  /-- To the line the count names, the last if there is none. -/
  | lastLine
  /-- The line of the cursor and those below it, as many as the count. -/
  | currentLines
  deriving DecidableEq, Repr

namespace LineMotion

/-- The line `delta` lines away, among those the cursor may rest on. -/
def lineAway (t : Text) (l : Line) (delta : Int) : Line :=
  t.line (min (Offset.shift l.number delta) t.lastLine)

/-- The line a count names, the first being number one. -/
def namedLine (t : Text) (count : Option Nat) (default : Nat) : Line :=
  let n := match count with
    | some c => max c 1 - 1
    | none => default
  t.line (min n t.lastLine)

/-- Where the motion leads from offset `p`. -/
def destination (m : LineMotion) (t : Text) (sticky : Option Sticky) (count : Option Nat)
    (p : Nat) : Nat :=
  let n := countOf count
  let l := t.lineAt p
  match m with
  | left => max (p - n) l.start
  | right => min (p + n) l.stop
  | up => Sticky.onLine sticky (p - l.start) (lineAway t l (Offset.negate (Offset.signed n)))
  | down => Sticky.onLine sticky (p - l.start) (lineAway t l (Offset.signed n))
  | lineStart => l.start
  | firstNonBlank => t.firstNonBlank l
  | lineEnd => (lineAway t l (Offset.signed (n - 1))).last
  | firstLine => t.firstNonBlank (namedLine t count 0)
  | lastLine => t.firstNonBlank (namedLine t count t.lastLine)
  | currentLines => (lineAway t l (Offset.signed (n - 1))).start

/-- The name of the motion. -/
def name : LineMotion → String
  | left => "h"
  | right => "l"
  | up => "k"
  | down => "j"
  | lineStart => "0"
  | firstNonBlank => "^"
  | lineEnd => "$"
  | firstLine => "gg"
  | lastLine => "G"
  | currentLines => "lines"

end LineMotion
end Keywise
