/-
# Sub-word motions

Inside a word the motions stop where an underscore ends, and where capitals
follow a small letter or a digit. Each looks only at a window: the text
between the offset and the place the word motion leads to. A window without
a boundary makes the motion a word motion.

A scanner goes through the window once. Where it has found a boundary it passes
over the characters that led to it, so that the boundaries found are not always
all there are: of `aBcD` only the first small letter is found to end a sub-word.

Key definitions: `Subword.scan`, `Subword.snakeStarts`, `Subword.snakeEnds`,
`Subword.camelStarts`, `Subword.camelEnds`, `SubwordStep.boundaries`,
`SubwordStep.locate`, `SubwordStep.destination`.
-/
import Keywise.Motion.Word
import Keywise.Text.Range
import Keywise.Unicode.Case

namespace Keywise
namespace Subword

/-- A small ASCII letter or a digit. -/
def isSmall (c : Char) : Bool := c.isLower || c.isDigit

/-- Whether the window is at its end, but for a line feed, a carriage return
or both. -/
def atEnd : Text → Bool
  | [] | ['\n'] | ['\r'] | ['\r', '\n'] => true
  | _ => false

/-- A place that a scanner finds: how far ahead it is of where the scanner
looks, and how many characters are passed over with it. -/
structure Found where
  ahead : Nat
  passed : Nat
  ahead_lt_passed : ahead < passed
  deriving DecidableEq, Repr

/-- The places that a scanner finds in the rest of a window, the first of them
at `p` or later. It is told the character before the rest, if there is one.
Behind a place that it finds it goes on where it has passed over all that
belongs to the place, and else at the next character; `skip` is how many are
still to be passed over. -/
def scan (find : Option Char → Text → Option Found) (before : Option Char) (p skip : Nat) :
    Text → List Nat
  | [] => []
  | c :: w =>
    match skip with
    | skip + 1 => scan find (some c) (p + 1) skip w
    | 0 =>
      match find before (c :: w) with
      | some f => (p + f.ahead) :: scan find (some c) (p + 1) (f.passed - 1) w
      | none => scan find (some c) (p + 1) 0 w

/-- How many characters are passed over behind a capital: the capitals that go
on from it, and if the window does not end there, the small letter or digit
they are followed by. Followed by anything else they start no sub-word. -/
def passedWithCapital? (w : Text) : Option Nat :=
  let capitals := (w.takeWhile Char.isUpper).length
  let rest := w.dropWhile Char.isUpper
  if atEnd rest then some capitals
  else if rest.head?.any isSmall then some (capitals + 1)
  else none

/-- Looks for capitals that follow a small letter or a digit. -/
def camelStart? (before : Option Char) : Text → Option Found
  | [] => none
  | c :: w =>
    if before.any isSmall && c.isUpper then
      (passedWithCapital? w).map fun n => ⟨0, n + 1, Nat.succ_pos n⟩
    else none

/-- Looks for a small letter or a digit that such capitals follow. -/
def camelEnd? : Text → Option Found
  | b :: c :: w =>
    if isSmall b && c.isUpper then
      (passedWithCapital? w).map fun n => ⟨0, n + 2, Nat.succ_pos (n + 1)⟩
    else none
  | _ => none

/-- Looks for underscores and the letter or digit that follows them. -/
def snakeStart? : Text → Option Found
  | '_' :: w =>
    let n := (w.takeWhile (· == '_')).length
    if (w.dropWhile (· == '_')).head?.any Char.isAlphanum then
      some ⟨n + 1, n + 2, Nat.lt_succ_self _⟩
    else none
  | _ => none

/-- Looks for a letter or digit that an underscore follows. -/
def snakeEnd? : Text → Option Found
  | c :: '_' :: _ => if c.isAlphanum then some ⟨0, 2, Nat.two_pos⟩ else none
  | _ => none

/-- The offsets at which capitals start a sub-word. -/
def camelStarts (w : Text) : List Nat := scan camelStart? none 0 0 w

/-- The offsets before such capitals, but for those that are passed over. -/
def camelEnds (w : Text) : List Nat := scan (fun _ => camelEnd?) none 0 0 w

/-- The offsets of letters and digits just after underscores. -/
def snakeStarts (w : Text) : List Nat := scan (fun _ => snakeStart?) none 0 0 w

/-- The offsets of letters and digits just before an underscore. -/
def snakeEnds (w : Text) : List Nat := scan (fun _ => snakeEnd?) none 0 0 w

/-- Whether a window has both capital and small letters: neither lowering nor
raising it leaves it as it is. -/
def isMixed (w : Text) : Bool := Unicode.lowercase w != w && Unicode.uppercase w != w

end Subword

/-- The sub-word motions. -/
inductive SubwordStep where
  | backward
  | wordEnd
  | forward
  deriving DecidableEq, Repr

namespace SubwordStep

/-- The word motion that bounds the window. -/
def wordStep : SubwordStep → WordStep
  | backward => .backward
  | wordEnd => .wordEnd
  | forward => .forward

/-- The boundaries at underscores. A window without any is not looked through. -/
def snakeBoundaries (s : SubwordStep) (w : Text) : List Nat :=
  if w.contains '_' then
    match s with
    | wordEnd => Subword.snakeEnds w
    | _ => Subword.snakeStarts w
  else []

/-- The boundaries at capitals. -/
def camelBoundaries (s : SubwordStep) (w : Text) : List Nat :=
  match s with
  | wordEnd => Subword.camelEnds w
  | _ => Subword.camelStarts w

/-- The boundaries found in a window, in ascending order. Those at capitals are
looked for in mixed case only, and sorted in if there are others. -/
def boundaries (s : SubwordStep) (w : Text) : List Nat :=
  let snake := s.snakeBoundaries w
  if Subword.isMixed w then
    let all := snake ++ s.camelBoundaries w
    if snake.isEmpty then all else all.mergeSort
  else snake

/-- The boundary in the window between `offset` and the place one word motion
from `origin` leads to: the last one backward, the first one forward, or the
edge of the window. -/
def locate (s : SubwordStep) (t : Text) (origin offset : Nat) : Nat :=
  let window := Range.between (s.wordStep.once false t origin) offset
  let w := t.within window
  window.left + match s with
    | backward => (s.boundaries w).getLast?.getD 0
    | _ => (s.boundaries w).head?.getD w.length

/-- One step from `p` of a motion that began at `origin`. A step to the end
of a sub-word that stands still looks one character further. -/
def once (s : SubwordStep) (t : Text) (origin p : Nat) : Nat :=
  let q := s.locate t origin p
  if s = wordEnd ∧ q = p ∧ q < t.length then s.locate t origin (q + 1) else q

/-- Where `n` steps lead from `p`. -/
def destination (s : SubwordStep) (t : Text) (n p : Nat) : Nat :=
  repeated (s.once t p) n p

/-- The name of the motion. -/
def name : SubwordStep → String
  | backward => "\\b"
  | wordEnd => "\\e"
  | forward => "\\w"

end SubwordStep

/-- The place reached, unless it is past the limit, which stops it there. -/
def stopAt (limit q : Nat) : Nat × Bool := if q > limit then (limit, true) else (q, false)

/-- Steps forward to sub-word starts `n` times from `p`, then takes the step
`last`. A step past the limit is the last one and stops at the limit, which
the flag tells. Where a step stands still, all others but the last would. -/
def climbSubwords (t : Text) (cursor limit : Nat) (last : SubwordStep) : Nat → Nat → Nat × Bool
  | 0, p => stopAt limit (last.locate t cursor p)
  | n + 1, p =>
    let q := SubwordStep.forward.locate t cursor p
    if q > limit then (limit, true)
    else if q = p then stopAt limit (last.locate t cursor p)
    else climbSubwords t cursor limit last n q

/-- The sub-word at the cursor and those after it in the word, `count` of
them. The outer object takes the underscore that follows. -/
def subwordObject (outer : Bool) (t : Text) (count : Option Nat) (cursor : Nat) : Range :=
  let atWordStart := decide (0 < cursor) &&
    (t[cursor - 1]?.any fun c => !CharClass.isWordChar c) && t[cursor]?.any CharClass.isWordChar
  let start :=
    if atWordStart then cursor else SubwordStep.backward.locate t cursor (cursor + 1)
  let reached := climbSubwords t cursor (Words.wordEnd false t cursor)
    (if outer then .forward else .wordEnd) (countOf count - 1) cursor
  .between start (if !outer || reached.2 then reached.1 + 1 else reached.1)

end Keywise
