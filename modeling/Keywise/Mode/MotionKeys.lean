/-
# The keys of motions

Normal and Visual mode read motions alike. Most are one key; `g`, the
backslash and the character searches take another one.

Key definitions: `MotionLead`, `readMotion`, `Key.specialMotion?`,
`Editor.follow`, `Count.addDigit`.
-/
import Keywise.TextObject

namespace Keywise

/-- The first key of a motion that takes two. -/
inductive MotionLead where
  | g
  | backslash
  | find (backward upTo : Bool)
  deriving DecidableEq, Repr

namespace MotionLead

/-- Whether any character may follow, so that it must not be mapped. -/
def takesAny : MotionLead → Bool
  | find .. => true
  | _ => false

/-- The key that starts such a motion. -/
def ofChar? : Char → Option MotionLead
  | 'g' => some g
  | '\\' => some backslash
  | 'f' => some (find false false)
  | 'F' => some (find true false)
  | 't' => some (find false true)
  | 'T' => some (find true true)
  | _ => none

/-- The motion that the second key completes. -/
def complete? : MotionLead → Char → Option Motion
  | g, 'g' => some (.line .firstLine)
  | backslash, 'w' => some (.subword .forward)
  | backslash, 'b' => some (.subword .backward)
  | backslash, 'e' => some (.subword .wordEnd)
  | find backward upTo, c => some (.find ⟨c, backward, upTo⟩ false true)
  | _, _ => none

end MotionLead

/-- What a character is as part of a motion. -/
inductive MotionRead where
  /-- The first of two keys. -/
  | more (lead : MotionLead)
  | motion (m : Motion)
  | noMotion
  deriving DecidableEq, Repr

/-- The motion of a single key. Repeating a search needs one to repeat. -/
def motionOf? (r : Registers) : Char → Except CommandError (Option Motion)
  | 'w' => .ok (some (.word .forward false))
  | 'W' => .ok (some (.word .forward true))
  | 'b' => .ok (some (.word .backward false))
  | 'B' => .ok (some (.word .backward true))
  | 'e' => .ok (some (.word .wordEnd false))
  | 'E' => .ok (some (.word .wordEnd true))
  | 'h' => .ok (some (.line .left))
  | 'l' | ' ' => .ok (some (.line .right))
  | 'j' => .ok (some (.line .down))
  | 'k' => .ok (some (.line .up))
  | '0' => .ok (some (.line .lineStart))
  | '^' => .ok (some (.line .firstNonBlank))
  | '$' => .ok (some (.line .lineEnd))
  | 'G' => .ok (some (.line .lastLine))
  | ';' => (Motion.findAgain r false).map some
  | ',' => (Motion.findAgain r true).map some
  | 'n' => (Motion.searchAgain r false).map some
  | 'N' => (Motion.searchAgain r true).map some
  | _ => .ok none

/-- Reads a character as part of a motion, after its first key or without. -/
def readMotion (r : Registers) (lead : Option MotionLead) (c : Char) :
    Except CommandError MotionRead :=
  match lead with
  | some l =>
    match l.complete? c with
    | some m => .ok (.motion m)
    | none => .ok .noMotion
  | none =>
    match motionOf? r c with
    | .error err => .error err
    | .ok (some m) => .ok (.motion m)
    | .ok none =>
      match MotionLead.ofChar? c with
      | some l => .ok (.more l)
      | none => .ok .noMotion

/-- The motion of a key that types no character. -/
def Key.specialMotion? (k : Key) : Option Motion :=
  if k.mods = .none then
    match k.code with
    | .left | .backspace => some (.line .left)
    | .right => some (.line .right)
    | .up => some (.line .up)
    | .down => some (.line .down)
    | .home => some (.line .lineStart)
    | .endKey => some (.line .lineEnd)
    | _ => none
  else none

namespace Editor

/-- Before the first of several vertical motions the column of the cursor is
kept as the one to aim at. -/
def keepColumn (e : Editor) (m : Motion) : Editor :=
  if m.stickiness = .keep ∧ e.sticky = none then e.moveTo e.cursor .column else e

/-- Moves the cursor along a motion to a place where it may rest. -/
def follow (e : Editor) (m : Motion) (count : Option Nat) : Editor × Option CommandError :=
  let p := e.cursor
  let e := (e.keepColumn m).recording m
  match e.destination m count p with
  | .ok q => (e.moveTo (e.text.rest q) m.stickiness, none)
  | .error err => (e, some err)

end Editor

namespace Count

/-- The largest count that can be typed. -/
def limit : Nat := 999999

/-- A count with one more digit. -/
def addDigit (count : Option Nat) (digit : Nat) : Nat := min (count.getD 0 * 10 + digit) limit

/-- The value of a digit that goes on with a count, or starts one: a count
does not start with zero. -/
def digit? (count : Option Nat) (c : Char) : Option Nat :=
  if c.isDigit && (c != '0' || count.isSome) then some (c.toNat - '0'.toNat) else none

/-- The count of a command and of its operand together: their product, none
if neither was typed. -/
def product : Option Nat → Option Nat → Option Nat
  | none, none => none
  | a, b => some (min (a.getD 1 * b.getD 1) limit)

theorem addDigit_le (count : Option Nat) (digit : Nat) : addDigit count digit ≤ limit :=
  Nat.min_le_right ..

end Count

/-- Whether a character names a register. -/
def isRegisterName (c : Char) : Bool := c.isAlphanum || c == '"' || c == '_'

end Keywise
