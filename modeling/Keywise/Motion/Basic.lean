/-
# Motions

A motion leads from one offset to another. What an operator takes between
the two depends on the motion: up to the later one, through it, or whole
lines. What becomes of the column that vertical motions aim at depends on
the motion too.

Key definitions: `Motion`, `Motion.destination`, `Motion.border`,
`Motion.stickiness`, `Motion.findAgain`, `Motion.searchAgain`.
-/
import Keywise.Motion.Find
import Keywise.Motion.Line
import Keywise.Motion.Search
import Keywise.Motion.Subword

namespace Keywise

/-- What an operator takes between the ends of a motion. -/
inductive Border where
  | exclusive
  | inclusive
  | lines
  deriving DecidableEq, Repr

namespace Border

/-- Whether an operator takes part of a line or whole lines. -/
def textKind : Border → TextKind
  | exclusive | inclusive => .text
  | lines => .lines

end Border

/-- What becomes of the column that vertical motions aim at. -/
inductive Stickiness where
  /-- It stays. -/
  | keep
  /-- It becomes the column of the cursor. -/
  | column
  /-- It becomes the end of the line. -/
  | lineEnd
  deriving DecidableEq, Repr

/-- The motions. -/
inductive Motion where
  | line (m : LineMotion)
  | word (s : WordStep) (big : Bool)
  | subword (s : SubwordStep)
  /-- A character search, which may repeat an earlier one, and which is kept
  as the last one if it is to be recorded. -/
  | find (s : CharSearch) (again recorded : Bool)
  | search (s : PatternSearch)
  deriving DecidableEq, Repr

namespace Motion

/-- Where the motion leads from offset `p`. -/
def destination (m : Motion) (t : Text) (sticky : Option Sticky) (count : Option Nat) (p : Nat) :
    Except CommandError Nat :=
  match m with
  | line m => .ok (m.destination t sticky count p)
  | word s big => .ok (s.destination big t (countOf count) p)
  | subword s => .ok (s.destination t (countOf count) p)
  | find s again _ =>
    match s.destination again t (countOf count) p with
    | some q => .ok q
    | none => .error (.charNotFound s.target)
  | search s => s.destination t (countOf count) p

/-- What an operator takes between the ends of the motion. -/
def border : Motion → Border
  | line .lineEnd => .inclusive
  | line .up | line .down | line .firstLine | line .lastLine | line .currentLines => .lines
  | line _ => .exclusive
  | word .wordEnd _ | word .runEnd _ => .inclusive
  | word _ _ => .exclusive
  | subword .wordEnd => .inclusive
  | subword _ => .exclusive
  | find s _ _ => if s.backward then .exclusive else .inclusive
  | search _ => .exclusive

/-- What becomes of the column aimed at. -/
def stickiness : Motion → Stickiness
  | line .up | line .down => .keep
  | line .lineEnd => .lineEnd
  | _ => .column

/-- The name of the motion. -/
def name : Motion → String
  | line m => m.name
  | word s big => s.name big
  | subword s => s.name
  | find s _ _ => s.name
  | search s => s.name

/-- The search that a motion keeps as the last one. -/
def recording? : Motion → Option CharSearch
  | find s _ true => some s
  | _ => none

/-- The last character search once more, in its direction or the other. -/
def findAgain (r : Registers) (reverse : Bool) : Except CommandError Motion :=
  match r.lastFind with
  | some s => .ok (find (if reverse then s.reverse else s) true false)
  | none => .error .noPreviousFind

/-- The last pattern once more, in its direction or the other. -/
def searchAgain (r : Registers) (reverse : Bool) : Except CommandError Motion :=
  match r.lastSearch with
  | some s => .ok (search { s with backward := s.backward != reverse })
  | none => .error .noPreviousSearch

end Motion
end Keywise
