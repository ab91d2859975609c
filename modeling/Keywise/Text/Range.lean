/-
# Ranges of a text

A range is two offsets in order. It is built from any two offsets, whichever
comes first, in one of three ways: up to the later one, through it, or over
all lines from one to the other.

Key definitions: `Range.between`, `Range.through`, `Range.lines`.
-/
import Keywise.Text.Basic

namespace Keywise

/-- The characters from `left` up to but not including `right`. -/
@[ext]
structure Range where
  left : Nat
  right : Nat
  left_le_right : left ≤ right
  deriving DecidableEq, Repr

namespace Range

/-- The range between two offsets, in either order. -/
def between (a b : Nat) : Range :=
  ⟨min a b, max a b, by omega⟩

/-- The range between two offsets together with the character at the later
one, if the text has one there. -/
def through (t : Text) (a b : Nat) : Range :=
  ⟨min a b, max (min (max a b + 1) t.length) (max a b), by omega⟩

/-- The lines from the one that holds `a` to the one that holds `b`. -/
def lines (t : Text) (a b : Nat) : Range :=
  ⟨(t.lineAt (min a b)).start, t.nextStart (t.lineAt (max a b)).number,
    t.start_lineAt_le_nextStart (by omega)⟩

/-- The number of offsets in the range. -/
def length (r : Range) : Nat := r.right - r.left

/-- Whether the range holds offset `o`. -/
def contains (r : Range) (o : Nat) : Bool := r.left ≤ o && o < r.right

theorem between_comm (a b : Nat) : between a b = between b a := by
  simp [between, Nat.min_comm, Nat.max_comm]

theorem through_comm (t : Text) (a b : Nat) : through t a b = through t b a := by
  simp [through, Nat.min_comm a b, Nat.max_comm a b]

theorem lines_comm (t : Text) (a b : Nat) : lines t a b = lines t b a := by
  simp [lines, Nat.min_comm a b, Nat.max_comm a b]

end Range

/-- The characters in a range. -/
def Text.within (t : Text) (r : Range) : Text := t.slice r.left r.length

end Keywise
