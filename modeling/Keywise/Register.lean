/-
# Registers

A register holds a text, either as part of a line or as whole lines. Every
write but one to the black hole goes to the unnamed register and to the front
of a ring of ten, which the digits read. A letter names a register of its
own: small, a write replaces what it holds; capital, a write appends.

Beside the texts the last character search and the last pattern are kept.

Key definitions: `Registers.payload`, `Registers.write`, `Registers.read`.
Key theorems: `Registers.read_write_unnamed`, `Registers.length_ring_write`.
-/
import Keywise.Text.Basic

namespace Keywise

/-- Whether a text is part of a line or whole lines. -/
inductive TextKind where
  | text
  | lines
  deriving DecidableEq, Repr

/-- What a register holds. -/
structure Content where
  text : Text
  kind : TextKind
  deriving DecidableEq, Repr

/-- A search for a character on its line: up to it, or onto it. -/
structure CharSearch where
  target : Char
  backward : Bool
  upTo : Bool
  deriving DecidableEq, Repr

/-- A search for a pattern. -/
structure PatternSearch where
  pattern : String
  backward : Bool
  deriving DecidableEq, Repr

/-- All registers, and the last searches. -/
structure Registers where
  unnamed : Option Content := none
  /-- The last writes, newest first. -/
  ring : List Content := []
  /-- The registers of the small letters. -/
  named : Char → Option Content := fun _ => none
  lastFind : Option CharSearch := none
  lastSearch : Option PatternSearch := none

namespace Registers

/-- How many writes the ring keeps. -/
def ringSize : Nat := 10

/-- No register holds anything. -/
def empty : Registers := {}

/-- The register a letter names. -/
def letter? (c : Char) : Option Char := if c.isAlpha then some c.toLower else none

/-- Content with more appended: whole lines if either part is. -/
def append (old new : Content) : Content :=
  ⟨old.text ++ new.text, if new.kind = .lines then .lines else old.kind⟩

/-- What a write under a name leaves in the registers: the content as it is,
or appended to that of a capital letter. The black hole leaves nothing. -/
def payload (r : Registers) (name : Option Char) (new : Content) : Option Content :=
  match name with
  | none => some new
  | some c =>
    if c = '_' then none
    else if c.isUpper then
      match r.named c.toLower with
      | some old => some (append old new)
      | none => some new
    else some new

/-- Writes content under a name, or under none. -/
def write (r : Registers) (name : Option Char) (new : Content) : Registers :=
  match r.payload name new with
  | none => r
  | some p =>
    { r with
      unnamed := some p
      ring := (p :: r.ring).take ringSize
      named := match name.bind letter? with
        | some l => fun c => if c = l then some p else r.named c
        | none => r.named }

/-- What a name reads: nothing for names of no register. -/
def read (r : Registers) (name : Option Char) : Option Content :=
  match name with
  | none => r.unnamed
  | some c =>
    if c = '"' then r.unnamed
    else if c.isDigit then r.ring[c.toNat - '0'.toNat]?
    else (letter? c).bind r.named

/-- The letters whose registers hold something, in order, with what they
hold. -/
def letters (r : Registers) : List (Char × Content) :=
  ((List.range 26).map fun i => Char.ofNat ('a'.toNat + i)).filterMap fun c =>
    (r.named c).map fun content => (c, content)

/-- The names of all registers: the unnamed one, the ring and the letters. -/
def names : List Char :=
  '"' :: ((List.range 10).map fun i => Char.ofNat ('0'.toNat + i)) ++
    (List.range 26).map fun i => Char.ofNat ('a'.toNat + i)

/-- The registers that hold something, with what they hold. -/
def all (r : Registers) : List (Char × Content) :=
  names.filterMap fun c => (r.read (some c)).map fun content => (c, content)

theorem write_black_hole (r : Registers) (new : Content) : r.write (some '_') new = r := rfl

/-- The unnamed register reads what was written last. -/
theorem read_write_unnamed (r : Registers) (name : Option Char) (new p : Content)
    (h : r.payload name new = some p) : (r.write name new).read none = some p := by
  simp [write, h, read]

/-- The ring never keeps more than it has room for. -/
theorem length_ring_write (r : Registers) (name : Option Char) (new : Content)
    (h : r.ring.length ≤ ringSize) : (r.write name new).ring.length ≤ ringSize := by
  unfold write
  split
  · exact h
  · simp only [List.length_take]; omega

end Registers
end Keywise
