/-
# Sets in brackets

Brackets hold a set: characters, ranges, named sets and bracketed sets, after
a caret all characters but those. Two sets can be intersected (`&&`),
subtracted (`--`) or told apart (`~~`).

Key definitions: `Bracket.read?`.
-/
import Keywise.Pattern.Escape

namespace Keywise
namespace Bracket

/-- The ASCII sets that have names. -/
def named? (name : String) : Option CharSet :=
  match name with
  | "alnum" => some (.ofRanges [(0x30, 0x39), (0x41, 0x5A), (0x61, 0x7A)])
  | "alpha" => some (.ofRanges [(0x41, 0x5A), (0x61, 0x7A)])
  | "ascii" => some (.range 0 0x7F)
  | "blank" => some (.ofRanges [(0x09, 0x09), (0x20, 0x20)])
  | "cntrl" => some (.ofRanges [(0, 0x1F), (0x7F, 0x7F)])
  | "digit" => some Escape.asciiDigit
  | "graph" => some (.range 0x21 0x7E)
  | "lower" => some (.range 0x61 0x7A)
  | "print" => some (.range 0x20 0x7E)
  | "punct" => some (.ofRanges [(0x21, 0x2F), (0x3A, 0x40), (0x5B, 0x60), (0x7B, 0x7E)])
  | "space" => some Escape.asciiBlank
  | "upper" => some (.range 0x41 0x5A)
  | "word" => some Escape.asciiWord
  | "xdigit" => some (.ofRanges [(0x30, 0x39), (0x41, 0x46), (0x61, 0x66)])
  | _ => none

/-- The name of a set between `[:` and `:]`, the bracket having been read, and
whether a caret negates it. -/
def readName? : List Char → Option (Bool × CharSet × List Char)
  | ':' :: s =>
    let negated := s.head? == some '^'
    match (if negated then s.drop 1 else s).span (· != ':') with
    | (name, ':' :: ']' :: rest) => (named? (String.ofList name)).map fun a => (negated, a, rest)
    | _ => none
  | _ => none

/-- What a bracket, or a side of an operation, holds so far. -/
structure Members where
  set : CharSet := {}
  count : Nat := 0
  /-- How deep the members are nested. -/
  depth : Nat := 0

namespace Members

/-- Adds a member. -/
def add (m : Members) (a : CharSet) (depth : Nat) : Members :=
  { set := m.set.union a, count := m.count + 1, depth := max m.depth depth }

/-- How deep the members are nested, several of them being one level. -/
def height (m : Members) : Nat := if m.count < 2 then m.depth else m.depth + 1

end Members

/-- How two sets are combined. -/
inductive Operation where
  | inter
  | diff
  | symmDiff

/-- Combines two sets. -/
def Operation.apply (f : PatternFlags) (op : Operation) (a b : CharSet) : CharSet :=
  match op with
  | .inter => (f.cased a).inter (f.cased b)
  | .diff => (f.cased a).diff (f.cased b)
  | .symmDiff => (f.cased a).symmDiff (f.cased b)

/-- An open bracket, or an operation whose right side is being read. -/
inductive Frame where
  /-- What the bracket around this one holds, which may be negated. -/
  | bracket (outer : Members) (negated : Bool)
  | operation (op : Operation) (left : CharSet) (height : Nat)

/-- Finishes the operation whose right side has been read, if there is one:
the set, how deep it is nested and the frames around it. -/
def finish (f : PatternFlags) (m : Members) : List Frame → CharSet × Nat × List Frame
  | .operation op left height :: frames =>
    (op.apply f left m.set, max height m.height + 1, frames)
  | frames => (m.set, m.height, frames)

/-- One member: a character, or a set that an escape names. -/
def readItem? (f : PatternFlags) : List Char → Option (Escape × List Char)
  | '\\' :: s => Escape.read? f s
  | c :: s => some (.char c, s)
  | [] => none

/-- A character that may be a member. -/
def member? (f : PatternFlags) (c : Char) : Option Char :=
  if f.ascii ∧ 0x7F < c.toNat then none else some c

/-- The set an escape stands for. Places are no members. -/
def ofEscape? (f : PatternFlags) : Escape → Option CharSet
  | .char c => (member? f c).map .single
  | .set s => some s
  | .place _ => none

/-- The range between two members, which are characters. -/
def rangeOf? (f : PatternFlags) : Escape → Escape → Option CharSet
  | .char c, .char d => do
    let c ← member? f c
    let d ← member? f d
    if c ≤ d then some (.range c.toNat d.toNat) else none
  | _, _ => none

/-- The first character that is not skipped, where a comment ends with its
first character. -/
def peekFrom (comment : Bool) : List Char → Option Char
  | [] => none
  | c :: s =>
    if Unicode.isWhitespace c then peekFrom comment s
    else if c = '#' ∧ ¬ comment then peekFrom true s
    else some c

/-- The character that tells whether a hyphen before it is that of a range. -/
def peek (f : PatternFlags) (s : List Char) : Option Char :=
  if f.spaced then (peekFrom false s).or s.head? else s.head?

/-- A member or a range of characters. A hyphen before the closing bracket or
another hyphen is not taken for that of a range. -/
def readRange? (f : PatternFlags) (s : List Char) : Option (CharSet × List Char) := do
  let (a, rest) ← readItem? f s
  match f.skip rest with
  | [] => none
  | '-' :: after =>
    let next := peek f after
    if next = some ']' ∨ next = some '-' then return (← ofEscape? f a, '-' :: after)
    else
      let (b, rest) ← readItem? f (f.skip after)
      return (← rangeOf? f a b, rest)
  | rest => return (← ofEscape? f a, rest)

/-- What follows an opening bracket: a caret, hyphens, or a closing bracket
that stands for itself. -/
def readOpening (f : PatternFlags) (s : List Char) : Bool × Members × List Char :=
  let s := f.skip s
  let negated := s.head? == some '^'
  let s := if negated then f.skip (s.drop 1) else s
  match f.span (· == '-') false s with
  | ([], ']' :: s) => (negated, ({} : Members).add (.single ']') 0, s)
  | (hyphens, s) => (negated, hyphens.foldl (fun m c => m.add (.single c) 0) {}, s)

/-- Reads members up to the bracket that closes the outermost one. `m` is
what the innermost open bracket holds so far. -/
def readMembers? (f : PatternFlags) : Nat → Members → List Frame → List Char →
    Option (CharSet × Nat × List Char)
  | 0, _, _, _ => none
  | fuel + 1, m, frames, s =>
    let operate (op : Operation) (s : List Char) : Option (CharSet × Nat × List Char) :=
      let (a, height, frames) := finish f m frames
      readMembers? f fuel {} (.operation op a height :: frames) s
    match f.skip s with
    | [] => none
    | '[' :: s =>
      match readName? s with
      | some (negated, a, s) =>
        (f.settle? negated a).bind fun a => readMembers? f fuel (m.add a 0) frames s
      | none =>
        let (negated, inner, s) := readOpening f s
        readMembers? f fuel inner (.bracket m negated :: frames) s
    | ']' :: s =>
      match finish f m frames with
      | (a, height, .bracket outer negated :: frames) =>
        (f.settle? negated a).bind fun a =>
          match frames with
          | [] => some (a, height + 1, s)
          | frames => readMembers? f fuel (outer.add a (height + 1)) frames s
      | _ => none
    | '&' :: '&' :: s => operate .inter s
    | '-' :: '-' :: s => operate .diff s
    | '~' :: '~' :: s => operate .symmDiff s
    | c :: s =>
      match readRange? f (c :: s) with
      | some (a, s) => readMembers? f fuel (m.add a 0) frames s
      | none => none

/-- Reads a set whose opening bracket has been read: the set, how deep its
brackets are nested, and what follows. -/
def read? (f : PatternFlags) (s : List Char) : Option (CharSet × Nat × List Char) :=
  let (negated, m, rest) := readOpening f s
  readMembers? f (s.length + 1) m [.bracket {} negated] rest

end Bracket
end Keywise
