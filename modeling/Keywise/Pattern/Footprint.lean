/-
# How much room a pattern takes

A pattern is refused if the automaton that takes its matches byte by byte
would need more than ten mebibytes, counted for the automaton that reads
forward and notes where groups begin and end, and for the one that reads
backward. A state takes 32 bytes; one that chooses between others takes 4 more
for each, and one that chooses by the next byte takes 8 more for each range.

The states for a set share their ends. A state is shared if it is found in a
table with as many places as the set's direction allows for, where a state
takes the place its transitions hash to from the one before.

Key definitions: `Footprint`, `Footprint.limit`, `Footprint.addForward`,
`Footprint.addBackward`, `Footprint.addWords`, `Pattern.growth`, `Pattern.fits`.
-/
import Keywise.Pattern.Basic
import Std.Data.HashMap

namespace Keywise

/-- The size of an automaton. -/
structure Footprint where
  states : Nat := 0
  /-- The bytes that states take beyond those all take. -/
  extra : Nat := 0
  deriving DecidableEq, Repr

namespace Footprint

/-- The most bytes an automaton may take. -/
def limit : Nat := 10 * 1024 * 1024

/-- The bytes of an automaton. -/
def bytes (f : Footprint) : Nat := 32 * f.states + f.extra

/-- Adds states, which take so many bytes beyond those all take. -/
def add (f : Footprint) (states extra : Nat) : Footprint :=
  { states := f.states + states, extra := f.extra + extra }

/-- The automaton, unless it is too large. -/
def checked? (f : Footprint) : Option Footprint := if f.bytes ≤ limit then some f else none

/-- The hash of no numbers. -/
def hashStart : UInt64 := 14695981039346656037

/-- The hash of numbers and one more. -/
def hashNext (h : UInt64) (n : Nat) : UInt64 := (h ^^^ n.toUInt64) * 1099511628211

/-- A transition: a range of bytes and the state it leads to. -/
abbrev Transition := Unicode.ByteRange × Nat

/-- The states of a set that reads forward. -/
structure Forward where
  size : Footprint
  /-- The states in the table, by their place: transitions and number. -/
  table : Std.HashMap UInt64 (List Transition × Nat) := {}

/-- A hash of transitions. -/
def hash (ts : List Transition) : UInt64 :=
  ts.foldl (fun h ((a, b), n) => hashNext (hashNext (hashNext h a) b) n) hashStart

/-- The state with the transitions given, which is in the table or is added. -/
def Forward.state (ts : List Transition) (f : Forward) : Nat × Forward :=
  let place := hash ts % 10000
  match f.table[place]?.filter (·.1 = ts) with
  | some (_, n) => (n, f)
  | none =>
    (f.size.states,
      { size := f.size.add 1 (8 * ts.length), table := f.table.insert place (ts, f.size.states) })

/-- A state that is not finished: its transitions, the last one first, and the
range of bytes of a transition to the next unfinished state. -/
structure Open where
  transitions : List Transition := []
  last : Unicode.ByteRange

/-- Finishes states, each leading to the next one and the last one to `target`;
the first one's number. -/
def Forward.finish (target : Nat) : List Open → Forward → Nat × Forward
  | [], f => (target, f)
  | o :: os, f =>
    let (next, f) := finish target os f
    f.state ((o.last, next) :: o.transitions).reverse

/-- Adds a sequence of byte ranges. Unfinished states are kept as far as the
sequence goes the same way as the one before it. -/
def Forward.insert (target : Nat) : List Open → List Unicode.ByteRange → Forward →
    List Open × Forward
  | o :: os, r :: rs, f =>
    if o.last = r then
      let (os, f) := Forward.insert target os rs f
      (o :: os, f)
    else
      let (next, f) := Forward.finish target os f
      ({ transitions := (o.last, next) :: o.transitions, last := r } ::
        rs.map ({ last := · }), f)
  | [], rs, f => (rs.map ({ last := · }), f)
  | os, [], f => (os, f)

/-- Adds a set that is read forward. -/
def addForward (f : Footprint) (sequences : List (List Unicode.ByteRange)) : Footprint :=
  let target := f.states
  let (os, g) := sequences.foldl (fun (os, g) rs => Forward.insert target os rs g)
    (([] : List Open), { size := f.add 1 0 : Forward })
  (Forward.finish target os g).2.size

/-- The states of a set that reads backward. -/
structure Backward where
  size : Footprint
  /-- The states in the table, by their place: where they lead to, by which
  bytes, and number. -/
  table : Std.HashMap UInt64 ((Nat × Unicode.ByteRange) × Nat) := {}

/-- The state that leads to `next` by a range of bytes. -/
def Backward.state (b : Backward) (next : Nat) (r : Unicode.ByteRange) : Nat × Backward :=
  let place := hashNext (hashNext (hashNext hashStart next) r.1) r.2 % 1000
  match b.table[place]?.filter (·.1 = (next, r)) with
  | some (_, n) => (n, b)
  | none =>
    (b.size.states,
      { size := b.size.add 1 0, table := b.table.insert place ((next, r), b.size.states) })

/-- Adds a set that is read backward: a choice between sequences. -/
def addBackward (f : Footprint) (sequences : List (List Unicode.ByteRange)) : Footprint :=
  let target := f.states + 1
  let b := sequences.foldl (fun b rs =>
    let b := (rs.foldl (fun (next, b) r => Backward.state b next r) (target, b)).2
    { b with size := b.size.add 0 4 }) ({ size := f.add 2 0 : Backward })
  b.size

/-- Divides words where one of them ends. Words that end before any other
begins count as one. -/
def divide : List (List Nat) → List (List (List Nat))
  | [] => [[]]
  | [] :: ws => [] :: divide ws
  | w :: ws =>
    match divide ws with
    | c :: cs => (w :: c) :: cs
    | [] => [[w]]

/-- Adds states that tell words apart byte by byte: for each division a state
for the next byte, if there is any, and before them one that chooses between
those and the ends of words. The number bounds the length of the words. -/
def addWords : Nat → List (List Nat) → Footprint → Footprint
  | 0, _, f => f
  | longest + 1, words, f =>
    let words := match words with
      | [] :: ws => [] :: ws.dropWhile List.isEmpty
      | ws => ws
    let divisions := divide words
    let f := divisions.foldl (fun f d =>
      match (d.filterMap List.head?).eraseDups with
      | [] => f
      | [_] => f.add 1 4
      | firsts => f.add 1 (8 * firsts.length + 4)) (f.add 1 (4 * (divisions.length - 1)))
    divisions.foldl (fun f d =>
      ((d.filterMap List.head?).eraseDups).foldl (fun f first =>
        let rests := (d.filter fun w => w.head? == some first).map List.tail
        if rests.all List.isEmpty then f else addWords longest rests f) f) f

end Footprint

namespace Pattern

/-- The bytes of characters. -/
def encodeAll (cs : List Char) : List Nat := cs.flatMap fun c => Unicode.encode c.toNat

/-- The bytes of a text, from the end if `back` is set. -/
def word? (back : Bool) : Pattern → Option (List Nat)
  | text cs => some (if back then (encodeAll cs).reverse else encodeAll cs)
  | _ => none

/-- What a pattern adds to an automaton, unless that gets too large. -/
structure Growth where
  add : Footprint → Option Footprint

namespace Growth

/-- Adds states, which take so many bytes beyond those all take. -/
def states (n extra : Nat) : Growth := ⟨fun f => (f.add n extra).checked?⟩

/-- Adds one after the other. -/
def andThen (g h : Growth) : Growth := ⟨fun f => (g.add f).bind h.add⟩

/-- Adds a set. -/
def ofSet (back : Bool) (s : CharSet) : Growth :=
  if s.ranges.all (·.2 < 128) then states 2 (8 * s.ranges.length)
  else
    let sequences := s.ranges.flatMap fun r => Unicode.byteRanges r.1 r.2
    ⟨fun f => (if back then f.addBackward sequences else f.addForward sequences).checked?⟩

/-- Adds the same so many times, and states before each. -/
def times (g : Growth) (before extra : Nat) : Nat → Footprint → Option Footprint
  | 0, f => some f
  | n + 1, f =>
    match g.add (f.add before extra) with
    | some f => times g before extra n f
    | none => none

/-- Adds a repetition of what takes no characters if `mayBeEmpty` is set. -/
def repeated (g : Growth) (mayBeEmpty : Bool) (least : Nat) : Option Nat → Growth
  | some most =>
    if least = 0 ∧ most = 1 then ⟨fun f => (g.times 1 8 1 f).map (·.add 1 0)⟩
    else
      ⟨fun f => do
        let f ← if least = 0 then some (f.add 1 0) else g.times 0 0 least f
        if least = most then return f else g.times 1 8 (most - least) (f.add 1 0)⟩
  | none =>
    match least with
    | 0 =>
      if mayBeEmpty then ⟨fun f => (g.add f).map (·.add 3 16)⟩
      else ⟨fun f => g.add (f.add 1 8)⟩
    | least => ⟨fun f => (g.times 0 0 least f).map (·.add 1 8)⟩

end Growth

mutual
/-- What a pattern adds to an automaton that reads forward, or, if `back` is
set, backward. -/
def growth (back : Bool) : Pattern → Growth
  | empty => .states 1 0
  | text cs => .states (encodeAll cs).length 0
  | set s => .ofSet back s
  | place _ => .states 1 0
  | seq ps => growthOfSequence back ps
  | alt ps =>
    match ps.mapM (word? back) with
    | some words =>
      let longest := words.foldl (fun n w => max n w.length) 0
      ⟨fun f => ((f.add 1 0).addWords longest words).checked?⟩
    | none => growthOfBranches back 0 ps
  | rep least most _ a =>
    (Growth.repeated (growth back a) (a.shortest.getD 0 == 0) least most).andThen (.states 0 0)
  | group _ a =>
    if back then growth back a
    else ((Growth.states 1 0).andThen (growth back a)).andThen (.states 1 0)
/-- What patterns in sequence add. -/
def growthOfSequence (back : Bool) : List Pattern → Growth
  | [] => .states 0 0
  | p :: ps =>
    if back then (growthOfSequence back ps).andThen (growth back p)
    else (growth back p).andThen (growthOfSequence back ps)
/-- What alternatives add, behind as many as the number tells. -/
def growthOfBranches (back : Bool) : Nat → List Pattern → Growth
  | _, [] => .states 0 0
  | n, p :: ps =>
    ((growth back p).andThen (.states (if n = 1 then 2 else 0) 4)).andThen
      (growthOfBranches back (n + 1) ps)
end

/-- The automaton of a pattern in one direction, unless it is too large. If
matches are not at an end of the text it skips what is before them. -/
def footprint? (back : Bool) (p : Pattern) : Option Footprint := do
  let start := if p.anchored back then ({} : Footprint).add 1 0 else ({} : Footprint).add 3 16
  let f ← (p.growth back).add (if back then start else start.add 1 0)
  (f.add (if back then 1 else 2) 0).checked?

/-- Whether the pattern is not too large. -/
def fits (p : Pattern) : Bool := (p.footprint? false).isSome && (p.footprint? true).isSome

end Pattern
end Keywise
