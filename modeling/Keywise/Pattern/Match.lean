/-
# Where a pattern matches

The automaton walks along the text in all ways at once. The ways are kept in
the order in which they are preferred, at most one to each node. From every
offset a new way sets out, preferred less than the others, until one has come
to the accepting node; then only the ways preferred to that one are followed.

A search goes on behind a match. After a match that is not empty no empty
match is taken at its end.

Key definitions: `Place.holds`, `Automaton.first?`, `Automaton.starts`.
-/
import Keywise.Pattern.Automaton

namespace Keywise

/-- Whether `c` is a word character, of ASCII only if `ascii` is set. -/
def Place.isWordChar (ascii : Bool) (c : Char) : Bool :=
  if ascii then c.isAlphanum || c == '_' else Unicode.isWordChar c

/-- Whether a place is such an edge, given whether word characters are before
and after it. -/
def WordEdge.holds (before after : Bool) : WordEdge → Bool
  | boundary => before != after
  | noBoundary => before == after
  | wordStart => !before && after
  | wordEnd => before && !after
  | halfStart => !before
  | halfEnd => !after

/-- Whether offset `p` of the text is such a place. -/
def Place.holds (t : Array Char) (p : Nat) (place : Place) : Bool :=
  let before := if p = 0 then none else t[p - 1]?
  let after := t[p]?
  match place with
  | textStart => p == 0
  | textEnd => p == t.size
  | lineStart => p == 0 || before == some '\n'
  | lineEnd => p == t.size || after == some '\n'
  | anyLineStart =>
    p == 0 || before == some '\n' || (before == some '\r' && after != some '\n')
  | anyLineEnd =>
    p == t.size || after == some '\r' || (after == some '\n' && before != some '\r')
  | word edge ascii => edge.holds (before.any (isWordChar ascii)) (after.any (isWordChar ascii))

namespace Automaton

/-- A way through the automaton: the node it has come to and the offset it set
out from. -/
structure Way where
  node : Nat
  start : Nat

/-- The ways at one offset. -/
structure Walk where
  /-- For each node the number of the last offset at which it was reached. -/
  reached : Array Nat
  /-- The ways that wait for a character, the one preferred most last. -/
  waiting : List Way := []
  /-- Where the way set out that has come to the accepting node. -/
  accepted : Option Nat := none

/-- How many steps without a character there can be at one offset. -/
def steps (a : Automaton) : Nat := a.nodes.foldl (fun n node => n + node.arity) 0

/-- Follows a way from the nodes given, in order, as far as it goes without a
character. Nodes reached before are left out. -/
def follow (a : Automaton) (t : Array Char) (p start : Nat) : Nat → List Nat → Walk → Walk
  | 0, _, w => w
  | _ + 1, [], w => w
  | fuel + 1, n :: ns, w =>
    if w.reached[n]? == some (p + 1) then follow a t p start fuel ns w
    else
      let w := { w with reached := w.reached.setIfInBounds n (p + 1) }
      match a.nodes[n]? with
      | some .accept => { w with accepted := some start }
      | some (.char ..) | some (.table ..) =>
        follow a t p start fuel ns { w with waiting := ⟨n, start⟩ :: w.waiting }
      | some (.place place next) =>
        follow a t p start fuel (if place.holds t p then next :: ns else ns) w
      | some (.fork nexts) => follow a t p start fuel (nexts ++ ns) w
      | none => follow a t p start fuel ns w

/-- Follows several ways in order, up to one that comes to the accepting
node. -/
def followAll (a : Automaton) (t : Array Char) (p steps : Nat) : List Way → Walk → Walk
  | [], w => w
  | way :: ways, w =>
    let w := a.follow t p way.start (steps + 2) [way.node] w
    if w.accepted.isSome then w else followAll a t p steps ways w

/-- The node after the character `c`, if node `n` takes it. -/
def after? (a : Automaton) (c : Char) (n : Nat) : Option Nat :=
  match a.nodes[n]? with
  | some (.char d next) => if c = d then some next else none
  | some (.table s next) => if s.has c then some next else none
  | _ => none

/-- The ways that take the character `c`, the one preferred most first. -/
def take (a : Automaton) (c : Char) (waiting : List Way) : List Way :=
  waiting.reverse.filterMap fun way => (a.after? c way.node).map fun next => ⟨next, way.start⟩

/-- Goes on from offset `p` with ways that have come there, until none is
preferred to the best match found. -/
def scan (a : Automaton) (t : Array Char) (steps : Nat) :
    Nat → Nat → Array Nat → List Way → Option (Nat × Nat) → Option (Nat × Nat)
  | 0, _, _, _, best => best
  | fuel + 1, p, reached, ways, best =>
    if ways.isEmpty && best.isSome then best
    else
      let ways := if best.isSome then ways else ways ++ [⟨a.start, p⟩]
      let w := a.followAll t p steps ways { reached }
      let best := (w.accepted.map fun start => (start, p)).or best
      match t[p]? with
      | some c => scan a t steps fuel (p + 1) w.reached (a.take c w.waiting) best
      | none => best

/-- The first match that starts at `p` or later: its start and its end. -/
def first? (a : Automaton) (t : Array Char) (p : Nat) : Option (Nat × Nat) :=
  scan a t a.steps (t.size + 1 - p) p (Array.replicate a.nodes.size 0) [] none

/-- The first match from `p` on that is not an empty one at `p`, if that is
ruled out. The search goes on at the next offset then. -/
def firstBut (a : Automaton) (t : Array Char) (p : Nat) (noEmpty : Bool) : Option (Nat × Nat) :=
  match first? a t p with
  | some (s, q) => if noEmpty && s == p && q == p then first? a t (p + 1) else some (s, q)
  | none => none

/-- The starts of the matches from `p` on, at most `fuel` of them. -/
def startsFrom (a : Automaton) (t : Array Char) (noEmpty : Bool) (p : Nat) : Nat → List Nat
  | 0 => []
  | fuel + 1 =>
    match firstBut a t p noEmpty with
    | none => []
    | some (s, q) =>
      if s = q then s :: startsFrom a t false (q + 1) fuel else s :: startsFrom a t true q fuel

/-- The starts of all matches in a text, one behind the other. -/
def starts (a : Automaton) (t : List Char) : List Nat :=
  startsFrom a t.toArray false 0 (t.length + 1)

end Automaton
end Keywise
