/-
# The automaton of a pattern

A pattern becomes an automaton over characters. Its nodes take a character,
ask for a place, or go on at any of several nodes, the earlier being
preferred; one node accepts. Each part is built in front of the node that
follows it.

Key definitions: `CharTable`, `Node`, `Automaton`, `Automaton.ofPattern`.
-/
import Keywise.Pattern.Basic

namespace Keywise

/-- The ranges of a set, for looking characters up. -/
structure CharTable where
  ranges : Array CodeRange
  deriving Repr

namespace CharTable

/-- The table of a set. -/
def ofSet (s : CharSet) : CharTable := { ranges := s.ranges.toArray }

/-- Whether `n` lies in one of the ranges numbered from `lo` up to below `hi`,
which are halved as often as the fuel allows. -/
def search (t : CharTable) (n : Nat) : Nat → Nat → Nat → Bool
  | 0, _, _ => false
  | fuel + 1, lo, hi =>
    let middle := (lo + hi) / 2
    match t.ranges[middle]? with
    | none => false
    | some r =>
      if hi ≤ lo then false
      else if n < r.1 then search t n fuel lo middle
      else if r.2 < n then search t n fuel (middle + 1) hi
      else true

/-- Whether `c` is in the table. -/
def has (t : CharTable) (c : Char) : Bool :=
  t.search c.toNat (t.ranges.size + 1) 0 t.ranges.size

end CharTable

/-- A node of an automaton; nodes are numbered. -/
inductive Node where
  | accept
  /-- Takes the character `c`. -/
  | char (c : Char) (next : Nat)
  /-- Takes a character of a set. -/
  | table (t : CharTable) (next : Nat)
  /-- Goes on only at such a place. -/
  | place (p : Place) (next : Nat)
  /-- Goes on at any of several nodes, the earlier being preferred. -/
  | fork (nexts : List Nat)
  deriving Repr

namespace Node

/-- How many nodes a node goes on at without taking a character. -/
def arity : Node → Nat
  | place _ _ => 1
  | fork nexts => nexts.length
  | _ => 0

end Node

/-- An automaton. -/
structure Automaton where
  nodes : Array Node
  start : Nat
  deriving Repr

namespace Automaton

/-- Adds a node: its number and all nodes. -/
def add (node : Node) (nodes : Array Node) : Nat × Array Node := (nodes.size, nodes.push node)

/-- A node that goes on at `a` or `b`, preferring `a` if it is greedy. -/
def either (greedy : Bool) (a b : Nat) : Node := .fork (if greedy then [a, b] else [b, a])

/-- What is built in front of a node: the number of its first node and all
nodes. -/
abbrev Build := Nat → Array Node → Nat × Array Node

/-- Characters in front of `next`. -/
def chars (cs : List Char) (next : Nat) (nodes : Array Node) : Nat × Array Node :=
  cs.foldr (fun c (next, nodes) => add (.char c next) nodes) (next, nodes)

/-- So many times what `f` builds, in front of `next`. -/
def times (f : Build) : Nat → Build
  | 0, next, nodes => (next, nodes)
  | n + 1, next, nodes =>
    let (next, nodes) := f next nodes
    times f n next nodes

/-- What `f` builds at most so many times, in front of `next`. `rest` is where
to go on after it. -/
def upTo (f : Build) (greedy : Bool) (next : Nat) : Nat → Build
  | 0, rest, nodes => (rest, nodes)
  | n + 1, rest, nodes =>
    let (first, nodes) := f rest nodes
    let (rest, nodes) := add (either greedy first next) nodes
    upTo f greedy next n rest nodes

/-- What `f` builds at least once, in front of `next`: after it the same may
follow again. -/
def again (f : Build) (greedy : Bool) : Build := fun next nodes =>
  let (loop, nodes) := add (.fork [next]) nodes
  let (first, nodes) := f loop nodes
  (first, nodes.setIfInBounds loop (either greedy first next))

/-- What `f` builds any number of times, in front of `next`. -/
def anyTimes (f : Build) (greedy : Bool) : Build := fun next nodes =>
  let (loop, nodes) := add (.fork [next]) nodes
  let (first, nodes) := f loop nodes
  (loop, nodes.setIfInBounds loop (either greedy first next))

/-- A repetition. One that may take no characters is entered or passed by
before it begins, and goes on or ends after each time, so that passing it by
and ending it are two things. -/
def repetition (f : Build) (mayBeEmpty greedy : Bool) (least : Nat) : Option Nat → Build
  | some most => fun next nodes =>
    let (rest, nodes) := upTo f greedy next (most - least) next nodes
    times f least rest nodes
  | none => fun next nodes =>
    match least with
    | 0 =>
      if mayBeEmpty then
        let (first, nodes) := again f greedy next nodes
        add (either greedy first next) nodes
      else anyTimes f greedy next nodes
    | n + 1 =>
      let (first, nodes) := again f greedy next nodes
      times f n first nodes

mutual
/-- Builds a pattern in front of `next`. -/
def build : Pattern → Nat → Array Node → Nat × Array Node
  | .empty, next, nodes => (next, nodes)
  | .text cs, next, nodes => chars cs next nodes
  | .set s, next, nodes => add (.table (.ofSet s) next) nodes
  | .place p, next, nodes => add (.place p next) nodes
  | .seq ps, next, nodes => buildSequence ps next nodes
  | .alt ps, next, nodes =>
    let (starts, nodes) := buildEach ps next nodes
    add (.fork starts) nodes
  | .rep least most greedy a, next, nodes =>
    repetition (build a) (a.shortest.getD 0 == 0) greedy least most next nodes
  | .group _ a, next, nodes => build a next nodes
/-- Builds patterns in sequence in front of `next`. -/
def buildSequence : List Pattern → Nat → Array Node → Nat × Array Node
  | [], next, nodes => (next, nodes)
  | p :: ps, next, nodes =>
    let (next, nodes) := buildSequence ps next nodes
    build p next nodes
/-- Builds several patterns each in front of `next`: the numbers of their first
nodes and all nodes. -/
def buildEach : List Pattern → Nat → Array Node → List Nat × Array Node
  | [], _, nodes => ([], nodes)
  | p :: ps, next, nodes =>
    let (first, nodes) := build p next nodes
    let (firsts, nodes) := buildEach ps next nodes
    (first :: firsts, nodes)
end

/-- The automaton of a pattern. -/
def ofPattern (p : Pattern) : Automaton :=
  let (start, nodes) := build p 0 #[.accept]
  { nodes, start }

end Automaton
end Keywise
