/-
# Patterns

A pattern is built from characters, sets of characters and places, in
sequence, in alternatives of which the earlier is preferred, and in
repetitions that prefer more or fewer of what they repeat.

Patterns are kept simple as they are put together: sequences hold no
sequences, alternatives no alternatives, and characters side by side are one
text. What alternatives begin with in common is taken out of them, which
settles what is preferred: `\w*x|\w*y` is `\w*(?:x|y)`.

Key definitions: `Place`, `Pattern`, `Pattern.sequence`, `Pattern.anyOf`,
`Pattern.repeated`, `Pattern.shortest`, `Pattern.longest`.
-/
import Keywise.Pattern.CharSet
import Keywise.Unicode.Encoding

namespace Keywise

/-- A place told by the characters around it being word characters or not. -/
inductive WordEdge where
  /-- Between a word character and none. -/
  | boundary
  /-- Between two word characters or none. -/
  | noBoundary
  | wordStart
  | wordEnd
  /-- Not after a word character. -/
  | halfStart
  /-- Not before a word character. -/
  | halfEnd
  deriving DecidableEq, Repr

/-- A place between characters. -/
inductive Place where
  | textStart
  | textEnd
  /-- After a line feed, or at the start of the text. -/
  | lineStart
  /-- Before a line feed, or at the end of the text. -/
  | lineEnd
  /-- After a line break of carriage return, line feed or both. -/
  | anyLineStart
  /-- Before such a line break. -/
  | anyLineEnd
  /-- At an edge of words, which may be those of ASCII only. -/
  | word (edge : WordEdge) (ascii : Bool)
  deriving DecidableEq, Repr

/-- A pattern. -/
inductive Pattern where
  | empty
  /-- These characters, one after the other. -/
  | text (cs : List Char)
  /-- One character of a set. -/
  | set (s : CharSet)
  | place (p : Place)
  | seq (ps : List Pattern)
  /-- Any of several, the earlier being preferred. -/
  | alt (ps : List Pattern)
  /-- At least `least` times, as often as may be if `most` is none. It is
  repeated as often as possible if it is greedy, and else as seldom. -/
  | rep (least : Nat) (most : Option Nat) (greedy : Bool) (a : Pattern)
  /-- A group that has a number. -/
  | group (number : Nat) (a : Pattern)
  deriving Repr

namespace Pattern

mutual
/-- Whether two patterns are the same. -/
def same : Pattern → Pattern → Bool
  | empty, empty => true
  | text cs, text ds => cs == ds
  | set s, set t => s == t
  | place p, place q => p == q
  | seq ps, seq qs => sameAll ps qs
  | alt ps, alt qs => sameAll ps qs
  | rep l m g a, rep l' m' g' b => l == l' && m == m' && g == g' && same a b
  | group n a, group n' b => n == n' && same a b
  | _, _ => false
/-- Whether two lists hold the same patterns. -/
def sameAll : List Pattern → List Pattern → Bool
  | [], [] => true
  | p :: ps, q :: qs => same p q && sameAll ps qs
  | _, _ => false
end

mutual
/-- The fewest bytes a match takes, if a set without members does not rule out
all matches. -/
def shortest : Pattern → Option Nat
  | empty => some 0
  | text cs => some (cs.map fun c => Unicode.byteLength c.toNat).sum
  | set s => s.ranges.head?.map fun r => Unicode.byteLength r.1
  | place _ => some 0
  | seq ps => (shortestEach ps).map List.sum
  | alt ps => (shortestEach ps).bind List.min?
  | rep least _ _ a => (shortest a).map (least * ·)
  | group _ a => shortest a
/-- The fewest bytes for each of several patterns. -/
def shortestEach : List Pattern → Option (List Nat)
  | [] => some []
  | p :: ps =>
    match shortest p, shortestEach ps with
    | some n, some ns => some (n :: ns)
    | _, _ => none
end

mutual
/-- The most bytes a match takes, if they are bounded and a set without
members does not rule out all matches. -/
def longest : Pattern → Option Nat
  | empty => some 0
  | text cs => some (cs.map fun c => Unicode.byteLength c.toNat).sum
  | set s => s.ranges.getLast?.map fun r => Unicode.byteLength r.2
  | place _ => some 0
  | seq ps => (longestEach ps).map List.sum
  | alt ps => (longestEach ps).bind List.max?
  | rep _ most _ a =>
    match most, longest a with
    | some m, some n => some (m * n)
    | _, _ => none
  | group _ a => longest a
/-- The most bytes for each of several patterns. -/
def longestEach : List Pattern → Option (List Nat)
  | [] => some []
  | p :: ps =>
    match longest p, longestEach ps with
    | some n, some ns => some (n :: ns)
    | _, _ => none
end

/-- One character of a set; a set of one character is that character. -/
def ofSet (s : CharSet) : Pattern :=
  match s.ranges with
  | [(first, last)] => if first = last then text [Char.ofNat first] else set s
  | _ => set s

/-- The parts of a sequence. -/
def parts : Pattern → List Pattern
  | empty => []
  | seq ps => ps
  | p => [p]

/-- Puts a part in front of others, texts together. -/
def joinText : Pattern → List Pattern → List Pattern
  | text cs, text ds :: ps => text (cs ++ ds) :: ps
  | p, ps => p :: ps

/-- All in sequence. -/
def sequence (ps : List Pattern) : Pattern :=
  match (ps.flatMap parts).foldr joinText [] with
  | [] => empty
  | [p] => p
  | ps => seq ps

/-- The alternatives of a pattern. -/
def branches : Pattern → List Pattern
  | alt ps => ps
  | p => [p]

/-- The range of a text of one character. -/
def single? : Pattern → Option CodeRange
  | text [c] => some (c.toNat, c.toNat)
  | _ => none

/-- The ranges of a set. -/
def members? : Pattern → Option (List CodeRange)
  | set s => some s.ranges
  | _ => none

/-- Any of several patterns without alternatives of their own. Characters
together are a set, and so are sets. -/
def choice (ps : List Pattern) : Pattern :=
  match ps.mapM single? with
  | some rs => ofSet (.ofRanges rs)
  | none =>
    match ps.mapM members? with
    | some rss => ofSet (.ofRanges rss.flatten)
    | none => alt ps

/-- The parts that two sequences begin with in common. -/
def commonParts : List Pattern → List Pattern → List Pattern
  | p :: ps, q :: qs => if same p q then p :: commonParts ps qs else []
  | _, _ => []

/-- What several sequences begin with in common. -/
def commonStart : List Pattern → List Pattern
  | seq ps :: rest => rest.foldl (fun start p =>
      match p with
      | seq qs => commonParts start qs
      | _ => []) ps
  | _ => []

/-- Any of several, the earlier being preferred. -/
def anyOf (ps : List Pattern) : Pattern :=
  let ps := ps.flatMap branches
  match choice ps with
  | alt qs =>
    match commonStart ps with
    | [] => alt qs
    | start =>
      let rests := ps.map fun p => sequence (p.parts.drop start.length)
      sequence (start ++ [choice (rests.flatMap branches)])
  | p => p

/-- Repeats a pattern. One that takes no characters need not be repeated more
than once. -/
def repeated (least : Nat) (most : Option Nat) (greedy : Bool) (a : Pattern) : Pattern :=
  let bounds := if a.longest = some 0 then (min least 1, some (min (most.getD 1) 1))
    else (least, most)
  match bounds with
  | (0, some 0) => empty
  | (1, some 1) => a
  | (least, most) => rep least most greedy a

/-- Whether a place that every match begins with is the start of the text. -/
def startsIn (ps : List (Option Nat × Bool)) : Bool :=
  match ps with
  | [] => false
  | (length, starts) :: ps => starts || (length == some 0 && startsIn ps)

mutual
/-- Whether every match is at an end of the text: at its start, or, if `back`
is set, at its end. -/
def anchored (back : Bool) : Pattern → Bool
  | place p => p == if back then .textEnd else .textStart
  | seq ps =>
    let marks := anchoredEach back ps
    startsIn (if back then marks.reverse else marks)
  | alt ps => (anchoredEach back ps).all (·.2)
  | rep least _ _ a => 0 < least && anchored back a
  | group _ a => anchored back a
  | _ => false
/-- For each of several patterns the most bytes it takes and whether it is
anchored. -/
def anchoredEach (back : Bool) : List Pattern → List (Option Nat × Bool)
  | [] => []
  | p :: ps => (p.longest, anchored back p) :: anchoredEach back ps
end

end Pattern
end Keywise
