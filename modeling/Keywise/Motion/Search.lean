/-
# Searching for a pattern

A search goes from one start of a match to the next, around the text: after
the last start comes the first one, and backward the other way round.

Key definitions: `PatternSearch.next?`, `PatternSearch.around`,
`PatternSearch.destination`.
-/
import Keywise.Error
import Keywise.Motion.Step
import Keywise.Pattern.Footprint
import Keywise.Pattern.Match
import Keywise.Pattern.Read
import Keywise.Register

namespace Keywise
namespace PatternSearch

/-- The start that follows `p` in an ascending list, around its end. -/
def next? (backward : Bool) (starts : List Nat) (p : Nat) : Option Nat :=
  if backward then (starts.reverse.find? (· < p)).or starts.getLast?
  else (starts.find? (p < ·)).or starts.head?

/-- The place `n` starts from `p`. -/
def around (backward : Bool) (starts : List Nat) (n p : Nat) : Nat :=
  repeated (fun q => (next? backward starts q).getD q) n p

/-- The angle brackets that mark word boundaries in a search, written as a
pattern writes them. -/
def withBoundaries : List Char → List Char
  | '\\' :: '<' :: s => '\\' :: 'b' :: withBoundaries s
  | '\\' :: '>' :: s => '\\' :: 'b' :: withBoundaries s
  | c :: s => c :: withBoundaries s
  | [] => []

/-- The automaton of the pattern searched for, which is well formed and not
too large. -/
def compile (s : PatternSearch) : Except CommandError Automaton :=
  match Pattern.read? (withBoundaries s.pattern.toList) with
  | some p => if p.fits then .ok (.ofPattern p) else .error (.invalidPattern s.pattern)
  | none => .error (.invalidPattern s.pattern)

/-- Where the `n`-th match from `p` starts, given where all matches start. -/
def landing (s : PatternSearch) (starts : List Nat) (n p : Nat) : Except CommandError Nat :=
  if starts.isEmpty then .error (.patternNotFound s.pattern)
  else .ok (around s.backward starts n p)

/-- Where the `n`-th match from `p` starts. -/
def destination (s : PatternSearch) (t : Text) (n p : Nat) : Except CommandError Nat := do
  let automaton ← s.compile
  s.landing (automaton.starts t) n p

/-- The key of the search. -/
def name (s : PatternSearch) : String := if s.backward then "?" else "/"

end PatternSearch
end Keywise
