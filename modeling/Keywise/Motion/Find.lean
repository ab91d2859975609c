/-
# Searching for a character on the line

Key definitions: `CharSearch.candidates`, `CharSearch.locate`,
`CharSearch.destination`.
-/
import Keywise.Motion.Step
import Keywise.Register

namespace Keywise
namespace CharSearch

/-- The offsets of a character in a text whose first character is at `p`. -/
def positions (target : Char) (p : Nat) : Text → List Nat
  | [] => []
  | c :: t => if c = target then p :: positions target (p + 1) t else positions target (p + 1) t

/-- The offsets of the target on the line of `p`, strictly after `p` or, if
the search is backward, strictly before it; the nearest first. -/
def candidates (s : CharSearch) (t : Text) (p : Nat) : List Nat :=
  let l := t.lineAt p
  let all := positions s.target l.start (t.content l)
  if s.backward then (all.filter (· < p)).reverse else all.filter (p < ·)

/-- Where a search stops that has found the target at `q`. -/
def stopBeside (s : CharSearch) (q : Nat) : Nat :=
  if s.upTo then (if s.backward then q + 1 else q - 1) else q

/-- Where the search for the `n`-th target from `p` stops. -/
def locate (s : CharSearch) (t : Text) (n p : Nat) : Option Nat :=
  (s.candidates t p)[n - 1]?.map s.stopBeside

/-- Where the search leads from `p`. One up to the target that is repeated
next to a target would stand still: it starts on that target instead. -/
def destination (s : CharSearch) (again : Bool) (t : Text) (n p : Nat) : Option Nat :=
  match s.locate t n p with
  | none => none
  | some q =>
    if again && s.upTo && q == p then s.locate t n (if s.backward then p - 1 else p + 1)
    else some q

/-- The same search the other way. -/
def reverse (s : CharSearch) : CharSearch := { s with backward := !s.backward }

/-- The key of the search. -/
def name (s : CharSearch) : String :=
  match s.backward, s.upTo with
  | false, false => "f"
  | true, false => "F"
  | false, true => "t"
  | true, true => "T"

theorem reverse_reverse (s : CharSearch) : s.reverse.reverse = s := by
  simp [reverse]

end CharSearch
end Keywise
