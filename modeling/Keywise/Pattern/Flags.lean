/-
# Flags of patterns

Flags change how the rest of a pattern, or of a group, is read.

Key definitions: `PatternFlags`, `PatternFlags.skip`, `PatternFlags.span`,
`PatternFlags.readAll?`.
-/
import Keywise.Pattern.Basic

namespace Keywise

/-- What can be switched on and off inside a pattern. -/
structure PatternFlags where
  /-- Case does not count. -/
  anyCase : Bool := false
  /-- `^` and `$` stand at every line. -/
  multiline : Bool := false
  /-- `.` takes a line feed too. -/
  dotAll : Bool := false
  /-- Repetitions prefer fewer unless they are marked. -/
  lazyFirst : Bool := false
  /-- A carriage return ends a line too. -/
  anyBreak : Bool := false
  /-- White space and comments in the pattern are skipped. -/
  spaced : Bool := false
  /-- Sets and words have members of ASCII only. -/
  ascii : Bool := false
  deriving DecidableEq, Repr

namespace PatternFlags

/-- Skips white space and comments, in a comment or not. -/
def skipFrom (comment : Bool) : List Char → List Char
  | [] => []
  | c :: s =>
    if comment then skipFrom (c != '\n') s
    else if Unicode.isWhitespace c then skipFrom false s
    else if c = '#' then skipFrom true s
    else c :: s

/-- Skips white space and comments, if they are to be skipped. -/
def skip (f : PatternFlags) (s : List Char) : List Char := if f.spaced then skipFrom false s else s

/-- The longest run of characters with a property and what follows it, without
what is to be skipped before, between and behind them. -/
def span (f : PatternFlags) (p : Char → Bool) (comment : Bool) :
    List Char → List Char × List Char
  | [] => ([], [])
  | c :: s =>
    if comment then span f p (c != '\n') s
    else if f.spaced && Unicode.isWhitespace c then span f p false s
    else if f.spaced && c == '#' then span f p true s
    else if p c then
      let (cs, rest) := span f p false s
      (c :: cs, rest)
    else ([], c :: s)

/-- Switches a flag. Letters of no flag have none. -/
def set? (f : PatternFlags) (on : Bool) : Char → Option PatternFlags
  | 'i' => some { f with anyCase := on }
  | 'm' => some { f with multiline := on }
  | 's' => some { f with dotAll := on }
  | 'U' => some { f with lazyFirst := on }
  | 'R' => some { f with anyBreak := on }
  | 'x' => some { f with spaced := on }
  | 'u' => some { f with ascii := !on }
  | _ => none

/-- Reads letters of flags up to a colon or a closing parenthesis, which is
left. A hyphen, of which there is one at most and not the last, switches off
those after it. No letter comes twice. -/
def readAll? (f : PatternFlags) (on : Bool) (seen : List Char) :
    List Char → Option (PatternFlags × List Char)
  | [] => none
  | c :: s =>
    if c = ':' ∨ c = ')' then
      if seen.head? == some '-' then none else some (f, c :: s)
    else if seen.contains c then none
    else if c = '-' then readAll? f false ('-' :: seen) s
    else match set? f on c with
      | some f => readAll? f on (c :: seen) s
      | none => none

/-- A set, with all characters equal to a member but for case if case does not
count. -/
def cased (f : PatternFlags) (a : CharSet) : CharSet := if f.anyCase then a.anyCase f.ascii else a

/-- The characters that are no members of a set. If sets have members of ASCII
only there is no such set. -/
def negate? (f : PatternFlags) (a : CharSet) : Option CharSet :=
  if f.ascii then none else some a.compl

/-- A set, or all characters but its members. Case does not count if flags
say so. -/
def settle? (f : PatternFlags) (negated : Bool) (a : CharSet) : Option CharSet :=
  if negated then f.negate? (f.cased a) else some (f.cased a)

end PatternFlags
end Keywise
