/-
# Completing a line

While Insert mode completes a line, two keys go forward and one goes back
through the lines of the text that begin like the line up to the cursor. The
first candidate is what was typed, so that going around restores it.

Key definitions: `Completion`, `Completion.candidates`,
`Completion.ofLine`, `Completion.handle`.
-/
import Keywise.Mode.Insert
import Keywise.Unicode.Blank

namespace Keywise

/-- A completion under way: the line in its parts, and the candidates for the
middle one, of which one is chosen. -/
structure Completion where
  indent : List Char := []
  stem : List Char := []
  suffix : List Char := []
  matching : List (List Char) := []
  index : Nat := 0
  line : Option Nat := none
  deriving DecidableEq, Repr

namespace Completion

/-- The content of each line of a text. -/
def contents (t : Text) : List (List Char) :=
  (t.lines).map fun l => l.take (Text.contentLength l)

/-- The lines, without their indents, that begin with `stem` and are not
among those seen, each once. -/
def candidates (stem : List Char) (seen : List (List Char)) :
    List (List Char) → List (List Char)
  | [] => []
  | l :: ls =>
    let c := Unicode.trimStart l
    if stem.isPrefixOf c && !seen.contains c then c :: candidates stem (c :: seen) ls
    else candidates stem seen ls

/-- The completion of a line at a column. -/
def ofLine (t : Text) (number : Nat) (line : List Char) (column : Nat) : Completion :=
  let indent := line.takeWhile Unicode.isWhitespace
  let column := max column indent.length
  let stem := (line.drop indent.length).take (column - indent.length)
  { indent, stem
    suffix := line.drop column
    matching := stem :: candidates stem [stem, []] (contents t)
    index := 0
    line := some number }

/-- Whether the completion is not of the line given, or of the line as it is
no longer. -/
def isStale (s : Completion) (number : Nat) (line : List Char) : Bool :=
  s.matching.isEmpty || s.line != some number ||
    (s.index == 0 && line != s.indent ++ s.stem)

/-- The candidate one step on or back, around the list. -/
def turn (s : Completion) (forward : Bool) : Completion :=
  let n := s.matching.length
  { s with index := if forward then (s.index + 1) % n else (s.index + (n - 1)) % n }

/-- The candidate chosen. -/
def chosen (s : Completion) : List Char := s.matching.getD s.index []

/-- What is shown for the candidate chosen. -/
def message (s : Completion) : String :=
  if s.index = 0 then "Back at original"
  else "match " ++ toString s.index ++ " of " ++ toString (s.matching.length - 1)

/-- Replaces the line by the next candidate or the one before. -/
def complete (s : Completion) (e : Editor) (forward : Bool) : Completion × Editor :=
  let l := e.line
  let line := e.text.content l
  let s := if s.isStale l.number line then ofLine e.text l.number line (e.cursor - l.start) else s
  if s.matching.length ≤ 1 then (s, e.showError "Pattern not found")
  else
    let s := s.turn forward
    let e := e.replace l.start l.length (s.indent ++ s.chosen ++ s.suffix)
    (s, (e.moveTo (l.start + s.indent.length + s.chosen.length) .column).showInfo s.message)

/-- Handles a key. One that does not complete the line goes to Insert mode. -/
def handle (s : Completion) (e : Editor) (k : Key) : Completion × Editor × Bool :=
  let done (r : Completion × Editor) : Completion × Editor × Bool := (r.1, r.2, true)
  if k = ⟨.char 'l', .control⟩ ∨ k = ⟨.char 'n', .control⟩ then done (s.complete e true)
  else if k = ⟨.char 'p', .control⟩ then done (s.complete e false)
  else ({}, (e.request .insert [.resume]).replay k, true)

end Completion
end Keywise
