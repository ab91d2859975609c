/-
# The selection

A selection runs from its anchor to its head, over single characters, both
ends included, or over whole lines.

Key definitions: `Selection.range`.
-/
import Keywise.Text.Range

namespace Keywise

/-- Whether a selection takes characters or lines. -/
inductive SelectionKind where
  | characters
  | lines
  deriving DecidableEq, Repr

/-- Where the selection was begun, where it is now, and what it takes. -/
structure Selection where
  anchor : Nat
  head : Nat
  kind : SelectionKind
  deriving DecidableEq, Repr

namespace Selection

/-- The characters selected. -/
def range (s : Selection) (t : Text) : Range :=
  match s.kind with
  | .characters => .through t s.anchor s.head
  | .lines => .lines t s.anchor s.head

end Selection
end Keywise
