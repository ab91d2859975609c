/-
# A host's own modes

A host can add a mode that only observes: it notes when it is entered and
left and which keys it gets. An unmodified Escape leads to Insert mode.

Key definitions: `Observer`, `Notice`.
-/
import Keywise.Editor

namespace Keywise

/-- What an observer notes. -/
inductive Notice where
  | entered (name : ModeName) (args : Nat)
  | left (name : ModeName)
  | key (name : ModeName) (k : Key)
  deriving DecidableEq, Repr

namespace Notice

/-- The notice as text. -/
def text : Notice → String
  | entered name args => "enter " ++ name.text ++ " " ++ toString args
  | left name => "leave " ++ name.text
  | key name k => "key " ++ name.text ++ " " ++ k.show1

end Notice

/-- A mode that observes. -/
structure Observer where
  name : ModeName
  display : String
  keyMap? : Option MapName
  /-- Whether keys count as being of use. -/
  handles : Bool
  /-- Whether it fails to be entered. -/
  refuses : Bool
  deriving DecidableEq, Repr

namespace Observer

/-- Why the mode is not entered, if it is not. -/
def refusal? (o : Observer) : Option CommandError :=
  if o.refuses then some (.invalidArgument o.name.text) else none

/-- The editor after a key. -/
def handle (e : Editor) (k : Key) : Editor :=
  if k = .plain .escape then e.request .insert [] else e

end Observer
end Keywise
