/-
# Buffers

A buffer is a text with a name. It is described by its name and its size.

Key definitions: `Buffer`, `Buffer.describe`.
-/
import Keywise.Text.Basic
import Keywise.Text.Quoted

namespace Keywise

/-- A text with a name. -/
structure Buffer where
  name : String
  text : Text
  deriving DecidableEq

namespace Buffer

/-- The name and the size of a buffer. -/
def describe (b : Buffer) : String :=
  "Buffer \x7b name: " ++ String.ofList (Quoted.encode b.name.toList) ++ ", chars: " ++
    toString b.text.length ++ ", lines: " ++ toString b.text.lineCount ++ " \x7d"

end Buffer
end Keywise
