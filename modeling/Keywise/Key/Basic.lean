/-
# Keys

A key is a code, which is a character or a named key, together with the
modifiers held down. Shift shows in the character itself, so it is a modifier
of named keys and of control characters only.

A stroke is a key that a mapping has produced; it says whether the key may
start a mapping in turn.

Key definitions: `Key`, `Key.char?`, `Key.isCtrl`, `Stroke`.
-/
namespace Keywise

/-- What a key stands for without its modifiers. -/
inductive KeyCode where
  | char (c : Char)
  | enter
  | escape
  | backspace
  | tab
  | up
  | down
  | left
  | right
  | home
  | endKey
  | delete
  | function (n : Nat)
  deriving DecidableEq, Repr

/-- The modifiers held down with a key. -/
structure Modifiers where
  ctrl : Bool := false
  alt : Bool := false
  shift : Bool := false
  deriving DecidableEq, Repr

namespace Modifiers

/-- No modifier. -/
def none : Modifiers := {}

/-- Control alone. -/
def control : Modifiers := { ctrl := true }

end Modifiers

/-- A key code with its modifiers. -/
structure Key where
  code : KeyCode
  mods : Modifiers := .none
  deriving DecidableEq, Repr

namespace Key

/-- The key of a character, no modifier held. -/
def char (c : Char) : Key := ⟨.char c, .none⟩

/-- The key without modifiers. -/
def plain (code : KeyCode) : Key := ⟨code, .none⟩

/-- The character the key types: none with Control or Alt held. -/
def char? (k : Key) : Option Char :=
  match k.code with
  | .char c => if k.mods.ctrl || k.mods.alt then none else some c
  | _ => none

/-- Whether the key is `c` with Control held, among other modifiers or not. -/
def isCtrl (k : Key) (c : Char) : Bool := k.mods.ctrl && k.code == .char c

theorem char?_char (c : Char) : (char c).char? = some c := rfl

end Key

/-- A key produced by a mapping. If it is recursive it may start a mapping. -/
structure Stroke where
  key : Key
  recursive : Bool
  deriving DecidableEq, Repr

namespace Stroke

/-- A key that passes as it is. -/
def literal (k : Key) : Stroke := ⟨k, false⟩

theorem literal_key {st : Stroke} (h : st.recursive = false) : literal st.key = st := by
  rw [literal, ← h]

end Stroke
end Keywise
