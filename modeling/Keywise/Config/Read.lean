/-
# Reading a configuration

The table `input` holds the settings and the array `map` the mappings. What
is left out has its default, and keys of other names are ignored. A table
may also be written as an array of its values in order.

Key definitions: `Config.ofEntries?`, `Config.read?`.
Key theorems: `Config.ofEntries?_nil`.
-/
import Keywise.Config.Basic
import Keywise.Toml.Read

namespace Keywise
namespace Config

open Toml (Value Entries)

/-- The entries of a table with keys of the names given. A date has none. -/
def record? (names : List String) : Value → Option Entries
  | .table _ es => some es
  | .array vs => some (names.zip vs)
  | .tables ts => some (names.zip (ts.map (.table .header)))
  | .moment _ => some []
  | _ => none

/-- A truth value. -/
def flag? : Value → Option Bool
  | .boolean b => some b
  | _ => none

/-- A number of at most 32 bits that is not negative. -/
def number? : Value → Option Nat
  | .integer n => if 0 ≤ n ∧ n ≤ 0xFFFFFFFF then some n.toNat else none
  | _ => none

/-- A string. -/
def string? : Value → Option String
  | .string s => some s
  | _ => none

/-- The value of a key, read by `f`, or a default if there is none. -/
def valueOr {α : Type} (f : Value → Option α) (es : Entries) (key : String) (default : α) :
    Option α :=
  match es.lookup key with
  | some v => f v
  | none => some default

/-- The settings a table holds. -/
def input? (v : Value) : Option InputSettings := do
  let es ← record? ["timeout", "timeoutlen", "maxmapdepth"] v
  let base : InputSettings := {}
  return {
    timeout := ← valueOr flag? es "timeout" base.timeout
    timeoutLength := ← valueOr number? es "timeoutlen" base.timeoutLength
    maxMapDepth := ← valueOr number? es "maxmapdepth" base.maxMapDepth }

/-- The mapping a table holds. -/
def mapping? (v : Value) : Option MappingEntry := do
  let es ← record? ["mode", "lhs", "rhs", "recursive"] v
  return {
    mode := ← (es.lookup "mode").bind string?
    lhs := ← (es.lookup "lhs").bind string?
    rhs := ← (es.lookup "rhs").bind string?
    recursive := ← valueOr flag? es "recursive" true }

/-- The mappings an array holds. -/
def mappings? : Value → Option (List MappingEntry)
  | .array vs => vs.mapM mapping?
  | .tables ts => ts.mapM fun es => mapping? (.table .header es)
  | _ => none

/-- The configuration that the entries of a document write. -/
def ofEntries? (es : Entries) : Option Config := do
  return {
    input := ← valueOr input? es "input" {}
    mappings := ← valueOr mappings? es "map" [] }

/-- The configuration that a text writes, if it is well formed. -/
def read? (s : List Char) : Option Config := (Toml.read? s).bind ofEntries?

theorem ofEntries?_nil : ofEntries? [] = some {} := rfl

end Config
end Keywise
