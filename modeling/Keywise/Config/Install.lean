/-
# Putting a configuration into effect

The mappings of a configuration are defined one after the other. An entry
that names no maps, or has a side that is not well written, is passed over.

Key definitions: `KeyMaps.install`, `Session.configured`.
Key theorems: `KeyMaps.install_count_le`.
-/
import Keywise.Config.Basic
import Keywise.ExCommand
import Keywise.Session.Basic

namespace Keywise

/-- The maps a configuration means by the name of a mode: a full name or its
letter for one map, nothing for those of Normal and Visual mode, and an
exclamation mark for those of Insert mode and of command lines. -/
def MapName.ofMode? (mode : String) : Option (List MapName) :=
  let mode := String.ofList (Unicode.trim mode.toList)
  if mode = "normal" ∨ mode = "n" then some [normal]
  else if mode = "visual" ∨ mode = "v" ∨ mode = "x" then some [visual]
  else if mode = "insert" ∨ mode = "i" then some [insert]
  else if mode = "command" ∨ mode = "c" then some [command]
  else if mode = "" then some both
  else if mode = "!" then some typing
  else none

namespace KeyMaps

/-- The keys that a text writes, if it is well written. -/
def sideOf? (s : String) : Option (List Key) :=
  match Key.read s.toList with
  | .ok keys => some keys
  | .error _ => none

/-- The key maps with the mapping of an entry, if it has one. -/
def installEntry? (ms : KeyMaps) (m : MappingEntry) : Option KeyMaps := do
  let maps ← MapName.ofMode? m.mode
  let lhs ← sideOf? m.lhs
  let rhs ← sideOf? m.rhs
  return maps.foldl (fun ms name => ms.add name lhs ⟨rhs, m.recursive⟩) ms

/-- The key maps with the mappings of all entries that have one, and the
number of those. -/
def install (ms : KeyMaps) : List MappingEntry → KeyMaps × Nat
  | [] => (ms, 0)
  | m :: rest =>
    match ms.installEntry? m with
    | none => ms.install rest
    | some ms => ((ms.install rest).1, (ms.install rest).2 + 1)

/-- No entry counts twice. -/
theorem install_count_le : ∀ (rest : List MappingEntry) (ms : KeyMaps),
    (ms.install rest).2 ≤ rest.length
  | [], _ => Nat.le_refl 0
  | m :: rest, ms => by
    unfold install
    cases ms.installEntry? m with
    | none => exact Nat.le_succ_of_le (install_count_le rest ms)
    | some ms => exact Nat.succ_le_succ (install_count_le rest ms)

end KeyMaps

namespace Session

/-- A session with the modes an editor has, under a configuration. -/
def configured (e : Editor) (c : Config) : Session :=
  (standard { e with keyMaps := (e.keyMaps.install c.mappings).1 }).setMaxDepth c.input.depth

end Session
end Keywise
