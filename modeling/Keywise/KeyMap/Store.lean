/-
# The key maps of an editor

The key maps are found by name. A map that is to be changed comes into being,
empty, if there is none of that name.

Key definitions: `KeyMaps.find?`, `KeyMaps.modify`, `KeyMaps.standard`.
Key theorems: `KeyMaps.find?_modify_self`.
-/
import Keywise.KeyMap.Basic

namespace Keywise

/-- Key maps, in the order in which they came into being. -/
abbrev KeyMaps := List KeyMap

namespace KeyMaps

/-- The map of the name given. -/
def find? (ms : KeyMaps) (name : MapName) : Option KeyMap := List.find? (·.name == name) ms

/-- Changes the map of the name given, which is created if need be. -/
def modify (name : MapName) (f : KeyMap → KeyMap) : KeyMaps → KeyMaps
  | [] => [f (.empty name)]
  | m :: ms => if m.name = name then f m :: ms else m :: modify name f ms

/-- Defines a mapping in the map of the name given. -/
def add (ms : KeyMaps) (name : MapName) (lhs : List Key) (e : Expansion) : KeyMaps :=
  modify name (·.add lhs e) ms

/-- The mappings of the map of the name given. -/
def mappings (ms : KeyMaps) (name : MapName) : List (List Key × Expansion) :=
  ((ms.find? name).map (·.entries)).getD []

/-- The maps of the modes, all empty. -/
def standard : KeyMaps := [.empty .normal, .empty .visual, .empty .insert, .empty .command]

theorem find?_modify_self (name : MapName) {f : KeyMap → KeyMap}
    (hf : ∀ m, (f m).name = m.name) :
    ∀ ms : KeyMaps, (modify name f ms).find? name = some (f ((ms.find? name).getD (.empty name)))
  | [] => by simp [modify, find?, hf, KeyMap.empty]
  | m :: ms => by
    by_cases h : m.name = name
    · simp [modify, find?, h, hf]
    · have ih := find?_modify_self name hf ms
      simp only [find?] at ih
      simp [modify, find?, h, ih]

theorem find?_modify_of_ne {name other : MapName} (h : other ≠ name) {f : KeyMap → KeyMap}
    (hf : ∀ m, (f m).name = m.name) :
    ∀ ms : KeyMaps, (modify name f ms).find? other = ms.find? other
  | [] => by simp [modify, find?, hf, KeyMap.empty, h.symm]
  | m :: ms => by
    have ih := find?_modify_of_ne h hf ms
    simp only [find?] at ih
    by_cases hm : m.name = name
    · simp [modify, find?, hm, hf, h.symm]
    · by_cases ho : m.name = other
      · simp [modify, find?, ho, h]
      · simp [modify, find?, hm, ho, ih]

end KeyMaps
end Keywise
