/-
# The configuration

What a user can set: whether and when keys that wait for more are settled,
how deep mappings may lead to mappings, and the mappings to begin with.

Key definitions: `Config`, `InputSettings.depth`.
Key theorems: `InputSettings.depth_bounds`.
-/
namespace Keywise

/-- A mapping of the configuration, with its sides in key notation. -/
structure MappingEntry where
  mode : String
  lhs : String
  rhs : String
  recursive : Bool := true
  deriving DecidableEq, Repr

/-- How keys are taken in. -/
structure InputSettings where
  /-- Whether keys that wait for more are settled after a while. -/
  timeout : Bool := true
  /-- How long that is, in thousandths of a second. -/
  timeoutLength : Nat := 1000
  /-- How deep mappings are to lead to mappings. -/
  maxMapDepth : Nat := 100
  deriving DecidableEq, Repr

/-- A configuration. -/
structure Config where
  input : InputSettings := {}
  mappings : List MappingEntry := []
  deriving DecidableEq, Repr

namespace InputSettings

/-- How deep mappings may lead to mappings: what is set, but from one level
to a thousand. -/
def depth (s : InputSettings) : Nat := max 1 (min s.maxMapDepth 1000)

theorem depth_bounds (s : InputSettings) : 1 ≤ s.depth ∧ s.depth ≤ 1000 := by
  simp only [depth]
  omega

end InputSettings
end Keywise
