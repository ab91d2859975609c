/-
# Repeating a step

Key definitions: `repeated`.
Key theorems: `repeated_eq_repeat`.
-/
namespace Keywise

/-- Takes a step `n` times. Where a step stands still all further ones would,
so they are not taken. -/
def repeated {α : Type} [DecidableEq α] (step : α → α) : Nat → α → α
  | 0, a => a
  | n + 1, a => if step a = a then a else repeated step n (step a)

theorem repeated_of_fixed {α : Type} [DecidableEq α] {step : α → α} {a : α} (h : step a = a) :
    ∀ n, Nat.repeat step n a = a
  | 0 => rfl
  | n + 1 => by rw [Nat.repeat, repeated_of_fixed h n, h]

theorem repeat_succ' {α : Type} (step : α → α) : ∀ (n : Nat) (a : α),
    Nat.repeat step (n + 1) a = Nat.repeat step n (step a)
  | 0, _ => rfl
  | n + 1, a => by rw [Nat.repeat, repeat_succ' step n a, Nat.repeat]

/-- Leaving out the idle steps changes nothing. -/
theorem repeated_eq_repeat {α : Type} [DecidableEq α] (step : α → α) :
    ∀ (n : Nat) (a : α), repeated step n a = Nat.repeat step n a
  | 0, _ => rfl
  | n + 1, a => by
    rw [repeat_succ', repeated]
    split
    · next h => rw [h, repeated_of_fixed h]
    · exact repeated_eq_repeat step n (step a)

/-- The count of a command: one if none was typed, or zero. -/
def countOf (count : Option Nat) : Nat := max (count.getD 1) 1

theorem one_le_countOf (count : Option Nat) : 1 ≤ countOf count := by
  unfold countOf; omega

theorem countOf_some {n : Nat} (hn : 1 ≤ n) : countOf (some n) = n := Nat.max_eq_left hn

end Keywise
