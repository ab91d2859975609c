/-
# Decimal numbers

A number is written as one or more decimal digits, which a plus sign may
precede. Leading zeros do not count, and a number above the limit is none.

Key definitions: `Decimal.read`.
Key theorems: `Decimal.read_le`.
-/
namespace Keywise
namespace Decimal

/-- The value of the digits `s` after digits worth `acc`, if all are digits. -/
def value (acc : Nat) : List Char → Option Nat
  | [] => some acc
  | c :: s => if c.isDigit then value (10 * acc + (c.toNat - '0'.toNat)) s else none

/-- The number written by one or more digits, if it is at most `limit`. -/
def ofDigits (limit : Nat) : List Char → Option Nat
  | [] => none
  | c :: s => (value 0 (c :: s)).filter (· ≤ limit)

/-- The number `s` writes, if it is at most `limit`. -/
def read (limit : Nat) : List Char → Option Nat
  | '+' :: s => ofDigits limit s
  | s => ofDigits limit s

theorem ofDigits_le {limit n : Nat} {s : List Char} (h : ofDigits limit s = some n) :
    n ≤ limit := by
  cases s with
  | nil => simp [ofDigits] at h
  | cons c s =>
    simp only [ofDigits, Option.filter_eq_some_iff, decide_eq_true_eq] at h
    exact h.2

/-- A number that is read is within the limit. -/
theorem read_le {limit n : Nat} {s : List Char} (h : read limit s = some n) : n ≤ limit := by
  unfold read at h
  split at h <;> exact ofDigits_le h

end Decimal
end Keywise
