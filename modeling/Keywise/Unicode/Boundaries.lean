/-
# Character classes as lists of boundaries

A class of characters is given by the code points at which membership
changes, in ascending order: the first boundary enters the class, the second
leaves it, and so on. A character is a member if an odd number of boundaries
is at or below it.

Key definitions: `Unicode.within`.
Key theorems: `Unicode.within_pair`.
-/
namespace Keywise
namespace Unicode

/-- Whether `n` lies in the class with the ascending boundaries given; the
flag tells whether the code points before the first boundary are members. -/
def withinFrom : Bool → List Nat → Nat → Bool
  | member, [], _ => member
  | member, b :: bs, n => if n < b then member else withinFrom (!member) bs n

/-- Whether `c` lies in the class with the ascending boundaries `bs`. -/
def within (bs : List Nat) (c : Char) : Bool :=
  withinFrom false bs c.toNat

/-- Two boundaries are one half-open range. -/
theorem within_pair (a b : Nat) (c : Char) :
    within [a, b] c = (decide (a ≤ c.toNat) && decide (c.toNat < max a b)) := by
  grind [within, withinFrom]

end Unicode
end Keywise
