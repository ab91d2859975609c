/-
# Sets of characters

A set of characters is a list of ranges of code points, in ascending order
and with a gap between any two.

Key definitions: `CharSet`, `CharSet.has`, `CharSet.ofRanges`, `CharSet.compl`,
`CharSet.anyCase`.
Key theorems: `CharSet.has_ofRanges`, `CharSet.has_union`, `CharSet.has_single`.
-/
import Keywise.Unicode.Blank
import Keywise.Unicode.Digit
import Keywise.Unicode.Fold
import Keywise.Unicode.WordChar

namespace Keywise

/-- A range of code points, both ends included. -/
abbrev CodeRange := Nat × Nat

namespace CodeRange

/-- Whether the code point `n` lies in the range. -/
def has (r : CodeRange) (n : Nat) : Bool := decide (r.1 ≤ n) && decide (n ≤ r.2)

/-- The range between two code points, whichever is the smaller. -/
def between (a b : Nat) : CodeRange := (min a b, max a b)

end CodeRange

/-- A set of characters. -/
structure CharSet where
  /-- The members, ascending, no range touching the next. -/
  ranges : List CodeRange := []
  deriving DecidableEq, Repr

namespace CharSet

/-- Whether the code point `n` is a member. -/
def hasCode (s : CharSet) (n : Nat) : Bool := s.ranges.any (·.has n)

/-- Whether `c` is a member. -/
def has (s : CharSet) (c : Char) : Bool := s.hasCode c.toNat

/-- The greatest code point. -/
def lastCode : Nat := 0x10FFFF

/-- The code point of the character after `n`: no character is a surrogate. -/
def after (n : Nat) : Nat := if n = 0xD7FF then 0xE000 else n + 1

/-- The code point of the character before `n`. -/
def before (n : Nat) : Nat := if n = 0xE000 then 0xD7FF else n - 1

/-- Joins ranges that overlap or touch, in a list ordered by where they begin.
`r` is the range before the list. -/
def join (r : CodeRange) : List CodeRange → List CodeRange
  | [] => [r]
  | q :: qs =>
    if r.1 ≤ q.1 ∧ q.1 ≤ r.2 + 1 then join (r.1, max r.2 q.2) qs else r :: join q qs

/-- The set of the code points in any of several ranges. -/
def ofRanges (rs : List CodeRange) : CharSet :=
  match rs.mergeSort (fun a b => decide (a.1 < b.1) || (a.1 == b.1 && decide (a.2 ≤ b.2))) with
  | [] => {}
  | r :: rs => { ranges := join r rs }

/-- The ranges with the ascending boundaries given: the first boundary begins a
range, the second is the first code point after it, and so on. -/
def ofBoundaries : List Nat → List CodeRange
  | first :: next :: bs => (first, next - 1) :: ofBoundaries bs
  | [first] => [(first, lastCode)]
  | [] => []

/-- The set of one character. -/
def single (c : Char) : CharSet := { ranges := [(c.toNat, c.toNat)] }

/-- The code points from `first` to `last`. -/
def range (first last : Nat) : CharSet := { ranges := [(first, last)] }

/-- White space of all scripts. -/
def blank : CharSet := { ranges := ofBoundaries Unicode.whitespace }

/-- Decimal digits of all scripts. -/
def digit : CharSet := { ranges := ofBoundaries Unicode.decimalDigit }

/-- Word characters of all scripts. -/
def word : CharSet := { ranges := ofBoundaries Unicode.wordChar }

/-- The members of either. -/
def union (a b : CharSet) : CharSet := ofRanges (a.ranges ++ b.ranges)

/-- The parts of a range that lie in another. -/
def common (r q : CodeRange) : List CodeRange :=
  if max r.1 q.1 ≤ min r.2 q.2 then [(max r.1 q.1, min r.2 q.2)] else []

/-- The members of both. -/
def inter (a b : CharSet) : CharSet :=
  { ranges := a.ranges.flatMap fun r => b.ranges.flatMap (common r) }

/-- The parts of the range `r` that lie outside `q`. -/
def cut (q r : CodeRange) : List CodeRange :=
  if q.2 < r.1 ∨ r.2 < q.1 then [r]
  else
    (if r.1 < q.1 then [(r.1, before q.1)] else []) ++
      (if q.2 < r.2 then [(after q.2, r.2)] else [])

/-- The members of `a` that are none of `b`. -/
def diff (a b : CharSet) : CharSet :=
  { ranges := b.ranges.foldl (fun rs q => rs.flatMap (cut q)) a.ranges }

/-- The members of one of the two alone. -/
def symmDiff (a b : CharSet) : CharSet := diff (union a b) (inter a b)

/-- What lies between the ranges of a list and behind them; `r` is the range
before the list. -/
def gaps (r : CodeRange) : List CodeRange → List CodeRange
  | [] => if r.2 < lastCode then [(after r.2, lastCode)] else []
  | q :: qs => .between (after r.2) (before q.1) :: gaps q qs

/-- The set of the characters that are no members. -/
def compl (s : CharSet) : CharSet :=
  match s.ranges with
  | [] => range 0 lastCode
  | r :: rs => { ranges := (if 0 < r.1 then [(0, before r.1)] else []) ++ gaps r rs }

/-- All characters equal to a member but for case; only ASCII letters have
case if `ascii` is set. -/
def anyCase (ascii : Bool) (s : CharSet) : CharSet :=
  let pairs := if ascii then Unicode.foldPairs.filter (fun (c, d) => c < 128 && d < 128)
    else Unicode.foldPairs
  let folded := ofRanges (pairs.filterMap fun (c, d) =>
    if s.hasCode c || s.hasCode d then some (d, d) else none)
  ofRanges (s.ranges ++ folded.ranges ++ pairs.filterMap fun (c, d) =>
    if folded.hasCode d then some (c, c) else none)

theorem any_join (n : Nat) : ∀ (rs : List CodeRange) (r : CodeRange),
    (join r rs).any (·.has n) = (r.has n || rs.any (·.has n))
  | [], r => by simp [join]
  | q :: qs, r => by
    unfold join
    split
    next h =>
      rw [any_join n qs]
      have : CodeRange.has (r.1, max r.2 q.2) n = (r.has n || q.has n) := by
        simp only [CodeRange.has]
        grind
      simp [this, Bool.or_assoc]
    next => simp [any_join n qs]

/-- A code point is a member of the set made of ranges if it lies in one. -/
theorem has_ofRanges (rs : List CodeRange) (n : Nat) :
    (ofRanges rs).hasCode n = rs.any (·.has n) := by
  unfold ofRanges hasCode
  have h := List.mergeSort_perm rs
    (fun a b => decide (a.1 < b.1) || (a.1 == b.1 && decide (a.2 ≤ b.2)))
  rw [← h.any_eq]
  split
  next heq => simp [heq]
  next r rs' heq => rw [heq]; simp [any_join]

theorem has_union (a b : CharSet) (n : Nat) :
    (union a b).hasCode n = (a.hasCode n || b.hasCode n) := by
  rw [union, has_ofRanges, List.any_append]; rfl

theorem has_single (c d : Char) : (single c).has d = (c == d) := by
  by_cases h : c = d
  · subst h; simp [single, has, hasCode, CodeRange.has]
  · have hn : c.toNat ≠ d.toNat := fun he => h (Char.toNat_inj.mp he)
    have : ¬ (c.toNat ≤ d.toNat ∧ d.toNat ≤ c.toNat) := by omega
    simpa [single, has, hasCode, CodeRange.has, beq_eq_false_iff_ne.mpr h] using this

end CharSet
end Keywise
