/-
# The two counts of an operator

A count may be typed before an operator, and another one between it and what
it applies to. What follows goes by their product. Two states of the parser
in which an operator is known agree if the product is the same, and so is all
else: then a key does the same in both, unless it is a digit and goes on with
one of the counts (`Normal.Agrees.attempt`).

A count is cut off at the limit with each digit that is typed, and so comes to
the number that was typed, cut off once (`Normal.reads_decimal`). The product
is cut off once more. So a number before an operator and one behind it agree
with their product in either place (`Normal.agrees_behind`,
`Normal.agrees_before`).

Key definitions: `Key.decimal`, `Count.times`, `Normal.Reads`,
`Normal.Agrees`.
Key theorems: `Normal.reads_decimal`, `Normal.Agrees.attempt`,
`Normal.Agrees.handle`, `Normal.agrees_behind`, `Normal.agrees_before`.
-/
import Keywise.Proofs.Mode.Unfinished

namespace Keywise

/-! ### Numbers -/

/-- The keys of a number in decimal, no zero in front. -/
def Key.decimal (n : Nat) : List Key := (Nat.toDigits 10 n).map .char

theorem Key.decimal_of_lt {n : Nat} (h : n < 10) : Key.decimal n = [.char n.digitChar] := by
  rw [decimal, Nat.toDigits_of_lt_base h]
  rfl

theorem Key.decimal_of_le {n : Nat} (h : 10 ≤ n) :
    Key.decimal n = Key.decimal (n / 10) ++ [.char (n % 10).digitChar] := by
  rw [decimal, Nat.toDigits_of_base_le (by decide) h, List.map_append]
  rfl

namespace Count

/-- A digit goes on with a count. Zero does not start one. -/
theorem digit?_digitChar {count : Option Nat} {d : Nat} (hd : d < 10)
    (h : d ≠ 0 ∨ count.isSome = true) : digit? count d.digitChar = some d := by
  have hvalue : d.digitChar.toNat - '0'.toNat = d := by
    rw [Nat.toNat_digitChar_of_lt_ten hd]
    exact Nat.add_sub_cancel_left ..
  have hstarts : (d.digitChar != '0' || count.isSome) = true := by
    rcases h with hd' | hsome
    · have hne : d.digitChar ≠ '0' := by
        intro heq
        rw [heq] at hvalue
        exact hd' hvalue.symm
      rw [bne_iff_ne.mpr hne, Bool.true_or]
    · rw [hsome, Bool.or_true]
  have hdigit : d.digitChar.isDigit = true := by
    rw [Nat.isDigit_digitChar]
    exact decide_eq_true hd
  unfold digit?
  rw [hdigit, hstarts, hvalue]
  rfl

/-- A number cut off before its last digit is cut off with it all the more. -/
theorem addDigit_min (n d : Nat) : addDigit (some (min n limit)) d = min (n * 10 + d) limit := by
  unfold addDigit limit
  rw [Option.getD_some]
  omega

/-- The product of two counts, each of which is cut off at the limit, and so
is the product. -/
def times (a b : Nat) : Nat := min (min a limit * min b limit) limit

theorem one_le_times {a b : Nat} (ha : 1 ≤ a) (hb : 1 ≤ b) : 1 ≤ times a b := by
  have hlimit : 1 ≤ limit := by decide
  have hpos : 0 < min a limit * min b limit :=
    Nat.mul_pos (Nat.lt_min.mpr ⟨ha, hlimit⟩) (Nat.lt_min.mpr ⟨hb, hlimit⟩)
  exact Nat.le_min.mpr ⟨hpos, hlimit⟩

theorem min_times_limit (a b : Nat) : min (times a b) limit = times a b :=
  Nat.min_eq_left (Nat.min_le_right _ _)

theorem digit?_eq_none {count : Option Nat} {c : Char} (h : c.isDigit = false) :
    digit? count c = none := by
  unfold digit?
  rw [h]
  rfl

end Count

namespace Normal

/-! ### Keys that are read -/

/-- Keys that all go on with a command, one after the other. -/
inductive Reads : Normal → List Key → Normal → Prop
  | nil (n : Normal) : Reads n [] n
  | cons {n n₁ n' : Normal} {k : Key} {ks : List Key} : n.Extends k n₁ → Reads n₁ ks n' →
      Reads n (k :: ks) n'

theorem Extends.reads {n n' : Normal} {k : Key} (h : n.Extends k n') : n.Reads [k] n' :=
  .cons h (.nil n')

theorem Reads.append {n n₁ n' : Normal} {ks ks' : List Key} (h : n.Reads ks n₁)
    (h' : n₁.Reads ks' n') : n.Reads (ks ++ ks') n' := by
  induction h with
  | nil => exact h'
  | cons hk _ ih => exact .cons hk (ih h')

/-- **A number is read** as the count that it is, or the limit if it is above
that. With the count so far, the parser is `f` of it. -/
theorem reads_decimal {f : Option Nat → Normal}
    (hf : ∀ count c d, Count.digit? count c = some d →
      (f count).Extends (.char c) (f (some (Count.addDigit count d)))) {n : Nat} (hn : 1 ≤ n) :
    (f none).Reads (Key.decimal n) (f (some (min n Count.limit))) := by
  induction n using Nat.strongRecOn with
  | ind n ih =>
    by_cases hlt : n < 10
    · have hone : Count.addDigit none n = min n Count.limit := by
        rw [Count.addDigit, Option.getD_none, Nat.zero_mul, Nat.zero_add]
      rw [Key.decimal_of_lt hlt, ← hone]
      exact (hf none _ n (Count.digit?_digitChar hlt (Or.inl (by omega)))).reads
    · have hmore : Count.addDigit (some (min (n / 10) Count.limit)) (n % 10) =
          min n Count.limit := by
        rw [Count.addDigit_min, Nat.div_add_mod']
      have hlast := hf (some (min (n / 10) Count.limit)) _ (n % 10)
        (Count.digit?_digitChar (Nat.mod_lt n (by decide)) (Or.inr rfl))
      rw [hmore] at hlast
      rw [Key.decimal_of_le (Nat.not_lt.mp hlt)]
      exact (ih (n / 10) (by omega) (by omega)).append hlast.reads

theorem reads_number {n : Nat} (hn : 1 ≤ n) :
    idle.Reads (Key.decimal n) { count := some (min n Count.limit) } :=
  reads_decimal (f := fun count => { count }) (fun _ c d hd => .digit c d rfl rfl rfl hd) hn

theorem reads_count (op : Operator) {n : Nat} (hn : 1 ≤ n) :
    idle.Reads (Key.decimal n ++ [.char op.char])
      { count := some (min n Count.limit), operator := some op } :=
  (reads_number hn).append (Extends.operator op.char op rfl rfl rfl op.ofChar?_char).reads

theorem reads_operandCount (count : Option Nat) (op : Operator) {n : Nat} (hn : 1 ≤ n) :
    Reads { count, operator := some op } (Key.decimal n)
      { count, operator := some op, operandCount := some (min n Count.limit) } :=
  reads_decimal (f := fun operandCount => { count, operator := some op, operandCount })
    (fun _ c d hd => .operandDigit op c d rfl rfl rfl hd) hn

/-! ### Parsers that agree -/

/-- Operator `op` has been read in both. Their counts come to the same
product, and all else is the same. -/
structure Agrees (op : Operator) (n n' : Normal) : Prop where
  operator : n.operator = some op
  operator' : n'.operator = some op
  register : n'.register = n.register
  awaiting : n'.awaiting = n.awaiting
  total : n'.total = n.total
  /-- A register is named before the operator. -/
  unnamed : n.awaiting ≠ .registerName

namespace Agrees

variable {op : Operator} {n n' : Normal} (e : Editor)

theorem runMotion (h : Agrees op n n') (m : Motion) : n'.runMotion e m = n.runMotion e m := by
  unfold Normal.runMotion
  rw [h.operator, h.operator', h.register, h.total]

theorem runLines (h : Agrees op n n') : n'.runLines e op = n.runLines e op := by
  unfold Normal.runLines
  rw [h.register, h.total]

theorem runObject (h : Agrees op n n') (outer : Bool) (c : Char) :
    n'.runObject e outer c = n.runObject e outer c := by
  unfold Normal.runObject
  rw [h.operator, h.operator', h.register, h.total]

theorem runReplacement (h : Agrees op n n') (c : Char) :
    n'.runReplacement e c = n.runReplacement e c := by
  unfold Normal.runReplacement
  rw [h.register, h.total]

/-- The replies to a key are the same, or both have read the key and wait for
another one. -/
inductive Replies (op : Operator) (e : Editor) : Reply → Reply → Prop
  | same (r : Reply) : Replies op e r r
  | awaits {n n' : Normal} : Agrees op n n' → n.awaiting ≠ .command →
      Replies op e (n, e, .ok true) (n', e, .ok true)

theorem readChar (h : Agrees op n n') (lead : Option MotionLead) (c : Char) :
    Replies op e (n.readChar e lead c) (n'.readChar e lead c) := by
  unfold Normal.readChar
  split
  · exact .same _
  · exact .awaits ⟨h.operator, h.operator', h.register, rfl, h.total, nofun⟩ nofun
  · rw [h.runMotion]
    exact .same _
  · rw [h.operator, h.operator']
    exact .same _

theorem readAny (h : Agrees op n n') {c : Char} (hc : c.isDigit = false) :
    Replies op e (n.readAny e c) (n'.readAny e c) := by
  unfold Normal.readAny
  simp only [h.operator, h.operator', Count.digit?_eq_none hc]
  split
  · rw [h.runLines]
    exact .same _
  · split
    · exact .awaits ⟨rfl, rfl, h.register, rfl, h.total, nofun⟩ nofun
    · exact h.readChar e none c

theorem special (h : Agrees op n n') (k : Key) : n'.special e k = n.special e k := by
  have hno : ∀ p : Prop, ¬ (p ∧ some op = none) := fun _ hn => nomatch hn.2
  unfold Normal.special
  rw [h.operator, h.operator', if_neg (hno _), if_neg (hno _)]
  cases k.specialMotion? with
  | none => rfl
  | some m => exact h.runMotion e m

/-- **A key comes to the same** in both, unless it is a digit and goes on with
a count. -/
theorem attempt (h : Agrees op n n') {k : Key}
    (hk : n.awaiting = .command → ∀ c, k.char? = some c → c.isDigit = false) :
    Replies op e (n.attempt e k) (n'.attempt e k) := by
  unfold Normal.attempt
  split
  · exact .same _
  · cases hchar : k.char? with
    | none =>
      simp only
      rw [h.special]
      exact .same _
    | some c =>
      simp only [h.awaiting]
      cases hawaiting : n.awaiting with
      | registerName => exact absurd hawaiting h.unnamed
      | replacement =>
        simp only
        rw [h.runReplacement]
        exact .same _
      | object outer =>
        simp only
        rw [h.runObject]
        exact .same _
      | motion lead => exact h.readChar e (some lead) c
      | command => exact h.readAny e (hk hawaiting c hchar)

theorem handle (h : Agrees op n n') {k : Key}
    (hk : n.awaiting = .command → ∀ c, k.char? = some c → c.isDigit = false) :
    n'.handle e k = n.handle e k ∨ ∃ n₁ n₁', Agrees op n₁ n₁' ∧ n₁.awaiting ≠ .command ∧
      n.handle e k = (n₁, e, true) ∧ n'.handle e k = (n₁', e, true) := by
  have hreplies := h.attempt e hk
  unfold Normal.handle
  generalize n.attempt e k = r, n'.attempt e k = r' at hreplies
  cases hreplies with
  | same => exact Or.inl rfl
  | awaits hagrees hcommand => exact Or.inr ⟨_, _, hagrees, hcommand, rfl, rfl⟩

end Agrees

/-! ### Counts before and behind an operator -/

variable (op : Operator) (a b : Nat)

/-- The product behind the operator comes to the same as both counts. -/
theorem agrees_behind :
    Agrees op
      { count := some (min a Count.limit), operator := some op
        operandCount := some (min b Count.limit) }
      { operator := some op, operandCount := some (min (Count.times a b) Count.limit) } := by
  refine ⟨rfl, rfl, rfl, rfl, ?_, nofun⟩
  show some (min (1 * min (Count.times a b) Count.limit) Count.limit) = some (Count.times a b)
  rw [Nat.one_mul, Count.min_times_limit, Count.min_times_limit]

theorem agrees_before :
    Agrees op
      { count := some (min a Count.limit), operator := some op
        operandCount := some (min b Count.limit) }
      { count := some (min (Count.times a b) Count.limit), operator := some op } := by
  refine ⟨rfl, rfl, rfl, rfl, ?_, nofun⟩
  show some (min (min (Count.times a b) Count.limit * 1) Count.limit) = some (Count.times a b)
  rw [Nat.mul_one, Count.min_times_limit, Count.min_times_limit]

end Normal
end Keywise
