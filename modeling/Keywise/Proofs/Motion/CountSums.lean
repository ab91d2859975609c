/-
# Counts add up

A motion with a count of steps leads where the steps lead one after the other,
so that a count may be split anywhere: with the sum of two counts it leads where
it leads with the one and, from there, with the other, and it fails if and only
if one of them does (`Motion.destination_add`). For the words and for the
matches of a pattern the steps are a function that is repeated. The motions by
characters stop at the ends of the line, and the first part of the steps does
not leave it. From a target that a search on the line finds, the rest of the
targets may be found (`CharSearch.Lists.drop`).

Key definitions: `Motion.CountsSteps`, `Motion.singles`.
Key theorems: `Motion.destination_add`, `Motion.destination_eq_singles`,
`Motion.counts_add`.
-/
import Keywise.Proofs.Motion.Searches
import Keywise.Proofs.Motion.Targets
import Keywise.Proofs.Text.Contents

namespace Keywise

/-! ### Each kind of step -/

namespace Text.ReturnsOnly

/-- Up to the end of its content all of a line is on it, and that end too. -/
theorem lineAt_of_le_stop {t : Text} (h : t.ReturnsOnly) {p q : Nat}
    (hstart : (t.lineAt p).start ≤ q) (hstop : q ≤ (t.lineAt p).stop) : t.lineAt q = t.lineAt p := by
  obtain ⟨pre, l, post, hp⟩ := t.exists_holds p
  rw [hp.lineAt] at hstart hstop ⊢
  exact h.lineAt_eq hp.lines hstart hstop

end Text.ReturnsOnly

namespace LineMotion

variable {m : LineMotion} {t : Text} {a b : Nat}

/-- Where the motions by characters lead. The motion is a variable, lest machine
words be computed with to see which one it is. -/
theorem destination_of_left (hm : m = left) (t : Text) (sticky : Option Sticky)
    (count : Option Nat) (p : Nat) :
    m.destination t sticky count p = max (p - countOf count) (t.lineAt p).start := by
  unfold destination
  rw [hm]

theorem destination_of_right (hm : m = right) (t : Text) (sticky : Option Sticky)
    (count : Option Nat) (p : Nat) :
    m.destination t sticky count p = min (p + countOf count) (t.lineAt p).stop := by
  unfold destination
  rw [hm]

theorem destination_add (hm : m = left ∨ m = right) (h : t.ReturnsOnly) (ha : 1 ≤ a) (hb : 1 ≤ b)
    (sticky sticky' : Option Sticky) (p : Nat) :
    m.destination t sticky (some (a + b)) p =
      m.destination t sticky' (some b) (m.destination t sticky (some a) p) := by
  have hsum : 1 ≤ a + b := Nat.le_add_right_of_le ha
  have hstart := t.start_lineAt_le p
  rcases hm with hm | hm
  · have hline : t.lineAt (max (p - a) (t.lineAt p).start) = t.lineAt p :=
      Text.lineAt_eq_of_mem (Nat.le_max_right _ _) (.inl (by omega))
    simp only [destination_of_left hm, countOf_some ha, countOf_some hb, countOf_some hsum, hline]
    omega
  · have hcontent := (t.lineAt p).start_le_stop
    have hline : t.lineAt (min (p + a) (t.lineAt p).stop) = t.lineAt p :=
      h.lineAt_of_le_stop (by omega) (Nat.min_le_right _ _)
    simp only [destination_of_right hm, countOf_some ha, countOf_some hb, countOf_some hsum, hline]
    omega

end LineMotion

namespace CharSearch

variable {s : CharSearch} {t : Text} {p q : Nat} {qs : List Nat}

/-- **From any target of a list** those behind it may be found. -/
theorem Lists.drop (h : s.Lists t p qs) {i : Nat} (hq : qs[i]? = some q) :
    s.Lists t q (qs.drop (i + 1)) := by
  induction i generalizing p qs with
  | zero =>
    cases qs with
    | nil => cases hq
    | cons r qs =>
      obtain rfl : r = q := by simpa using hq
      exact h.tail
  | succ i ih =>
    cases qs with
    | nil => cases hq
    | cons r qs => exact ih h.tail (by simpa using hq)

end CharSearch

namespace PatternSearch

theorem around_add (backward : Bool) (starts : List Nat) (a b p : Nat) :
    around backward starts (a + b) p = around backward starts b (around backward starts a p) := by
  unfold around
  rw [repeated_eq_iterate, repeated_eq_iterate, repeated_eq_iterate, Nat.add_comm,
    Function.iterate_add_apply]

/-- **Around any starts**, whichever engine has found them, counts add up. -/
theorem landing_add (s : PatternSearch) (starts : List Nat) (a b p : Nat) :
    s.landing starts (a + b) p = (s.landing starts a p).bind (s.landing starts b) := by
  unfold landing
  split
  · rfl
  · exact congrArg Except.ok (around_add s.backward starts a b p)

theorem destination_add (s : PatternSearch) (t : Text) (a b p : Nat) :
    s.destination t (a + b) p = (s.destination t a p).bind (s.destination t b) := by
  unfold destination
  cases s.compile with
  | error e => rfl
  | ok automaton => exact s.landing_add (automaton.starts t) a b p

end PatternSearch

/-! ### All of them -/

namespace Motion

/-- The motions whose count says how many steps they take. -/
def CountsSteps : Motion → Prop
  | line m => m = .left ∨ m = .right
  | word s _ => s = .forward ∨ s = .backward ∨ s = .wordEnd
  | subword _ => False
  | find s _ _ => s.upTo = false
  | search _ => True

variable {m : Motion} {t : Text} {a b : Nat}

theorem word_destination_add {s : WordStep} (hs : s = .forward ∨ s = .backward ∨ s = .wordEnd)
    (big : Bool) (t : Text) (a b p : Nat) :
    s.destination big t (a + b) p = s.destination big t b (s.destination big t a p) := by
  have hrepeated : ∀ n p, s.destination big t n p = (s.once big t)^[n] p := by
    intro n p
    rw [← repeated_eq_iterate]
    rcases hs with rfl | rfl | rfl <;> rfl
  rw [hrepeated, hrepeated, hrepeated, Nat.add_comm, Function.iterate_add_apply]

theorem find_destination_add {s : CharSearch} (hs : s.upTo = false) (again recorded : Bool)
    (t : Text) (ha : 1 ≤ a) (hb : 1 ≤ b) (sticky sticky' : Option Sticky) (p : Nat) :
    (find s again recorded).destination t sticky (some (a + b)) p =
      ((find s again recorded).destination t sticky (some a) p).bind
        ((find s again recorded).destination t sticky' (some b)) := by
  have hlists := CharSearch.lists_candidates s t p
  have hsum : 1 ≤ a + b := Nat.le_add_right_of_le ha
  rw [CharSearch.find_destination_onto hlists hs, CharSearch.find_destination_onto hlists hs,
    countOf_some ha, countOf_some hsum]
  cases hq : (s.candidates t p)[a - 1]? with
  | none =>
    -- with fewer than `a` targets there are fewer than `a + b`
    have hnone : (s.candidates t p)[a + b - 1]? = none := by
      rw [List.getElem?_eq_none_iff] at hq ⊢
      omega
    rw [hnone]
    rfl
  | some q =>
    have hrest := hlists.drop hq
    rw [Nat.sub_add_cancel ha] at hrest
    have hget : (s.candidates t p)[a + b - 1]? = ((s.candidates t p).drop a)[b - 1]? := by
      rw [List.getElem?_drop, Nat.add_sub_assoc hb]
    show _ = (find s again recorded).destination t sticky' (some b) q
    rw [CharSearch.find_destination_onto hrest hs, countOf_some hb, hget]

/-- **A count may be split.** With the sum of two counts a motion that counts
its steps does what it does with the one and, if that does not fail, what it
does with the other from there. -/
theorem destination_add (hm : m.CountsSteps) (h : t.ReturnsOnly) (ha : 1 ≤ a) (hb : 1 ≤ b)
    (sticky sticky' : Option Sticky) (p : Nat) :
    m.destination t sticky (some (a + b)) p =
      (m.destination t sticky (some a) p).bind (m.destination t sticky' (some b)) := by
  have hsum : 1 ≤ a + b := Nat.le_add_right_of_le ha
  cases m with
  | line m => exact congrArg Except.ok (LineMotion.destination_add hm h ha hb sticky sticky' p)
  | word s big =>
    have hadd := word_destination_add hm big t a b p
    show Except.ok (s.destination big t (countOf (some (a + b))) p) =
      Except.ok (s.destination big t (countOf (some b)) (s.destination big t (countOf (some a)) p))
    rw [countOf_some ha, countOf_some hb, countOf_some hsum, hadd]
  | subword s => exact hm.elim
  | find s again recorded => exact find_destination_add hm again recorded t ha hb sticky sticky' p
  | search s =>
    have hadd := s.destination_add t a b p
    show s.destination t (countOf (some (a + b))) p =
      (s.destination t (countOf (some a)) p).bind (s.destination t (countOf (some b)))
    rw [countOf_some ha, countOf_some hb, countOf_some hsum, hadd]

/-- The motion without a count, `n` times. -/
def singles (m : Motion) (t : Text) (sticky : Option Sticky) : Nat → Nat → Except CommandError Nat
  | 0, p => .ok p
  | n + 1, p => (m.destination t sticky none p).bind (m.singles t sticky n)

theorem destination_none (hm : m.CountsSteps) (t : Text) (sticky : Option Sticky) (p : Nat) :
    m.destination t sticky none p = m.destination t sticky (some 1) p := by
  cases m with
  | line m =>
    refine congrArg Except.ok ?_
    rcases hm with hm | hm
    · rw [LineMotion.destination_of_left hm, LineMotion.destination_of_left hm]
      rfl
    · rw [LineMotion.destination_of_right hm, LineMotion.destination_of_right hm]
      rfl
  | subword s => exact hm.elim
  | word s big => rfl
  | find s again recorded => rfl
  | search s => rfl

/-- **A count is that many motions without one.** -/
theorem destination_eq_singles (hm : m.CountsSteps) (h : t.ReturnsOnly) (sticky : Option Sticky)
    (n p : Nat) : m.destination t sticky (some (n + 1)) p = m.singles t sticky (n + 1) p := by
  induction n generalizing p with
  | zero =>
    rw [Nat.zero_add, singles, destination_none hm]
    cases m.destination t sticky (some 1) p <;> rfl
  | succ n ih =>
    rw [Nat.add_comm (n + 1) 1,
      destination_add hm h (Nat.le_refl 1) (Nat.le_add_left 1 n) sticky sticky, Nat.add_comm 1,
      singles, destination_none hm]
    exact congrArg _ (funext ih)

theorem bind_eq_ok_iff {x : Except CommandError Nat} {f : Nat → Except CommandError Nat} {d : Nat} :
    x.bind f = .ok d ↔ ∃ q, x = .ok q ∧ f q = .ok d := by
  cases x with
  | error e => exact ⟨fun h => (by cases h), fun ⟨_, h, _⟩ => (by cases h)⟩
  | ok q => exact ⟨fun h => ⟨q, rfl, h⟩, fun ⟨_, hq, h⟩ => Except.ok.inj hq ▸ h⟩

/-- **Counts add up.** Where line feeds and carriage returns are the only breaks,
a motion that counts its steps succeeds with the sum of two counts if and only
if it does with the one and from there with the other, and leads to the same
place. A search does so around any starts of matches. -/
theorem counts_add :
    (∀ m : Motion, m.CountsSteps → ∀ t : Text, t.ReturnsOnly → ∀ a b, 1 ≤ a → 1 ≤ b →
      ∀ sticky sticky' p d, m.destination t sticky (some (a + b)) p = .ok d ↔
        ∃ q, m.destination t sticky (some a) p = .ok q ∧
          m.destination t sticky' (some b) q = .ok d) ∧
    ∀ (s : PatternSearch) (starts : List Nat) (a b p d : Nat),
      s.landing starts (a + b) p = .ok d ↔
        ∃ q, s.landing starts a p = .ok q ∧ s.landing starts b q = .ok d := by
  refine ⟨fun m hm t ht a b ha hb sticky sticky' p d => ?_, fun s starts a b p d => ?_⟩
  · rw [destination_add hm ht ha hb sticky sticky']
    exact bind_eq_ok_iff
  · rw [s.landing_add]
    exact bind_eq_ok_iff

/-- Two characters on and one more, up to the end of the line and no further; and
two targets on where there is a third. -/
theorem counts_add_of_line :
    let t : Text := ['.', 'a', '.', '\n', '.']
    (line .right).destination t none (some 2) 1 = .ok 3 ∧
      (line .right).destination t none (some (2 + 1)) 1 = .ok 3 ∧
      ∀ d, (find ⟨'.', false, false⟩ false true).destination t none (some (1 + 1)) 0 ≠ .ok d := by
  intro t
  have hreturns : t.ReturnsOnly := by decide
  have hright := counts_add.1 (line .right) (.inr rfl) t hreturns 2 1 (by decide) (by decide)
    none none 1 3
  have hfind := counts_add.1 (find ⟨'.', false, false⟩ false true) rfl t hreturns 1 1
    (by decide) (by decide) none none 0
  refine ⟨rfl, hright.mpr ⟨3, rfl, rfl⟩, fun d hd => ?_⟩
  obtain ⟨q, hfirst, hsecond⟩ := (hfind d).mp hd
  obtain rfl : 2 = q := Except.ok.inj hfirst
  cases hsecond

end Motion
end Keywise
