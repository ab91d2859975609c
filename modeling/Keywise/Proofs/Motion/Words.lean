/-
# Word motions step through the stops of a text

A stop is the first character of a word, or an empty line; a word end is the
last character of a word. A step forward leads to the least stop above
(`Words.forward_spec`), a step back to the greatest one below
(`Words.backward_spec`), and a step to the end of a word to the least word end
above (`Words.wordEnd_spec`), or to an end of the text if there is none. So a
step back undoes one forward from a stop.

Every step is one or two scans. What a scan passes over is no stop, since it
goes on with a word or is white space that ends no empty line, and where it
halts there is one, or the text ends.

Key definitions: `Words.IsStop`, `Words.IsWordEnd`, `FirstAbove`, `LastBelow`.
Key theorems: `Words.forward_spec`, `Words.backward_spec`,
`Words.wordEnd_spec`, `WordStep.steps_through_stops`.
-/
import Mathlib.Logic.Function.Iterate
import Mathlib.Order.Bounds.Basic
import Keywise.Motion.Basic

namespace Keywise

/-- The least number above `p` with a property, or `d` if there is none. -/
def FirstAbove (P : Nat → Prop) (p d q : Nat) : Prop :=
  IsLeast {r | P r ∧ p < r} q ∨ (∀ r, P r → r ≤ p) ∧ q = d

/-- The greatest number below `p` with a property, or `d` if there is none. -/
def LastBelow (P : Nat → Prop) (p d q : Nat) : Prop :=
  IsGreatest {r | P r ∧ r < p} q ∨ (∀ r, P r → p ≤ r) ∧ q = d

theorem FirstAbove.of_isLeast {P : Nat → Prop} {p d q : Nat} (hq : P q) (hlt : p < q)
    (hnone : ∀ i, p < i → i < q → ¬ P i) : FirstAbove P p d q :=
  .inl ⟨⟨hq, hlt⟩, fun i hi => Nat.le_of_not_lt fun hiq => hnone i hi.2 hiq hi.1⟩

theorem LastBelow.of_isGreatest {P : Nat → Prop} {p d q : Nat} (hq : P q) (hlt : q < p)
    (hnone : ∀ i, q < i → i < p → ¬ P i) : LastBelow P p d q :=
  .inl ⟨⟨hq, hlt⟩, fun i hi => Nat.le_of_not_lt fun hqi => hnone i hqi hi.2 hi.1⟩

theorem FirstAbove.unique {P : Nat → Prop} {p d q q' : Nat} (h : FirstAbove P p d q)
    (h' : FirstAbove P p d q') : q = q' := by
  rcases h with hleast | ⟨hnone, rfl⟩ <;> rcases h' with hleast' | ⟨hnone', rfl⟩
  · exact hleast.unique hleast'
  · exact absurd hleast.1.2 (Nat.not_lt.mpr (hnone' q hleast.1.1))
  · exact absurd hleast'.1.2 (Nat.not_lt.mpr (hnone q' hleast'.1.1))
  · rfl

theorem LastBelow.unique {P : Nat → Prop} {p d q q' : Nat} (h : LastBelow P p d q)
    (h' : LastBelow P p d q') : q = q' := by
  rcases h with hlast | ⟨hnone, rfl⟩ <;> rcases h' with hlast' | ⟨hnone', rfl⟩
  · exact hlast.unique hlast'
  · exact absurd hlast.1.2 (Nat.not_lt.mpr (hnone' q hlast.1.1))
  · exact absurd hlast'.1.2 (Nat.not_lt.mpr (hnone q' hlast'.1.1))
  · rfl

theorem FirstAbove.of_le {P : Nat → Prop} {p d q r : Nat} (h : FirstAbove P p d q) (hpr : p ≤ r)
    (hrq : r < q) : FirstAbove P r d q := by
  rcases h with ⟨⟨hq, -⟩, hleast⟩ | ⟨hnone, heq⟩
  · exact .inl ⟨⟨hq, hrq⟩, fun i hi => hleast ⟨hi.1, Nat.lt_of_le_of_lt hpr hi.2⟩⟩
  · exact .inr ⟨fun i hi => Nat.le_trans (hnone i hi) hpr, heq⟩

theorem LastBelow.of_le {P : Nat → Prop} {p d q r : Nat} (h : LastBelow P p d q) (hrp : r ≤ p)
    (hqr : q < r) : LastBelow P r d q := by
  rcases h with ⟨⟨hq, -⟩, hlast⟩ | ⟨hnone, heq⟩
  · exact .inl ⟨⟨hq, hqr⟩, fun i hi => hlast ⟨hi.1, Nat.lt_of_lt_of_le hi.2 hrp⟩⟩
  · exact .inr ⟨fun i hi => Nat.le_trans hrp (hnone i hi), heq⟩

theorem repeated_eq_iterate {α : Type} [DecidableEq α] (step : α → α) (n : Nat) (a : α) :
    repeated step n a = step^[n] a := by
  rw [repeated_eq_repeat]
  induction n with
  | zero => rfl
  | succ n ih => rw [Function.iterate_succ_apply', ← ih, Nat.repeat]

namespace Words

variable (big : Bool) (t : Text)

/-- A stop: the first character of a word, or a line feed behind another one,
which is an empty line. -/
def IsStop (q : Nat) : Prop :=
  q < t.length ∧
    (classAt big t q ≠ .whitespace ∧ (q = 0 ∨ classAt big t (q - 1) ≠ classAt big t q) ∨
      0 < q ∧ charAt t q = '\n' ∧ charAt t (q - 1) = '\n')

/-- A word end: the last character of a word. -/
def IsWordEnd (q : Nat) : Prop :=
  q < t.length ∧ classAt big t q ≠ .whitespace ∧
    (q + 1 = t.length ∨ classAt big t (q + 1) ≠ classAt big t q)

instance (q : Nat) : Decidable (IsStop big t q) := inferInstanceAs (Decidable (_ ∧ _))

instance (q : Nat) : Decidable (IsWordEnd big t q) := inferInstanceAs (Decidable (_ ∧ _))

variable {big : Bool} {t : Text}

/-! ### Where there is no stop -/

theorem classAt_of_charAt_eq {q : Nat} (h : charAt t q = '\n') :
    classAt big t q = .whitespace := by
  have hnl : Unicode.isWhitespace '\n' = true := by decide
  rw [classAt, h, CharClass.of, if_pos hnl]

theorem not_isStop_of_class_eq {q : Nat} (hpos : 0 < q)
    (hsame : classAt big t (q - 1) = classAt big t q) (hq : classAt big t q ≠ .whitespace) :
    ¬ IsStop big t q := by
  rintro ⟨-, ⟨-, rfl | hne⟩ | ⟨-, hnl, -⟩⟩
  · exact absurd hpos (Nat.lt_irrefl 0)
  · exact hne hsame
  · exact hq (classAt_of_charAt_eq hnl)

/-- White space is a stop only as an empty line. -/
theorem not_isStop_of_whitespace {q : Nat} (hq : classAt big t q = .whitespace)
    (hline : ¬ (0 < q ∧ charAt t q = '\n' ∧ charAt t (q - 1) = '\n')) : ¬ IsStop big t q := by
  rintro ⟨-, ⟨hword, -⟩ | hnl⟩
  · exact hword hq
  · exact hline hnl

theorem not_isStop_of_word_before {q : Nat} (hq : classAt big t q = .whitespace)
    (hbefore : classAt big t (q - 1) ≠ .whitespace) : ¬ IsStop big t q :=
  not_isStop_of_whitespace hq fun hnl => hbefore (classAt_of_charAt_eq hnl.2.2)

/-! ### Scans towards the end of the text -/

variable (big t)

/-- Passing over a class: all that is passed is of the class, and what it
halts at is not, unless it has come to the end of the distance. -/
theorem skipClass_spec (c : CharClass) : ∀ n p : Nat,
    p ≤ skipClass big t c p n ∧ skipClass big t c p n ≤ p + n ∧
      (∀ i, p ≤ i → i < skipClass big t c p n → classAt big t i = c) ∧
      (skipClass big t c p n < p + n → classAt big t (skipClass big t c p n) ≠ c)
  | 0, p => ⟨Nat.le_refl p, Nat.le_refl p, fun _ hle hlt => absurd hle (Nat.not_le.mpr hlt),
      fun h => absurd h (Nat.lt_irrefl p)⟩
  | n + 1, p => by
    rw [skipClass]
    by_cases hp : classAt big t p = c
    · rw [if_pos hp]
      obtain ⟨hle, hadd, hclass, hne⟩ := skipClass_spec c n (p + 1)
      refine ⟨by omega, by omega, fun i hpi hi => ?_, fun h => hne (by omega)⟩
      rcases Nat.eq_or_lt_of_le hpi with rfl | hlt
      · exact hp
      · exact hclass i hlt hi
    · rw [if_neg hp]
      exact ⟨Nat.le_refl p, Nat.le_add_right p _,
        fun _ hle hlt => absurd hle (Nat.not_le.mpr hlt), fun _ => hp⟩

/-- Passing over white space up to the end of the text: no stop is passed, and
where it halts there is one, unless it has not gone at all. It goes if and only
if there is white space. -/
theorem skipBlank_spec : ∀ n p : Nat, p + n = t.length →
    p ≤ skipBlank big t p n ∧ skipBlank big t p n ≤ t.length ∧
      (∀ i, p < i → i < skipBlank big t p n → ¬ IsStop big t i) ∧
      (p < skipBlank big t p n → skipBlank big t p n < t.length →
        IsStop big t (skipBlank big t p n)) ∧
      (p < t.length → (p < skipBlank big t p n ↔ classAt big t p = .whitespace))
  | 0, p, hlen => by
    have hend : p = t.length := hlen
    rw [skipBlank]
    exact ⟨Nat.le_refl p, Nat.le_of_eq hend, fun i hpi hip => absurd hpi (Nat.lt_asymm hip),
      fun h => absurd h (Nat.lt_irrefl p), fun h => absurd hend (Nat.ne_of_lt h)⟩
  | n + 1, p, hlen => by
    rw [skipBlank]
    by_cases hp : classAt big t p = .whitespace
    · rw [if_pos hp]
      by_cases hempty : charAt t p = '\n' ∧ 0 < n ∧ charAt t (p + 1) = '\n'
      · rw [if_pos hempty]
        obtain ⟨hnl, hn, hnl'⟩ := hempty
        refine ⟨by omega, by omega, fun i _ _ => by omega, fun _ h => ?_,
          fun _ => iff_of_true (Nat.lt_succ_self p) hp⟩
        exact ⟨h, .inr ⟨Nat.succ_pos p, hnl', hnl⟩⟩
      · rw [if_neg hempty]
        obtain ⟨hle, hlast, hnone, hstop, hgoes⟩ := skipBlank_spec n (p + 1) (by omega)
        refine ⟨by omega, hlast, fun i hpi hi => ?_, fun _ h => ?_,
          fun _ => iff_of_true hle hp⟩
        · rcases Nat.eq_or_lt_of_le (Nat.succ_le_of_lt hpi) with rfl | hlt
          · -- the line feed at `p`, if there is one, is not followed by another
            have hblank := (hgoes (by omega)).mp hi
            refine not_isStop_of_whitespace hblank fun hnl => hempty ?_
            exact ⟨hnl.2.2, by omega, hnl.2.1⟩
          · exact hnone i hlt hi
        · rcases Nat.eq_or_lt_of_le hle with heq | hlt
          · have hword : classAt big t (p + 1) ≠ .whitespace := fun hblank =>
              absurd ((hgoes (by omega)).mpr hblank) (by omega)
            rw [← heq] at h ⊢
            refine ⟨h, .inl ⟨hword, .inr ?_⟩⟩
            rw [Nat.add_sub_cancel, hp]
            exact hword.symm
          · exact hstop hlt h
    · rw [if_neg hp]
      exact ⟨Nat.le_refl p, by omega, fun i hpi hip => absurd hpi (Nat.lt_asymm hip),
        fun h => absurd h (Nat.lt_irrefl p), fun _ => iff_of_false (Nat.lt_irrefl p) hp⟩

/-- Going on in a class: all that is gone over is of the class, and what
follows is not, unless it has come to the end of the distance. -/
theorem lastOfClass_spec (c : CharClass) : ∀ n p : Nat, classAt big t p = c →
    p ≤ lastOfClass big t c p n ∧ lastOfClass big t c p n ≤ p + n ∧
      (∀ i, p ≤ i → i ≤ lastOfClass big t c p n → classAt big t i = c) ∧
      (lastOfClass big t c p n < p + n → classAt big t (lastOfClass big t c p n + 1) ≠ c)
  | 0, p, hp => by
    rw [lastOfClass]
    exact ⟨Nat.le_refl p, Nat.le_refl p, fun i hpi hip => Nat.le_antisymm hip hpi ▸ hp,
      fun h => absurd h (Nat.lt_irrefl p)⟩
  | n + 1, p, hp => by
    rw [lastOfClass]
    by_cases hnext : classAt big t (p + 1) = c
    · rw [if_pos hnext]
      obtain ⟨hle, hadd, hclass, hne⟩ := lastOfClass_spec c n (p + 1) hnext
      refine ⟨by omega, by omega, fun i hpi hi => ?_, fun h => hne (by omega)⟩
      rcases Nat.eq_or_lt_of_le hpi with rfl | hlt
      · exact hp
      · exact hclass i hlt hi
    · rw [if_neg hnext]
      exact ⟨Nat.le_refl p, Nat.le_add_right p _,
        fun i hpi hip => Nat.le_antisymm hip hpi ▸ hp, fun _ => hnext⟩

/-! ### Scans towards the start of the text -/

/-- Going back over white space: no stop is passed, and where it halts on white
space there is one, or the text starts. -/
theorem backBlank_spec : ∀ p : Nat, p < t.length →
    backBlank big t p ≤ p ∧ (∀ i, backBlank big t p < i → i ≤ p → ¬ IsStop big t i) ∧
      (classAt big t (backBlank big t p) = .whitespace →
        backBlank big t p = 0 ∨ IsStop big t (backBlank big t p))
  | 0, _ => ⟨Nat.le_refl 0, fun _ hpos hle => absurd hpos (Nat.not_lt.mpr hle), fun _ => .inl rfl⟩
  | p + 1, hlt => by
    rw [backBlank]
    by_cases hp : classAt big t (p + 1) = .whitespace
    · rw [if_pos hp]
      by_cases hempty : charAt t (p + 1) = '\n' ∧ charAt t p = '\n'
      · rw [if_pos hempty]
        refine ⟨Nat.le_refl _, fun i hpi hip => absurd hpi (Nat.not_lt.mpr hip), fun _ => .inr ?_⟩
        exact ⟨hlt, .inr ⟨Nat.succ_pos p, hempty⟩⟩
      · rw [if_neg hempty]
        obtain ⟨hle, hnone, hstop⟩ := backBlank_spec p (by omega)
        refine ⟨by omega, fun i hi hip => ?_, hstop⟩
        rcases Nat.eq_or_lt_of_le hip with rfl | hip
        · exact not_isStop_of_whitespace hp fun hnl => hempty hnl.2
        · exact hnone i hi (Nat.le_of_lt_succ hip)
    · rw [if_neg hp]
      exact ⟨Nat.le_refl _, fun i hpi hip => absurd hpi (Nat.not_lt.mpr hip),
        fun hblank => absurd hblank hp⟩

/-- Going back in a class: all that is gone over is of the class, and what is
before it is not, unless the text starts there. -/
theorem backClass_spec (c : CharClass) : ∀ p : Nat, classAt big t p = c →
    backClass big t c p ≤ p ∧ (∀ i, backClass big t c p ≤ i → i ≤ p → classAt big t i = c) ∧
      (backClass big t c p = 0 ∨ classAt big t (backClass big t c p - 1) ≠ c)
  | 0, hp => by
    rw [backClass]
    exact ⟨Nat.le_refl 0, fun i _ hi => Nat.le_zero.mp hi ▸ hp, .inl rfl⟩
  | p + 1, hp => by
    rw [backClass]
    by_cases hbefore : classAt big t p = c
    · rw [if_pos hbefore]
      obtain ⟨hle, hclass, hne⟩ := backClass_spec c p hbefore
      refine ⟨by omega, fun i hi hip => ?_, hne⟩
      rcases Nat.eq_or_lt_of_le hip with rfl | hip
      · exact hp
      · exact hclass i hi (Nat.le_of_lt_succ hip)
    · rw [if_neg hbefore]
      exact ⟨Nat.le_refl _, fun i hpi hip => Nat.le_antisymm hip hpi ▸ hp, .inr hbefore⟩

/-! ### The steps -/

variable {big t}

/-- Where no stops were passed the next one is, or the text ends. -/
theorem firstAbove_of_passed {p q : Nat} (hpq : p < q) (hle : q ≤ t.length)
    (hnone : ∀ i, p < i → i < q → ¬ IsStop big t i) (hstop : q < t.length → IsStop big t q) :
    FirstAbove (IsStop big t) p t.length q := by
  rcases Nat.eq_or_lt_of_le hle with rfl | hlt
  · exact .inr ⟨fun r hr => Nat.le_of_not_lt fun hpr => hnone r hpr hr.1 hr, rfl⟩
  · exact .of_isLeast (hstop hlt) hpq hnone

variable (big t)

/-- **A step forward** leads to the least stop above, or to the end of the
text. -/
theorem forward_spec (p : Nat) : FirstAbove (IsStop big t) p t.length (forward big t p) := by
  unfold forward
  by_cases hend : p ≥ t.length
  · rw [if_pos hend]
    exact .inr ⟨fun r hr => Nat.le_trans (Nat.le_of_lt hr.1) hend, rfl⟩
  have hp : p < t.length := Nat.not_le.mp hend
  simp only [if_neg hend]
  by_cases hblank : classAt big t p = .whitespace
  · rw [if_pos hblank]
    obtain ⟨-, hle, hnone, hstop, hgoes⟩ :=
      skipBlank_spec big t (t.length - p) p (by omega)
    have hgone := (hgoes hp).mpr hblank
    exact firstAbove_of_passed hgone hle hnone (hstop hgone)
  · rw [if_neg hblank]
    obtain ⟨hpq, hqlen, hclass, hne⟩ :=
      skipClass_spec big t (classAt big t p) (t.length - p) p
    generalize skipClass big t (classAt big t p) p (t.length - p) = q at *
    have hlt : p < q := by
      refine Nat.lt_of_le_of_ne hpq ?_
      rintro rfl
      exact hne (by omega) rfl
    obtain ⟨hqr, hle, hnone, hstop, hgoes⟩ :=
      skipBlank_spec big t (t.length - q) q (by omega)
    generalize skipBlank big t q (t.length - q) = r at *
    have hbefore : classAt big t (q - 1) = classAt big t p := hclass _ (by omega) (by omega)
    refine firstAbove_of_passed (by omega) hle (fun i hpi hir => ?_) fun hr => ?_
    · rcases Nat.lt_trichotomy i q with hiq | rfl | hqi
      · have hi : classAt big t i = classAt big t p := hclass i (by omega) hiq
        have hi' : classAt big t (i - 1) = classAt big t p := hclass _ (by omega) (by omega)
        exact not_isStop_of_class_eq (by omega) (hi'.trans hi.symm) (hi ▸ hblank)
      · have hi : classAt big t i = .whitespace := (hgoes (by omega)).mp hir
        exact not_isStop_of_word_before hi (hbefore ▸ hblank)
      · exact hnone i hqi hir
    · rcases Nat.eq_or_lt_of_le hqr with rfl | hgone
      · have hword : classAt big t q ≠ .whitespace := fun h =>
          Nat.lt_irrefl q ((hgoes hr).mpr h)
        refine ⟨hr, .inl ⟨hword, .inr ?_⟩⟩
        rw [hbefore]
        exact (hne (by omega)).symm
      · exact hstop hgone hr

/-- **A step back** leads to the greatest stop below, or to the start of the
text. -/
theorem backward_spec (p : Nat) : LastBelow (IsStop big t) p 0 (backward big t p) := by
  unfold backward
  by_cases hzero : p = 0
  · rw [if_pos hzero]
    exact .inr ⟨fun r _ => hzero ▸ Nat.zero_le r, rfl⟩
  simp only [if_neg hzero]
  by_cases hempty : t.length = 0
  · have hblank : classAt big t 0 = .whitespace := by
      rw [List.length_eq_zero_iff.mp hempty]
      exact classAt_of_charAt_eq rfl
    rw [hempty, Nat.min_zero, Nat.zero_sub, backBlank, if_pos hblank]
    exact .inr ⟨fun r hr => absurd hr.1 (by omega), rfl⟩
  obtain ⟨hle, hnone, hstop⟩ := backBlank_spec big t (min p t.length - 1) (by omega)
  generalize backBlank big t (min p t.length - 1) = q at *
  have hpassed : ∀ i, q < i → i < p → ¬ IsStop big t i := fun i hqi hip hi =>
    hnone i hqi (by have hlt := hi.1; omega) hi
  by_cases hblank : classAt big t q = .whitespace
  · rw [if_pos hblank]
    by_cases hq : IsStop big t q
    · exact .of_isGreatest hq (by omega) hpassed
    · have heq : q = 0 := (hstop hblank).resolve_right hq
      refine .inr ⟨fun r hr => Nat.le_of_not_lt fun hrp => ?_, heq⟩
      rcases Nat.eq_zero_or_pos r with rfl | hpos
      · exact hq (heq ▸ hr)
      · exact hpassed r (heq ▸ hpos) hrp hr
  · rw [if_neg hblank]
    obtain ⟨hrq, hclass, hbefore⟩ := backClass_spec big t (classAt big t q) q rfl
    generalize backClass big t (classAt big t q) q = r at *
    have hr : classAt big t r = classAt big t q := hclass r (Nat.le_refl r) hrq
    refine .of_isGreatest ⟨by omega, .inl ⟨hr ▸ hblank, hr ▸ hbefore⟩⟩ (by omega)
      fun i hri hip => ?_
    rcases Nat.lt_or_ge q i with hqi | hiq
    · exact hpassed i hqi hip
    · have hi : classAt big t i = classAt big t q := hclass i (Nat.le_of_lt hri) hiq
      have hi' : classAt big t (i - 1) = classAt big t q := hclass _ (by omega) (by omega)
      exact not_isStop_of_class_eq (by omega) (hi'.trans hi.symm) (hi ▸ hblank)

/-- **A step to the end of a word** leads to the least word end above, or to
the last character. -/
theorem wordEnd_spec (p : Nat) :
    FirstAbove (IsWordEnd big t) p (t.length - 1) (wordEnd big t p) := by
  unfold wordEnd
  by_cases hempty : t.length = 0
  · rw [if_pos hempty]
    exact .inr ⟨fun r hr => absurd hr.1 (by omega), by omega⟩
  simp only [if_neg hempty]
  obtain ⟨hpq, -, hblank, hne⟩ := skipClass_spec big t .whitespace
    (t.length - (p + 1)) (p + 1)
  generalize skipClass big t .whitespace (p + 1) (t.length - (p + 1)) = q at *
  by_cases hend : q ≥ t.length
  · rw [if_pos hend]
    refine .inr ⟨fun r hr => Nat.le_of_not_lt fun hpr => ?_, rfl⟩
    exact hr.2.1 (hblank r hpr (Nat.lt_of_lt_of_le hr.1 hend))
  · rw [if_neg hend]
    have hq : classAt big t q ≠ .whitespace := hne (by omega)
    obtain ⟨hqr, hle, hclass, hafter⟩ := lastOfClass_spec big t (classAt big t q)
      (t.length - 1 - q) q rfl
    generalize lastOfClass big t (classAt big t q) q (t.length - 1 - q) = r at *
    have hr : classAt big t r = classAt big t q := hclass r hqr (Nat.le_refl r)
    have hlast : r + 1 = t.length ∨ classAt big t (r + 1) ≠ classAt big t r := by
      rcases Nat.lt_or_ge r (q + (t.length - 1 - q)) with hlt | hge
      · exact .inr (hr ▸ hafter hlt)
      · exact .inl (by omega)
    refine .of_isLeast ⟨by omega, hr ▸ hq, hlast⟩ (by omega) fun i hpi hir hi => ?_
    rcases Nat.lt_or_ge i q with hiq | hqi
    · exact hi.2.1 (hblank i hpi hiq)
    · have hsame : classAt big t (i + 1) = classAt big t i :=
        (hclass (i + 1) (by omega) hir).trans (hclass i hqi (Nat.le_of_lt hir)).symm
      rcases hi.2.2 with hlen | hdiff
      · omega
      · exact hdiff hsame

variable {big t}

/-- From a stop, a step back undoes one forward. -/
theorem backward_forward {q : Nat} (h : IsStop big t q) : backward big t (forward big t q) = q := by
  have habove : q < forward big t q ∧ ∀ i, q < i → i < forward big t q → ¬ IsStop big t i := by
    rcases forward_spec big t q with ⟨⟨-, hlt⟩, hleast⟩ | ⟨hnone, heq⟩
    · exact ⟨hlt, fun i hqi hi hstop => Nat.not_le.mpr hi (hleast ⟨hstop, hqi⟩)⟩
    · exact ⟨heq ▸ h.1, fun i hqi _ hstop => Nat.not_le.mpr hqi (hnone i hstop)⟩
  rcases backward_spec big t (forward big t q) with ⟨⟨hstop, hlt⟩, hgreatest⟩ | ⟨hnone, -⟩
  · refine Nat.le_antisymm (Nat.le_of_not_lt fun hq => ?_) (hgreatest ⟨h, habove.1⟩)
    exact habove.2 _ hq hlt hstop
  · exact absurd habove.1 (Nat.not_lt.mpr (hnone q h))

end Words

namespace WordStep

open Words

/-- **Word motions step through the stops.** One step leads to the next stop,
to the one before or to the next word end, or to an end of the text if there
is none; a motion with a count is as many steps; and from a stop a step back
undoes one forward. -/
theorem steps_through_stops (big : Bool) (t : Text) :
    (∀ p, FirstAbove (IsStop big t) p t.length (forward.once big t p)) ∧
      (∀ p, LastBelow (IsStop big t) p 0 (backward.once big t p)) ∧
      (∀ p, FirstAbove (IsWordEnd big t) p (t.length - 1) (wordEnd.once big t p)) ∧
      (∀ s : WordStep, s = forward ∨ s = backward ∨ s = wordEnd → ∀ sticky count p,
        (Motion.word s big).destination t sticky count p =
          .ok (Nat.repeat (s.once big t) (countOf count) p)) ∧
      ∀ q, IsStop big t q → backward.once big t (forward.once big t q) = q := by
  refine ⟨forward_spec big t, backward_spec big t, wordEnd_spec big t, ?_,
    fun q => backward_forward⟩
  intro s hs sticky count p
  rw [← repeated_eq_repeat]
  rcases hs with rfl | rfl | rfl <;> rfl

/-- The stops of a text with an empty line in it, and the way back from one. -/
theorem steps_through_stops_of_lines :
    let t : Text := ['a', '.', 'b', '\n', '\n', ' ', 'c']
    (List.range 8).filter (IsStop false t ·) = [0, 1, 2, 4, 6] ∧
      (Motion.word .forward false).destination t none (some 3) 0 = .ok 4 ∧
      backward.once false t (forward.once false t 4) = 4 := by
  intro t
  obtain ⟨-, -, -, hcount, hback⟩ := steps_through_stops false t
  refine ⟨by decide, ?_, hback 4 (by decide)⟩
  rw [hcount forward (.inl rfl)]
  exact congrArg _ (by decide)

end WordStep
end Keywise
