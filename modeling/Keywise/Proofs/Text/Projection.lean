/-
# Resting is a projection

The cursor may rest on the characters of a content, and at the start of a line
without any, up to line `Text.lastLine` (`Text.RestsOn`). `Text.rest` leads to
such a place (`Text.restsOn_rest`), leaves each of them as it is
(`Text.rest_eq_self_iff_restsOn`) and stays on the line if it may
(`Text.lineAt_rest`). It keeps the order of offsets, as lines do
(`Text.monotone_rest`).

Key definitions: `Text.RestsOn`.
Key theorems: `Text.restsOn_rest`, `Text.rest_eq_self_iff_restsOn`,
`Text.lineAt_rest`, `Text.monotone_rest`, `Text.rest_projects`.
-/
import Keywise.Proofs.Text.Contents
import Keywise.Proofs.Text.Ranges

namespace Keywise
namespace Text

/-- Offset `p` is on a character of the content of line `k`, or at its start if
there is none, and the line is none past the last one for the cursor. -/
def RestsOn (t : Text) (k p : Nat) : Prop :=
  k ≤ t.lastLine ∧ ((t.line k).start ≤ p ∧ p < (t.line k).stop ∨
    (t.line k).length = 0 ∧ p = (t.line k).start)

variable {t : Text} {k p : Nat}

theorem restsOn_iff :
    t.RestsOn k p ↔ k ≤ t.lastLine ∧ (t.line k).start ≤ p ∧ p ≤ (t.line k).last := by
  refine and_congr_right fun _ => ?_
  unfold Line.last Line.stop
  split <;> omega

theorem RestsOn.lineAt (h : t.RestsOn k p) : t.lineAt p = t.line k := by
  obtain ⟨hle, hstart, hlast⟩ := restsOn_iff.mp h
  obtain ⟨pre, l, post, hlines, rfl, hline⟩ :=
    exists_line_eq (Nat.lt_of_le_of_lt hle t.lastLine_lt)
  rw [hline] at hstart hlast ⊢
  exact (holds_of_mem hlines hle hstart hlast).lineAt

theorem RestsOn.number_lineAt (h : t.RestsOn k p) : (t.lineAt p).number = k := by
  rw [h.lineAt]
  exact number_line (Nat.lt_of_le_of_lt h.1 t.lastLine_lt)

theorem RestsOn.rest (h : t.RestsOn k p) : t.rest p = p := by
  obtain ⟨hle, hstart, hlast⟩ := restsOn_iff.mp h
  obtain ⟨pre, l, post, hlines, rfl, hline⟩ :=
    exists_line_eq (Nat.lt_of_le_of_lt hle t.lastLine_lt)
  rw [hline] at hstart hlast
  exact rest_of_mem hlines hle hstart hlast

theorem RestsOn.last (h : t.RestsOn k p) : t.RestsOn k (t.line k).last :=
  restsOn_iff.mpr ⟨h.1, (t.line k).start_le_last, Nat.le_refl _⟩

theorem RestsOn.stop_le_length (h : t.RestsOn k p) : (t.line k).stop ≤ t.length :=
  stop_line_le (Nat.lt_of_le_of_lt h.1 t.lastLine_lt)

theorem rest_eq (t : Text) (p : Nat) :
    t.rest p = max (t.line (min (t.lineAt p).number t.lastLine)).start
      (min p (t.line (min (t.lineAt p).number t.lastLine)).last) := by
  unfold rest
  by_cases h : (t.lineAt p).number > t.lastLine
  · rw [Nat.min_eq_right (Nat.le_of_lt h)]
    simp only [if_pos h]
  · rw [Nat.min_eq_left (Nat.not_lt.mp h), line_number_lineAt]
    simp only [if_neg h]

/-- **What is led to** is a place of the line, or of the last one for the
cursor. -/
theorem restsOn_rest (t : Text) (p : Nat) :
    t.RestsOn (min (t.lineAt p).number t.lastLine) (t.rest p) := by
  have hends := (t.line (min (t.lineAt p).number t.lastLine)).start_le_last
  rw [rest_eq]
  exact restsOn_iff.mpr ⟨Nat.min_le_right _ _, Nat.le_max_left _ _,
    Nat.max_le.mpr ⟨hends, Nat.min_le_right _ _⟩⟩

/-- **The places that are left as they are.** -/
theorem rest_eq_self_iff_restsOn : t.rest p = p ↔ ∃ k, t.RestsOn k p := by
  constructor
  · intro h
    have hrests := t.restsOn_rest p
    rw [h] at hrests
    exact ⟨_, hrests⟩
  · rintro ⟨k, h⟩
    exact h.rest

/-- **The line is left** only if the cursor may not rest on it. -/
theorem lineAt_rest (t : Text) (p : Nat) :
    t.lineAt (t.rest p) =
      if (t.lineAt p).number > t.lastLine then t.line t.lastLine else t.lineAt p := by
  rw [(t.restsOn_rest p).lineAt]
  split
  · next h => rw [Nat.min_eq_right (Nat.le_of_lt h)]
  · next h => rw [Nat.min_eq_left (Nat.not_lt.mp h), line_number_lineAt]

/-- **The order of offsets is kept.** On one line both are brought between the
same two ends. Otherwise the lines are told apart by the places on them. -/
theorem monotone_rest (t : Text) : Monotone t.rest := by
  intro p q hpq
  have hlines : min (t.lineAt p).number t.lastLine ≤ min (t.lineAt q).number t.lastLine :=
    min_le_min_right _ (t.monotone_number_lineAt hpq)
  rcases Nat.eq_or_lt_of_le hlines with hsame | hbefore
  · rw [rest_eq, rest_eq, hsame]
    exact max_le_max_left _ (min_le_min_right _ hpq)
  · by_contra hback
    have hnumbers : (t.lineAt (t.rest q)).number ≤ (t.lineAt (t.rest p)).number :=
      t.monotone_number_lineAt (Nat.le_of_not_le hback)
    rw [(t.restsOn_rest q).number_lineAt, (t.restsOn_rest p).number_lineAt] at hnumbers
    exact Nat.not_lt.mpr hnumbers hbefore

/-- **`Text.rest` is a monotone projection onto the resting places.** What it
leads to is one, and it leaves alone just these. It stays on the line unless the
cursor may not rest there, goes no further the second time, and never makes an
offset overtake another. -/
theorem rest_projects (t : Text) :
    (∀ p, (∃ k, t.RestsOn k (t.rest p)) ∧
      (t.rest p = p ↔ ∃ k, t.RestsOn k p) ∧
      t.lineAt (t.rest p) =
        (if (t.lineAt p).number > t.lastLine then t.line t.lastLine else t.lineAt p) ∧
      t.rest (t.rest p) = t.rest p) ∧
    ∀ p q, p ≤ q → t.rest p ≤ t.rest q :=
  ⟨fun p => ⟨⟨_, t.restsOn_rest p⟩, rest_eq_self_iff_restsOn, t.lineAt_rest p, t.rest_rest p⟩,
    fun _ _ h => t.monotone_rest h⟩

end Text
end Keywise
