/-
# Sub-word motions with a count

A motion with a count keeps to the window of its first step: its edge is where
the word motion leads to from the offset at which the motion began. Up to that
edge forward and back are the steps without a count, since the word motion
leads to the same place from all offsets before it (`Words.forward_eq`,
`Words.backward_eq`), and at the edge the window is empty. So these motions are
the repeated ones, clipped at the word (`SubwordStep.counts_clipped`).

A motion to an end goes past the end of the word, since it looks one character
further where it stands still. From then on its window lies behind the word and
the offset is its right edge. As long as there is no end in such a window
(`SubwordStep.Quiet`) each step goes on by one character; the first end that
comes into it is before the offset, so the motion turns back
(`SubwordStep.TurnsBack`). That is the only way in which one more step leads
to an earlier place (`SubwordStep.lands_earlier_iff`).

Key definitions: `SubwordStep.Quiet`, `SubwordStep.TurnsBack`.
Key theorems: `Words.forward_eq`, `Words.backward_eq`,
`SubwordStep.counts_clipped`, `SubwordStep.le_once_wordEnd`,
`SubwordStep.TurnsBack.once_lt`, `SubwordStep.lands_earlier_iff`.
-/
import Keywise.Proofs.Motion.SubwordSteps

namespace Keywise

namespace Words

variable {big : Bool} {t : Text} {p q : Nat}

/-- Up to the place a step forward leads to, all steps forward lead there. -/
theorem forward_eq (hpq : p ≤ q) (hq : q < forward big t p) : forward big t q = forward big t p :=
  (forward_spec big t q).unique ((forward_spec big t p).of_le hpq hq)

/-- Down to the place a step back leads to, all steps back lead there. -/
theorem backward_eq (hqp : q ≤ p) (hq : backward big t p < q) :
    backward big t q = backward big t p :=
  (backward_spec big t q).unique ((backward_spec big t p).of_le hqp hq)

end Words

/-! ### Clipped steps -/

/-- Steps that are those of `f` up to an edge, and stay there, lead where those
of `f` do, clipped at the edge, if `f` does not come back from behind it. -/
theorem iterate_eq_min {α : Type} [LinearOrder α] {f g : α → α} {p edge : α} (hp : p ≤ edge)
    (hbefore : ∀ q, p ≤ q → q < edge → g q = f q ∧ q ≤ f q ∧ f q ≤ edge) (hedge : g edge = edge)
    (hbehind : ∀ q, edge ≤ q → edge ≤ f q) (n : Nat) : g^[n] p = min (f^[n] p) edge := by
  suffices h : p ≤ g^[n] p ∧ g^[n] p = min (f^[n] p) edge from h.2
  induction n with
  | zero => exact ⟨le_refl p, (min_eq_left hp).symm⟩
  | succ n ih =>
    obtain ⟨hge, heq⟩ := ih
    rw [Function.iterate_succ_apply', Function.iterate_succ_apply']
    rcases lt_or_ge (f^[n] p) edge with hlt | hle
    · rw [min_eq_left hlt.le] at heq
      rw [heq] at hge ⊢
      obtain ⟨hsame, hmove, hstop⟩ := hbefore _ hge hlt
      exact ⟨hsame ▸ hge.trans hmove, hsame.trans (min_eq_left hstop).symm⟩
    · rw [heq, min_eq_right hle, hedge]
      exact ⟨hp, (min_eq_right (hbehind _ hle)).symm⟩

namespace SubwordStep

open Subword

variable {t : Text} {p q : Nat}

theorem destination_eq_iterate (s : SubwordStep) (t : Text) (n p : Nat) :
    s.destination t n p = (s.once t p)^[n] p := by
  unfold destination
  exact repeated_eq_iterate _ n p

theorem once_of_ne {s : SubwordStep} (hs : s ≠ wordEnd) (t : Text) (origin p : Nat) :
    s.once t origin p = s.locate t origin p :=
  if_neg fun h => hs h.1

/-- Where the motion began matters only by the place the word motion leads to
from there. -/
theorem locate_eq_of_once_eq {s : SubwordStep} {origin origin' : Nat}
    (h : s.wordStep.once false t origin = s.wordStep.once false t origin') (p : Nat) :
    s.locate t origin p = s.locate t origin' p := by
  unfold locate
  rw [h]

theorem locate_edge {s : SubwordStep} {origin : Nat}
    (h : s.wordStep.once false t origin = p) : s.locate t origin p = p := by
  have hempty : t.within (.between p p) = [] := by
    simp [Text.within, Text.slice, Range.between, Range.length]
  unfold locate
  simp only [h, hempty]
  cases s <;> simp [Range.between, boundaries, snakeBoundaries, Subword.isMixed, Unicode.lowercase]

/-! ### Forward and back -/

/-- Where the word motion leads to the same place, a step is the motion without a
count. -/
theorem once_eq_hop {s : SubwordStep} (hs : s ≠ wordEnd) {origin : Nat}
    (h : s.wordStep.once false t q = s.wordStep.once false t origin) :
    s.once t origin q = s.hop t q := by
  rw [once_of_ne hs, hop_of_ne hs, locate_eq_of_once_eq h.symm]

theorem once_edge {s : SubwordStep} (hs : s ≠ wordEnd) (t : Text) (origin : Nat) :
    s.once t origin (s.wordStep.once false t origin) = s.wordStep.once false t origin :=
  (once_of_ne hs t origin _).trans (locate_edge rfl)

/-- A step forward from the place the word motion leads to, or from behind it,
does not come back from behind it. -/
theorem forward_le_hop (origin : Nat) (hq : Words.forward false t origin ≤ q) :
    Words.forward false t origin ≤ forward.hop t q := by
  have hlen : Words.forward false t origin ≤ t.length := once_wordStep_le t origin forward
  rcases Nat.lt_or_ge q t.length with hlt | hge
  · exact Nat.le_trans hq (Nat.le_of_lt (lt_hop_forward hlt).1)
  · have hleft : (forward.window t q q).left = min (Words.forward false t q) q := rfl
    have hend : Words.forward false t q = t.length := if_pos hge
    have hge' : (forward.window t q q).left ≤ forward.locate t q q := Nat.le_add_right ..
    rw [hop_of_ne (s := forward) nofun]
    omega

theorem hop_le_backward (origin : Nat) (hq : q ≤ Words.backward false t origin) :
    backward.hop t q ≤ Words.backward false t origin := by
  have hlen : Words.backward false t origin ≤ t.length := once_wordStep_le t origin backward
  rcases Nat.eq_zero_or_pos q with rfl | hpos
  · have hstay : backward.locate t 0 0 = 0 := locate_edge (s := backward) rfl
    rw [hop_of_ne (s := backward) nofun, hstay]
    exact Nat.zero_le _
  · exact Nat.le_trans (Nat.le_of_lt (hop_backward_lt hpos (Nat.le_trans hq hlen)).2) hq

theorem destination_forward (h : p ≤ t.length) (n : Nat) :
    forward.destination t n p = min ((forward.hop t)^[n] p) (Words.forward false t p) := by
  have hbefore : ∀ q, p ≤ q → q < Words.forward false t p →
      forward.once t p q = forward.hop t q ∧ q ≤ forward.hop t q ∧
        forward.hop t q ≤ Words.forward false t p := by
    intro q hpq hq
    have hsame := Words.forward_eq hpq hq
    have hlen := once_wordStep_le t p forward
    obtain ⟨hmove, hstop⟩ := lt_hop_forward (Nat.lt_of_lt_of_le hq hlen)
    exact ⟨once_eq_hop (s := forward) nofun hsame, Nat.le_of_lt hmove, hsame ▸ hstop⟩
  rw [destination_eq_iterate]
  exact iterate_eq_min (Words.le_forward h) hbefore (once_edge (s := forward) nofun t p)
    (fun q => forward_le_hop p) n

theorem destination_backward (h : p ≤ t.length) (n : Nat) :
    backward.destination t n p = max ((backward.hop t)^[n] p) (Words.backward false t p) := by
  have hbefore : ∀ q, q ≤ p → Words.backward false t p < q →
      backward.once t p q = backward.hop t q ∧ backward.hop t q ≤ q ∧
        Words.backward false t p ≤ backward.hop t q := by
    intro q hqp hq
    have hsame := Words.backward_eq hqp hq
    obtain ⟨hstop, hmove⟩ := hop_backward_lt (Nat.zero_lt_of_lt hq) (Nat.le_trans hqp h)
    exact ⟨once_eq_hop (s := backward) nofun hsame, Nat.le_of_lt hmove, hsame ▸ hstop⟩
  rw [destination_eq_iterate]
  -- with the order turned round the edge is above
  exact @iterate_eq_min Natᵒᵈ _ _ _ p (Words.backward false t p) Words.backward_le hbefore
    (once_edge (s := backward) nofun t p) (fun q => hop_le_backward p) n

/-- **A counted sub-word motion is the repeated one, clipped at the word.**
Forward and back, a count leads where as many motions without one lead, but not
past the place of one step of the word motion. -/
theorem counts_clipped (t : Text) (hp : p ≤ t.length) {n : Nat} (hn : 1 ≤ n) :
    (∀ s sticky q, (Motion.subword s).destination t sticky none q = .ok (s.hop t q)) ∧
      (∀ sticky, (Motion.subword .forward).destination t sticky (some n) p =
        .ok (min ((forward.hop t)^[n] p) (WordStep.forward.once false t p))) ∧
      ∀ sticky, (Motion.subword .backward).destination t sticky (some n) p =
        .ok (max ((backward.hop t)^[n] p) (WordStep.backward.once false t p)) := by
  refine ⟨fun _ _ _ => rfl, fun sticky => ?_, fun sticky => ?_⟩
  · exact congrArg Except.ok ((countOf_some hn).symm ▸ destination_forward hp n)
  · exact congrArg Except.ok ((countOf_some hn).symm ▸ destination_backward hp n)

/-- Two words, of which the motion with a count does not leave the one it began
in. -/
theorem counts_clipped_of_words :
    let t : Text := ['f', 'o', 'o', 'B', 'a', 'r', ' ', 'a', '_', 'b']
    (Motion.subword .forward).destination t none (some 3) 0 = .ok 7 ∧
      (forward.hop t)^[3] 0 = 9 ∧
      (Motion.subword .backward).destination t none (some 4) 6 = .ok 0 := by
  intro t
  obtain ⟨-, hforward, -⟩ := counts_clipped t (show 0 ≤ t.length by decide) (show 1 ≤ 3 by decide)
  obtain ⟨-, -, hbackward⟩ := counts_clipped t (show 6 ≤ t.length by decide) (show 1 ≤ 4 by decide)
  refine ⟨(hforward none).trans ?_, by decide, (hbackward none).trans ?_⟩
  · exact congrArg Except.ok (by decide)
  · exact congrArg Except.ok (by decide)

/-! ### To an end -/

/-- Whether no window from the end of the word up to `q` has an end. -/
def Quiet (t : Text) (origin q : Nat) : Prop :=
  ∀ o, Words.wordEnd false t origin ≤ o → o ≤ q →
    ∀ i, ¬ IsEnd (t.within (wordEnd.window t origin o)) i

/-- Whether an end comes into the window of a motion that has passed the end of
the word, when it looks one character further. -/
def TurnsBack (t : Text) (origin q : Nat) : Prop :=
  Words.wordEnd false t origin < q ∧ q < t.length ∧
    ∃ i, IsEnd (t.within (wordEnd.window t origin (q + 1))) i

variable {origin : Nat}

theorem Quiet.of_le (h : Quiet t origin q) (hpq : p ≤ q) : Quiet t origin p :=
  fun o ho hop => h o ho (Nat.le_trans hop hpq)

theorem quiet_of_le (hq : q ≤ t.length) (hword : q ≤ Words.wordEnd false t origin + 1) :
    Quiet t origin q := by
  intro o ho hoq i hi
  have hlen := length_window t origin wordEnd (Nat.le_trans hoq hq)
  obtain ⟨hleft, hright⟩ := wordEnd_window_of_ge ho
  have hlt := hi.lt_length
  omega

/-- As long as the motion does not turn back, the next window has no end. -/
theorem Quiet.succ (h : Quiet t origin q) (hq : q < t.length) (hback : ¬ TurnsBack t origin q) :
    Quiet t origin (q + 1) := by
  rcases Nat.lt_or_ge (Words.wordEnd false t origin) q with hpassed | hword
  · intro o ho hoq i hi
    rcases Nat.eq_or_lt_of_le hoq with rfl | hlt
    · exact hback ⟨hpassed, hq, i, hi⟩
    · exact h o ho (Nat.le_of_lt_succ hlt) i hi
  · exact quiet_of_le hq (Nat.succ_le_succ hword)

/-- Without an end in its window, which is behind it, a motion to an end stays at
the right edge. -/
theorem Quiet.locate_eq (h : Quiet t origin q) (hq : q ≤ t.length)
    (hword : Words.wordEnd false t origin ≤ q) : wordEnd.locate t origin q = q := by
  rcases firstIn_locate_wordEnd t origin hq with ⟨i, hi, -⟩ | ⟨-, heq⟩
  · exact absurd hi.1 (h q hword (Nat.le_refl q) i)
  · exact heq.trans (wordEnd_window_of_ge hword).2

theorem once_wordEnd_of_passed (hq : q ≤ t.length) (hword : Words.wordEnd false t origin ≤ q)
    (hquiet : Quiet t origin q) :
    wordEnd.once t origin q = if q < t.length then wordEnd.locate t origin (q + 1) else q := by
  rw [once]
  simp only [hquiet.locate_eq hq hword, true_and]

theorem once_wordEnd_eq_succ (hq : q < t.length) (hword : Words.wordEnd false t origin ≤ q)
    (hquiet : Quiet t origin (q + 1)) : wordEnd.once t origin q = q + 1 := by
  rw [once_wordEnd_of_passed (Nat.le_of_lt hq) hword (hquiet.of_le (Nat.le_succ q)), if_pos hq,
    hquiet.locate_eq hq (Nat.le_succ_of_le hword)]

/-- An end in the next window is before the offset. -/
theorem TurnsBack.once_lt (h : TurnsBack t origin q) (hquiet : Quiet t origin q) :
    wordEnd.once t origin q < q := by
  obtain ⟨hpassed, hq, j, hj⟩ := h
  have hlen := length_window t origin wordEnd (show q + 1 ≤ t.length from hq)
  have hbehind : Words.wordEnd false t origin ≤ q + 1 := Nat.le_succ_of_le (Nat.le_of_lt hpassed)
  obtain ⟨hleft, hright⟩ := wordEnd_window_of_ge hbehind
  rw [once_wordEnd_of_passed (Nat.le_of_lt hq) (Nat.le_of_lt hpassed) hquiet, if_pos hq]
  rcases firstIn_locate_wordEnd t origin (show q + 1 ≤ t.length from hq) with
    ⟨i, hi, heq⟩ | ⟨hnone, -⟩
  · have hlt := hi.1.lt_length
    omega
  · exact absurd hj (hnone j)

/-- **A step to an end that does not turn back** does not go back at all, and the
windows up to the place it leads to have no end either. -/
theorem le_once_wordEnd (hq : q ≤ t.length) (hquiet : Quiet t origin q)
    (hback : ¬ TurnsBack t origin q) : q ≤ wordEnd.once t origin q ∧
      wordEnd.once t origin q ≤ t.length ∧ Quiet t origin (wordEnd.once t origin q) := by
  have hend : Words.wordEnd false t origin ≤ t.length := once_wordStep_le t origin wordEnd
  rcases Nat.eq_or_lt_of_le hq with rfl | hlt
  · have hstill := once_wordEnd_of_passed hq hend hquiet
    rw [if_neg (Nat.lt_irrefl _)] at hstill
    rw [hstill]
    exact ⟨Nat.le_refl _, hq, hquiet⟩
  · rcases Nat.lt_or_ge (Words.wordEnd false t origin) q with hpassed | hword
    · have hnext := hquiet.succ hlt hback
      rw [once_wordEnd_eq_succ hlt (Nat.le_of_lt hpassed) hnext]
      exact ⟨Nat.le_succ q, hlt, hnext⟩
    · obtain ⟨hmove, hstop⟩ := lt_once_wordEnd hlt hword
      exact ⟨Nat.le_of_lt hmove, by omega, quiet_of_le (by omega) (by omega)⟩

theorem wordEnd_length (t : Text) : Words.wordEnd false t t.length = t.length - 1 := by
  rcases Words.wordEnd_spec false t t.length with ⟨⟨hend, habove⟩, -⟩ | ⟨-, heq⟩
  · exact absurd hend.1 (Nat.lt_asymm habove)
  · exact heq

/-- Wherever a motion to an end leads, the windows up to there have none. -/
theorem quiet_destination (hp : p ≤ t.length) (n : Nat) :
    wordEnd.destination t n p ≤ t.length ∧ Quiet t p (wordEnd.destination t n p) := by
  rw [destination_eq_iterate]
  induction n with
  | zero =>
    refine ⟨hp, quiet_of_le hp ?_⟩
    rcases Nat.eq_or_lt_of_le hp with rfl | hlt
    · rw [wordEnd_length, Function.iterate_zero_apply]
      omega
    · exact Nat.le_succ_of_le (Words.le_wordEnd hlt)
  | succ n ih =>
    obtain ⟨hlen, hquiet⟩ := ih
    rw [Function.iterate_succ_apply']
    by_cases hback : TurnsBack t p ((wordEnd.once t p)^[n] p)
    · have hlt := hback.once_lt hquiet
      exact ⟨Nat.le_trans (Nat.le_of_lt hlt) hlen, hquiet.of_le (Nat.le_of_lt hlt)⟩
    · exact (le_once_wordEnd hlen hquiet hback).2

/-- One more step leads back exactly where the motion turns back. -/
theorem destination_succ_lt_iff (hp : p ≤ t.length) (n : Nat) :
    wordEnd.destination t (n + 1) p < wordEnd.destination t n p ↔
      TurnsBack t p (wordEnd.destination t n p) := by
  obtain ⟨hlen, hquiet⟩ := quiet_destination hp n
  have hsucc : wordEnd.destination t (n + 1) p =
      wordEnd.once t p (wordEnd.destination t n p) := by
    rw [destination_eq_iterate, destination_eq_iterate, Function.iterate_succ_apply']
  rw [hsucc]
  refine ⟨fun hlt => ?_, fun hback => hback.once_lt hquiet⟩
  by_contra hback
  exact absurd hlt (Nat.not_lt.mpr (le_once_wordEnd hlen hquiet hback).1)

/-- The motion comes to every offset before an end comes into a window. -/
theorem exists_destination_eq (hpq : p ≤ q) (hq : q ≤ t.length)
    (hword : Words.wordEnd false t p ≤ q) (hquiet : Quiet t p q) :
    ∃ n, wordEnd.destination t n p = q := by
  have hstep : ∀ r ≤ q, r ≠ q → wordEnd.once t p r ≤ q ∧ q - wordEnd.once t p r < q - r := by
    intro r hr hne
    have hlt : r < q := Nat.lt_of_le_of_ne hr hne
    suffices hmove : r < wordEnd.once t p r ∧ wordEnd.once t p r ≤ q by
      exact ⟨hmove.2, by omega⟩
    rcases Nat.lt_or_ge r (Words.wordEnd false t p) with hbefore | hbehind
    · obtain ⟨hmove, hstop⟩ := lt_once_wordEnd (Nat.lt_of_lt_of_le hlt hq) (Nat.le_of_lt hbefore)
      exact ⟨hmove, by omega⟩
    · have hnext := once_wordEnd_eq_succ (Nat.lt_of_lt_of_le hlt hq) hbehind (hquiet.of_le hlt)
      omega
  obtain ⟨n, -, heq⟩ := exists_iterate_eq (q - ·) hstep p hpq
  exact ⟨n, (destination_eq_iterate wordEnd t n p).trans heq⟩

/-- Without a turn all windows up to the end of the text have no end. -/
theorem quiet_of_not_turnsBack (hp : p ≤ t.length)
    (h : ∀ n, 1 ≤ n → ¬ TurnsBack t p (wordEnd.destination t n p)) :
    ∀ q ≤ t.length, Quiet t p q
  | 0, _ => quiet_of_le (Nat.zero_le _) (Nat.zero_le _)
  | q + 1, hq => by
    have hquiet := quiet_of_not_turnsBack hp h q (Nat.le_of_succ_le hq)
    refine hquiet.succ hq fun hback => ?_
    have hpq : p < q := by
      have hpassed := hback.1
      rcases Nat.eq_or_lt_of_le hp with rfl | hlt
      · rw [wordEnd_length] at hpassed
        omega
      · exact Nat.lt_of_le_of_lt (Words.le_wordEnd hlt) hpassed
    obtain ⟨n, heq⟩ := exists_destination_eq (Nat.le_of_lt hpq) (Nat.le_of_lt hq)
      (Nat.le_of_lt hback.1) hquiet
    cases n with
    | zero => exact Nat.ne_of_lt hpq heq
    | succ n => exact h (n + 1) (Nat.succ_pos n) (heq ▸ hback)

/-- **When one more step to an end leads to an earlier place**: exactly if the
motion has passed the end of the word and an end comes into its window, which
lies behind it, by one character more. So no larger count leads to an earlier
place if and only if no window from the end of the word has an end. -/
theorem lands_earlier_iff (t : Text) (hp : p ≤ t.length) :
    (∀ sticky n, 1 ≤ n → (Motion.subword .wordEnd).destination t sticky (some n) p =
        .ok (wordEnd.destination t n p)) ∧
      (∀ n, 1 ≤ n → (wordEnd.destination t (n + 1) p < wordEnd.destination t n p ↔
        TurnsBack t p (wordEnd.destination t n p))) ∧
      ((∀ n, 1 ≤ n → wordEnd.destination t n p ≤ wordEnd.destination t (n + 1) p) ↔
        Quiet t p t.length) := by
  refine ⟨fun sticky n hn => ?_, fun n _ => destination_succ_lt_iff hp n, fun h => ?_,
    fun hquiet n _ => ?_⟩
  · show Except.ok (wordEnd.destination t (countOf (some n)) p) = _
    rw [countOf_some hn]
  · refine quiet_of_not_turnsBack hp (fun n hn hback => ?_) t.length (Nat.le_refl _)
    exact absurd (h n hn) (Nat.not_le.mpr ((destination_succ_lt_iff hp n).mpr hback))
  · refine Nat.le_of_not_lt fun hlt => ?_
    obtain ⟨hpassed, hlen, i, hi⟩ := (destination_succ_lt_iff hp n).mp hlt
    exact hquiet _ (Nat.le_succ_of_le (Nat.le_of_lt hpassed)) hlen i hi

/-- Behind a point an end comes into the window, and four steps lead to an
earlier place than three. In a text of one word there is no such window. -/
theorem lands_earlier_behind_point :
    let t : Text := ['a', '.', 'b', '_']
    let word : Text := ['f', 'o', 'o', 'B', 'a', 'r']
    wordEnd.destination t 3 0 = 3 ∧ wordEnd.destination t 4 0 = 2 ∧ TurnsBack t 0 3 ∧
      ∀ n, 1 ≤ n → wordEnd.destination word n 0 ≤ wordEnd.destination word (n + 1) 0 := by
  intro t word
  obtain ⟨-, hback, -⟩ := lands_earlier_iff t (show 0 ≤ t.length by decide)
  obtain ⟨-, -, hquiet⟩ := lands_earlier_iff word (show 0 ≤ word.length by decide)
  have hthree : wordEnd.destination t 3 0 = 3 := by decide
  have hfour : wordEnd.destination t 4 0 = 2 := by decide
  have hearlier : wordEnd.destination t (3 + 1) 0 < wordEnd.destination t 3 0 := by
    rw [hthree, hfour]
    decide
  exact ⟨hthree, hfour, hthree ▸ (hback 3 (by decide)).mp hearlier,
    hquiet.mpr (quiet_of_le (Nat.le_refl _) (by decide))⟩

/-- A larger count may lead to an earlier place. -/
theorem not_lands_later_behind_point :
    ¬ ∀ n, 1 ≤ n → wordEnd.destination ['a', '.', 'b', '_'] n 0 ≤
      wordEnd.destination ['a', '.', 'b', '_'] (n + 1) 0 :=
  fun h => absurd (h 3 (by decide)) (by decide)

end SubwordStep
end Keywise
