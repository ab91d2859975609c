/-
# Sub-word motions advance

A sub-word motion without a count moves, and not past where the word motion
leads (`SubwordStep.lt_hop_forward`, `SubwordStep.lt_hop_wordEnd`,
`SubwordStep.hop_backward_lt`): a start of a sub-word is behind the left edge
of its window and before the right one, and an end is before the last character
of its window. Where an end is found at the offset itself the motion looks once
more, one character further, and takes that one even if the word motion stays.
So a motion repeated often enough comes to an end of the text.

Key definitions: `SubwordStep.hop`.
Key theorems: `SubwordStep.lt_hop_forward`, `SubwordStep.lt_hop_wordEnd`,
`SubwordStep.hop_backward_lt`, `SubwordStep.hops_advance`.
-/
import Mathlib.Logic.Function.Iterate
import Keywise.Proofs.Motion.Subwords

namespace Keywise

/-! ### Steps that move -/

/-- Steps that stay in a text and come nearer to a goal lead to it. -/
theorem exists_iterate_eq {f : Nat → Nat} {len goal : Nat} (distance : Nat → Nat)
    (h : ∀ p ≤ len, p ≠ goal → f p ≤ len ∧ distance (f p) < distance p) (p : Nat) (hp : p ≤ len) :
    ∃ n ≤ distance p, f^[n] p = goal := by
  by_cases hgoal : p = goal
  · exact ⟨0, Nat.zero_le _, hgoal⟩
  · obtain ⟨hle, hnearer⟩ := h p hp hgoal
    obtain ⟨n, hn, heq⟩ := exists_iterate_eq distance h (f p) hle
    exact ⟨n + 1, by omega, heq⟩
termination_by distance p

namespace Words

variable {big : Bool} {t : Text} {p : Nat}

theorem lt_forward (h : p < t.length) : p < forward big t p := by
  rcases forward_spec big t p with ⟨⟨-, hlt⟩, -⟩ | ⟨-, heq⟩
  · exact hlt
  · exact heq ▸ h

theorem le_forward (h : p ≤ t.length) : p ≤ forward big t p := by
  rcases Nat.eq_or_lt_of_le h with rfl | hlt
  · exact Nat.le_of_eq (if_pos (Nat.le_refl _)).symm
  · exact Nat.le_of_lt (lt_forward hlt)

theorem backward_lt (h : 0 < p) : backward big t p < p := by
  rcases backward_spec big t p with ⟨⟨-, hlt⟩, -⟩ | ⟨-, heq⟩
  · exact hlt
  · exact heq ▸ h

theorem backward_le : backward big t p ≤ p := by
  rcases Nat.eq_zero_or_pos p with rfl | hpos
  · exact Nat.le_refl 0
  · exact Nat.le_of_lt (backward_lt hpos)

theorem le_wordEnd (h : p < t.length) : p ≤ wordEnd big t p := by
  rcases wordEnd_spec big t p with ⟨⟨-, hlt⟩, -⟩ | ⟨-, heq⟩
  · exact Nat.le_of_lt hlt
  · omega

end Words

namespace SubwordStep

variable {t : Text} {p : Nat}

/-- Where a motion without a count leads. -/
def hop (s : SubwordStep) (t : Text) (p : Nat) : Nat := s.destination t 1 p

theorem hop_eq (s : SubwordStep) (t : Text) (p : Nat) : s.hop t p = s.once t p p := by
  unfold hop destination
  rw [repeated_eq_repeat]
  rfl

theorem hop_of_ne {s : SubwordStep} (hs : s ≠ wordEnd) : s.hop t p = s.locate t p p := by
  rw [hop_eq, once]
  exact if_neg fun h => hs h.1

/-- **A step forward** moves, up to where the word motion leads. -/
theorem lt_hop_forward (h : p < t.length) :
    p < forward.hop t p ∧ forward.hop t p ≤ Words.forward false t p := by
  have hword : p < Words.forward false t p := Words.lt_forward h
  have hleft : (forward.window t p p).left = p := Nat.min_eq_right (Nat.le_of_lt hword)
  have hright : (forward.window t p p).right = Words.forward false t p :=
    Nat.max_eq_left (Nat.le_of_lt hword)
  have hlen := length_window t p forward (Nat.le_of_lt h)
  rw [hop_of_ne (s := forward) nofun]
  rcases firstIn_locate_forward t p (Nat.le_of_lt h) with ⟨q, hq, heq⟩ | ⟨-, heq⟩
  · obtain ⟨hpos, hlt⟩ := hq.1.bounds
    omega
  · omega

/-- **A step back** moves, down to where the word motion leads. -/
theorem hop_backward_lt (hpos : 0 < p) (hle : p ≤ t.length) :
    Words.backward false t p ≤ backward.hop t p ∧ backward.hop t p < p := by
  have hword : Words.backward false t p < p := Words.backward_lt hpos
  have hleft : (backward.window t p p).left = Words.backward false t p :=
    Nat.min_eq_left (Nat.le_of_lt hword)
  have hright : (backward.window t p p).right = p := Nat.max_eq_right (Nat.le_of_lt hword)
  have hlen := length_window t p backward hle
  rw [hop_of_ne (s := backward) nofun]
  rcases lastIn_locate_backward t p p with ⟨q, hq, heq⟩ | ⟨-, heq⟩
  · have hlt := hq.1.bounds.2
    omega
  · omega

/-- Up to the end of the word a motion to an end has its window before it. -/
theorem wordEnd_window_of_le {origin : Nat} (hword : p ≤ Words.wordEnd false t origin) :
    (wordEnd.window t origin p).left = p ∧
      (wordEnd.window t origin p).right = Words.wordEnd false t origin :=
  ⟨Nat.min_eq_right hword, Nat.max_eq_left hword⟩

theorem wordEnd_window_of_ge {origin : Nat} (hword : Words.wordEnd false t origin ≤ p) :
    (wordEnd.window t origin p).left = Words.wordEnd false t origin ∧
      (wordEnd.window t origin p).right = p :=
  ⟨Nat.min_eq_left hword, Nat.max_eq_right hword⟩

/-- An end is found before the last character of the window, or at its right
edge. -/
theorem locate_wordEnd_bounds (origin : Nat) {offset : Nat} (h : offset ≤ t.length) :
    (wordEnd.window t origin offset).left ≤ wordEnd.locate t origin offset ∧
      (wordEnd.locate t origin offset + 1 < (wordEnd.window t origin offset).right ∨
        wordEnd.locate t origin offset = (wordEnd.window t origin offset).right) := by
  have hlen := length_window t origin wordEnd h
  have hle := (wordEnd.window t origin offset).left_le_right
  rcases firstIn_locate_wordEnd t origin h with ⟨q, hq, heq⟩ | ⟨-, heq⟩
  · have hlt := hq.1.lt_length
    omega
  · omega

/-- A step of a motion to an end that has not passed the end of the word. -/
theorem lt_once_wordEnd {origin : Nat} (h : p < t.length)
    (hword : p ≤ Words.wordEnd false t origin) :
    p < wordEnd.once t origin p ∧
      wordEnd.once t origin p ≤ max (Words.wordEnd false t origin) (p + 1) := by
  obtain ⟨hleft, hright⟩ := wordEnd_window_of_le hword
  obtain ⟨hge, hend⟩ := locate_wordEnd_bounds origin (Nat.le_of_lt h)
  rw [once]
  by_cases hstill : wordEnd.locate t origin p = p
  · -- an end at the offset itself: what is found one further is behind it
    rw [if_pos ⟨rfl, hstill, hstill.symm ▸ h⟩, hstill]
    have hleft' : (wordEnd.window t origin (p + 1)).left =
      min (Words.wordEnd false t origin) (p + 1) := rfl
    have hright' : (wordEnd.window t origin (p + 1)).right =
      max (Words.wordEnd false t origin) (p + 1) := rfl
    obtain ⟨hge', hend'⟩ := locate_wordEnd_bounds origin (show p + 1 ≤ t.length from h)
    omega
  · rw [if_neg fun hagain => hstill hagain.2.1]
    omega

/-- **A step to an end** moves, up to where the word motion leads or by one
character. -/
theorem lt_hop_wordEnd (h : p < t.length) :
    p < wordEnd.hop t p ∧ wordEnd.hop t p ≤ max (Words.wordEnd false t p) (p + 1) :=
  hop_eq wordEnd t p ▸ lt_once_wordEnd h (Words.le_wordEnd h)

/-- **Sub-word motions advance**, and not past where the word motion leads; an
end may be one character further. Repeated, they come to the end of the text,
or to its start. -/
theorem hops_advance (t : Text) :
    (∀ s sticky p, (Motion.subword s).destination t sticky none p = .ok (s.hop t p)) ∧
      (∀ p < t.length, p < forward.hop t p ∧
        forward.hop t p ≤ WordStep.forward.once false t p) ∧
      (∀ p < t.length, p < wordEnd.hop t p ∧
        wordEnd.hop t p ≤ max (WordStep.wordEnd.once false t p) (p + 1)) ∧
      (∀ p, 0 < p → p ≤ t.length → WordStep.backward.once false t p ≤ backward.hop t p ∧
        backward.hop t p < p) ∧
      ∀ p ≤ t.length, (∃ n ≤ t.length - p, (forward.hop t)^[n] p = t.length) ∧
        (∃ n ≤ t.length - p, (wordEnd.hop t)^[n] p = t.length) ∧
        ∃ n ≤ p, (backward.hop t)^[n] p = 0 := by
  refine ⟨fun _ _ _ => rfl, fun p => lt_hop_forward, fun p => lt_hop_wordEnd,
    fun p => hop_backward_lt, fun p hp => ⟨?_, ?_, ?_⟩⟩
  · refine exists_iterate_eq (t.length - ·) (fun q hq hne => ?_) p hp
    obtain ⟨hmove, hle⟩ := lt_hop_forward (Nat.lt_of_le_of_ne hq hne)
    have hword := once_wordStep_le t q forward
    exact ⟨Nat.le_trans hle hword, by omega⟩
  · refine exists_iterate_eq (t.length - ·) (fun q hq hne => ?_) p hp
    obtain ⟨hmove, hle⟩ := lt_hop_wordEnd (Nat.lt_of_le_of_ne hq hne)
    have hword := once_wordStep_le t q wordEnd
    exact ⟨Nat.le_trans hle (Nat.max_le.mpr ⟨hword, Nat.lt_of_le_of_ne hq hne⟩), by omega⟩
  · refine exists_iterate_eq id (fun q hq hne => ?_) p hp
    have hmove := (hop_backward_lt (Nat.pos_of_ne_zero hne) hq).2
    exact ⟨Nat.le_trans (Nat.le_of_lt hmove) hq, hmove⟩

/-- A digit before a capital, where the end found first is the start itself. -/
theorem hops_advance_of_digit :
    let t : Text := ['1', 'B', 'c', '_', ' ']
    wordEnd.hop t 0 = 3 ∧ 0 < wordEnd.hop t 0 ∧ wordEnd.hop t 4 = 5 ∧ 4 < wordEnd.hop t 4 ∧
      backward.hop t 5 < 5 ∧ ∃ n ≤ 5, (forward.hop t)^[n] 0 = 5 := by
  intro t
  obtain ⟨-, -, hend, hback, hreach⟩ := hops_advance t
  exact ⟨by decide, (hend 0 (by decide)).1, by decide, (hend 4 (by decide)).1,
    (hback 5 (by decide) (by decide)).2, (hreach 0 (by decide)).1⟩

end SubwordStep
end Keywise
