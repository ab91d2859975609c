/-
# Sub-word motions go to the boundaries in their window

A sub-word starts behind an underscore, and in a window of mixed case where
capitals follow a small letter or a digit, if behind the capitals there is one
again or the window ends (`Subword.IsStart`); it ends before an underscore and
before such capitals (`Subword.IsEnd`).

The boundaries that are listed ascend (`SubwordStep.pairwise_boundaries`). All
starts are in the list (`SubwordStep.mem_starts_iff`), and of the ends at least
the first (`SubwordStep.listsFirst_ends`). So the motions go to the last start
backward, to the first start or end forward, and to an edge of the window if
there is none: what a scanner has passed over is never where they should go.

Key definitions: `Subword.IsStart`, `Subword.IsEnd`, `SubwordStep.window`,
`FirstIn`, `LastIn`.
Key theorems: `SubwordStep.pairwise_boundaries`, `SubwordStep.mem_starts_iff`,
`SubwordStep.listsFirst_ends`, `SubwordStep.locates_boundaries`.
-/
import Keywise.Proofs.Motion.Scanners
import Keywise.Proofs.Motion.Words

namespace Keywise

/-- The place of the first offset with a property, counted from the left edge
of a range, or the right edge if there is none. -/
def FirstIn (P : Nat → Prop) (r : Range) (x : Nat) : Prop :=
  (∃ q, IsLeast {q | P q} q ∧ x = r.left + q) ∨ (∀ q, ¬ P q) ∧ x = r.right

/-- The place of the last offset with a property, counted from the left edge
of a range, or that edge if there is none. -/
def LastIn (P : Nat → Prop) (r : Range) (x : Nat) : Prop :=
  (∃ q, IsGreatest {q | P q} q ∧ x = r.left + q) ∨ (∀ q, ¬ P q) ∧ x = r.left

theorem FirstIn.isLeast {P : Nat → Prop} {r : Range} {x : Nat} (h : FirstIn P r x)
    (hleft : r.left = 0) (hx : x ≠ r.right) : IsLeast {q | P q} x := by
  rcases h with ⟨q, hq, heq⟩ | ⟨-, heq⟩
  · rw [hleft, Nat.zero_add] at heq
    exact heq ▸ hq
  · exact absurd heq hx

theorem LastIn.isGreatest {P : Nat → Prop} {r : Range} {x : Nat} (h : LastIn P r x)
    (hleft : r.left = 0) (hx : x ≠ 0) : IsGreatest {q | P q} x := by
  rcases h with ⟨q, hq, heq⟩ | ⟨-, heq⟩
  · rw [hleft, Nat.zero_add] at heq
    exact heq ▸ hq
  · exact absurd (heq.trans hleft) hx

theorem Text.length_within {t : Text} {r : Range} (h : r.right ≤ t.length) :
    (t.within r).length = r.right - r.left := by
  unfold within slice Range.length
  rw [List.length_take, List.length_drop]
  omega

namespace Subword

/-! ### The boundaries of a window -/

/-- Whether a window differs from itself in small letters and in capitals. -/
def IsMixedCase (w : Text) : Prop := Unicode.lowercase w ≠ w ∧ Unicode.uppercase w ≠ w

/-- Whether a sub-word starts at `q`. -/
def IsStart (w : Text) (q : Nat) : Prop :=
  (0 < q ∧ w[q - 1]? = some '_' ∧ w[q]?.any Char.isAlphanum = true) ∨ IsMixedCase w ∧ IsHump w q

/-- Whether `q` is the last offset of a sub-word. -/
def IsEnd (w : Text) (q : Nat) : Prop :=
  (w[q]?.any Char.isAlphanum = true ∧ w[q + 1]? = some '_') ∨ IsMixedCase w ∧ IsHump w (q + 1)

theorem IsStart.bounds {w : Text} {q : Nat} (h : IsStart w q) : 0 < q ∧ q < w.length := by
  rcases h with ⟨hpos, -, hany⟩ | ⟨-, hhump⟩
  · exact ⟨hpos, lt_length_of_any hany⟩
  · exact ⟨hhump.1, hhump.lt_length⟩

theorem IsEnd.lt_length {w : Text} {q : Nat} (h : IsEnd w q) : q + 1 < w.length := by
  rcases h with ⟨-, hget⟩ | ⟨-, hhump⟩
  · exact (List.getElem?_eq_some_iff.mp hget).1
  · exact hhump.lt_length

end Subword

/-! ### The lists of the boundaries -/

namespace SubwordStep

open Subword

variable {s : SubwordStep} {w : Text} {q : Nat}

theorem isMixed_iff : isMixed w = true ↔ IsMixedCase w := by
  simp [isMixed, IsMixedCase]

theorem mem_boundaries : q ∈ s.boundaries w ↔
    q ∈ s.snakeBoundaries w ∨ isMixed w = true ∧ q ∈ s.camelBoundaries w := by
  unfold boundaries
  by_cases hmixed : isMixed w = true
  · by_cases hnone : (s.snakeBoundaries w).isEmpty = true
    · simp [hmixed, hnone]
    · simp [hmixed, hnone, List.mem_mergeSort]
  · simp [hmixed]

/-- Boundaries of both kinds that ascend already stay as they are. -/
theorem boundaries_of_pairwise (hmixed : isMixed w = true)
    (h : (s.snakeBoundaries w ++ s.camelBoundaries w).Pairwise (· ≤ ·)) :
    s.boundaries w = s.snakeBoundaries w ++ s.camelBoundaries w := by
  unfold boundaries
  simp only
  rw [if_pos hmixed]
  split
  · rfl
  · exact List.mergeSort_of_pairwise (h.imp fun hle => decide_eq_true hle)

theorem pairwise_snakeBoundaries (s : SubwordStep) (w : Text) :
    (s.snakeBoundaries w).Pairwise (· < ·) := by
  unfold snakeBoundaries
  split
  · split <;> exact pairwise_placesFrom 0
  · exact List.Pairwise.nil

theorem pairwise_camelBoundaries (s : SubwordStep) (w : Text) :
    (s.camelBoundaries w).Pairwise (· < ·) := by
  unfold camelBoundaries
  split <;> exact pairwise_placesFrom 0

/-- **The boundaries ascend**: those of one kind do as they are found, and those
of both are sorted. -/
theorem pairwise_boundaries (s : SubwordStep) (w : Text) :
    (s.boundaries w).Pairwise (· ≤ ·) := by
  have hsnake := (s.pairwise_snakeBoundaries w).imp fun h => Nat.le_of_lt h
  have hcamel := (s.pairwise_camelBoundaries w).imp fun h => Nat.le_of_lt h
  unfold boundaries
  simp only
  split
  · split
    · next hnone =>
      rw [List.isEmpty_iff.mp hnone]
      exact hcamel
    · refine List.Pairwise.imp of_decide_eq_true (List.pairwise_mergeSort ?_ ?_ _)
      · exact fun a b c hab hbc => decide_eq_true
          (Nat.le_trans (of_decide_eq_true hab) (of_decide_eq_true hbc))
      · exact fun a b => by simpa using Nat.le_total a b
  · exact hsnake

theorem ne_underscore_of_not_contains (h : ¬ w.contains '_' = true) : w[q]? ≠ some '_' :=
  fun hq => h (List.contains_iff_mem.mpr (List.mem_of_getElem? hq))

/-- **The starts in a window** are the boundaries of steps to starts. -/
theorem mem_starts_iff (hs : s ≠ wordEnd) : q ∈ s.boundaries w ↔ IsStart w q := by
  have hsnake : q ∈ s.snakeBoundaries w ↔
      0 < q ∧ w[q - 1]? = some '_' ∧ w[q]?.any Char.isAlphanum = true := by
    rw [← mem_snakeStarts]
    unfold snakeBoundaries
    by_cases hunder : w.contains '_' = true
    · cases s with
      | wordEnd => exact absurd rfl hs
      | backward | forward => rw [if_pos hunder]
    · rw [if_neg hunder, mem_snakeStarts]
      exact ⟨nofun, fun h => absurd h.2.1 (ne_underscore_of_not_contains hunder)⟩
  have hcamel : q ∈ s.camelBoundaries w ↔ IsHump w q := by
    cases s with
    | wordEnd => exact absurd rfl hs
    | backward | forward => exact mem_camelStarts
  rw [mem_boundaries, hsnake, hcamel, isMixed_iff, IsStart]

theorem listsFirst_starts (hs : s ≠ wordEnd) (w : Text) : ListsFirst (IsStart w) (s.boundaries w) :=
  ⟨fun _ => (mem_starts_iff hs).mp, fun q h => ⟨q, (mem_starts_iff hs).mpr h, Nat.le_refl q⟩⟩

/-- **The ends in a window** are listed up to those that are passed over. -/
theorem listsFirst_ends (w : Text) : ListsFirst (IsEnd w) (wordEnd.boundaries w) := by
  have hsnake : ListsFirst (fun q => w[q]?.any Char.isAlphanum = true ∧ w[q + 1]? = some '_')
      (wordEnd.snakeBoundaries w) := by
    unfold snakeBoundaries
    split
    · exact listsFirst_snakeEnds w
    · next hunder =>
      exact ⟨nofun, fun q h => absurd h.2 (ne_underscore_of_not_contains hunder)⟩
  have hcamel : ListsFirst (fun q => IsMixedCase w ∧ IsHump w (q + 1))
      (if isMixed w then wordEnd.camelBoundaries w else []) := by
    split
    · next hmixed =>
      obtain ⟨hsound, hfirst⟩ := listsFirst_camelEnds w
      exact ⟨fun q hq => ⟨isMixed_iff.mp hmixed, hsound q hq⟩, fun q h => hfirst q h.2⟩
    · next hmixed => exact ⟨nofun, fun q h => absurd (isMixed_iff.mpr h.1) hmixed⟩
  refine (hsnake.append hcamel).of_mem_iff fun q => ?_
  rw [mem_boundaries, List.mem_append]
  by_cases hmixed : isMixed w = true <;> simp [hmixed]

end SubwordStep

/-! ### The first and the last of a list -/

/-- In an ascending list that the first place is in, it is the first of all. -/
theorem Subword.ListsFirst.firstIn {P : Nat → Prop} {l : List Nat} (h : ListsFirst P l)
    (hsorted : l.Pairwise (· ≤ ·)) (r : Range) :
    FirstIn P r (r.left + l.head?.getD (r.right - r.left)) := by
  cases l with
  | nil =>
    have hle := r.left_le_right
    refine .inr ⟨fun q hq => ?_, ?_⟩
    · obtain ⟨x, hx, -⟩ := h.first q hq
      cases hx
    · show r.left + (r.right - r.left) = r.right
      omega
  | cons x l =>
    refine .inl ⟨x, ⟨h.sound x List.mem_cons_self, fun q hq => ?_⟩, rfl⟩
    obtain ⟨y, hy, hle⟩ := h.first q hq
    rcases List.mem_cons.mp hy with rfl | hy
    · exact hle
    · exact Nat.le_trans ((List.pairwise_cons.mp hsorted).1 y hy) hle

/-- In an ascending list of all places the last one is the last of all. -/
theorem lastIn_getLast? {P : Nat → Prop} {l : List Nat} (hmem : ∀ q, q ∈ l ↔ P q)
    (hsorted : l.Pairwise (· ≤ ·)) (r : Range) : LastIn P r (r.left + l.getLast?.getD 0) := by
  cases hlast : l.getLast? with
  | none =>
    obtain rfl : l = [] := List.getLast?_eq_none_iff.mp hlast
    exact .inr ⟨fun q hq => absurd ((hmem q).mpr hq) List.not_mem_nil, rfl⟩
  | some x =>
    obtain ⟨init, rfl⟩ := List.getLast?_eq_some_iff.mp hlast
    obtain ⟨-, -, hle⟩ := List.pairwise_append.mp hsorted
    refine .inl ⟨x, ⟨(hmem x).mp (by simp), fun q hq => ?_⟩, rfl⟩
    rcases List.mem_append.mp ((hmem q).mpr hq) with hq | hq
    · exact hle q hq x (by simp)
    · exact Nat.le_of_eq (List.mem_singleton.mp hq)

namespace SubwordStep

open Subword

variable (t : Text) (origin : Nat) {offset : Nat}

/-- The window of a step: between its offset and the place that the word motion
leads to from where the motion began. -/
def window (s : SubwordStep) (t : Text) (origin offset : Nat) : Range :=
  .between (s.wordStep.once false t origin) offset

theorem once_wordStep_le (s : SubwordStep) : s.wordStep.once false t origin ≤ t.length := by
  cases s with
  | backward =>
    rcases Words.backward_spec false t origin with ⟨⟨hstop, -⟩, -⟩ | ⟨-, heq⟩
    · exact Nat.le_of_lt hstop.1
    · exact Nat.le_trans (Nat.le_of_eq heq) (Nat.zero_le _)
  | wordEnd =>
    rcases Words.wordEnd_spec false t origin with ⟨⟨hend, -⟩, -⟩ | ⟨-, heq⟩
    · exact Nat.le_of_lt hend.1
    · exact Nat.le_trans (Nat.le_of_eq heq) (Nat.sub_le _ _)
  | forward =>
    rcases Words.forward_spec false t origin with ⟨⟨hstop, -⟩, -⟩ | ⟨-, heq⟩
    · exact Nat.le_of_lt hstop.1
    · exact Nat.le_of_eq heq

theorem length_window (s : SubwordStep) (h : offset ≤ t.length) :
    (t.within (s.window t origin offset)).length =
      (s.window t origin offset).right - (s.window t origin offset).left :=
  Text.length_within (Nat.max_le.mpr ⟨once_wordStep_le t origin s, h⟩)

theorem lastIn_locate_backward (offset : Nat) :
    LastIn (IsStart (t.within (backward.window t origin offset))) (backward.window t origin offset)
      (backward.locate t origin offset) :=
  lastIn_getLast? (fun _ => mem_starts_iff (s := backward) nofun) (pairwise_boundaries _ _) _

theorem firstIn_locate {s : SubwordStep} (hs : s ≠ backward) {P : Text → Nat → Prop}
    (hfirst : ∀ w, ListsFirst (P w) (s.boundaries w)) (h : offset ≤ t.length) :
    FirstIn (P (t.within (s.window t origin offset))) (s.window t origin offset)
      (s.locate t origin offset) := by
  have hlen := length_window t origin s h
  have hlocate := (hfirst (t.within (s.window t origin offset))).firstIn
    (pairwise_boundaries s _) (s.window t origin offset)
  rw [← hlen] at hlocate
  cases s with
  | backward => exact absurd rfl hs
  | wordEnd => exact hlocate
  | forward => exact hlocate

theorem firstIn_locate_forward (h : offset ≤ t.length) :
    FirstIn (IsStart (t.within (forward.window t origin offset))) (forward.window t origin offset)
      (forward.locate t origin offset) :=
  firstIn_locate t origin (s := forward) nofun (P := IsStart)
    (listsFirst_starts nofun) h

theorem firstIn_locate_wordEnd (h : offset ≤ t.length) :
    FirstIn (IsEnd (t.within (wordEnd.window t origin offset))) (wordEnd.window t origin offset)
      (wordEnd.locate t origin offset) :=
  firstIn_locate t origin (s := wordEnd) nofun (P := IsEnd) listsFirst_ends h

/-- **Sub-word motions go to the boundaries.** In the window between the place
the word motion leads to and the offset, a step back leads to the last start of
a sub-word or to the left edge, a step forward to the first start or to the
right edge, and a step to an end to the first end or to the right edge. -/
theorem locates_boundaries (h : offset ≤ t.length) :
    LastIn (IsStart (t.within (backward.window t origin offset))) (backward.window t origin offset)
        (backward.locate t origin offset) ∧
      FirstIn (IsStart (t.within (forward.window t origin offset)))
        (forward.window t origin offset) (forward.locate t origin offset) ∧
      FirstIn (IsEnd (t.within (wordEnd.window t origin offset))) (wordEnd.window t origin offset)
        (wordEnd.locate t origin offset) :=
  ⟨lastIn_locate_backward t origin offset, firstIn_locate_forward t origin h,
    firstIn_locate_wordEnd t origin h⟩

/-- Boundaries of both kinds in one word; and a word in which the scanner passes
over the second end, which is not the one that is gone to. -/
theorem locates_boundaries_of_word :
    (let t : Text := ['f', 'o', 'o', '_', 'b', 'a', 'r', 'B', 'a', 'z']
    IsLeast {q | IsStart (t.within (forward.window t 0 0)) q} 4 ∧ forward.locate t 0 0 = 4 ∧
      IsLeast {q | IsEnd (t.within (wordEnd.window t 0 0)) q} 2 ∧ wordEnd.locate t 0 0 = 2 ∧
      IsGreatest {q | IsStart (t.within (backward.window t 9 9)) q} 7 ∧
      backward.locate t 9 9 = 7) ∧
    let t : Text := ['a', 'B', 'c', 'D', 'e']
    let w := t.within (wordEnd.window t 0 0)
    w = ['a', 'B', 'c', 'D'] ∧ wordEnd.boundaries w = [0] ∧ IsEnd w 2 ∧
      IsLeast {q | IsEnd w q} 0 ∧ wordEnd.locate t 0 0 = 0 := by
  constructor
  · intro t
    have hforward : forward.locate t 0 0 = 4 := by
      simp only [locate]
      rw [boundaries_of_pairwise (by decide) (by decide)]
      decide
    have hend : wordEnd.locate t 0 0 = 2 := by
      simp only [locate]
      rw [boundaries_of_pairwise (by decide) (by decide)]
      decide
    have hback : backward.locate t 9 9 = 7 := by
      simp only [locate]
      rw [boundaries_of_pairwise (by decide) (by decide)]
      decide
    obtain ⟨-, hstart, hends⟩ := locates_boundaries t 0 (show 0 ≤ t.length by decide)
    obtain ⟨hlast, -, -⟩ := locates_boundaries t 9 (show 9 ≤ t.length by decide)
    rw [hforward] at hstart
    rw [hend] at hends
    rw [hback] at hlast
    exact ⟨hstart.isLeast (by decide) (by decide), hforward, hends.isLeast (by decide) (by decide),
      hend, hlast.isGreatest (by decide) (by decide), hback⟩
  · intro t w
    have hw : w = ['a', 'B', 'c', 'D'] := by decide
    have hend : wordEnd.locate t 0 0 = 0 := by decide
    have hpassed : IsEnd w 2 :=
      Or.inr ⟨isMixed_iff.mp (by decide), foundAt_camelEnd.mp (by decide)⟩
    obtain ⟨-, -, hends⟩ := locates_boundaries t 0 (show 0 ≤ t.length by decide)
    rw [hend] at hends
    exact ⟨hw, by decide, hpassed, hends.isLeast (by decide) (by decide), hend⟩

end SubwordStep
end Keywise
