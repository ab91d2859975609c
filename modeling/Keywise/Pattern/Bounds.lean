/-
# Matches lie in order within the text

A way keeps the offset it set out from, so a match found from an offset on
starts there or later and ends in the text. As a search goes on behind each
match, the starts of matches ascend.

Key theorems: `Automaton.first?_bounds`, `Automaton.starts_pairwise`,
`Automaton.le_length_of_mem_starts`.
-/
import Keywise.Pattern.Match

namespace Keywise
namespace Automaton

/-- A way that is followed waits or is accepted with the offset it set out
from. -/
theorem follow_start (a : Automaton) (t : Array Char) (p start fuel : Nat) (ns : List Nat)
    (w : Walk) :
    (∀ way ∈ (a.follow t p start fuel ns w).waiting, way.start = start ∨ way ∈ w.waiting) ∧
      (∀ s, (a.follow t p start fuel ns w).accepted = some s →
        s = start ∨ w.accepted = some s) := by
  fun_induction follow a t p start fuel ns w <;> grind

theorem followAll_start (a : Automaton) (t : Array Char) (p steps : Nat) (ways : List Way)
    (w : Walk) (P : Nat → Prop) (hways : ∀ way ∈ ways, P way.start)
    (hwaiting : ∀ way ∈ w.waiting, P way.start) (haccepted : ∀ s, w.accepted = some s → P s) :
    (∀ way ∈ (a.followAll t p steps ways w).waiting, P way.start) ∧
      (∀ s, (a.followAll t p steps ways w).accepted = some s → P s) := by
  induction ways generalizing w with
  | nil => exact ⟨hwaiting, haccepted⟩
  | cons way ways ih =>
    have h := a.follow_start t p way.start (steps + 2) [way.node] w
    have hway := hways way (by simp)
    have h1 : ∀ v ∈ (a.follow t p way.start (steps + 2) [way.node] w).waiting, P v.start := by
      intro v hv
      rcases h.1 v hv with he | hm
      · rw [he]; exact hway
      · exact hwaiting v hm
    have h2 : ∀ s, (a.follow t p way.start (steps + 2) [way.node] w).accepted = some s → P s := by
      intro s hs
      rcases h.2 s hs with he | hm
      · rw [he]; exact hway
      · exact haccepted s hm
    unfold followAll
    simp only
    split
    · exact ⟨h1, h2⟩
    · exact ih _ (fun v hv => hways v (by simp [hv])) h1 h2

theorem take_start (a : Automaton) (c : Char) (waiting : List Way) (P : Nat → Prop)
    (h : ∀ way ∈ waiting, P way.start) : ∀ way ∈ a.take c waiting, P way.start := by
  intro way hway
  simp only [take, List.mem_filterMap, List.mem_reverse, Option.map_eq_some_iff] at hway
  obtain ⟨v, hv, next, _, rfl⟩ := hway
  exact h v hv

/-- A match found from `p0` on lies behind it and in the text. -/
theorem scan_bounds (a : Automaton) (t : Array Char) (steps p0 fuel p : Nat)
    (reached : Array Nat) (ways : List Way) (best : Option (Nat × Nat)) (hp0 : p0 ≤ p)
    (hp : p ≤ t.size) (hways : ∀ way ∈ ways, p0 ≤ way.start ∧ way.start ≤ p)
    (hbest : ∀ s q, best = some (s, q) → p0 ≤ s ∧ s ≤ q ∧ q ≤ t.size) (s q : Nat)
    (h : a.scan t steps fuel p reached ways best = some (s, q)) :
    p0 ≤ s ∧ s ≤ q ∧ q ≤ t.size := by
  induction fuel generalizing p reached ways best with
  | zero => exact hbest s q (by simpa [scan] using h)
  | succ fuel ih =>
    unfold scan at h
    split at h
    · exact hbest s q h
    · simp only at h
      generalize hws : (if best.isSome = true then ways else ways ++ [⟨a.start, p⟩]) = ws at h
      have hin : ∀ way ∈ ws, p0 ≤ way.start ∧ way.start ≤ p := by
        subst hws
        intro way hway
        split at hway
        · exact hways way hway
        · rcases List.mem_append.mp hway with hw | hw
          · exact hways way hw
          · simp at hw; subst hw; exact ⟨hp0, Nat.le_refl _⟩
      have hf := a.followAll_start t p steps ws { reached } (fun s => p0 ≤ s ∧ s ≤ p) hin
        (by simp) (by simp)
      have hb : ∀ s q, ((a.followAll t p steps ws { reached }).accepted.map
          fun start => (start, p)).or best = some (s, q) → p0 ≤ s ∧ s ≤ q ∧ q ≤ t.size := by
        intro s q hsq
        cases hacc : (a.followAll t p steps ws { reached }).accepted with
        | none => rw [hacc] at hsq; exact hbest s q (by simpa using hsq)
        | some start =>
          rw [hacc] at hsq
          simp at hsq
          have := hf.2 start hacc
          omega
      split at h
      next c hc =>
        have hlt : p < t.size := by
          rcases Array.getElem?_eq_some_iff.mp hc with ⟨hlt, _⟩; exact hlt
        refine ih (p + 1) _ _ _ (by omega) (by omega) ?_ hb h
        intro way hway
        have := a.take_start c _ (fun s => p0 ≤ s ∧ s ≤ p) hf.1 way hway
        omega
      next => exact hb s q h

theorem first?_bounds {a : Automaton} {t : Array Char} {p s q : Nat}
    (h : a.first? t p = some (s, q)) : p ≤ s ∧ s ≤ q ∧ q ≤ t.size := by
  unfold first? at h
  by_cases hp : p ≤ t.size
  · exact a.scan_bounds t _ p _ p _ [] none (Nat.le_refl _) hp (by simp) (by simp) s q h
  · rw [show t.size + 1 - p = 0 by omega] at h
    simp [scan] at h

theorem firstBut_bounds {a : Automaton} {t : Array Char} {p s q : Nat} {noEmpty : Bool}
    (h : a.firstBut t p noEmpty = some (s, q)) : p ≤ s ∧ s ≤ q ∧ q ≤ t.size := by
  unfold firstBut at h
  split at h
  next s' q' hf =>
    split at h
    · have := first?_bounds h; omega
    · simp only [Option.some.injEq, Prod.mk.injEq] at h
      have := first?_bounds hf; omega
  next => simp at h

theorem startsFrom_bounds (a : Automaton) (t : Array Char) (fuel : Nat) :
    ∀ (noEmpty : Bool) (p : Nat),
      (∀ s ∈ a.startsFrom t noEmpty p fuel, p ≤ s ∧ s ≤ t.size) ∧
        (a.startsFrom t noEmpty p fuel).Pairwise (· < ·) := by
  induction fuel with
  | zero => intro _ _; simp [startsFrom]
  | succ fuel ih =>
    intro noEmpty p
    unfold startsFrom
    split
    · simp
    next s q hf =>
      have hb := firstBut_bounds hf
      split
      next he =>
        have := ih false (q + 1)
        refine ⟨?_, List.pairwise_cons.mpr ⟨fun x hx => ?_, this.2⟩⟩
        · intro x hx
          rcases List.mem_cons.mp hx with rfl | hx
          · omega
          · have := this.1 x hx; omega
        · have := this.1 x hx; omega
      next hne =>
        have := ih true q
        refine ⟨?_, List.pairwise_cons.mpr ⟨fun x hx => ?_, this.2⟩⟩
        · intro x hx
          rcases List.mem_cons.mp hx with rfl | hx
          · omega
          · have := this.1 x hx; omega
        · have := this.1 x hx; omega

/-- The starts of the matches ascend. -/
theorem starts_pairwise (a : Automaton) (t : List Char) : (a.starts t).Pairwise (· < ·) :=
  (a.startsFrom_bounds t.toArray (t.length + 1) false 0).2

/-- No match starts behind the text. -/
theorem le_length_of_mem_starts {a : Automaton} {t : List Char} {s : Nat} (h : s ∈ a.starts t) :
    s ≤ t.length := by
  simpa using ((a.startsFrom_bounds t.toArray (t.length + 1) false 0).1 s h).2

end Automaton
end Keywise
