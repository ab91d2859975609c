/-
# Searches go around the starts of the matches

From any offset a search goes to the nearest start ahead, and from behind the
last one on to the first (`PatternSearch.comesNext_follow`); with a count it does
so as often as the count says. Backward it is the same with the order turned
round, so both directions are shown at once, for the starts in any order
(`PatternSearch.Next`).

Between two starts the one follows the other exactly if this one comes before it
on the way back (`PatternSearch.Next.back`). So as many steps back undo those
forward, and the other way round. As the starts ascend, a step leads from each
to the one behind it in their list, so that as many steps as there are starts go
once around (`PatternSearch.iterate_follow_getElem`).

All this asks of the starts is that they ascend, whatever has found them. Those of
the matches of a pattern do, so it holds of the motion that searches a text
(`PatternSearch.search_back`).

Key definitions: `PatternSearch.ComesNext`, `PatternSearch.follow`.
Key theorems: `PatternSearch.comesNext_iff`, `PatternSearch.iterate_follow_not`,
`PatternSearch.iterate_follow_length`, `PatternSearch.goes_around`,
`PatternSearch.search_back`.
-/
import Mathlib.Data.List.Basic
import Keywise.Pattern.Bounds
import Keywise.Proofs.Motion.Words

namespace Keywise
namespace PatternSearch

/-- Whether `q` comes next to `p` on the way around the starts: the nearest one
ahead, or if there is none, the one at the other end. -/
def ComesNext (backward : Bool) (starts : List Nat) (p q : Nat) : Prop :=
  match backward with
  | false => IsLeast {s | s ∈ starts ∧ p < s} q ∨
      (∀ s ∈ starts, s ≤ p) ∧ IsLeast {s | s ∈ starts} q
  | true => IsGreatest {s | s ∈ starts ∧ s < p} q ∨
      (∀ s ∈ starts, p ≤ s) ∧ IsGreatest {s | s ∈ starts} q

/-! ### Around a list, in either order -/

section Next

variable {α : Type} [LinearOrder α] {l : List α} {p q r : α}

/-- Whether `q` comes next to `p` on the way around a list. -/
def Next (l : List α) (p q : α) : Prop :=
  IsLeast {r | r ∈ l ∧ p < r} q ∨ (∀ r ∈ l, r ≤ p) ∧ IsLeast {r | r ∈ l} q

theorem Next.unique (h : Next l p q) (h' : Next l p r) : q = r := by
  rcases h with hleast | ⟨hnone, hfirst⟩ <;> rcases h' with hleast' | ⟨hnone', hfirst'⟩
  · exact hleast.unique hleast'
  · exact absurd hleast.1.2 (not_lt.mpr (hnone' q hleast.1.1))
  · exact absurd hleast'.1.2 (not_lt.mpr (hnone r hleast'.1.1))
  · exact hfirst.unique hfirst'

theorem Next.mem (h : Next l p q) : q ∈ l := by
  rcases h with hleast | ⟨-, hfirst⟩
  · exact hleast.1.1
  · exact hfirst.1

theorem Next.of_mem_iff {l' : List α} (h : Next l p q) (hmem : ∀ r, r ∈ l ↔ r ∈ l') :
    Next l' p q := by
  simpa only [Next, hmem] using h

/-- What comes next to one of the list has this one next to it in the order
turned round. -/
theorem Next.back (h : Next l p q) (hp : p ∈ l) : @Next αᵒᵈ _ l q p := by
  rcases h with ⟨⟨-, hpq⟩, hleast⟩ | ⟨hlast, hfirst⟩
  · refine .inl ⟨⟨hp, hpq⟩, fun r hr => ?_⟩
    exact le_of_not_gt fun hrp => absurd hr.2 (not_lt.mpr (hleast ⟨hr.1, hrp⟩))
  · exact .inr ⟨fun r hr => hfirst.2 hr, hp, fun r hr => hlast r hr⟩

/-- The first of an ascending list that is above `p`, or the first of all. -/
theorem next_find (hasc : l.Pairwise (· < ·)) (hne : l ≠ []) {P : α → Bool}
    (hP : ∀ r, P r = true ↔ p < r) : Next l p (((l.find? P).or l.head?).getD p) := by
  cases hfind : l.find? P with
  | some q =>
    obtain ⟨hq, before, after, rfl, hbefore⟩ := List.find?_eq_some_iff_append.mp hfind
    obtain ⟨-, hafter, -⟩ := List.pairwise_append.mp hasc
    refine .inl ⟨⟨by simp, (hP q).mp hq⟩, fun r hr => ?_⟩
    rcases List.mem_append.mp hr.1 with hmem | hmem
    · have hno := hbefore r hmem
      rw [(hP r).mpr hr.2] at hno
      cases hno
    · rcases List.mem_cons.mp hmem with rfl | hmem
      · exact le_refl _
      · exact ((List.pairwise_cons.mp hafter).1 r hmem).le
  | none =>
    obtain ⟨q, l, rfl⟩ := List.exists_cons_of_ne_nil hne
    refine .inr ⟨fun r hr => ?_, List.mem_cons_self, fun r hr => ?_⟩
    · have hno := List.find?_eq_none.mp hfind r hr
      rw [hP] at hno
      exact not_lt.mp hno
    · rcases List.mem_cons.mp hr with rfl | hmem
      · exact le_refl _
      · exact ((List.pairwise_cons.mp hasc).1 r hmem).le

/-- In an ascending list the next one stands behind, or first if there is none
behind. -/
theorem next_getElem (hasc : l.Pairwise (· < ·)) {i j : Nat} (hi : i < l.length)
    (hj : j < l.length) (hnext : j = (i + 1) % l.length) : Next l l[i] l[j] := by
  have hlt := List.pairwise_iff_getElem.mp hasc
  have hle : ∀ m k (hm : m < l.length) (hk : k < l.length), m ≤ k → l[m] ≤ l[k] := by
    intro m k hm hk hmk
    rcases Nat.eq_or_lt_of_le hmk with rfl | hmk
    · exact le_refl _
    · exact (hlt m k hm hk hmk).le
  rcases Nat.eq_or_lt_of_le (Nat.succ_le_of_lt hi) with hlast | hbehind
  · obtain rfl : j = 0 := by rw [hnext, ← hlast, Nat.mod_self]
    refine .inr ⟨fun r hr => ?_, List.getElem_mem _, fun r hr => ?_⟩
    · obtain ⟨k, hk, rfl⟩ := List.mem_iff_getElem.mp hr
      exact hle k i hk hi (by omega)
    · obtain ⟨k, hk, rfl⟩ := List.mem_iff_getElem.mp hr
      exact hle 0 k hj hk (Nat.zero_le k)
  · obtain rfl : j = i + 1 := hnext.trans (Nat.mod_eq_of_lt hbehind)
    refine .inl ⟨⟨List.getElem_mem _, hlt i _ hi hj (Nat.lt_succ_self i)⟩, fun r hr => ?_⟩
    obtain ⟨hmem, hr⟩ := hr
    obtain ⟨k, hk, rfl⟩ := List.mem_iff_getElem.mp hmem
    refine hle _ k hj hk ?_
    by_contra hki
    exact absurd hr (not_lt.mpr (hle k i hk hi (by omega)))

end Next

/-! ### One step of a search -/

/-- Where one step of a search leads. -/
def follow (backward : Bool) (starts : List Nat) (p : Nat) : Nat :=
  (next? backward starts p).getD p

section Follow

variable {starts : List Nat} {p q : Nat} (hasc : starts.Pairwise (· < ·)) (hne : starts ≠ [])

include hasc hne

/-- **One step of a search** leads to what comes next. -/
theorem comesNext_follow (backward : Bool) (p : Nat) :
    ComesNext backward starts p (follow backward starts p) := by
  cases backward with
  | false => exact next_find hasc hne fun r => decide_eq_true_iff
  | true =>
    have hP : ∀ s : Nat, decide (s < p) = true ↔ s < p := fun s => decide_eq_true_iff
    have hlast : starts.reverse.head? = starts.getLast? := List.head?_reverse
    have hback : @Next Natᵒᵈ _ starts.reverse p
        (((starts.reverse.find? (· < p)).or starts.reverse.head?).getD p) :=
      @next_find Natᵒᵈ _ starts.reverse p (List.pairwise_reverse.mpr hasc)
        (mt List.reverse_eq_nil_iff.mp hne) _ hP
    rw [hlast] at hback
    exact @Next.of_mem_iff Natᵒᵈ _ _ _ _ _ hback fun s => List.mem_reverse

theorem comesNext_iff (backward : Bool) (p q : Nat) :
    ComesNext backward starts p q ↔ q = follow backward starts p := by
  have hnext := comesNext_follow hasc hne backward p
  refine ⟨fun h => ?_, fun heq => heq ▸ hnext⟩
  cases backward with
  | false => exact Next.unique h hnext
  | true => exact @Next.unique Natᵒᵈ _ _ _ _ _ h hnext

theorem follow_mem (backward : Bool) (p : Nat) : follow backward starts p ∈ starts := by
  have hnext := comesNext_follow hasc hne backward p
  cases backward with
  | false => exact Next.mem hnext
  | true => exact @Next.mem Natᵒᵈ _ _ _ _ hnext

theorem follow_not_follow (backward : Bool) (hp : p ∈ starts) :
    follow (!backward) starts (follow backward starts p) = p := by
  have hnext := comesNext_follow hasc hne backward p
  refine ((comesNext_iff hasc hne (!backward) _ p).mp ?_).symm
  cases backward with
  | false => exact Next.back hnext hp
  | true => exact @Next.back Natᵒᵈ _ _ _ _ hnext hp

theorem iterate_follow_mem (backward : Bool) (hp : p ∈ starts) (n : Nat) :
    (follow backward starts)^[n] p ∈ starts := by
  cases n with
  | zero => exact hp
  | succ n =>
    rw [Function.iterate_succ_apply']
    exact follow_mem hasc hne backward _

/-- **Steps the other way undo as many steps.** -/
theorem iterate_follow_not (backward : Bool) (hp : p ∈ starts) (n : Nat) :
    (follow (!backward) starts)^[n] ((follow backward starts)^[n] p) = p := by
  induction n with
  | zero => rfl
  | succ n ih =>
    have hmem := iterate_follow_mem hasc hne backward hp n
    rw [Function.iterate_succ_apply, Function.iterate_succ_apply',
      follow_not_follow hasc hne backward hmem, ih]

/-- Forward the starts are gone through in the order of their list, around its
end. -/
theorem iterate_follow_getElem {i j : Nat} (hi : i < starts.length) (n : Nat)
    (hj : j < starts.length) (hplace : j = (i + n) % starts.length) :
    (follow false starts)^[n] starts[i] = starts[j] := by
  induction n generalizing j with
  | zero =>
    obtain rfl : j = i := hplace.trans (Nat.mod_eq_of_lt hi)
    rfl
  | succ n ih =>
    have hbefore : (i + n) % starts.length < starts.length := Nat.mod_lt _ (Nat.zero_lt_of_lt hi)
    have hnext : j = ((i + n) % starts.length + 1) % starts.length := by
      rw [hplace, Nat.mod_add_mod, Nat.add_assoc]
    rw [Function.iterate_succ_apply', ih hbefore rfl]
    exact ((comesNext_iff hasc hne false _ _).mp (next_getElem hasc hbefore hj hnext)).symm

/-- **As many steps as there are starts** go once around. -/
theorem iterate_follow_length (backward : Bool) (hp : p ∈ starts) :
    (follow backward starts)^[starts.length] p = p := by
  have hforward : (follow false starts)^[starts.length] p = p := by
    obtain ⟨i, hi, rfl⟩ := List.mem_iff_getElem.mp hp
    have hround : i = (i + starts.length) % starts.length := by
      rw [Nat.add_mod_right, Nat.mod_eq_of_lt hi]
    exact iterate_follow_getElem hasc hne hi starts.length hi hround
  cases backward with
  | false => exact hforward
  | true =>
    have hundone := iterate_follow_not hasc hne false hp starts.length
    rwa [hforward] at hundone

end Follow

/-! ### Searches and their repetitions -/

section Landing

variable {s : PatternSearch} {starts : List Nat} {p : Nat}

theorem landing_eq (hne : starts ≠ []) (n p : Nat) :
    s.landing starts n p = .ok ((follow s.backward starts)^[n] p) := by
  rw [landing, if_neg (by simpa using hne), around, repeated_eq_iterate]
  rfl

variable (hasc : starts.Pairwise (· < ·)) (hne : starts ≠ [])

include hasc hne

theorem landing_length (hp : p ∈ starts) :
    s.landing starts (countOf (some starts.length)) p = .ok p := by
  rw [landing_eq hne, countOf_some (List.length_pos_iff.mpr hne),
    iterate_follow_length hasc hne s.backward hp]

/-- A search, and then one in the other direction, lead back. -/
theorem exists_landing_back {s' : PatternSearch} (hback : s'.backward = !s.backward)
    (hp : p ∈ starts) (n : Nat) :
    ∃ q ∈ starts, s.landing starts n p = .ok q ∧ s'.landing starts n q = .ok p := by
  refine ⟨_, iterate_follow_mem hasc hne s.backward hp n, landing_eq hne n p, ?_⟩
  rw [landing_eq hne, hback, iterate_follow_not hasc hne s.backward hp]

end Landing

/-- The search motion lands among the starts of the matches. -/
theorem destination_search {s : PatternSearch} {a : Automaton} (hcompile : s.compile = .ok a)
    (t : Text) (sticky : Option Sticky) (count : Option Nat) (p : Nat) :
    (Motion.search s).destination t sticky count p =
      s.landing (a.starts t) (countOf count) p := by
  show s.destination t (countOf count) p = _
  unfold destination
  rw [hcompile]
  rfl

/-- **Searches go around the matches**, wherever they start, in ascending order.
A step of a search leads to what comes next to the offset among these starts, and
a count takes as many steps. From a start, as many steps as there are starts lead
back to it, and so does a search and then the one in the other direction with the
same count: these are the last search once more, and once more reversed, whichever
way it went. The motion that searches a text lands so among the starts of the
matches there. -/
theorem goes_around (pattern : String) {starts : List Nat} (hasc : starts.Pairwise (· < ·))
    (hne : starts ≠ []) :
    ∃ next : Bool → Nat → Nat,
      (∀ backward p q, ComesNext backward starts p q ↔ q = next backward p) ∧
      (∀ backward count p, landing ⟨pattern, backward⟩ starts (countOf count) p =
        .ok ((next backward)^[countOf count] p)) ∧
      (∀ backward, ∀ p ∈ starts,
        landing ⟨pattern, backward⟩ starts (countOf (some starts.length)) p = .ok p) ∧
      (∀ backward count, ∀ p ∈ starts, ∃ q ∈ starts,
        landing ⟨pattern, backward⟩ starts (countOf count) p = .ok q ∧
          landing ⟨pattern, !backward⟩ starts (countOf count) q = .ok p) ∧
      (∀ (r : Registers) (backward : Bool), r.lastSearch = some ⟨pattern, backward⟩ →
        ∀ reverse, ∃ s s' : PatternSearch, s.pattern = pattern ∧ s'.pattern = pattern ∧
          Motion.searchAgain r reverse = .ok (.search s) ∧
          Motion.searchAgain r (!reverse) = .ok (.search s') ∧
          ∀ count, ∀ p ∈ starts, ∃ q ∈ starts, s.landing starts (countOf count) p = .ok q ∧
            s'.landing starts (countOf count) q = .ok p) ∧
      ∀ (t : Text) a backward, compile ⟨pattern, backward⟩ = .ok a → a.starts t = starts →
        ∀ sticky count p, (Motion.search ⟨pattern, backward⟩).destination t sticky count p =
          landing ⟨pattern, backward⟩ starts (countOf count) p := by
  refine ⟨fun backward => follow backward starts, comesNext_iff hasc hne,
    fun backward count p => landing_eq hne (countOf count) p,
    fun backward p hp => landing_length hasc hne hp,
    fun backward count p hp => exists_landing_back hasc hne rfl hp (countOf count), ?_, ?_⟩
  · intro r backward hlast reverse
    have hother : (backward != !reverse) = !(backward != reverse) := by simp
    refine ⟨⟨pattern, backward != reverse⟩, ⟨pattern, backward != !reverse⟩, rfl, rfl, ?_, ?_,
      fun count p hp => exists_landing_back hasc hne hother hp (countOf count)⟩
    · rw [Motion.searchAgain, hlast]
    · rw [Motion.searchAgain, hlast]
  · rintro t a backward hcompile rfl sticky count p
    exact destination_search hcompile t sticky count p

/-- Three starts, and the last search backward: three steps go once around, and
`N` undoes `n`. -/
theorem goes_around_of_three :
    [0, 4, 7].Pairwise (· < ·) ∧ [0, 4, 7] ≠ [] ∧
    landing ⟨"ab", false⟩ [0, 4, 7] 3 4 = .ok 4 ∧
    ∃ s s', Motion.searchAgain { lastSearch := some ⟨"ab", true⟩ } false = .ok (.search s) ∧
      Motion.searchAgain { lastSearch := some ⟨"ab", true⟩ } true = .ok (.search s') ∧
      ∃ q, s.landing [0, 4, 7] 2 7 = .ok q ∧ s'.landing [0, 4, 7] 2 q = .ok 7 := by
  have hasc : [0, 4, 7].Pairwise (· < ·) := by decide
  have hne : [0, 4, 7] ≠ [] := by decide
  obtain ⟨next, -, -, haround, -, hagain, -⟩ := goes_around "ab" hasc hne
  obtain ⟨s, s', -, -, hn, hN, hback⟩ :=
    hagain { lastSearch := some ⟨"ab", true⟩ } true rfl false
  obtain ⟨q, -, hq, hp⟩ := hback (some 2) 7 (by decide)
  exact ⟨hasc, hne, haround false 4 (by decide), s, s', hn, hN, q, hq, hp⟩

/-! ### The matches of a text -/

theorem compile_congr {s s' : PatternSearch} (h : s.pattern = s'.pattern) :
    s.compile = s'.compile := by
  unfold compile
  rw [h]

/-- **From the start of a match** of a pattern, a search motion leads back to it
with a count of as many matches as there are, and so does any search and then the
one in the other direction. -/
theorem search_back {s s' : PatternSearch} {t : Text} {a : Automaton} {p : Nat}
    (hpattern : s'.pattern = s.pattern) (hback : s'.backward = !s.backward)
    (hcompile : s.compile = .ok a) (hp : p ∈ a.starts t) (sticky sticky' : Option Sticky) :
    (Motion.search s).destination t sticky (some (a.starts t).length) p = .ok p ∧
      ∀ count, ∃ q ∈ a.starts t, (Motion.search s).destination t sticky count p = .ok q ∧
        (Motion.search s').destination t sticky' count q = .ok p := by
  have hne : a.starts t ≠ [] := List.ne_nil_of_mem hp
  have hcompile' : s'.compile = .ok a := (compile_congr hpattern).trans hcompile
  refine ⟨?_, fun count => ?_⟩
  · rw [destination_search hcompile]
    exact landing_length (a.starts_pairwise t) hne hp
  · obtain ⟨q, hq, hthere, hagain⟩ :=
      exists_landing_back (a.starts_pairwise t) hne hback hp (countOf count)
    refine ⟨q, hq, ?_, ?_⟩
    · rw [destination_search hcompile, hthere]
    · rw [destination_search hcompile', hagain]

end PatternSearch
end Keywise
