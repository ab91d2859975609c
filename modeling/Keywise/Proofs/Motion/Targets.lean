/-
# Character searches find the counted target on their line

What a search may find from an offset are the targets in the content of its
line that are ahead of it (`CharSearch.Finds`); there is one list of them with
the nearest first (`CharSearch.lists_candidates`, `CharSearch.Lists.unique`).
A search goes for the `n`-th of the list. One up to the target that is repeated
and stands next to the first already starts again on that one, from which the
rest of the list is found (`CharSearch.Lists.tail`), so that it goes for the
second.

Back from the `n`-th target those passed on the way are found and then, if it
holds the target, the offset that the search began at
(`CharSearch.Lists.reverse`).

Key definitions: `CharSearch.Ahead`, `CharSearch.Finds`, `CharSearch.Lists`,
`CharSearch.wanted`.
Key theorems: `CharSearch.lists_candidates`, `CharSearch.destination_eq`,
`CharSearch.finds_counted`.
-/
import Mathlib.Data.List.Sort
import Keywise.Motion.Basic
import Keywise.Proofs.Text.Lines

namespace Keywise

/-- Offsets up to another one, or in the content of its line, are on its line
if they are not before it. -/
theorem Text.lineAt_eq_of_mem {t : Text} {p q : Nat} (hle : (t.lineAt p).start ≤ q)
    (hlt : q ≤ p ∨ q < (t.lineAt p).stop) : t.lineAt q = t.lineAt p := by
  obtain ⟨pre, l, post, h⟩ := exists_holds t p
  rw [h.lineAt] at hle hlt
  have hcontent := contentLength_le l
  have hstop : (Line.after pre l).stop = pre.flatten.length + contentLength l := rfl
  have hnext : post = [] ∨ q < pre.flatten.length + l.length :=
    h.lt_next.imp_right fun hp => by omega
  have hq : t.Holds pre l post q := ⟨h.lines, hle, hnext⟩
  rw [h.lineAt, hq.lineAt]

namespace CharSearch

variable (s : CharSearch) (t : Text)

/-- Whether `b` is ahead of `a` in the direction of the search. -/
def Ahead (a b : Nat) : Prop := if s.backward then b < a else a < b

/-- Whether there is a target at `q` that the search may find from `p`: in the
content of the line of `p`, and ahead. -/
def Finds (p q : Nat) : Prop :=
  t[q]? = some s.target ∧ (t.lineAt p).start ≤ q ∧ q < (t.lineAt p).stop ∧ s.Ahead p q

/-- All that may be found from `p`, the nearest first. -/
structure Lists (p : Nat) (qs : List Nat) : Prop where
  mem_iff : ∀ q, q ∈ qs ↔ s.Finds t p q
  ordered : qs.Pairwise s.Ahead

/-- What the search goes for from `p`: the `n`-th of what may be found. But if
it is up to the target and repeated, it does not go for the first when that is
next to `p` already: it goes for the second. -/
def wanted (again : Bool) (p n : Nat) (qs : List Nat) : Option Nat :=
  if again ∧ s.upTo ∧ n = 1 ∧ qs.head?.any (fun q => q = p + 1 ∨ p = q + 1) then qs[1]?
  else qs[n - 1]?

variable {s t}

/-! ### Directions -/

theorem Ahead.trans {a b c : Nat} (h : s.Ahead a b) (h' : s.Ahead b c) : s.Ahead a c := by
  unfold Ahead at *
  split at h <;> simp_all <;> omega

theorem Ahead.ne {a b : Nat} (h : s.Ahead a b) : a ≠ b := by
  unfold Ahead at h
  split at h <;> omega

theorem Ahead.asymm {a b : Nat} (h : s.Ahead a b) : ¬ s.Ahead b a :=
  fun h' => (h.trans h').ne rfl

theorem Ahead.not_next {a b c : Nat} (h : s.Ahead a b) (h' : s.Ahead b c) :
    ¬ (c = a + 1 ∨ a = c + 1) := by
  unfold Ahead at *
  split at h <;> simp_all <;> omega

theorem ahead_or_eq_or_ahead (s : CharSearch) (a b : Nat) : s.Ahead a b ∨ a = b ∨ s.Ahead b a := by
  unfold Ahead
  split <;> omega

theorem ahead_reverse_iff {a b : Nat} : s.reverse.Ahead a b ↔ s.Ahead b a := by
  unfold Ahead reverse
  cases s.backward <;> simp

instance : Std.Irrefl s.Ahead := ⟨fun _ h => h.ne rfl⟩

instance : Std.Antisymm s.Ahead := ⟨fun _ _ h h' => absurd h' h.asymm⟩

/-! ### The list of what may be found -/

theorem mem_positions {target : Char} : ∀ {t : Text} {p q : Nat},
    q ∈ positions target p t ↔ ∃ i, t[i]? = some target ∧ q = p + i
  | [], p, q => by simp [positions]
  | c :: t, p, q => by
    have hrest : q ∈ positions target (p + 1) t ↔ ∃ i, t[i]? = some target ∧ q = p + (i + 1) := by
      rw [mem_positions]
      simp only [Nat.add_assoc, Nat.add_comm 1]
    rw [positions]
    by_cases hc : c = target
    · rw [if_pos hc, List.mem_cons, hrest]
      constructor
      · rintro (rfl | ⟨i, hi, rfl⟩)
        · exact ⟨0, by simp [hc], rfl⟩
        · exact ⟨i + 1, by simpa using hi, rfl⟩
      · rintro ⟨i, hi, rfl⟩
        cases i with
        | zero => exact .inl rfl
        | succ i => exact .inr ⟨i, by simpa using hi, rfl⟩
    · rw [if_neg hc, hrest]
      constructor
      · rintro ⟨i, hi, rfl⟩
        exact ⟨i + 1, by simpa using hi, rfl⟩
      · rintro ⟨i, hi, rfl⟩
        cases i with
        | zero => exact absurd (by simpa using hi) hc
        | succ i => exact ⟨i, by simpa using hi, rfl⟩

theorem pairwise_positions (target : Char) : ∀ (t : Text) (p : Nat),
    (positions target p t).Pairwise (· < ·)
  | [], p => by simp [positions]
  | c :: t, p => by
    have ih := pairwise_positions target t (p + 1)
    rw [positions]
    split
    · refine List.pairwise_cons.mpr ⟨fun q hq => ?_, ih⟩
      obtain ⟨i, -, rfl⟩ := mem_positions.mp hq
      omega
    · exact ih

theorem mem_positions_content {target : Char} {l : Line} {q : Nat} :
    q ∈ positions target l.start (t.content l) ↔
      t[q]? = some target ∧ l.start ≤ q ∧ q < l.stop := by
  have hget : ∀ i, (t.content l)[i]? = if i < l.length then t[l.start + i]? else none := by
    intro i
    unfold Text.content Text.slice
    rw [List.getElem?_take, List.getElem?_drop]
  unfold Line.stop
  rw [mem_positions]
  constructor
  · rintro ⟨i, hi, rfl⟩
    rw [hget] at hi
    split at hi
    · exact ⟨hi, by omega, by omega⟩
    · cases hi
  · rintro ⟨htarget, hle, hlt⟩
    obtain ⟨i, rfl⟩ := Nat.exists_eq_add_of_le hle
    exact ⟨i, by rw [hget, if_pos (by omega), htarget], rfl⟩

/-- **The list of what may be found**, as the search makes it. -/
theorem lists_candidates (s : CharSearch) (t : Text) (p : Nat) :
    s.Lists t p (s.candidates t p) := by
  have hmem : ∀ q, q ∈ s.candidates t p ↔ s.Finds t p q := by
    intro q
    unfold candidates Finds Ahead
    rw [← and_assoc, ← and_assoc, and_assoc (b := _ ≤ q), ← mem_positions_content]
    split <;> simp
  refine ⟨hmem, ?_⟩
  have hall := pairwise_positions s.target (t.content (t.lineAt p)) (t.lineAt p).start
  unfold candidates
  cases hback : s.backward with
  | true =>
    refine List.pairwise_reverse.mpr ((hall.filter _).imp fun {a b} h => ?_)
    simpa [Ahead, hback] using h
  | false =>
    refine (hall.filter _).imp fun {a b} h => ?_
    simpa [Ahead, hback] using h

namespace Lists

variable {p : Nat} {qs : List Nat}

theorem unique {qs' : List Nat} (h : s.Lists t p qs) (h' : s.Lists t p qs') : qs' = qs :=
  h'.ordered.eq_of_mem_iff h.ordered fun q => (h'.mem_iff q).trans (h.mem_iff q).symm

end Lists

theorem Finds.lineAt_eq {p q : Nat} (h : s.Finds t p q) : t.lineAt q = t.lineAt p :=
  Text.lineAt_eq_of_mem h.2.1 (.inr h.2.2.1)

namespace Lists

variable {p : Nat} {qs : List Nat}

/-- **From the first of a list** the rest of it may be found. -/
theorem tail {q : Nat} (h : s.Lists t p (q :: qs)) : s.Lists t q qs := by
  have hq := (h.mem_iff q).mp (List.mem_cons_self ..)
  obtain ⟨hahead, hrest⟩ := List.pairwise_cons.mp h.ordered
  refine ⟨fun r => ⟨fun hr => ?_, fun hr => ?_⟩, hrest⟩
  · obtain ⟨htarget, hle, hlt, -⟩ := (h.mem_iff r).mp (List.mem_cons_of_mem q hr)
    rw [← hq.lineAt_eq] at hle hlt
    exact ⟨htarget, hle, hlt, hahead r hr⟩
  · obtain ⟨htarget, hle, hlt, hqr⟩ := hr
    rw [hq.lineAt_eq] at hle hlt
    have hmem := (h.mem_iff r).mpr ⟨htarget, hle, hlt, hq.2.2.2.trans hqr⟩
    exact (List.mem_cons.mp hmem).resolve_left hqr.ne.symm

/-- **Back from one of a list** the ones passed may be found, then the offset
that the list is for, if there is a target, and what is behind it. -/
theorem reverse {before after : List Nat} {q : Nat} (h : s.Lists t p (before ++ q :: after))
    (htarget : t[p]? = some s.target) (hlt : p < (t.lineAt p).stop) :
    s.reverse.Lists t q (before.reverse ++ p :: s.reverse.candidates t p) := by
  have hq : s.Finds t p q := (h.mem_iff q).mp (by simp)
  have hbehind := lists_candidates s.reverse t p
  obtain ⟨hbefore, hafter, hcross⟩ := List.pairwise_append.mp h.ordered
  have hpassed : ∀ r, r ∈ before ↔ s.Finds t p r ∧ s.Ahead r q := by
    intro r
    constructor
    · intro hr
      exact ⟨(h.mem_iff r).mp (List.mem_append_left _ hr), hcross r hr q (List.mem_cons_self ..)⟩
    · rintro ⟨hr, hrq⟩
      rcases List.mem_append.mp ((h.mem_iff r).mpr hr) with hr | hr
      · exact hr
      · rcases List.mem_cons.mp hr with rfl | hr
        · exact absurd rfl hrq.ne
        · exact absurd ((List.pairwise_cons.mp hafter).1 r hr) hrq.asymm
  refine ⟨fun r => ?_, ?_⟩
  · have hline := hq.lineAt_eq
    simp only [List.mem_append, List.mem_reverse, List.mem_cons, hpassed, hbehind.mem_iff]
    unfold Finds
    rw [hline]
    simp only [ahead_reverse_iff]
    have hpq := hq.2.2.2
    constructor
    · rintro (⟨⟨hr, hle, hlt, -⟩, hrq⟩ | rfl | ⟨hr, hle, hlt, hrp⟩)
      · exact ⟨hr, hle, hlt, hrq⟩
      · exact ⟨htarget, t.start_lineAt_le _, hlt, hpq⟩
      · exact ⟨hr, hle, hlt, hrp.trans hpq⟩
    · rintro ⟨hr, hle, hlt, hrq⟩
      rcases ahead_or_eq_or_ahead s p r with hpr | rfl | hrp
      · exact .inl ⟨⟨hr, hle, hlt, hpr⟩, hrq⟩
      · exact .inr (.inl rfl)
      · exact .inr (.inr ⟨hr, hle, hlt, hrp⟩)
  · have hback : ∀ r ∈ s.reverse.candidates t p, s.reverse.Ahead p r := fun r hr =>
      ((hbehind.mem_iff r).mp hr).2.2.2
    have hpassed' : ∀ r ∈ before, s.reverse.Ahead r p := fun r hr =>
      ahead_reverse_iff.mpr ((hpassed r).mp hr).1.2.2.2
    refine List.pairwise_append.mpr ⟨List.pairwise_reverse.mpr (hbefore.imp
      ahead_reverse_iff.mpr), List.pairwise_cons.mpr ⟨hback, hbehind.ordered⟩, ?_⟩
    intro r hr r' hr'
    have hrp := hpassed' r (List.mem_reverse.mp hr)
    rcases List.mem_cons.mp hr' with rfl | hr'
    · exact hrp
    · exact hrp.trans (hback r' hr')

/-! ### Which one the search goes for -/

theorem eq_zero_of_next {i q : Nat} (h : s.Lists t p qs) (hq : qs[i]? = some q)
    (hnext : q = p + 1 ∨ p = q + 1) : i = 0 := by
  by_contra hi
  obtain ⟨hlt, rfl⟩ := List.getElem?_eq_some_iff.mp hq
  have hfirst : s.Ahead p qs[0] := ((h.mem_iff _).mp (List.getElem_mem _)).2.2.2
  have hpast : s.Ahead qs[0] qs[i] :=
    List.pairwise_iff_getElem.mp h.ordered 0 i (by omega) hlt (Nat.pos_of_ne_zero hi)
  exact hfirst.not_next hpast hnext

theorem locate_eq (h : s.Lists t p qs) (n : Nat) :
    s.locate t n p = qs[n - 1]?.map s.stopBeside := by
  unfold locate
  rw [h.unique (lists_candidates s t p)]

end Lists

/-- A search up to the target stands still exactly if it is next to it. -/
theorem stopBeside_eq_iff {p q : Nat} (hupTo : s.upTo = true) (h : s.Ahead p q) :
    s.stopBeside q = p ↔ q = p + 1 ∨ p = q + 1 := by
  unfold stopBeside
  unfold Ahead at h
  rw [if_pos hupTo]
  split <;> simp_all <;> omega

/-- The target a search is next to is where it starts when it is repeated. -/
theorem nudged_eq {p q : Nat} (h : s.Ahead p q) (hnext : q = p + 1 ∨ p = q + 1) :
    (if s.backward then p - 1 else p + 1) = q := by
  unfold Ahead at h
  split <;> simp_all <;> omega

/-- **Where the search stops**: beside what it goes for, or on it. -/
theorem destination_eq {p n : Nat} {qs : List Nat} (h : s.Lists t p qs) (again : Bool)
    (hn : 1 ≤ n) :
    s.destination again t n p = (s.wanted again p n qs).map s.stopBeside := by
  unfold destination wanted
  rw [h.locate_eq]
  by_cases hnudge : again ∧ s.upTo ∧ n = 1 ∧ qs.head?.any (fun q => q = p + 1 ∨ p = q + 1)
  · rw [if_pos hnudge]
    obtain ⟨hagain, hupTo, rfl, hhead⟩ := hnudge
    cases qs with
    | nil => simp at hhead
    | cons q qs =>
      have hahead : s.Ahead p q := ((h.mem_iff q).mp (List.mem_cons_self ..)).2.2.2
      have hnext : q = p + 1 ∨ p = q + 1 := by simpa using hhead
      have hstill := (stopBeside_eq_iff hupTo hahead).mpr hnext
      have hlocate := h.tail.locate_eq 1
      simp [hagain, hupTo, hstill, nudged_eq hahead hnext, hlocate]
  · rw [if_neg hnudge]
    cases hq : qs[n - 1]? with
    | none => rfl
    | some q =>
      have hmoves : ¬ (again && s.upTo && s.stopBeside q == p) = true := by
        intro hstill
        simp only [Bool.and_eq_true, beq_iff_eq] at hstill
        obtain ⟨⟨hagain, hupTo⟩, heq⟩ := hstill
        have hahead := ((h.mem_iff q).mp (List.mem_of_getElem? hq)).2.2.2
        have hnext := (stopBeside_eq_iff hupTo hahead).mp heq
        have hzero := h.eq_zero_of_next hq hnext
        rw [hzero, ← List.head?_eq_getElem?] at hq
        exact hnudge ⟨hagain, hupTo, by omega, by simpa [hq] using hnext⟩
      simp only [Option.map_some]
      rw [if_neg hmoves]

theorem find_destination_eq {p : Nat} {qs : List Nat} (h : s.Lists t p qs) (again recorded : Bool)
    (sticky : Option Sticky) (count : Option Nat) :
    (Motion.find s again recorded).destination t sticky count p =
      match s.wanted again p (countOf count) qs with
      | some q => .ok (s.stopBeside q)
      | none => .error (.charNotFound s.target) := by
  show (match s.destination again t (countOf count) p with
    | some q => Except.ok q
    | none => Except.error (CommandError.charNotFound s.target)) = _
  rw [destination_eq h again (one_le_countOf count)]
  cases s.wanted again p (countOf count) qs <;> rfl

/-- What is gone for is in the list, and if the search is repeated and up to it
there is an offset between. -/
theorem wanted_spec {p n q : Nat} {again : Bool} {qs : List Nat} (h : s.Lists t p qs)
    (hq : s.wanted again p n qs = some q) :
    s.Finds t p q ∧ (again = true → s.upTo = true → 1 ≤ n → ¬ (q = p + 1 ∨ p = q + 1)) := by
  unfold wanted at hq
  split at hq
  · refine ⟨(h.mem_iff q).mp (List.mem_of_getElem? hq), fun _ _ _ hnext => ?_⟩
    exact absurd (h.eq_zero_of_next hq hnext) Nat.one_ne_zero
  · next hnudge =>
    refine ⟨(h.mem_iff q).mp (List.mem_of_getElem? hq), fun hagain hupTo hn hnext => hnudge ?_⟩
    have hzero := h.eq_zero_of_next hq hnext
    rw [hzero, ← List.head?_eq_getElem?] at hq
    exact ⟨hagain, hupTo, by omega, by simpa [hq] using hnext⟩

/-- A search up to the target that is not next to it moves, and stays on the
line. -/
theorem ahead_stopBeside {p q : Nat} (hupTo : s.upTo = true) (h : s.Finds t p q)
    (hnext : ¬ (q = p + 1 ∨ p = q + 1)) :
    s.Ahead p (s.stopBeside q) ∧ t.lineAt (s.stopBeside q) = t.lineAt p := by
  obtain ⟨-, hle, hlt, hahead⟩ := h
  have hstart := t.start_lineAt_le p
  unfold stopBeside Ahead at *
  rw [if_pos hupTo]
  cases hback : s.backward with
  | true =>
    simp only [hback, if_true] at hahead ⊢
    exact ⟨by omega, Text.lineAt_eq_of_mem (by omega) (.inl (by omega))⟩
  | false =>
    simp only [hback, Bool.false_eq_true, if_false] at hahead ⊢
    exact ⟨by omega, Text.lineAt_eq_of_mem (by omega) (.inr (by omega))⟩

/-- An offset that holds the target is in the content of its line if a target
is found from it: no line break is in a content. -/
theorem Finds.lt_stop {p q : Nat} (h : s.Finds t p q) (htarget : t[p]? = some s.target) :
    p < (t.lineAt p).stop := by
  have hp : p < t.length := (List.getElem?_eq_some_iff.mp htarget).1
  have hq : q < t.length := (List.getElem?_eq_some_iff.mp h.1).1
  by_contra hstop
  have hreturn := (Text.stop_lineAt_le_iff hp).mp (Nat.le_of_not_lt hstop)
  rw [htarget, ← h.1] at hreturn
  have hle := (Text.stop_lineAt_le_iff hq).mpr hreturn
  rw [h.lineAt_eq] at hle
  exact absurd h.2.2.1 (Nat.not_lt.mpr hle)

/-- Where a motion for a search onto the target leads, repeated or not. -/
theorem find_destination_onto {p : Nat} {qs : List Nat} (h : s.Lists t p qs)
    (hupTo : s.upTo = false) (again recorded : Bool) (sticky : Option Sticky)
    (count : Option Nat) :
    (Motion.find s again recorded).destination t sticky count p =
      match qs[countOf count - 1]? with
      | some q => .ok q
      | none => .error (.charNotFound s.target) := by
  have hwanted : s.wanted again p (countOf count) qs = qs[countOf count - 1]? := by
    unfold wanted
    rw [if_neg (by simp [hupTo])]
  have hstop : ∀ q, s.stopBeside q = q := by
    intro q
    unfold stopBeside
    rw [hupTo, if_neg Bool.false_ne_true]
  rw [find_destination_eq h, hwanted]
  simp only [hstop]

/-- **The way back**: from where a search onto the target stops, the reverse
one with the same count returns to a start that holds the target. -/
theorem find_reverse_destination {p q : Nat} {qs : List Nat} (h : s.Lists t p qs)
    (htarget : t[p]? = some s.target) (hupTo : s.upTo = false) {again recorded : Bool}
    {sticky : Option Sticky} {count : Option Nat}
    (hq : (Motion.find s again recorded).destination t sticky count p = .ok q)
    (again' recorded' : Bool) (sticky' : Option Sticky) :
    (Motion.find s.reverse again' recorded').destination t sticky' count q = .ok p := by
  have hget : qs[countOf count - 1]? = some q := by
    rw [find_destination_onto h hupTo] at hq
    split at hq
    · next r hr => rw [hr, Except.ok.inj hq]
    · cases hq
  obtain ⟨hlt, heq⟩ := List.getElem?_eq_some_iff.mp hget
  have hsplit : qs = qs.take (countOf count - 1) ++ q :: qs.drop (countOf count - 1 + 1) := by
    rw [← heq, ← List.drop_eq_getElem_cons hlt, List.take_append_drop]
  have hfinds := (h.mem_iff q).mp (List.mem_of_getElem? hget)
  have hback := (hsplit ▸ h : s.Lists t p (_ ++ q :: _)).reverse htarget (hfinds.lt_stop htarget)
  have hlen : (qs.take (countOf count - 1)).reverse.length = countOf count - 1 := by
    rw [List.length_reverse, List.length_take]
    omega
  rw [find_destination_onto hback hupTo, List.getElem?_append_right (Nat.le_of_eq hlen), hlen,
    Nat.sub_self]
  rfl

/-- **Character searches find the counted target.** From every offset there is
one list of what may be found, the nearest first. A motion for the search leads
to what the search goes for or beside it, or fails if there is none; one that
is up to the target and repeated moves ahead and stays on the line; and from a
start that holds the target, a search onto it is undone by the reverse one with
the same count. -/
theorem finds_counted (s : CharSearch) (t : Text) (p : Nat) :
    ∃ qs, s.Lists t p qs ∧ (∀ qs', s.Lists t p qs' → qs' = qs) ∧
      (∀ again recorded sticky count,
        (Motion.find s again recorded).destination t sticky count p =
          match s.wanted again p (countOf count) qs with
          | some q => .ok (s.stopBeside q)
          | none => .error (.charNotFound s.target)) ∧
      (∀ recorded sticky count d, s.upTo = true →
        (Motion.find s true recorded).destination t sticky count p = .ok d →
          s.Ahead p d ∧ t.lineAt d = t.lineAt p) ∧
      ∀ again recorded sticky count q, t[p]? = some s.target → s.upTo = false →
        (Motion.find s again recorded).destination t sticky count p = .ok q →
          ∀ again' recorded' sticky',
            (Motion.find s.reverse again' recorded').destination t sticky' count q = .ok p := by
  have h := lists_candidates s t p
  refine ⟨s.candidates t p, h, fun qs' => h.unique, find_destination_eq h, ?_, ?_⟩
  · intro recorded sticky count d hupTo hd
    rw [find_destination_eq h] at hd
    split at hd
    · next q hq =>
      obtain ⟨hfinds, hnext⟩ := wanted_spec h hq
      obtain rfl := Except.ok.inj hd
      exact ahead_stopBeside hupTo hfinds (hnext rfl hupTo (one_le_countOf count))
    · cases hd
  · intro again recorded sticky count q htarget hupTo hq
    exact find_reverse_destination h htarget hupTo hq

/-- A repeated search up to the second of two targets, as it stands next to the
first; and two targets on and back again. -/
theorem finds_counted_of_dots :
    let t : Text := ['.', 'a', '.', 'b', '.', '\n', '.']
    let upTo : CharSearch := ⟨'.', false, true⟩
    let onto : CharSearch := ⟨'.', false, false⟩
    (Motion.find upTo true false).destination t none none 1 = .ok 3 ∧
      upTo.Ahead 1 3 ∧ t.lineAt 3 = t.lineAt 1 ∧
      (Motion.find onto false true).destination t none (some 2) 0 = .ok 4 ∧
      (Motion.find onto.reverse false true).destination t none (some 2) 4 = .ok 0 := by
  intro t upTo onto
  obtain ⟨-, -, -, -, hmoves, -⟩ := finds_counted upTo t 1
  obtain ⟨-, -, -, -, -, hback⟩ := finds_counted onto t 0
  have hthree : (Motion.find upTo true false).destination t none none 1 = .ok 3 := by decide
  have hfour : (Motion.find onto false true).destination t none (some 2) 0 = .ok 4 := by decide
  obtain ⟨hahead, hline⟩ := hmoves false none none 3 rfl hthree
  exact ⟨hthree, hahead, hline, hfour, hback false true none (some 2) 4 rfl rfl hfour false true none⟩

end CharSearch
end Keywise
