/-
# Keys typed one by one are translated greedily

The translation of a list of keys under a key map is defined on the whole
list: the longest left-hand side that begins it is replaced by its
expansion, a first key that no left-hand side begins with passes as it is,
and so on with the keys that are left (`KeyMap.translation`).

`Typeahead` sees the keys one at a time. It decides early, but only once no
longer left-hand side can be meant any more, and then what follows makes no
difference to the longest one (`KeyMap.longest?_append`). So what was
settled and the translation of what is held back and of the keys to come are
always the translation of all keys (`Typeahead.translation_settle`), whenever
the strokes are taken out of the queue (`Typeahead.feed_eq_translation`).

Key definitions: `KeyMap.translation`, `Typeahead.Feed`, `Typeahead.feed`.
Key theorems: `Typeahead.settle_cons`, `Typeahead.settle_true`,
`Typeahead.translation_settle`, `Typeahead.feed_eq_translation`.
-/
import Keywise.Typeahead
import Keywise.Proofs.KeyMap.Matching

namespace Keywise
namespace KeyMap

/-- The strokes that keys stand for: the longest left-hand side that begins
them is replaced by its expansion, and if there is none the first key passes
as it is. -/
def translation (m : KeyMap) : List Key → List Stroke
  | [] => []
  | k :: ks =>
    match m.longest? (k :: ks) with
    | some (n, e) => e.strokes ++ translation m (ks.drop (n - 1))
    | none => .literal k :: translation m ks
  termination_by ks => ks.length
  decreasing_by
    · exact Typeahead.length_drop_lt k ks _
    · exact Nat.lt_succ_self _

theorem translation_nil (m : KeyMap) : m.translation [] = [] := by
  rw [translation]

theorem translation_of_some {m : KeyMap} {ks : List Key} {n : Nat} {e : Expansion}
    (h : m.longest? ks = some (n, e)) :
    m.translation ks = e.strokes ++ m.translation (ks.drop n) := by
  obtain ⟨hpos, hle⟩ := longest?_bounds h
  cases ks with
  | nil => simp only [List.length_nil] at hle; omega
  | cons k ks =>
    obtain ⟨n, rfl⟩ : ∃ j, n = j + 1 := ⟨n - 1, by omega⟩
    rw [translation, h]
    rfl

theorem translation_of_none {m : KeyMap} {k : Key} {ks : List Key}
    (h : m.longest? (k :: ks) = none) :
    m.translation (k :: ks) = .literal k :: m.translation ks := by
  rw [translation, h]

theorem translation_singleton (m : KeyMap) (k : Key) :
    m.translation [k] = match m.get? [k] with
      | some e => e.strokes
      | none => [.literal k] := by
  have hlong := m.longest?_singleton k
  cases hget : m.get? [k] with
  | some e =>
    rw [hget] at hlong
    rw [translation_of_some hlong, List.drop_one, List.tail_cons, translation_nil, List.append_nil]
  | none =>
    rw [hget] at hlong
    rw [translation_of_none hlong, translation_nil]

/-! ### Early decisions -/

/-- Keys that cannot grow have their longest left-hand side, whatever
follows. -/
theorem longest?_append {m : KeyMap} {ks : List Key} (h : m.mayGrow ks = false)
    (rest : List Key) : m.longest? (ks ++ rest) = m.longest? ks := by
  have hno : ∀ p ∈ m.entries, p.1 <+: ks ++ rest → p.1 <+: ks := by
    intro p hp hpre
    rcases List.prefix_or_prefix_of_prefix hpre (List.prefix_append ks rest) with hk | hk
    · exact hk
    · by_contra hne
      have hgrow := (m.mayGrow_iff ks).mpr ⟨p, hp, hk, fun heq => hne (heq ▸ List.prefix_rfl)⟩
      rw [h] at hgrow
      cases hgrow
  rw [longest?_eq_iff]
  have hlong := m.isLongest_longest? ks
  cases hl : m.longest? ks with
  | none =>
    rw [hl] at hlong
    exact fun p hp hpre => hlong p hp (hno p hp hpre)
  | some r =>
    rw [hl] at hlong
    obtain ⟨l, hmem, hk, hlen, hmax⟩ := hlong
    exact ⟨l, hmem, hk.trans (List.prefix_append ks rest), hlen,
      fun p hp hpre => hmax p hp (hno p hp hpre)⟩

theorem not_mayGrow_of_nothing {m : KeyMap} {k : Key} (h : m.matching [k] = .nothing) :
    m.mayGrow [k] = false ∧ m.longest? [k] = none := by
  have hgrow : m.mayGrow [k] = false := by
    rw [Bool.eq_false_iff]
    intro hg
    rw [matching_of_mayGrow (by simp) hg] at h
    cases h
  refine ⟨hgrow, ?_⟩
  rw [matching_of_not_mayGrow hgrow] at h
  cases hl : m.longest? [k] with
  | none => rfl
  | some p => rw [hl] at h; cases h

theorem matching_singleton_eq_nothing_iff (m : KeyMap) (k : Key) :
    m.matching [k] = .nothing ↔ m.mayGrow [k] = false ∧ m.get? [k] = none := by
  have hlong := m.longest?_singleton k
  constructor
  · intro h
    obtain ⟨hgrow, hnone⟩ := not_mayGrow_of_nothing h
    rw [hnone] at hlong
    exact ⟨hgrow, Option.map_eq_none_iff.mp hlong.symm⟩
  · rintro ⟨hgrow, hget⟩
    rw [hget, Option.map_none] at hlong
    rw [matching_of_not_mayGrow hgrow, hlong]

theorem translation_cons_of_nothing {m : KeyMap} {k : Key} (h : m.matching [k] = .nothing)
    (rest : List Key) : m.translation (k :: rest) = .literal k :: m.translation rest := by
  obtain ⟨hgrow, hnone⟩ := not_mayGrow_of_nothing h
  exact translation_of_none (by rw [← List.singleton_append, longest?_append hgrow, hnone])

end KeyMap

namespace Typeahead

/-! ### Settling -/

/-- What is settled first: nothing if the keys may still grow, and otherwise
the longest left-hand side that begins them, or their first key. -/
theorem settle_cons (m : KeyMap) (force : Bool) (k : Key) (ks : List Key) :
    settle m force (k :: ks) =
      if force = false ∧ m.mayGrow (k :: ks) = true then (k :: ks, [])
      else match m.longest? (k :: ks) with
        | some (n, e) => ahead e.strokes (settle m force (ks.drop (n - 1)))
        | none => ahead [.literal k] (settle m force ks) := by
  rw [settle]
  by_cases hg : m.mayGrow (k :: ks) = true
  · rw [KeyMap.matching_of_mayGrow (by simp) hg]
    cases force with
    | false => simp [hg]
    | true => cases m.longest? (k :: ks) <;> simp
  · rw [KeyMap.matching_of_not_mayGrow (Bool.eq_false_iff.mpr hg), if_neg fun h => hg h.2]
    cases m.longest? (k :: ks) <;> rfl

theorem settle_of_mayGrow {m : KeyMap} {ks : List Key} (h : m.mayGrow ks = true) :
    settle m false ks = (ks, []) := by
  cases ks with
  | nil => simp [settle]
  | cons k ks => rw [settle_cons, if_pos ⟨rfl, h⟩]

theorem settle_singleton {m : KeyMap} {k : Key} (h : m.mayGrow [k] = false) :
    settle m false [k] = ([], m.translation [k]) := by
  rw [settle_cons, if_neg fun hg => Bool.eq_false_iff.mp h hg.2, KeyMap.translation_singleton,
    m.longest?_singleton]
  cases m.get? [k] <;> simp [ahead, settle]

/-- **Forced settling is translation.** -/
theorem settle_true (m : KeyMap) (ks : List Key) : settle m true ks = ([], m.translation ks) := by
  induction ks using KeyMap.translation.induct m with
  | case1 => simp [settle, KeyMap.translation_nil]
  | case2 k ks n e hl ih =>
    rw [settle_cons, if_neg (by simp), hl, KeyMap.translation, hl]
    simp [ih, ahead]
  | case3 k ks hl ih =>
    rw [settle_cons, if_neg (by simp), hl, KeyMap.translation_of_none hl]
    simp [ih, ahead]

/-- **What is settled is final.** With the translation of what stays held
back it is the translation of all keys, and that remains so whatever
follows. -/
theorem translation_settle (m : KeyMap) (ks rest : List Key) :
    m.translation (ks ++ rest) =
      (settle m false ks).2 ++ m.translation ((settle m false ks).1 ++ rest) := by
  induction ks using KeyMap.translation.induct m with
  | case1 => simp [settle]
  | case2 k ks n e hl ih =>
    rw [settle_cons]
    by_cases hg : m.mayGrow (k :: ks) = true
    · rw [if_pos ⟨rfl, hg⟩]
      rfl
    · rw [if_neg fun h => hg h.2, hl]
      have hl' := KeyMap.longest?_append (Bool.eq_false_iff.mpr hg) rest
      obtain ⟨hpos, hle⟩ := KeyMap.longest?_bounds hl
      have hdrop : (k :: ks ++ rest).drop n = ks.drop (n - 1) ++ rest := by
        rw [List.drop_append_of_le_length hle]
        obtain ⟨n, rfl⟩ : ∃ j, n = j + 1 := ⟨n - 1, by omega⟩
        rfl
      rw [KeyMap.translation_of_some (hl'.trans hl), hdrop, ih]
      simp [ahead]
  | case3 k ks hl ih =>
    rw [settle_cons]
    by_cases hg : m.mayGrow (k :: ks) = true
    · rw [if_pos ⟨rfl, hg⟩]
      rfl
    · rw [if_neg fun h => hg h.2, hl]
      have hl' : m.longest? (k :: (ks ++ rest)) = none :=
        (KeyMap.longest?_append (Bool.eq_false_iff.mpr hg) rest).trans hl
      rw [List.cons_append, KeyMap.translation_of_none hl', ih]
      simp [ahead]

theorem mayGrow_settle (m : KeyMap) (ks : List Key) :
    (settle m false ks).1 = [] ∨ m.mayGrow (settle m false ks).1 = true := by
  induction ks using KeyMap.translation.induct m with
  | case1 => simp [settle]
  | case2 k ks n e hl ih =>
    rw [settle_cons]
    by_cases hg : m.mayGrow (k :: ks) = true
    · rw [if_pos ⟨rfl, hg⟩]
      exact Or.inr hg
    · rw [if_neg fun h => hg h.2, hl]
      exact ih
  | case3 k ks hl ih =>
    rw [settle_cons]
    by_cases hg : m.mayGrow (k :: ks) = true
    · rw [if_pos ⟨rfl, hg⟩]
      exact Or.inr hg
    · rw [if_neg fun h => hg h.2, hl]
      exact ih

/-! ### One key -/

/-- The keys held back belong to the map `m`: there are none, or they may
still grow into a left-hand side of `m`. -/
def HeldFor (t : Typeahead) (m : KeyMap) : Prop :=
  (t.held = [] ∧ t.map = none) ∨
    (t.held ≠ [] ∧ m.mayGrow t.held = true ∧ t.map = some m.name)

theorem HeldFor.strandedFrom {t : Typeahead} {m : KeyMap} (h : t.HeldFor m) :
    t.strandedFrom m.name = false := by
  rcases h with ⟨-, hm⟩ | ⟨-, -, hm⟩ <;> simp [Typeahead.strandedFrom, hm]

/-- The key is left to the caller if nothing waits and it matches nothing;
otherwise it is settled with the keys held back. -/
theorem press_eq {t : Typeahead} {m : KeyMap} (h : t.HeldFor m) (k : Key) :
    t.press m k =
      if t.held = [] ∧ t.output = [] ∧ m.matching [k] = .nothing then (t, .free)
      else settleOn { t with held := t.held ++ [k], map := some m.name } m false := by
  unfold press
  simp only [h.strandedFrom, Bool.false_eq_true, if_false]
  by_cases hfree : t.held = [] ∧ t.output = [] ∧ m.matching [k] = .nothing
  · obtain ⟨h1, h2, h3⟩ := hfree
    simp [h1, h2, h3]
  · rw [if_neg hfree, if_neg]
    intro hc
    simp only [Bool.and_eq_true, List.isEmpty_iff, beq_iff_eq] at hc
    exact hfree ⟨hc.1.1, hc.1.2, hc.2⟩

theorem HeldFor.settleOn {m : KeyMap} {t : Typeahead} (hm : t.map = some m.name) :
    (t.settleOn m false).1.HeldFor m := by
  unfold HeldFor
  rw [settleOn_fst]
  rcases mayGrow_settle m t.held with hnil | hgrow
  · exact Or.inl ⟨hnil, if_pos hnil⟩
  · by_cases hnil : (settle m false t.held).1 = []
    · exact Or.inl ⟨hnil, if_pos hnil⟩
    · exact Or.inr ⟨hnil, hgrow, by rw [if_neg hnil, hm]⟩

theorem HeldFor.press {t : Typeahead} {m : KeyMap} (h : t.HeldFor m) (k : Key) :
    (t.press m k).1.HeldFor m := by
  rw [press_eq h]
  split
  · exact h
  · exact HeldFor.settleOn rfl

/-! ### A stream of keys -/

/-- What is done with the keys typed ahead: one more key is typed, or the
strokes produced so far are taken. -/
inductive Feed where
  | press (k : Key)
  | take
  deriving DecidableEq, Repr

/-- The keys typed, in order. -/
def Feed.keys (fs : List Feed) : List Key :=
  fs.filterMap fun
    | .press k => some k
    | .take => none

/-- The keys typed ahead, and the strokes that have come out of them. -/
structure Fed where
  typeahead : Typeahead := {}
  stream : List Stroke := []

namespace Fed

/-- One feed more. A key left to the caller comes out at once. -/
def next (m : KeyMap) (f : Fed) : Feed → Fed
  | .press k =>
    match f.typeahead.press m k with
    | (t, .free) => ⟨t, f.stream ++ [.literal k]⟩
    | (t, _) => ⟨t, f.stream⟩
  | .take => ⟨f.typeahead.take.1, f.stream ++ f.typeahead.take.2⟩

theorem next_press {m : KeyMap} {f : Fed} {k : Key} (h : (f.typeahead.press m k).2 ≠ .free) :
    f.next m (.press k) = ⟨(f.typeahead.press m k).1, f.stream⟩ := by
  cases hp : f.typeahead.press m k with
  | mk t fate =>
    rw [hp] at h
    cases fate with
    | free => exact absurd rfl h
    | held => simp only [next, hp]
    | settled => simp only [next, hp]

/-- No more keys are to come, and all that is left is taken. -/
def close (m : KeyMap) (f : Fed) : Fed :=
  ⟨(f.typeahead.flush m).1.take.1, f.stream ++ (f.typeahead.flush m).1.take.2⟩

/-- What has come out, what waits in the queue and what is still held back
are the translation of the keys `ks`, whatever follows. -/
structure Sound (m : KeyMap) (ks : List Key) (f : Fed) : Prop where
  heldFor : f.typeahead.HeldFor m
  translation : ∀ rest, m.translation (ks ++ rest) =
    f.stream ++ f.typeahead.output ++ m.translation (f.typeahead.held ++ rest)

theorem sound_nil (m : KeyMap) : Sound m [] {} :=
  ⟨Or.inl ⟨rfl, rfl⟩, fun _ => rfl⟩

theorem Sound.press {m : KeyMap} {ks : List Key} {f : Fed} (h : f.Sound m ks) (k : Key) :
    (f.next m (.press k)).Sound m (ks ++ [k]) := by
  have hheld := h.heldFor.press k
  have hbefore : ∀ rest, m.translation (ks ++ [k] ++ rest) =
      f.stream ++ f.typeahead.output ++ m.translation (f.typeahead.held ++ k :: rest) :=
    fun rest => by rw [List.append_assoc, h.translation]; rfl
  have heq := press_eq h.heldFor k
  by_cases hfree : f.typeahead.held = [] ∧ f.typeahead.output = [] ∧ m.matching [k] = .nothing
  · rw [if_pos hfree] at heq
    obtain ⟨hk, ho, hm⟩ := hfree
    simp only [next, heq]
    rw [heq] at hheld
    refine ⟨hheld, fun rest => ?_⟩
    rw [hbefore, hk, ho, List.nil_append, KeyMap.translation_cons_of_nothing hm]
    simp
  · rw [if_neg hfree] at heq
    have hne := settleOn_ne_free
      { f.typeahead with held := f.typeahead.held ++ [k], map := some m.name } m false
    rw [← heq] at hne
    rw [next_press hne]
    refine ⟨hheld, fun rest => ?_⟩
    have hsettle := translation_settle m (f.typeahead.held ++ [k]) rest
    rw [List.append_assoc] at hsettle
    rw [heq, settleOn_fst, hbefore, ← List.singleton_append, hsettle]
    simp

theorem Sound.take {m : KeyMap} {ks : List Key} {f : Fed} (h : f.Sound m ks) :
    (f.next m .take).Sound m ks := by
  refine ⟨h.heldFor, fun rest => ?_⟩
  rw [h.translation]
  simp [next, Typeahead.take]

theorem Sound.foldl {m : KeyMap} (fs : List Feed) :
    ∀ {ks : List Key} {f : Fed}, f.Sound m ks →
      (fs.foldl (next m) f).Sound m (ks ++ Feed.keys fs) := by
  induction fs with
  | nil => intro ks f h; simpa [Feed.keys] using h
  | cons d fs ih =>
    intro ks f h
    cases d with
    | press k => simpa [Feed.keys] using ih (h.press k)
    | take => simpa [Feed.keys] using ih h.take

theorem Sound.close {m : KeyMap} {ks : List Key} {f : Fed} (h : f.Sound m ks) :
    (f.close m).stream = m.translation ks ∧ (f.close m).typeahead = {} := by
  have hall := h.translation []
  rw [List.append_nil, List.append_nil] at hall
  rcases h.heldFor with ⟨hk, hm⟩ | ⟨hk, -, -⟩
  · rw [hk, KeyMap.translation_nil, List.append_nil] at hall
    simp [Fed.close, flush, Typeahead.take, hk, hm, hall]
  · rw [hall]
    simp [Fed.close, flush, settleOn, settle_true, Typeahead.take, hk]

end Fed

/-- All the feeds, from nothing typed ahead to nothing left of it. -/
def feed (m : KeyMap) (fs : List Feed) : Fed := (fs.foldl (Fed.next m) {}).close m

/-- **Typed one by one, keys come out as their translation.** It makes no
difference when the strokes are taken, and nothing is held back in the
end. -/
theorem feed_eq_translation (m : KeyMap) (fs : List Feed) :
    (feed m fs).stream = m.translation (Feed.keys fs) ∧ (feed m fs).typeahead = {} :=
  ((Fed.sound_nil m).foldl fs).close

end Typeahead
end Keywise
