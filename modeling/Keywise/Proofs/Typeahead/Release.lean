/-
# Newer keys that are driven out before older ones

The strokes of a mapping that is not recursive go behind keys that are still
held back. That is meant for a key that came in again from a mapping, and it
also happens to keys that are typed: if a key settles the older of the keys
held back while the newer ones may still grow, these are driven out first,
though more keys could have completed them. We say that the key divides the
keys held back, and `KeyMap.released` is what comes out then.

Where no key divides, keys come out as their translation
(`KeyMap.released_of_undivided`). Where one does, there are keys and
right-hand sides for which something else comes out
(`KeyMap.exists_released_ne_translation`): it depends on the left-hand sides
alone whether a map is free of this.

Key definitions: `KeyMap.released`, `KeyMap.Divides`, `KeyMap.Plain`.
Key theorems: `KeyMap.translation_release`, `KeyMap.released_of_undivided`,
`KeyMap.exists_released_ne_translation`.
-/
import Mathlib.Data.List.Basic
import Keywise.Proofs.Typeahead.Translation

namespace Keywise

namespace Key

/-- Whether the key types a character. -/
def IsTyping (k : Key) : Prop := k.char?.isSome = true

end Key

namespace Stroke

/-- The characters that strokes type. -/
def chars (sts : List Stroke) : List Char := sts.filterMap (·.key.char?)

/-- The stroke types a character and is not to be mapped. -/
def IsPlain (st : Stroke) : Prop := st.recursive = false ∧ st.key.IsTyping

theorem chars_append (sts sts' : List Stroke) : chars (sts ++ sts') = chars sts ++ chars sts' :=
  List.filterMap_append

theorem chars_cons {st : Stroke} {c : Char} (h : st.key.char? = some c) (sts : List Stroke) :
    chars (st :: sts) = c :: chars sts := by
  simp [chars, h]

theorem length_chars {sts : List Stroke} (h : ∀ st ∈ sts, st.IsPlain) :
    (chars sts).length = sts.length := by
  induction sts with
  | nil => rfl
  | cons st sts ih =>
    obtain ⟨c, hc⟩ := Option.isSome_iff_exists.mp (h st List.mem_cons_self).2
    rw [chars_cons hc, List.length_cons, List.length_cons]
    exact congrArg (· + 1) (ih fun st hst => h st (List.mem_cons_of_mem _ hst))

end Stroke

namespace KeyMap

open Typeahead (settle)

/-- All mappings are from characters to characters, at least one, and not
recursive. -/
structure Plain (m : KeyMap) : Prop where
  lhs : ∀ p ∈ m.entries, ∀ k ∈ p.1, k.IsTyping
  rhs : ∀ p ∈ m.entries, ∀ k ∈ p.2.keys, k.IsTyping
  rhs_ne_nil : ∀ p ∈ m.entries, p.2.keys ≠ []
  not_recursive : ∀ p ∈ m.entries, p.2.recursive = false

/-- What one more key does to keys held back: those held back then, and the
strokes that come out. What stays held back when others are settled is driven
out before them. -/
def release (m : KeyMap) (held : List Key) (k : Key) : List Key × List Stroke :=
  if m.mayGrow (held ++ [k]) then (held ++ [k], [])
  else
    let (rest, out) := settle m false (held ++ [k])
    ([], m.translation rest ++ out)

/-- What comes out when keys are typed one after the other, and then none for
a while. -/
def released (m : KeyMap) (held : List Key) : List Key → List Stroke
  | [] => m.translation held
  | k :: ks => (m.release held k).2 ++ released m (m.release held k).1 ks

/-- The key settles some of the keys, the older ones, and others stay held
back. -/
def Divides (m : KeyMap) (held : List Key) (k : Key) : Prop :=
  m.mayGrow (held ++ [k]) = false ∧ (settle m false (held ++ [k])).1 ≠ []

/-- None of the keys divides those held back when it is typed. -/
def Undivided (m : KeyMap) (held : List Key) : List Key → Prop
  | [] => True
  | k :: ks => ¬ m.Divides held k ∧ Undivided m (m.release held k).1 ks

theorem release_of_mayGrow {m : KeyMap} {held : List Key} {k : Key}
    (h : m.mayGrow (held ++ [k]) = true) : m.release held k = (held ++ [k], []) := by
  unfold release
  rw [if_pos h]

theorem release_of_not_mayGrow {m : KeyMap} {held : List Key} {k : Key}
    (h : m.mayGrow (held ++ [k]) = false) :
    m.release held k =
      ([], m.translation (settle m false (held ++ [k])).1 ++
        (settle m false (held ++ [k])).2) := by
  unfold release
  rw [if_neg (by rw [h]; exact Bool.false_ne_true)]

/-- A key that matches nothing comes out at once. -/
theorem release_of_nothing {m : KeyMap} {k : Key} (h : m.matching [k] = .nothing) :
    m.release [] k = ([], [.literal k]) := by
  obtain ⟨hgrow, hnone⟩ := not_mayGrow_of_nothing h
  rw [release_of_not_mayGrow hgrow, List.nil_append, Typeahead.settle_cons,
    if_neg (by simp [hgrow]), hnone]
  simp [Typeahead.ahead, settle, translation_nil]

/-- What stays held back may still grow. -/
theorem mayGrow_release (m : KeyMap) (held : List Key) (k : Key) :
    (m.release held k).1 = [] ∨ m.mayGrow (m.release held k).1 = true := by
  by_cases hg : m.mayGrow (held ++ [k]) = true
  · rw [release_of_mayGrow hg]
    exact Or.inr hg
  · rw [release_of_not_mayGrow (Bool.eq_false_iff.mpr hg)]
    exact Or.inl rfl

/-! ### Without division -/

/-- What a key that does not divide lets out is part of the translation of
the keys so far and of those to come. -/
theorem translation_release {m : KeyMap} {held : List Key} {k : Key} (h : ¬ m.Divides held k)
    (ks : List Key) :
    m.translation (held ++ k :: ks) =
      (m.release held k).2 ++ m.translation ((m.release held k).1 ++ ks) := by
  by_cases hg : m.mayGrow (held ++ [k]) = true
  · rw [release_of_mayGrow hg]
    simp
  · rw [Bool.not_eq_true] at hg
    have hrest : (settle m false (held ++ [k])).1 = [] := by
      by_contra hne
      exact h ⟨hg, hne⟩
    have hsettle := Typeahead.translation_settle m (held ++ [k]) ks
    rw [hrest, List.append_assoc] at hsettle
    rw [release_of_not_mayGrow hg, hrest, translation_nil]
    exact hsettle

/-- **Keys that are never divided come out as their translation.** -/
theorem released_of_undivided {m : KeyMap} : ∀ {ks held : List Key}, m.Undivided held ks →
    m.released held ks = m.translation (held ++ ks)
  | [], held, _ => by rw [released, List.append_nil]
  | k :: ks, held, ⟨hk, hks⟩ => by
    rw [released, released_of_undivided hks, translation_release hk]

theorem not_divides_nil (m : KeyMap) (k : Key) : ¬ m.Divides [] k := by
  rintro ⟨hg, hne⟩
  rw [List.nil_append] at hg hne
  rw [Typeahead.settle_cons, if_neg (by simp [hg])] at hne
  cases hl : m.longest? [k] with
  | none => simp [hl, Typeahead.ahead, settle] at hne
  | some p => simp [hl, Typeahead.ahead, settle] at hne

theorem undivided_of_forall {m : KeyMap}
    (h : ∀ held k, m.mayGrow held = true → k.IsTyping → ¬ m.Divides held k) :
    ∀ {ks held : List Key}, held = [] ∨ m.mayGrow held = true → (∀ k ∈ ks, k.IsTyping) →
      m.Undivided held ks
  | [], _, _, _ => trivial
  | k :: ks, held, hheld, hks => by
    refine ⟨?_, ?_⟩
    · rcases hheld with rfl | hg
      · exact m.not_divides_nil k
      · exact h held k hg (hks k List.mem_cons_self)
    · exact undivided_of_forall h (m.mayGrow_release held k) fun k hk =>
        hks k (List.mem_cons_of_mem _ hk)

/-! ### Plain maps -/

theorem mem_of_longest? {m : KeyMap} {ks : List Key} {n : Nat} {e : Expansion}
    (h : m.longest? ks = some (n, e)) : ∃ l, (l, e) ∈ m.entries := by
  obtain ⟨l, hl, -⟩ := (m.longest?_eq_iff ks _).mp h
  exact ⟨l, hl⟩

theorem Plain.strokes {m : KeyMap} (h : m.Plain) {p : List Key × Expansion} (hp : p ∈ m.entries) :
    ∀ st ∈ p.2.strokes, st.IsPlain := by
  intro st hst
  obtain ⟨k, hk, rfl⟩ := List.mem_map.mp hst
  exact ⟨h.not_recursive p hp, h.rhs p hp k hk⟩

theorem Plain.strokes_append_ne_nil {m : KeyMap} (h : m.Plain) {p : List Key × Expansion}
    (hp : p ∈ m.entries) (sts : List Stroke) : p.2.strokes ++ sts ≠ [] := by
  have hstrokes : p.2.strokes ≠ [] := fun hnil => h.rhs_ne_nil p hp (List.map_eq_nil_iff.mp hnil)
  exact List.append_ne_nil_of_left_ne_nil hstrokes sts

theorem Plain.translation {m : KeyMap} (h : m.Plain) {ks : List Key} (hks : ∀ k ∈ ks, k.IsTyping) :
    ∀ st ∈ m.translation ks, st.IsPlain := by
  induction ks using KeyMap.translation.induct m with
  | case1 => simp [translation_nil]
  | case2 k ks n e hl ih =>
    intro st hst
    rw [KeyMap.translation, hl] at hst
    obtain ⟨l, hmem⟩ := mem_of_longest? hl
    rcases List.mem_append.mp hst with hst | hst
    · exact h.strokes hmem st hst
    · exact ih (fun j hj => hks j (List.mem_cons_of_mem _ (List.mem_of_mem_drop hj))) st hst
  | case3 k ks hl ih =>
    intro st hst
    rw [translation_of_none hl] at hst
    rcases List.mem_cons.mp hst with rfl | hst
    · exact ⟨rfl, hks k List.mem_cons_self⟩
    · exact ih (fun j hj => hks j (List.mem_cons_of_mem _ hj)) st hst

theorem Plain.translation_ne_nil {m : KeyMap} (h : m.Plain) {ks : List Key} (hks : ks ≠ []) :
    m.translation ks ≠ [] := by
  obtain ⟨k, ks, rfl⟩ := List.exists_cons_of_ne_nil hks
  cases hl : m.longest? (k :: ks) with
  | none =>
    rw [translation_of_none hl]
    exact List.cons_ne_nil _ _
  | some p =>
    obtain ⟨l, hmem⟩ := mem_of_longest? hl
    rw [translation_of_some hl]
    exact h.strokes_append_ne_nil hmem _

theorem Plain.settle_ne_nil {m : KeyMap} (h : m.Plain) {ks : List Key} (hne : ks ≠ [])
    (hg : m.mayGrow ks = false) : (settle m false ks).2 ≠ [] := by
  obtain ⟨k, ks, rfl⟩ := List.exists_cons_of_ne_nil hne
  rw [Typeahead.settle_cons, if_neg (by simp [hg])]
  cases hl : m.longest? (k :: ks) with
  | none => exact List.cons_ne_nil _ _
  | some p =>
    obtain ⟨l, hmem⟩ := mem_of_longest? hl
    exact h.strokes_append_ne_nil hmem _

theorem translation_eq_settle (m : KeyMap) (ks : List Key) :
    m.translation ks = (settle m false ks).2 ++ m.translation (settle m false ks).1 := by
  have h := Typeahead.translation_settle m ks []
  rwa [List.append_nil, List.append_nil] at h

/-- The strokes that come out are those of the keys, in another order
maybe. -/
theorem mem_release {m : KeyMap} {held : List Key} {k : Key} {st : Stroke}
    (h : st ∈ (m.release held k).2) : st ∈ m.translation (held ++ [k]) := by
  by_cases hg : m.mayGrow (held ++ [k]) = true
  · rw [release_of_mayGrow hg] at h
    cases h
  · rw [release_of_not_mayGrow (Bool.eq_false_iff.mpr hg)] at h
    rw [translation_eq_settle]
    exact List.mem_append.mpr (List.mem_append.mp h).symm

theorem mem_held_release {m : KeyMap} {held : List Key} {k j : Key}
    (h : j ∈ (m.release held k).1) : j ∈ held ++ [k] := by
  by_cases hg : m.mayGrow (held ++ [k]) = true
  · rwa [release_of_mayGrow hg] at h
  · rw [release_of_not_mayGrow (Bool.eq_false_iff.mpr hg)] at h
    cases h

theorem Plain.released {m : KeyMap} (h : m.Plain) : ∀ {ks held : List Key},
    (∀ k ∈ held, k.IsTyping) → (∀ k ∈ ks, k.IsTyping) → ∀ st ∈ m.released held ks, st.IsPlain
  | [], _, hheld, _ => h.translation hheld
  | k :: ks, held, hheld, hks => by
    have hall : ∀ j ∈ held ++ [k], j.IsTyping :=
      List.forall_mem_append.mpr
        ⟨hheld, List.forall_mem_singleton.mpr (hks k List.mem_cons_self)⟩
    intro st hst
    rcases List.mem_append.mp hst with hst | hst
    · exact h.translation hall st (mem_release hst)
    · exact Plain.released h (fun j hj => hall j (mem_held_release hj))
        (fun j hj => hks j (List.mem_cons_of_mem _ hj)) st hst

theorem Plain.released_ne_nil {m : KeyMap} (h : m.Plain) : ∀ {ks held : List Key},
    held ++ ks ≠ [] → m.released held ks ≠ []
  | [], held, hne => by
    rw [List.append_nil] at hne
    exact h.translation_ne_nil hne
  | k :: ks, held, _ => by
    intro hnil
    obtain ⟨hout, hrest⟩ := List.append_eq_nil_iff.mp hnil
    by_cases hg : m.mayGrow (held ++ [k]) = true
    · rw [release_of_mayGrow hg] at hrest
      exact Plain.released_ne_nil h (by simp) hrest
    · rw [release_of_not_mayGrow (Bool.eq_false_iff.mpr hg)] at hout
      obtain ⟨h1, h2⟩ := List.append_eq_nil_iff.mp hout
      have hne : held ++ [k] ≠ [] := by simp
      apply h.translation_ne_nil hne
      rw [translation_eq_settle, h1, h2]
      rfl

/-! ### Division depends on the left-hand sides -/

/-- The maps have the same left-hand sides, in the same order. -/
def SameLhs (m m' : KeyMap) : Prop := m.entries.map (·.1) = m'.entries.map (·.1)

theorem SameLhs.symm {m m' : KeyMap} (h : m.SameLhs m') : m'.SameLhs m := Eq.symm h

theorem SameLhs.mem {m m' : KeyMap} (h : m.SameLhs m') {l : List Key} {e : Expansion}
    (hl : (l, e) ∈ m.entries) : ∃ e', (l, e') ∈ m'.entries := by
  have hmem : l ∈ m.entries.map (·.1) := List.mem_map_of_mem hl
  rw [h] at hmem
  obtain ⟨⟨l', e'⟩, hp, rfl⟩ := List.mem_map.mp hmem
  exact ⟨e', hp⟩

theorem SameLhs.mayGrow {m m' : KeyMap} (h : m.SameLhs m') (ks : List Key) :
    m.mayGrow ks = m'.mayGrow ks := by
  have hany : ∀ m : KeyMap, m.mayGrow ks =
      (m.entries.map (·.1)).any fun l => ks.isPrefixOf l && decide (ks.length < l.length) :=
    fun m => by rw [List.any_map]; rfl
  rw [hany, hany, h]

theorem SameLhs.longest? {m m' : KeyMap} (h : m.SameLhs m') (ks : List Key) :
    (m.longest? ks).map (·.1) = (m'.longest? ks).map (·.1) := by
  have hm := m.isLongest_longest? ks
  cases hl : m.longest? ks with
  | none =>
    rw [hl] at hm
    have hnone : m'.longest? ks = none := (m'.longest?_eq_iff ks none).mpr fun p hp hpre => by
      obtain ⟨e, he⟩ := h.symm.mem hp
      exact hm _ he hpre
    rw [hnone]
  | some p =>
    obtain ⟨n, e⟩ := p
    rw [hl] at hm
    obtain ⟨l, hmem, hpre, hn, hmax⟩ := hm
    obtain ⟨e', he'⟩ := h.mem hmem
    have hsome : m'.longest? ks = some (n, e') :=
      (m'.longest?_eq_iff ks _).mpr ⟨l, he', hpre, hn, fun q hq hqpre => by
        obtain ⟨e'', he''⟩ := h.symm.mem hq
        exact hmax (q.1, e'') he'' hqpre⟩
    rw [hsome]
    rfl

theorem SameLhs.settle {m m' : KeyMap} (h : m.SameLhs m') (ks : List Key) :
    (settle m false ks).1 = (settle m' false ks).1 := by
  induction ks using KeyMap.translation.induct m with
  | case1 => simp [Typeahead.settle]
  | case2 k ks n e hl ih =>
    have hl' := h.longest? (k :: ks)
    rw [hl] at hl'
    obtain ⟨⟨n', e'⟩, he', rfl⟩ := Option.map_eq_some_iff.mp hl'.symm
    rw [Typeahead.settle_cons, Typeahead.settle_cons, h.mayGrow, hl, he']
    split
    · rfl
    · exact ih
  | case3 k ks hl ih =>
    have hl' := h.longest? (k :: ks)
    rw [hl] at hl'
    have hnone := Option.map_eq_none_iff.mp hl'.symm
    rw [Typeahead.settle_cons, Typeahead.settle_cons, h.mayGrow, hl, hnone]
    split
    · rfl
    · exact ih

theorem SameLhs.divides {m m' : KeyMap} (h : m.SameLhs m') {held : List Key} {k : Key} :
    m.Divides held k ↔ m'.Divides held k := by
  unfold Divides
  rw [h.mayGrow, h.settle]

/-! ### Where something else comes out -/

/-- The map in which every left-hand side stands for the same. -/
def uniform (m : KeyMap) (name : MapName) (e : Expansion) : KeyMap where
  name := name
  entries := m.entries.map fun p => (p.1, e)
  lhs_ne_nil := by
    intro p hp
    obtain ⟨q, hq, rfl⟩ := List.mem_map.mp hp
    exact m.lhs_ne_nil q hq
  nodup_lhs := by
    rw [List.map_map]
    exact m.nodup_lhs

theorem sameLhs_uniform (m : KeyMap) (name : MapName) (e : Expansion) :
    m.SameLhs (m.uniform name e) := by
  unfold SameLhs uniform
  rw [List.map_map]
  rfl

theorem Plain.uniform {m : KeyMap} (h : m.Plain) (name : MapName) {k : Key} (hk : k.IsTyping) :
    (m.uniform name ⟨[k], false⟩).Plain := by
  have hmem : ∀ p ∈ (m.uniform name ⟨[k], false⟩).entries,
      ∃ q ∈ m.entries, (q.1, ⟨[k], false⟩) = p :=
    fun p hp => List.mem_map.mp hp
  constructor
  · intro p hp
    obtain ⟨q, hq, rfl⟩ := hmem p hp
    exact h.lhs q hq
  · intro p hp j hj
    obtain ⟨q, hq, rfl⟩ := hmem p hp
    rw [List.mem_singleton.mp hj]
    exact hk
  · intro p hp
    obtain ⟨q, hq, rfl⟩ := hmem p hp
    exact List.cons_ne_nil _ _
  · intro p hp
    obtain ⟨q, hq, rfl⟩ := hmem p hp
    rfl

theorem mayGrow_of_append {m : KeyMap} {ks js : List Key} (h : m.mayGrow (ks ++ js) = true) :
    m.mayGrow ks = true := by
  rw [mayGrow_iff] at h ⊢
  obtain ⟨p, hp, hpre, hne⟩ := h
  refine ⟨p, hp, (List.prefix_append ks js).trans hpre, fun heq => hne ?_⟩
  have hlen := hpre.length_le
  rw [← heq, List.length_append] at hlen
  have hjs : js = [] := List.eq_nil_of_length_eq_zero (by omega)
  rw [← heq, hjs, List.append_nil]

theorem released_append_of_mayGrow {m : KeyMap} (ks : List Key) : ∀ {js held : List Key},
    m.mayGrow (held ++ js) = true → m.released held (js ++ ks) = m.released (held ++ js) ks
  | [], held, _ => by rw [List.nil_append, List.append_nil]
  | j :: js, held, h => by
    rw [List.append_cons] at h
    rw [List.cons_append, released, release_of_mayGrow (mayGrow_of_append h), List.nil_append,
      released_append_of_mayGrow ks h, ← List.append_cons]

theorem translation_lhs {m : KeyMap} {l : List Key} {e : Expansion} (h : (l, e) ∈ m.entries) :
    m.translation l = e.strokes := by
  have hl : m.longest? l = some (l.length, e) :=
    (m.longest?_eq_iff l _).mpr ⟨l, h, List.prefix_rfl, rfl, fun _ _ hpre => hpre.length_le⟩
  rw [translation_of_some hl, List.drop_length, translation_nil, List.append_nil]

theorem Plain.isTyping_of_mayGrow {m : KeyMap} (h : m.Plain) {ks : List Key}
    (hg : m.mayGrow ks = true) : ∀ k ∈ ks, k.IsTyping := by
  obtain ⟨p, hp, hpre, -⟩ := (m.mayGrow_iff ks).mp hg
  exact fun k hk => h.lhs p hp k (hpre.subset hk)

/-- **A key that divides can be seen.** The keys that complete what stays held
back do not complete it, and so, if all left-hand sides stand for one
character, too many characters come out. -/
theorem exists_released_ne_translation {m : KeyMap} (h : m.Plain) {held : List Key} {k : Key}
    (hg : m.mayGrow held = true) (hk : k.IsTyping) (hd : m.Divides held k) (name : MapName)
    {j : Key} (hj : j.IsTyping) :
    ∃ ks, (∀ k ∈ ks, k.IsTyping) ∧
      Stroke.chars ((m.uniform name ⟨[j], false⟩).released [] ks) ≠
        Stroke.chars ((m.uniform name ⟨[j], false⟩).translation ks) := by
  have hsame := m.sameLhs_uniform name ⟨[j], false⟩
  have hplain := h.uniform name hj
  have hone : ∀ p ∈ (m.uniform name ⟨[j], false⟩).entries, p.2.strokes.length = 1 := by
    intro p hp
    obtain ⟨q, -, rfl⟩ := List.mem_map.mp hp
    rfl
  generalize m.uniform name ⟨[j], false⟩ = m' at hsame hplain hone
  rw [hsame.mayGrow] at hg
  obtain ⟨hno, hrest⟩ := hsame.divides.mp hd
  have hgrow := (Typeahead.mayGrow_settle m' (held ++ [k])).resolve_left hrest
  obtain ⟨p, hp, ⟨v, hv⟩, hne⟩ := (m'.mayGrow_iff _).mp hgrow
  have hvne : v ≠ [] := by
    rintro rfl
    rw [List.append_nil] at hv
    exact hne hv
  have htyping : ∀ i ∈ held ++ k :: v, i.IsTyping := by
    refine List.forall_mem_append.mpr ⟨hplain.isTyping_of_mayGrow hg, ?_⟩
    refine List.forall_mem_cons.mpr ⟨hk, fun i hi => hplain.lhs p hp i ?_⟩
    rw [← hv]
    exact List.mem_append_right _ hi
  refine ⟨held ++ k :: v, htyping, fun heq => ?_⟩
  have hout : m'.released [] (held ++ k :: v) =
      m'.translation (settle m' false (held ++ [k])).1 ++ (settle m' false (held ++ [k])).2 ++
        m'.released [] v := by
    rw [released_append_of_mayGrow (k :: v) (by rwa [List.nil_append]), List.nil_append, released,
      release_of_not_mayGrow hno]
  have hgreedy : m'.translation (held ++ k :: v) =
      (settle m' false (held ++ [k])).2 ++ p.2.strokes := by
    rw [List.append_cons, Typeahead.translation_settle, hv, translation_lhs hp]
  have hrestpos : 0 < (m'.translation (settle m' false (held ++ [k])).1).length :=
    List.length_pos_iff.mpr (hplain.translation_ne_nil hrest)
  have hvpos : 0 < (m'.released [] v).length :=
    List.length_pos_iff.mpr (hplain.released_ne_nil hvne)
  have hlt : (Stroke.chars (m'.translation (held ++ k :: v))).length <
      (Stroke.chars (m'.released [] (held ++ k :: v))).length := by
    rw [Stroke.length_chars (hplain.released (by simp) htyping),
      Stroke.length_chars (hplain.translation htyping)]
    calc (m'.translation (held ++ k :: v)).length
        = (settle m' false (held ++ [k])).2.length + 1 := by
          rw [hgreedy, List.length_append, hone p hp]
      _ < (m'.translation (settle m' false (held ++ [k])).1).length +
            (settle m' false (held ++ [k])).2.length + (m'.released [] v).length := by omega
      _ = (m'.released [] (held ++ k :: v)).length := by
          rw [hout, List.length_append, List.length_append]
  rw [heq] at hlt
  exact Nat.lt_irrefl _ hlt

end KeyMap
end Keywise
