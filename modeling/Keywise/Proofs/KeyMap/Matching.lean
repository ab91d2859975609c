/-
# Matching is read off the list of mappings

`KeyMap.matching` walks through the trie. What it answers can be said of the
list of mappings alone: the keys match nothing if there are none; they are
growing if they begin a longer left-hand side; otherwise they match the
longest left-hand side that begins them, if there is one
(`KeyMap.matches_iff`). The longest left-hand side that is known so far is
given in both cases.

Key definitions: `IsLongest`, `Matches`.
Key theorems: `KeyMap.isLongest_longest?`, `KeyMap.matching_of_mayGrow`,
`KeyMap.matching_of_not_mayGrow`, `KeyMap.matches_iff`.
-/
import Mathlib.Data.List.Basic
import Keywise.Proofs.KeyMap.Index

namespace Keywise

/-- What is said of the longest left-hand side among `es` that begins `ks`:
its length and its expansion, or that there is none. -/
def IsLongest (es : List (List Key × Expansion)) (ks : List Key) :
    Option (Nat × Expansion) → Prop
  | some (n, e) =>
    ∃ l, (l, e) ∈ es ∧ l <+: ks ∧ l.length = n ∧ ∀ p ∈ es, p.1 <+: ks → p.1.length ≤ n
  | none => ∀ p ∈ es, ¬ p.1 <+: ks

/-- Whether `ks` begins a longer left-hand side among `es`. -/
def BeginsLonger (es : List (List Key × Expansion)) (ks : List Key) : Prop :=
  ∃ p ∈ es, ks <+: p.1 ∧ ks ≠ p.1

/-- How keys stand to a list of mappings. -/
inductive Matches (es : List (List Key × Expansion)) : List Key → Matching → Prop
  | noKeys : Matches es [] .nothing
  | growing {ks : List Key} {soFar : Option (Nat × Expansion)} : ks ≠ [] →
      BeginsLonger es ks → IsLongest es ks soFar → Matches es ks (.growing soFar)
  | complete {ks : List Key} {n : Nat} {e : Expansion} : ks ≠ [] →
      ¬ BeginsLonger es ks → IsLongest es ks (some (n, e)) → Matches es ks (.complete n e)
  | nothing {ks : List Key} : ks ≠ [] →
      ¬ BeginsLonger es ks → IsLongest es ks none → Matches es ks .nothing

namespace KeyMap

/-! ### Entries and their expansions -/

theorem mem_iff_lookup_eq_some {es : List (List Key × Expansion)} (hnd : (es.map (·.1)).Nodup)
    (l : List Key) (e : Expansion) : (l, e) ∈ es ↔ es.lookup l = some e := by
  induction es with
  | nil => simp
  | cons p es ih =>
    obtain ⟨l', e'⟩ := p
    simp only [List.map_cons, List.nodup_cons] at hnd
    rw [List.lookup_cons, List.mem_cons]
    by_cases hl : l = l'
    · subst hl
      have hno : (l, e) ∉ es := fun h => hnd.1 (List.mem_map_of_mem (f := (·.1)) h)
      simp [hno, eq_comm]
    · rw [beq_false_of_ne hl]
      simp [hl, ih hnd.2]

theorem mem_entries_iff (m : KeyMap) (l : List Key) (e : Expansion) :
    (l, e) ∈ m.entries ↔ m.get? l = some e :=
  mem_iff_lookup_eq_some m.nodup_lhs l e

theorem mem_lhs_iff (m : KeyMap) (l : List Key) :
    l ∈ m.entries.map (·.1) ↔ ∃ e, m.get? l = some e := by
  constructor
  · intro h
    obtain ⟨⟨l', e⟩, hp, rfl⟩ := List.mem_map.mp h
    exact ⟨e, (m.mem_entries_iff l' e).mp hp⟩
  · rintro ⟨e, he⟩
    exact List.mem_map.mpr ⟨(l, e), (m.mem_entries_iff l e).mpr he, rfl⟩

/-! ### The longest left-hand side -/

theorem isLongest_unique (m : KeyMap) {ks : List Key} :
    ∀ {a b : Option (Nat × Expansion)}, IsLongest m.entries ks a → IsLongest m.entries ks b →
      a = b
  | none, none, _, _ => rfl
  | none, some (_, _), ha, ⟨l, hl, hk, _⟩ => absurd hk (ha _ hl)
  | some (_, _), none, ⟨l, hl, hk, _⟩, hb => absurd hk (hb _ hl)
  | some (n, e), some (n', e'), ⟨l, hl, hk, hn, hmax⟩, ⟨l', hl', hk', hn', hmax'⟩ => by
    have h1 : n' ≤ n := hn' ▸ hmax (l', e') hl' hk'
    have h2 : n ≤ n' := hn ▸ hmax' (l, e) hl hk
    have hll : l = l' := by
      have hp := List.prefix_of_prefix_length_le hk hk' (by omega)
      exact hp.eq_of_length (by omega)
    subst hll
    rw [mem_entries_iff] at hl hl'
    have he : e = e' := Option.some.inj (hl.symm.trans hl')
    rw [he, show n = n' by omega]

/-- The longest beginning of `ks` that has an expansion is the longest
left-hand side that begins `ks`. -/
theorem isLongest_some_iff (m : KeyMap) (ks : List Key) (n : Nat) (e : Expansion) :
    IsLongest m.entries ks (some (n, e)) ↔ Longest m.get? ks n e := by
  constructor
  · rintro ⟨l, hl, hk, rfl, hmax⟩
    have htake : ks.take l.length = l := (List.prefix_iff_eq_take.mp hk).symm
    refine ⟨hk.length_le, by rw [htake, ← mem_entries_iff]; exact hl, fun i hi hle => ?_⟩
    by_contra hne
    obtain ⟨e', he'⟩ := Option.ne_none_iff_exists'.mp hne
    have hlen := hmax (ks.take i, e') ((m.mem_entries_iff _ _).mpr he') (List.take_prefix i ks)
    rw [List.length_take] at hlen
    omega
  · intro h
    refine ⟨ks.take n, (m.mem_entries_iff _ _).mpr h.found, List.take_prefix n ks,
      List.length_take_of_le h.le_length, fun p hp hk => ?_⟩
    by_contra hlt
    have htake : ks.take p.1.length = p.1 := (List.prefix_iff_eq_take.mp hk).symm
    have hno := h.none_longer p.1.length (by omega) hk.length_le
    rw [htake, (m.mem_entries_iff p.1 p.2).mp hp] at hno
    cases hno

theorem isLongest_walk (m : KeyMap) (ks : List Key) :
    IsLongest m.entries ks (m.index.walk ks).longest := by
  have hfind : m.index.find? = m.get? := funext m.find?_index
  cases hw : (m.index.walk ks).longest with
  | some p =>
    rw [isLongest_some_iff, ← hfind]
    exact (Trie.walk_longest m.index ks p.1 p.2).mp hw
  | none =>
    intro p hp hk
    have hno : ∀ n e, ¬ Longest m.get? ks n e := by
      intro n e hl
      rw [← hfind, ← Trie.walk_longest, hw] at hl
      cases hl
    -- among the beginnings of `ks` that have an expansion one is the longest
    have hall : ∀ d ≤ ks.length, ∀ e, m.get? (ks.take (ks.length - d)) ≠ some e := by
      intro d
      induction d using Nat.strongRecOn with
      | ind d ih =>
        intro hd e he
        refine hno (ks.length - d) e ⟨Nat.sub_le _ _, he, fun i hi hle => ?_⟩
        by_contra hne
        obtain ⟨e', he'⟩ := Option.ne_none_iff_exists'.mp hne
        apply ih (ks.length - i) (by omega) (by omega) e'
        rw [show ks.length - (ks.length - i) = i by omega]
        exact he'
    have htake : ks.take p.1.length = p.1 := (List.prefix_iff_eq_take.mp hk).symm
    have hle := hk.length_le
    apply hall (ks.length - p.1.length) (by omega) p.2
    rw [show ks.length - (ks.length - p.1.length) = p.1.length by omega, htake]
    exact (m.mem_entries_iff p.1 p.2).mp hp

theorem isLongest_append {es : List (List Key × Expansion)} {ks : List Key}
    {best : Option (Nat × Expansion)} (h : IsLongest es ks best) (p : List Key × Expansion) :
    IsLongest (es ++ [p]) ks
      (if p.1.isPrefixOf ks && (best.all fun b => decide (b.1 ≤ p.1.length)) then
        some (p.1.length, p.2)
      else best) := by
  by_cases hp : p.1 <+: ks
  · have hpb : p.1.isPrefixOf ks = true := List.isPrefixOf_iff_prefix.mpr hp
    have hmem : p ∈ es ++ [p] := List.mem_append_right _ List.mem_cons_self
    cases best with
    | none =>
      rw [hpb, Option.all_none, Bool.and_self, if_pos rfl]
      refine ⟨p.1, hmem, hp, rfl, List.forall_mem_append.mpr ⟨fun q hq hk => ?_, by simp⟩⟩
      exact absurd hk (h q hq)
    | some b =>
      obtain ⟨n, e⟩ := b
      obtain ⟨l, hl, hk, hn, hmax⟩ := h
      rw [hpb, Option.all_some, Bool.true_and]
      by_cases hle : n ≤ p.1.length
      · rw [if_pos (decide_eq_true hle)]
        refine ⟨p.1, hmem, hp, rfl, List.forall_mem_append.mpr ⟨fun q hq hk' => ?_, by simp⟩⟩
        exact Nat.le_trans (hmax q hq hk') hle
      · rw [if_neg (by simpa using hle)]
        refine ⟨l, List.mem_append_left _ hl, hk, hn, List.forall_mem_append.mpr ⟨hmax, ?_⟩⟩
        rw [List.forall_mem_singleton]
        exact fun _ => by omega
  · have hpb : p.1.isPrefixOf ks = false := by
      rw [Bool.eq_false_iff]
      exact fun h => hp (List.isPrefixOf_iff_prefix.mp h)
    rw [hpb, Bool.false_and, if_neg (by simp)]
    cases best with
    | none => exact List.forall_mem_append.mpr ⟨h, by simpa using hp⟩
    | some b =>
      obtain ⟨l, hl, hk, hn, hmax⟩ := h
      refine ⟨l, List.mem_append_left _ hl, hk, hn, List.forall_mem_append.mpr ⟨hmax, ?_⟩⟩
      rw [List.forall_mem_singleton]
      exact fun hk' => absurd hk' hp

/-- The scan of the list finds the longest left-hand side. -/
theorem isLongest_longest? (m : KeyMap) (ks : List Key) :
    IsLongest m.entries ks (m.longest? ks) := by
  unfold longest?
  suffices h : ∀ es done best, IsLongest done ks best → IsLongest (done ++ es) ks
      (es.foldl (fun best e =>
        if e.1.isPrefixOf ks && (best.all fun b => decide (b.1 ≤ e.1.length)) then
          some (e.1.length, e.2)
        else best) best) by
    exact h m.entries [] none (by simp [IsLongest])
  intro es
  induction es with
  | nil => intro done best h; simpa using h
  | cons p es ih =>
    intro done best h
    have := ih (done ++ [p]) _ (isLongest_append h p)
    rwa [List.append_assoc] at this

theorem longest?_eq_iff (m : KeyMap) (ks : List Key) (r : Option (Nat × Expansion)) :
    m.longest? ks = r ↔ IsLongest m.entries ks r :=
  ⟨fun h => h ▸ m.isLongest_longest? ks, fun h => m.isLongest_unique (m.isLongest_longest? ks) h⟩

theorem longest?_bounds {m : KeyMap} {ks : List Key} {n : Nat} {e : Expansion}
    (h : m.longest? ks = some (n, e)) : 0 < n ∧ n ≤ ks.length := by
  obtain ⟨l, hl, hk, rfl, -⟩ := (m.longest?_eq_iff ks _).mp h
  exact ⟨List.length_pos_iff.mpr (m.lhs_ne_nil _ hl), hk.length_le⟩

theorem longest?_singleton (m : KeyMap) (k : Key) :
    m.longest? [k] = (m.get? [k]).map fun e => (1, e) := by
  cases hget : m.get? [k] with
  | some e =>
    exact (m.longest?_eq_iff [k] _).mpr ⟨[k], (m.mem_entries_iff [k] e).mpr hget,
      List.prefix_rfl, rfl, fun p _ hk => hk.length_le⟩
  | none =>
    refine (m.longest?_eq_iff [k] _).mpr fun p hp hk => ?_
    have hpos := List.length_pos_iff.mpr (m.lhs_ne_nil p hp)
    have hone : p.1 = [k] := hk.eq_of_length (Nat.le_antisymm hk.length_le hpos)
    rw [← hone, (m.mem_entries_iff p.1 p.2).mp hp] at hget
    cases hget

/-! ### Matching -/

theorem mayGrow_iff (m : KeyMap) (ks : List Key) :
    m.mayGrow ks = true ↔ BeginsLonger m.entries ks := by
  unfold mayGrow BeginsLonger
  rw [List.any_eq_true]
  refine exists_congr fun p => and_congr_right fun _ => ?_
  rw [Bool.and_eq_true, List.isPrefixOf_iff_prefix, decide_eq_true_eq]
  refine and_congr_right fun hk => ⟨fun hlt heq => ?_, fun hne => ?_⟩
  · rw [← heq] at hlt
    omega
  · exact Nat.lt_of_le_of_ne hk.length_le fun hlen => hne (hk.eq_of_length hlen)

/-- Edges go on from where the walk ends if the keys begin a longer left-hand
side. -/
theorem walk_reached_iff_mayGrow (m : KeyMap) (ks : List Key) :
    (∃ b, (m.index.walk ks).reached = some b ∧ b ≠ .leaf) ↔ m.mayGrow ks = true := by
  rw [Trie.walk_reached_iff m.live_index, mayGrow_iff]
  constructor
  · rintro ⟨js, e, hjs, he⟩
    rw [find?_index, ← mem_entries_iff] at he
    exact ⟨_, he, List.prefix_append ks js, by simpa using hjs⟩
  · rintro ⟨⟨l, e⟩, hp, ⟨js, rfl⟩, hne⟩
    refine ⟨js, e, by simpa using hne, ?_⟩
    rw [find?_index, ← mem_entries_iff]
    exact hp

theorem longest_walk (m : KeyMap) (ks : List Key) :
    (m.index.walk ks).longest = m.longest? ks :=
  m.isLongest_unique (m.isLongest_walk ks) (m.isLongest_longest? ks)

theorem matching_of_mayGrow {m : KeyMap} {ks : List Key} (hne : ks ≠ [])
    (h : m.mayGrow ks = true) : m.matching ks = .growing (m.longest? ks) := by
  obtain ⟨k, ks, rfl⟩ := List.exists_cons_of_ne_nil hne
  obtain ⟨b, hb, hleaf⟩ := (m.walk_reached_iff_mayGrow _).mpr h
  unfold matching
  simp only [hb, longest_walk]
  cases b with
  | leaf => exact absurd rfl hleaf
  | edge key value below next => rfl

theorem matching_of_not_mayGrow {m : KeyMap} {ks : List Key} (h : m.mayGrow ks = false) :
    m.matching ks = match m.longest? ks with
      | some (n, e) => .complete n e
      | none => .nothing := by
  cases ks with
  | nil =>
    cases hl : m.longest? [] with
    | none => rfl
    | some p =>
      have hb := longest?_bounds hl
      simp only [List.length_nil] at hb
      omega
  | cons k ks =>
    have hno : ∀ b, (m.index.walk (k :: ks)).reached = some b → b = .leaf := by
      intro b hb
      by_contra hne
      have := (m.walk_reached_iff_mayGrow (k :: ks)).mp ⟨b, hb, hne⟩
      rw [h] at this
      cases this
    unfold matching
    simp only [longest_walk]
    split
    · next hb => exact absurd (hno _ hb) (by simp)
    · rfl

theorem matches_matching (m : KeyMap) (ks : List Key) : Matches m.entries ks (m.matching ks) := by
  by_cases hne : ks = []
  · subst hne
    exact .noKeys
  · have hlong := m.isLongest_longest? ks
    by_cases h : m.mayGrow ks = true
    · rw [matching_of_mayGrow hne h]
      exact .growing hne ((m.mayGrow_iff ks).mp h) hlong
    · have hno : ¬ BeginsLonger m.entries ks := fun hb => h ((m.mayGrow_iff ks).mpr hb)
      rw [matching_of_not_mayGrow (Bool.eq_false_iff.mpr h)]
      cases hl : m.longest? ks with
      | none => exact .nothing hne hno (hl ▸ hlong)
      | some p => exact .complete hne hno (hl ▸ hlong)

/-- **Matching is the one answer that the list of mappings gives.** -/
theorem matches_iff (m : KeyMap) (ks : List Key) (a : Matching) :
    Matches m.entries ks a ↔ m.matching ks = a := by
  refine ⟨fun h => ?_, fun h => h ▸ m.matches_matching ks⟩
  have hlong := m.longest?_eq_iff ks
  cases h with
  | noKeys => rfl
  | growing hne hb hl =>
    rw [matching_of_mayGrow hne ((m.mayGrow_iff ks).mpr hb), (hlong _).mpr hl]
  | complete hne hb hl =>
    rw [matching_of_not_mayGrow (Bool.eq_false_iff.mpr fun h => hb ((m.mayGrow_iff ks).mp h)),
      (hlong _).mpr hl]
  | nothing hne hb hl =>
    rw [matching_of_not_mayGrow (Bool.eq_false_iff.mpr fun h => hb ((m.mayGrow_iff ks).mp h)),
      (hlong _).mpr hl]

end KeyMap
end Keywise
