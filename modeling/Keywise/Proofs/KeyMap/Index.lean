/-
# The trie of a key map is an index of its entries

What a trie holds is read off with `find?`: the expansion of a sequence, if
it has one. An insertion changes that for the inserted sequence only
(`find?_insert`), so the trie of a key map finds what the list of mappings
has (`find?_index`).

A walk along the keys `ks` sees every beginning of `ks`, so the longest one
it passes is the longest left-hand side that begins `ks` (`walk_longest`).
Where it ends, edges go on exactly if some left-hand side is longer
(`walk_reached_iff`): an edge without an expansion always leads to one that
has it (`Live`), since edges come into being only on the way to a left-hand
side.

Key definitions: `Trie.find?`, `Trie.at?`, `Trie.Live`, `Longest`.
Key theorems: `Trie.find?_insert`, `KeyMap.find?_index`, `Trie.walk_longest`,
`Trie.walk_reached_iff`.
-/
import Keywise.KeyMap.Basic

namespace Keywise

/-- `n` is the length of the longest beginning of `ks` that `find` finds, and
`e` is what it finds there. -/
structure Longest (find : List Key → Option Expansion) (ks : List Key) (n : Nat)
    (e : Expansion) : Prop where
  le_length : n ≤ ks.length
  found : find (ks.take n) = some e
  none_longer : ∀ i, n < i → i ≤ ks.length → find (ks.take i) = none

theorem Longest.unique {find : List Key → Option Expansion} {ks : List Key} {n n' : Nat}
    {e e' : Expansion} (h : Longest find ks n e) (h' : Longest find ks n' e') :
    n = n' ∧ e = e' := by
  have hn : n = n' := by
    rcases Nat.lt_trichotomy n n' with hlt | heq | hlt
    · have := h.none_longer n' hlt h'.le_length
      rw [h'.found] at this
      cases this
    · exact heq
    · have := h'.none_longer n hlt h.le_length
      rw [h.found] at this
      cases this
  subst hn
  exact ⟨rfl, Option.some.inj (h.found.symm.trans h'.found)⟩

namespace Trie

/-- The expansion the trie holds for a sequence. -/
def find? (t : Trie) : List Key → Option Expansion
  | [] => none
  | k :: ks => (t.step k).bind fun p => if ks = [] then p.1 else p.2.find? ks

/-- The edges at the place a sequence leads to. -/
def at? (t : Trie) : List Key → Option Trie
  | [] => some t
  | k :: ks => (t.step k).bind fun p => p.2.at? ks

/-- Every edge leads to an expansion. -/
def Live : Trie → Prop
  | leaf => True
  | edge _ value below next => (value = none → below ≠ leaf) ∧ below.Live ∧ next.Live

theorem find?_leaf (ks : List Key) : leaf.find? ks = none := by
  cases ks <;> rfl

/-! ### Insertion -/

/-- An insertion leads along its own first key to the edge there was, if
there was one. -/
theorem step_insert_self (v : Expansion) (k : Key) (ks : List Key) :
    ∀ t : Trie, (t.insert v (k :: ks)).step k =
      some (if ks = [] then some v else ((t.step k).getD (none, leaf)).1,
        ((t.step k).getD (none, leaf)).2.insert v ks)
  | leaf => by
    rw [insert, step_chain, if_pos rfl]
    cases ks <;> simp [step, insert]
  | edge key value below next => by
    rw [insert]
    by_cases hk : k = key
    · subst hk
      simp [step]
    · rw [if_neg hk]
      simp only [step, if_neg hk]
      exact step_insert_self v k ks next

/-- **What an insertion changes.** The inserted sequence has the new
expansion, and every other what it had. -/
theorem find?_insert (v : Expansion) (k : Key) (ks : List Key) (t : Trie) (js : List Key) :
    (t.insert v (k :: ks)).find? js = if js = k :: ks then some v else t.find? js := by
  induction js generalizing t k ks with
  | nil => simp [find?]
  | cons j js ih =>
    by_cases hj : j = k
    · subst hj
      simp only [find?, step_insert_self, Option.bind_some, List.cons.injEq, true_and]
      cases ks with
      | nil =>
        cases ht : t.step j with
        | none => cases js <;> simp [insert, find?_leaf]
        | some p => cases js <;> simp [insert]
      | cons k' ks =>
        have hins := ih k' ks ((t.step j).getD (none, leaf)).2
        rw [hins]
        cases ht : t.step j with
        | none => cases js <;> simp [find?_leaf]
        | some p => cases js <;> simp
    · simp only [find?, step_insert_of_ne v hj, List.cons.injEq, hj, false_and, if_false]

theorem live_chain (v : Expansion) : ∀ (k : Key) (ks : List Key), (chain v k ks).Live
  | _, [] => by simp [chain, Live]
  | k, k' :: ks => by
    have hne : chain v k' ks ≠ leaf := by cases ks <;> simp [chain]
    exact ⟨fun _ => hne, live_chain v k' ks, trivial⟩

theorem insert_ne_leaf (v : Expansion) (k : Key) (ks : List Key) (t : Trie) :
    t.insert v (k :: ks) ≠ leaf := by
  cases t with
  | leaf => cases ks <;> simp [insert, chain]
  | edge key value below next =>
    rw [insert]
    split <;> simp

theorem live_insert (v : Expansion) :
    ∀ (t : Trie) (ks : List Key), t.Live → (t.insert v ks).Live
  | t, [], h => by cases t <;> simpa [insert] using h
  | leaf, k :: ks, _ => by simpa [insert] using live_chain v k ks
  | edge key value below next, k :: ks, h => by
    obtain ⟨hv, hb, hn⟩ := h
    rw [insert]
    by_cases hk : k = key
    · rw [if_pos hk]
      refine ⟨fun hnone => ?_, live_insert v below ks hb, hn⟩
      cases ks with
      | nil => simp at hnone
      | cons k' ks => exact insert_ne_leaf v k' ks below
    · rw [if_neg hk]
      exact ⟨hv, hb, live_insert v next (k :: ks) hn⟩

/-! ### The place a sequence leads to -/

theorem find?_append {t b : Trie} {ks : List Key} (h : t.at? ks = some b) {js : List Key}
    (hj : js ≠ []) : t.find? (ks ++ js) = b.find? js := by
  induction ks generalizing t with
  | nil => cases h; rfl
  | cons k ks ih =>
    simp only [at?] at h
    cases hs : t.step k with
    | none => simp [hs] at h
    | some p =>
      simp only [hs, Option.bind_some] at h
      simp [find?, hs, hj, ih h]

theorem find?_append_of_none {t : Trie} {ks : List Key} (h : t.at? ks = none) (js : List Key) :
    t.find? (ks ++ js) = none := by
  induction ks generalizing t with
  | nil => simp [at?] at h
  | cons k ks ih =>
    simp only [at?] at h
    cases hs : t.step k with
    | none => simp [find?, hs]
    | some p =>
      simp only [hs, Option.bind_some] at h
      have hne : ks ≠ [] := by
        rintro rfl
        simp [at?] at h
      simp [find?, hs, hne, ih h]

theorem live_step {t : Trie} {k : Key} {p : Option Expansion × Trie} (h : t.Live)
    (hs : t.step k = some p) : p.2.Live := by
  induction t with
  | leaf => simp [step] at hs
  | edge key value below next _ ih =>
    obtain ⟨-, hb, hn⟩ := h
    simp only [step] at hs
    split at hs
    · cases hs; exact hb
    · exact ih hn hs

theorem live_at {t b : Trie} {ks : List Key} (h : t.Live) (hb : t.at? ks = some b) : b.Live := by
  induction ks generalizing t with
  | nil => cases hb; exact h
  | cons k ks ih =>
    simp only [at?] at hb
    cases hs : t.step k with
    | none => simp [hs] at hb
    | some p =>
      simp only [hs, Option.bind_some] at hb
      exact ih (live_step h hs) hb

theorem exists_find?_of_ne_leaf : ∀ {t : Trie}, t.Live → t ≠ leaf →
    ∃ js e, js ≠ [] ∧ t.find? js = some e
  | leaf, _, h => absurd rfl h
  | edge key value below next, ⟨hv, hb, _⟩, _ => by
    cases value with
    | some e => exact ⟨[key], e, by simp, by simp [find?, step]⟩
    | none =>
      obtain ⟨js, e, hjs, he⟩ := exists_find?_of_ne_leaf hb (hv rfl)
      exact ⟨key :: js, e, by simp, by simp [find?, step, hjs, he]⟩

/-! ### Walks -/

theorem walkFrom_reached (t : Trie) (d : Nat) (best : Option (Nat × Expansion)) (ks : List Key) :
    (t.walkFrom d best ks).reached = t.at? ks := by
  induction ks generalizing t d best with
  | nil => rfl
  | cons k ks ih =>
    unfold walkFrom at?
    cases t.step k with
    | none => rfl
    | some p => exact ih p.2 _ _

/-- A walk that has come `d` keys far passes the longest beginning of what is
left of the keys, or passes none and keeps the best it had. -/
theorem walkFrom_longest (t : Trie) (d : Nat) (best : Option (Nat × Expansion)) (ks : List Key) :
    (∃ n e, Longest t.find? ks n e ∧ (t.walkFrom d best ks).longest = some (d + n, e)) ∨
      ((∀ i ≤ ks.length, t.find? (ks.take i) = none) ∧
        (t.walkFrom d best ks).longest = best) := by
  induction ks generalizing t d best with
  | nil => exact Or.inr ⟨fun i _ => by simp [find?], rfl⟩
  | cons k ks ih =>
    unfold walkFrom
    cases hs : t.step k with
    | none =>
      refine Or.inr ⟨fun i _ => ?_, rfl⟩
      cases i <;> simp [find?, hs]
    | some p =>
      have hfind : ∀ i, t.find? ((k :: ks).take (i + 1)) =
          if ks.take i = [] then p.1 else p.2.find? (ks.take i) := fun i => by
        simp [find?, hs]
      have hstep : ∀ i, p.2.find? (ks.take i) ≠ none →
          t.find? ((k :: ks).take (i + 1)) = p.2.find? (ks.take i) := fun i hi => by
        rw [hfind, if_neg]
        intro h0
        rw [h0] at hi
        exact hi rfl
      rcases ih p.2 (d + 1) ((p.1.map fun v => (d + 1, v)).or best) with
        ⟨n, e, hl, hw⟩ | ⟨hno, hw⟩
      · -- the longest beginning lies further down
        refine Or.inl ⟨n + 1, e, ⟨?_, ?_, ?_⟩, ?_⟩
        · simpa using hl.le_length
        · rw [hstep n (by rw [hl.found]; simp), hl.found]
        · intro i hni hi
          obtain ⟨i, rfl⟩ : ∃ j, i = j + 1 := ⟨i - 1, by omega⟩
          have hi' : i ≤ ks.length := by simpa using hi
          rw [hfind, if_neg, hl.none_longer i (by omega) hi']
          intro h0
          have hlen := congrArg List.length h0
          simp only [List.length_take, List.length_nil] at hlen
          omega
        · rw [hw]
          exact congrArg some (Prod.ext (by omega) rfl)
      · -- nothing further down: the edge itself, if it has an expansion
        have hbelow : ∀ i, 0 < i → i ≤ ks.length → t.find? ((k :: ks).take (i + 1)) = none := by
          intro i h0 hi
          rw [hfind, hno i hi, if_neg]
          intro hnil
          have hlen := congrArg List.length hnil
          simp only [List.length_take, List.length_nil] at hlen
          omega
        cases hp : p.1 with
        | some e =>
          refine Or.inl ⟨1, e, ⟨by simp, ?_, ?_⟩, by rw [hw, hp]; rfl⟩
          · simpa [hp] using hfind 0
          · intro i h1 hi
            obtain ⟨i, rfl⟩ : ∃ j, i = j + 1 := ⟨i - 1, by omega⟩
            exact hbelow i (by omega) (by simpa using hi)
        | none =>
          refine Or.inr ⟨fun i hi => ?_, by rw [hw, hp]; rfl⟩
          rcases i with _ | _ | i
          · rfl
          · simpa [hp] using hfind 0
          · exact hbelow (i + 1) (by omega) (by simpa using hi)

/-- **A walk passes the longest beginning.** -/
theorem walk_longest (t : Trie) (ks : List Key) (n : Nat) (e : Expansion) :
    (t.walk ks).longest = some (n, e) ↔ Longest t.find? ks n e := by
  unfold walk
  rcases walkFrom_longest t 0 none ks with ⟨n', e', hl, hw⟩ | ⟨hno, hw⟩
  · rw [hw, Nat.zero_add, Option.some.injEq, Prod.mk.injEq]
    constructor
    · rintro ⟨rfl, rfl⟩
      exact hl
    · exact fun h => hl.unique h
  · rw [hw]
    constructor
    · intro h
      cases h
    · intro h
      have := hno n h.le_length
      rw [h.found] at this
      cases this

/-- **A walk ends at further edges** exactly if it has not lost its way and
something longer begins with all its keys. -/
theorem walk_reached_iff {t : Trie} (h : t.Live) (ks : List Key) :
    (∃ b, (t.walk ks).reached = some b ∧ b ≠ leaf) ↔
      ∃ js e, js ≠ [] ∧ t.find? (ks ++ js) = some e := by
  unfold walk
  rw [walkFrom_reached]
  constructor
  · rintro ⟨b, hb, hne⟩
    obtain ⟨js, e, hjs, he⟩ := exists_find?_of_ne_leaf (live_at h hb) hne
    exact ⟨js, e, hjs, by rw [find?_append hb hjs, he]⟩
  · rintro ⟨js, e, hjs, he⟩
    cases hb : t.at? ks with
    | none => rw [find?_append_of_none hb] at he; cases he
    | some b =>
      refine ⟨b, rfl, ?_⟩
      rintro rfl
      rw [find?_append hb hjs, find?_leaf] at he
      cases he

end Trie

namespace KeyMap

/-! ### The trie of a list of entries -/

theorem find?_foldl_insert (es : List (List Key × Expansion)) (hne : ∀ p ∈ es, p.1 ≠ [])
    (hnd : (es.map (·.1)).Nodup) (t : Trie) (ks : List Key) :
    (es.foldl (fun t e => t.insert e.2 e.1) t).find? ks = (es.lookup ks).or (t.find? ks) := by
  induction es generalizing t with
  | nil => rfl
  | cons p es ih =>
    obtain ⟨l, e⟩ := p
    obtain ⟨k, l, rfl⟩ : ∃ k l', l = k :: l' :=
      List.exists_cons_of_ne_nil (hne (l, e) List.mem_cons_self)
    simp only [List.map_cons, List.nodup_cons] at hnd
    rw [List.foldl_cons, ih (fun p hp => hne p (List.mem_cons_of_mem _ hp)) hnd.2,
      Trie.find?_insert, List.lookup_cons]
    by_cases hk : ks = k :: l
    · have hno : es.lookup ks = none := by
        rw [List.lookup_eq_none_iff]
        intro q hq
        have hne : ks ≠ q.1 := fun heq => hnd.1 (List.mem_map.mpr ⟨q, hq, by rw [← heq, hk]⟩)
        exact bne_iff_ne.mpr hne
      rw [hno, if_pos hk, hk, beq_self_eq_true]
      rfl
    · simp [hk, beq_false_of_ne hk]

theorem live_foldl_insert (es : List (List Key × Expansion)) :
    ∀ t : Trie, t.Live → (es.foldl (fun t e => t.insert e.2 e.1) t).Live := by
  induction es with
  | nil => exact fun _ h => h
  | cons p es ih => exact fun t h => ih _ (Trie.live_insert p.2 t p.1 h)

/-- **The trie finds what the list has.** -/
theorem find?_index (m : KeyMap) (ks : List Key) : m.index.find? ks = m.get? ks := by
  unfold get?
  rw [m.index_eq, Trie.ofEntries, find?_foldl_insert m.entries m.lhs_ne_nil m.nodup_lhs, Trie.find?_leaf, Option.or_none]

theorem live_index (m : KeyMap) : m.index.Live :=
  m.index_eq ▸ live_foldl_insert m.entries .leaf trivial

end KeyMap
end Keywise
