/-
# Key maps

A key map is a list of mappings, at most one for each left-hand side, in the
order in which they were first defined. Keys typed are matched against it: a
sequence may still grow into a left-hand side, begin with one that is
complete, or begin with none.

Key definitions: `KeyMap.add`, `KeyMap.remove`, `KeyMap.get?`,
`KeyMap.matching`, `KeyMap.longest?`, `KeyMap.mayGrow`.
Key theorems: `KeyMap.get?_add_self`, `KeyMap.get?_add_of_ne`,
`KeyMap.get?_remove_self`, `KeyMap.get?_remove_of_ne`.
-/
import Keywise.KeyMap.Trie

namespace Keywise

/-- The name of a key map: one of the four the modes use, or another. -/
inductive MapName where
  | normal
  | visual
  | insert
  | command
  | other (name : String)
  deriving DecidableEq, Repr

namespace MapName

/-- The name written as given. -/
def ofString (s : String) : MapName :=
  if s = "normal" then normal
  else if s = "visual" then visual
  else if s = "insert" then insert
  else if s = "command" then command
  else other s

/-- The name as text. -/
def text : MapName → String
  | normal => "normal"
  | visual => "visual"
  | insert => "insert"
  | command => "command"
  | other s => s

end MapName

/-- A named list of mappings, and the trie of them that typed keys are walked
through. A left-hand side is not empty, and no two mappings have the same one. -/
structure KeyMap where
  name : MapName
  entries : List (List Key × Expansion) := []
  index : Trie := .ofEntries entries
  lhs_ne_nil : ∀ e ∈ entries, e.1 ≠ [] := by simp
  nodup_lhs : (entries.map (·.1)).Nodup := by simp
  index_eq : index = .ofEntries entries := by rfl
  deriving DecidableEq, Repr

/-- How typed keys stand to a key map. -/
inductive Matching where
  /-- The first `length` keys are the longest left-hand side that begins
  them, and no longer one can still match. -/
  | complete (length : Nat) (expansion : Expansion)
  /-- All keys together begin a longer left-hand side. The one given, if any,
  is the longest that begins them so far. -/
  | growing (soFar : Option (Nat × Expansion))
  /-- No left-hand side begins the keys, and they begin none. -/
  | nothing
  deriving DecidableEq, Repr

namespace KeyMap

/-- The key map without mappings. -/
def empty (name : MapName) : KeyMap := { name }

/-- The key map with other entries, for which the trie is built anew. -/
def rebuild (m : KeyMap) (es : List (List Key × Expansion)) (hne : ∀ e ∈ es, e.1 ≠ [])
    (hnd : (es.map (·.1)).Nodup) : KeyMap :=
  { m with
    entries := es
    index := .ofEntries es
    lhs_ne_nil := hne
    nodup_lhs := hnd
    index_eq := rfl }

/-- Replaces the expansion of `lhs` in the entries, if there is one. -/
def redefine (lhs : List Key) (e : Expansion) :
    List (List Key × Expansion) → List (List Key × Expansion)
  | [] => []
  | (l, e') :: es => if l = lhs then (l, e) :: es else (l, e') :: redefine lhs e es

/-- A new expansion does not touch the left-hand sides. -/
theorem map_fst_redefine (lhs : List Key) (e : Expansion) :
    ∀ es : List (List Key × Expansion), (redefine lhs e es).map (·.1) = es.map (·.1)
  | [] => rfl
  | (l, e') :: es => by
    unfold redefine
    split
    · rfl
    · simp [map_fst_redefine lhs e es]

/-- Whether there is a mapping for `lhs`. -/
def defines (m : KeyMap) (lhs : List Key) : Bool := m.entries.any (·.1 == lhs)

theorem defines_iff (m : KeyMap) (lhs : List Key) :
    m.defines lhs = true ↔ lhs ∈ m.entries.map (·.1) := by
  simp [defines]

/-- Defines the mapping of `lhs`. A mapping it had keeps its place. An empty
left-hand side is ignored. -/
def add (m : KeyMap) (lhs : List Key) (e : Expansion) : KeyMap :=
  if hl : lhs = [] then m
  else if hd : m.defines lhs = true then
    m.rebuild (redefine lhs e m.entries)
      (by
        intro p hp
        have hm : p.1 ∈ (redefine lhs e m.entries).map (·.1) := List.mem_map_of_mem hp
        rw [map_fst_redefine] at hm
        obtain ⟨q, hq, hqp⟩ := List.mem_map.mp hm
        exact hqp ▸ m.lhs_ne_nil q hq)
      (by rw [map_fst_redefine]; exact m.nodup_lhs)
  else
    m.rebuild (m.entries ++ [(lhs, e)])
      (by
        intro p hp
        rcases List.mem_append.mp hp with hp | hp
        · exact m.lhs_ne_nil p hp
        · rw [List.mem_singleton.mp hp]; exact hl)
      (by
        rw [m.defines_iff] at hd
        rw [List.map_append, List.nodup_append]
        refine ⟨m.nodup_lhs, List.pairwise_singleton _ _, fun a ha b hb hab => hd ?_⟩
        have hbl : b = lhs := List.mem_singleton.mp hb
        exact hbl ▸ hab ▸ ha)

/-- Removes the mapping of `lhs`. If there is none, nothing is built anew. -/
def remove (m : KeyMap) (lhs : List Key) : KeyMap :=
  let rest := m.entries.filter (·.1 != lhs)
  if rest.length = m.entries.length then m
  else
    m.rebuild rest (fun p hp => m.lhs_ne_nil p (List.mem_filter.mp hp).1)
      (m.nodup_lhs.sublist (List.filter_sublist.map _))

/-- Removes all mappings. -/
def clear (m : KeyMap) : KeyMap := m.rebuild [] nofun .nil

/-- The expansion of `lhs`. -/
def get? (m : KeyMap) (lhs : List Key) : Option Expansion := m.entries.lookup lhs

/-- Matches typed keys against the mappings, by one walk through the trie. -/
def matching (m : KeyMap) (ks : List Key) : Matching :=
  match ks with
  | [] => .nothing
  | k :: ks =>
    let w := m.index.walk (k :: ks)
    match w.reached with
    | some (.edge ..) => .growing w.longest
    | _ =>
      match w.longest with
      | some (n, e) => .complete n e
      | none => .nothing

/-- The longest left-hand side that begins `ks`, by its length, and its
expansion. -/
def longest? (m : KeyMap) (ks : List Key) : Option (Nat × Expansion) :=
  m.entries.foldl
    (fun best e =>
      if e.1.isPrefixOf ks && (best.all fun b => decide (b.1 ≤ e.1.length)) then
        some (e.1.length, e.2)
      else best)
    none

/-- Whether `ks` begins a left-hand side that is longer. -/
def mayGrow (m : KeyMap) (ks : List Key) : Bool :=
  m.entries.any fun e => ks.isPrefixOf e.1 && decide (ks.length < e.1.length)

@[simp]
theorem name_remove (m : KeyMap) (lhs : List Key) : (m.remove lhs).name = m.name := by
  unfold remove
  simp only
  split <;> rfl

/-- What is left after a removal: the entries with other left-hand sides. -/
theorem entries_remove (m : KeyMap) (lhs : List Key) :
    (m.remove lhs).entries = m.entries.filter (·.1 != lhs) := by
  unfold remove
  simp only
  split
  · next hlen => exact (List.filter_sublist.eq_of_length hlen).symm
  · rfl

/-- The entries after a definition: those there were, with a new expansion in
one place or with one more entry at the end. -/
theorem entries_add (m : KeyMap) {lhs : List Key} (h : lhs ≠ []) (e : Expansion) :
    (m.add lhs e).entries =
      if m.defines lhs then redefine lhs e m.entries else m.entries ++ [(lhs, e)] := by
  unfold add
  rw [dif_neg h]
  by_cases hd : m.defines lhs = true
  · rw [dif_pos hd, if_pos hd]
    rfl
  · rw [dif_neg hd, if_neg hd]
    rfl

theorem add_nil (m : KeyMap) (e : Expansion) : m.add [] e = m := by simp [add]

theorem lookup_redefine_self {lhs : List Key} (e : Expansion) {es : List (List Key × Expansion)}
    (h : lhs ∈ es.map (·.1)) : (redefine lhs e es).lookup lhs = some e := by
  induction es with
  | nil => simp at h
  | cons p es ih =>
    obtain ⟨l, e'⟩ := p
    by_cases hl : l = lhs
    · subst hl; simp [redefine]
    · have hb : (lhs == l) = false := beq_false_of_ne fun h => hl h.symm
      have hm : lhs ∈ es.map (·.1) := by simpa [Ne.symm hl] using h
      simp [redefine, hl, List.lookup_cons, hb, ih hm]

theorem lookup_append_self {lhs : List Key} (e : Expansion) {es : List (List Key × Expansion)}
    (h : lhs ∉ es.map (·.1)) : (es ++ [(lhs, e)]).lookup lhs = some e := by
  induction es with
  | nil => simp
  | cons p es ih =>
    obtain ⟨l, e'⟩ := p
    simp only [List.map_cons, List.mem_cons, not_or] at h
    have hb : (lhs == l) = false := beq_false_of_ne h.1
    simp [List.lookup_cons, hb, ih h.2]

theorem get?_add_self (m : KeyMap) {lhs : List Key} (h : lhs ≠ []) (e : Expansion) :
    (m.add lhs e).get? lhs = some e := by
  unfold get?
  rw [entries_add m h]
  by_cases hd : m.defines lhs = true
  · rw [if_pos hd]
    exact lookup_redefine_self e ((m.defines_iff lhs).mp hd)
  · rw [if_neg hd]
    exact lookup_append_self e fun hm => hd ((m.defines_iff lhs).mpr hm)

theorem lookup_redefine_of_ne {lhs l : List Key} (h : l ≠ lhs) (e : Expansion)
    (es : List (List Key × Expansion)) : (redefine lhs e es).lookup l = es.lookup l := by
  induction es with
  | nil => rfl
  | cons p es ih =>
    obtain ⟨l', e'⟩ := p
    by_cases hl : l' = lhs
    · subst hl
      simp [redefine, List.lookup_cons, beq_false_of_ne h]
    · simp [redefine, hl, List.lookup_cons, ih]

theorem lookup_append_of_ne {lhs l : List Key} (h : l ≠ lhs) (e : Expansion)
    (es : List (List Key × Expansion)) : (es ++ [(lhs, e)]).lookup l = es.lookup l := by
  induction es with
  | nil => simp [List.lookup_cons, beq_false_of_ne h]
  | cons p es ih =>
    obtain ⟨l', e'⟩ := p
    simp [List.lookup_cons, ih]

theorem get?_add_of_ne (m : KeyMap) {lhs l : List Key} (h : l ≠ lhs) (e : Expansion) :
    (m.add lhs e).get? l = m.get? l := by
  by_cases hl : lhs = []
  · rw [hl, add_nil]
  · unfold get?
    rw [entries_add m hl]
    split
    · exact lookup_redefine_of_ne h e m.entries
    · exact lookup_append_of_ne h e m.entries

theorem lookup_filter_self (lhs : List Key) :
    ∀ es : List (List Key × Expansion), (es.filter (·.1 != lhs)).lookup lhs = none
  | [] => rfl
  | (l, e) :: es => by
    by_cases hl : l = lhs
    · simp [hl, lookup_filter_self lhs es]
    · have hb : (lhs == l) = false := beq_false_of_ne fun h => hl h.symm
      simp [hl, List.lookup_cons, hb, lookup_filter_self lhs es]

theorem lookup_filter_of_ne {lhs l : List Key} (h : l ≠ lhs) :
    ∀ es : List (List Key × Expansion), (es.filter (·.1 != lhs)).lookup l = es.lookup l
  | [] => rfl
  | (l', e) :: es => by
    by_cases hl : l' = lhs
    · subst hl
      simp [List.lookup_cons, beq_false_of_ne h, lookup_filter_of_ne h es]
    · simp [hl, List.lookup_cons, lookup_filter_of_ne h es]

theorem get?_remove_self (m : KeyMap) (lhs : List Key) : (m.remove lhs).get? lhs = none := by
  unfold get?
  rw [entries_remove]
  exact lookup_filter_self lhs m.entries

theorem get?_remove_of_ne (m : KeyMap) {lhs l : List Key} (h : l ≠ lhs) :
    (m.remove lhs).get? l = m.get? l := by
  unfold get?
  rw [entries_remove]
  exact lookup_filter_of_ne h m.entries

end KeyMap
end Keywise
