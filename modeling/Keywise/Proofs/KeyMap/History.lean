/-
# A key map and its history

A key map comes about by edits: mappings are defined and removed, and all of
them are cleared away. What it is then can be told from the edits alone
(`KeyMap.records_edited`). A left-hand side has the expansion of its last
definition, unless that was dropped again; the mappings stand in the order
of the first definitions since they were last dropped; and matching gives
what can be read off the list.

The history is followed from its beginning, one edit at a time at its end:
`LastDefinition`, `AllDropped` and `FirstDefinition` each have a lemma for
one more edit.

Key definitions: `MapEdit`, `KeyMap.edited`, `LastDefinition`,
`FirstDefinition`, `Records`.
Key theorems: `KeyMap.get?_edited_iff`, `KeyMap.order_edited`,
`KeyMap.records_edited`.
-/
import Mathlib.Data.List.Induction
import Keywise.Proofs.KeyMap.Matching

namespace Keywise

/-- A change of the mappings. -/
inductive MapEdit where
  | add (lhs : List Key) (e : Expansion)
  | remove (lhs : List Key)
  | clear
  deriving DecidableEq, Repr

namespace MapEdit

/-- Whether the edit takes the mapping of `l` away. -/
def Drops (l : List Key) : MapEdit → Prop
  | add _ _ => False
  | remove lhs => lhs = l
  | clear => True

/-- Whether the edit gives `l` an expansion. -/
def Defines (l : List Key) : MapEdit → Prop
  | add lhs _ => lhs = l
  | remove _ => False
  | clear => False

end MapEdit

/-- `e` is the expansion of the last definition of `l`, and `l` was not
dropped since. -/
def LastDefinition (h : List MapEdit) (l : List Key) (e : Expansion) : Prop :=
  ∃ before after, h = before ++ .add l e :: after ∧
    ∀ d ∈ after, ¬ d.Drops l ∧ ¬ d.Defines l

/-- Every definition of `l` was dropped. -/
def AllDropped (h : List MapEdit) (l : List Key) : Prop :=
  ∀ before e after, h = before ++ .add l e :: after → ∃ d ∈ after, d.Drops l

/-- The `i`-th edit is the first definition of `l` since `l` was last
dropped. -/
def FirstDefinition (h : List MapEdit) (l : List Key) (i : Nat) : Prop :=
  ∃ before e after, h = before ++ .add l e :: after ∧ before.length = i ∧
    AllDropped before l ∧ ∀ d ∈ after, ¬ d.Drops l

/-- `l` was first defined before `l'` was. -/
def DefinedBefore (h : List MapEdit) (l l' : List Key) : Prop :=
  ∃ i j, i < j ∧ FirstDefinition h l i ∧ FirstDefinition h l' j

/-- What the edits of a history `h` say of a key map `m`. -/
structure Records (h : List MapEdit) (m : KeyMap) : Prop where
  /-- No two mappings have the same left-hand side. -/
  nodup_lhs : (m.entries.map (·.1)).Nodup
  /-- No left-hand side is empty. -/
  lhs_ne_nil : ∀ l ∈ m.entries.map (·.1), l ≠ []
  /-- The mappings stand in the order of their first definitions. -/
  order : (m.entries.map (·.1)).Pairwise (DefinedBefore h)
  /-- A left-hand side has the expansion of its last definition. -/
  get?_iff : ∀ l e, m.get? l = some e ↔ l ≠ [] ∧ LastDefinition h l e
  /-- The list of mappings holds what is found. -/
  mem_iff : ∀ l e, (l, e) ∈ m.entries ↔ m.get? l = some e
  /-- Matching is read off the list. -/
  matches_iff : ∀ ks a, Matches m.entries ks a ↔ m.matching ks = a

/-! ### One more edit -/

theorem concat_eq_append_cons {h b a : List MapEdit} {d x : MapEdit}
    (heq : h ++ [d] = b ++ x :: a) :
    (a = [] ∧ h = b ∧ d = x) ∨ ∃ a', a = a' ++ [d] ∧ h = b ++ x :: a' := by
  rcases List.eq_nil_or_concat a with rfl | ⟨a', y, rfl⟩
  · obtain ⟨hb, hd⟩ := List.append_singleton_inj.mp heq
    exact Or.inl ⟨rfl, hb, hd⟩
  · have heq' : h ++ [d] = (b ++ x :: a') ++ [y] := by simpa using heq
    obtain ⟨hb, hd⟩ := List.append_singleton_inj.mp heq'
    exact Or.inr ⟨a', by rw [hd, List.concat_eq_append], hb⟩

theorem lastDefinition_concat (h : List MapEdit) (d : MapEdit) (l : List Key) (e : Expansion) :
    LastDefinition (h ++ [d]) l e ↔
      d = .add l e ∨ ¬ d.Drops l ∧ ¬ d.Defines l ∧ LastDefinition h l e := by
  constructor
  · rintro ⟨b, a, heq, hafter⟩
    rcases concat_eq_append_cons heq with ⟨-, -, hd⟩ | ⟨a', rfl, rfl⟩
    · exact Or.inl hd
    · have hd := hafter d (List.mem_append_right _ List.mem_cons_self)
      exact Or.inr ⟨hd.1, hd.2, b, a', rfl, fun x hx => hafter x (List.mem_append_left _ hx)⟩
  · rintro (rfl | ⟨h1, h2, b, a, rfl, hafter⟩)
    · exact ⟨h, [], rfl, by simp⟩
    · refine ⟨b, a ++ [d], by simp, List.forall_mem_append.mpr ⟨hafter, ?_⟩⟩
      rw [List.forall_mem_singleton]
      exact ⟨h1, h2⟩

theorem allDropped_concat (h : List MapEdit) (d : MapEdit) (l : List Key) :
    AllDropped (h ++ [d]) l ↔ d.Drops l ∨ ¬ d.Defines l ∧ AllDropped h l := by
  constructor
  · intro hall
    by_cases hd : d.Drops l
    · exact Or.inl hd
    · refine Or.inr ⟨fun hdef => ?_, fun b e a heq => ?_⟩
      · cases d with
        | add lhs e =>
          obtain rfl : lhs = l := hdef
          obtain ⟨x, hx, -⟩ := hall h e [] rfl
          cases hx
        | remove lhs => exact hdef
        | clear => exact hdef
      · obtain ⟨x, hx, hxl⟩ := hall b e (a ++ [d]) (by simp [heq])
        rcases List.mem_append.mp hx with hx | hx
        · exact ⟨x, hx, hxl⟩
        · rw [List.mem_singleton.mp hx] at hxl
          exact absurd hxl hd
  · intro hor b e a heq
    rcases concat_eq_append_cons heq with ⟨-, -, rfl⟩ | ⟨a', rfl, hh⟩
    · rcases hor with hd | ⟨hd, -⟩
      · exact hd.elim
      · exact absurd rfl hd
    · rcases hor with hd | ⟨-, hall⟩
      · exact ⟨d, List.mem_append_right _ List.mem_cons_self, hd⟩
      · obtain ⟨x, hx, hxl⟩ := hall b e a' hh
        exact ⟨x, List.mem_append_left _ hx, hxl⟩

theorem FirstDefinition.concat {h : List MapEdit} {l : List Key} {i : Nat}
    (hf : FirstDefinition h l i) {d : MapEdit} (hd : ¬ d.Drops l) :
    FirstDefinition (h ++ [d]) l i := by
  obtain ⟨b, e, a, rfl, hi, hb, ha⟩ := hf
  refine ⟨b, e, a ++ [d], by simp, hi, hb, List.forall_mem_append.mpr ⟨ha, ?_⟩⟩
  rw [List.forall_mem_singleton]
  exact hd

theorem DefinedBefore.concat {h : List MapEdit} {l l' : List Key} (hb : DefinedBefore h l l')
    {d : MapEdit} (hl : ¬ d.Drops l) (hl' : ¬ d.Drops l') : DefinedBefore (h ++ [d]) l l' := by
  obtain ⟨i, j, hij, hi, hj⟩ := hb
  exact ⟨i, j, hij, hi.concat hl, hj.concat hl'⟩

theorem AllDropped.firstDefinition {h : List MapEdit} {l : List Key} (hall : AllDropped h l)
    (e : Expansion) : FirstDefinition (h ++ [.add l e]) l h.length :=
  ⟨h, e, [], rfl, rfl, hall, by simp⟩

theorem FirstDefinition.lt_length {h : List MapEdit} {l : List Key} {i : Nat}
    (hf : FirstDefinition h l i) : i < h.length := by
  obtain ⟨b, e, a, rfl, rfl, -, -⟩ := hf
  rw [List.length_append, List.length_cons]
  omega

namespace KeyMap

/-- The key map after an edit. -/
def edit (m : KeyMap) : MapEdit → KeyMap
  | .add lhs e => m.add lhs e
  | .remove lhs => m.remove lhs
  | .clear => m.clear

/-- The key map after a history of edits, the oldest first. -/
def edited (name : MapName) (h : List MapEdit) : KeyMap := h.foldl edit (.empty name)

theorem edited_concat (name : MapName) (h : List MapEdit) (d : MapEdit) :
    edited name (h ++ [d]) = (edited name h).edit d := by
  simp [edited]

/-! ### What is found -/

theorem get?_edit_of_ne (m : KeyMap) {d : MapEdit} {l : List Key} (hdrop : ¬ d.Drops l)
    (hdef : ¬ d.Defines l) : (m.edit d).get? l = m.get? l := by
  cases d with
  | add lhs e => exact m.get?_add_of_ne (fun h => hdef h.symm) e
  | remove lhs => exact m.get?_remove_of_ne fun h => hdrop h.symm
  | clear => exact absurd trivial hdrop

theorem get?_edit_of_drops (m : KeyMap) {d : MapEdit} {l : List Key} (hdrop : d.Drops l) :
    (m.edit d).get? l = none := by
  cases d with
  | add lhs e => exact hdrop.elim
  | remove lhs =>
    obtain rfl : lhs = l := hdrop
    exact m.get?_remove_self lhs
  | clear => rfl

theorem get?_nil (m : KeyMap) : m.get? [] = none := by
  rw [Option.eq_none_iff_forall_ne_some]
  intro e he
  exact m.lhs_ne_nil _ ((m.mem_entries_iff [] e).mpr he) rfl

/-- **What is found is the last definition.** -/
theorem get?_edited_iff (name : MapName) (h : List MapEdit) {l : List Key} (hl : l ≠ [])
    (e : Expansion) : (edited name h).get? l = some e ↔ LastDefinition h l e := by
  induction h using List.reverseRecOn with
  | nil =>
    constructor
    · intro he
      cases he
    · rintro ⟨b, a, heq, -⟩
      simp at heq
  | append_singleton h d ih =>
    rw [edited_concat, lastDefinition_concat]
    by_cases hdrop : d.Drops l
    · rw [get?_edit_of_drops _ hdrop]
      constructor
      · intro he
        cases he
      · rintro (rfl | ⟨hno, -⟩)
        · exact hdrop.elim
        · exact absurd hdrop hno
    by_cases hdef : d.Defines l
    · cases d with
      | add lhs e' =>
        obtain rfl : lhs = l := hdef
        rw [edit, get?_add_self _ hl]
        constructor
        · intro he
          exact Or.inl (by rw [Option.some.inj he])
        · rintro (heq | ⟨-, hno, -⟩)
          · cases heq; rfl
          · exact absurd rfl hno
      | remove lhs => exact hdef.elim
      | clear => exact hdef.elim
    · rw [get?_edit_of_ne _ hdrop hdef, ih]
      constructor
      · exact fun hlast => Or.inr ⟨hdrop, hdef, hlast⟩
      · rintro (rfl | ⟨-, -, hlast⟩)
        · exact absurd rfl hdef
        · exact hlast

/-- A left-hand side that is not in the list was dropped after every
definition. -/
theorem allDropped_of_notMem (name : MapName) (h : List MapEdit) {l : List Key} (hl : l ≠ [])
    (hno : l ∉ (edited name h).entries.map (·.1)) : AllDropped h l := by
  rw [mem_lhs_iff] at hno
  induction h using List.reverseRecOn with
  | nil => exact fun b e a heq => by simp at heq
  | append_singleton h d ih =>
    rw [edited_concat] at hno
    rw [allDropped_concat]
    by_cases hdrop : d.Drops l
    · exact Or.inl hdrop
    · have hdef : ¬ d.Defines l := by
        intro hdef
        cases d with
        | add lhs e =>
          obtain rfl : lhs = l := hdef
          exact hno ⟨e, get?_add_self _ hl e⟩
        | remove lhs => exact hdef
        | clear => exact hdef
      rw [get?_edit_of_ne _ hdrop hdef] at hno
      exact Or.inr ⟨hdef, ih hno⟩

/-! ### The order -/

/-- Every left-hand side has a first definition, and they come in order. -/
theorem order_edited (name : MapName) (h : List MapEdit) :
    (∀ l ∈ (edited name h).entries.map (·.1), ∃ i, FirstDefinition h l i) ∧
      ((edited name h).entries.map (·.1)).Pairwise (DefinedBefore h) := by
  induction h using List.reverseRecOn with
  | nil => exact ⟨by simp [edited, empty], by simp [edited, empty]⟩
  | append_singleton h d ih =>
    obtain ⟨hfirst, hpair⟩ := ih
    rw [edited_concat]
    -- an edit that drops nothing keeps all the first definitions there are
    have hkeep : (∀ l, ¬ d.Drops l) → ((edited name h).entries.map (·.1)).Pairwise
        (DefinedBefore (h ++ [d])) :=
      fun hd => hpair.imp fun hb => hb.concat (hd _) (hd _)
    cases d with
    | add lhs e =>
      have hd : ∀ l, ¬ (MapEdit.add lhs e).Drops l := fun _ hd => hd
      have hkept : ∀ l ∈ (edited name h).entries.map (·.1),
          ∃ i, FirstDefinition (h ++ [.add lhs e]) l i := fun l hl => by
        obtain ⟨i, hi⟩ := hfirst l hl
        exact ⟨i, hi.concat (hd l)⟩
      by_cases hne : lhs = []
      · rw [edit, hne, add_nil]
        rw [hne] at hkept hkeep hd
        exact ⟨hkept, hkeep hd⟩
      · rw [edit, entries_add _ hne]
        by_cases hm : (edited name h).defines lhs = true
        · rw [if_pos hm, map_fst_redefine]
          exact ⟨hkept, hkeep hd⟩
        · rw [if_neg hm, List.map_append]
          rw [defines_iff] at hm
          have hnew := (allDropped_of_notMem name h hne hm).firstDefinition e
          refine ⟨List.forall_mem_append.mpr ⟨hkept, by simpa using ⟨_, hnew⟩⟩, ?_⟩
          rw [List.pairwise_append]
          refine ⟨hkeep hd, by simp, fun l hl l' hl' => ?_⟩
          obtain ⟨i, hi⟩ := hfirst l hl
          obtain rfl : l' = lhs := by simpa using hl'
          exact ⟨i, h.length, hi.lt_length, hi.concat (hd l), hnew⟩
    | remove lhs =>
      have hlhs : ((edited name h).edit (.remove lhs)).entries.map (·.1) =
          ((edited name h).entries.map (·.1)).filter (· != lhs) := by
        rw [edit, entries_remove, List.filter_map]
        rfl
      have hd : ∀ l ∈ ((edited name h).entries.map (·.1)).filter (· != lhs),
          ¬ (MapEdit.remove lhs).Drops l := by
        intro l hl hdrop
        have hne : l ≠ lhs := by simpa using (List.mem_filter.mp hl).2
        exact hne (Eq.symm hdrop)
      rw [hlhs]
      refine ⟨fun l hl => ?_, ?_⟩
      · obtain ⟨i, hi⟩ := hfirst l (List.mem_filter.mp hl).1
        exact ⟨i, hi.concat (hd l hl)⟩
      · refine (hpair.filter _).imp_of_mem fun hl hl' hb => ?_
        exact hb.concat (hd _ hl) (hd _ hl')
    | clear => exact ⟨nofun, .nil⟩

/-! ### All together -/

/-- **A key map is a correct index of its history.** -/
theorem records_edited (name : MapName) (h : List MapEdit) : Records h (edited name h) where
  nodup_lhs := (edited name h).nodup_lhs
  lhs_ne_nil := by
    intro l hl
    obtain ⟨p, hp, rfl⟩ := List.mem_map.mp hl
    exact (edited name h).lhs_ne_nil p hp
  order := (order_edited name h).2
  get?_iff := by
    intro l e
    by_cases hl : l = []
    · rw [hl, get?_nil]
      simp
    · rw [get?_edited_iff name h hl e]
      simp [hl]
  mem_iff := (edited name h).mem_entries_iff
  matches_iff := (edited name h).matches_iff

end KeyMap
end Keywise
