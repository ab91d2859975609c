/-
# What a pause leaves held back

When no key is typed for a while, keys held back are settled as if no more
were to come. The strokes they come to are worked off in order, and one that
is recursive may be held back in turn. If others follow, these settle it; but
nothing settles the last one. So keys wait after the pause if and only if the
last thing that is done is to hold back a recursive stroke
(`Agenda.holds_iff`).

It cannot come to that if no left-hand side goes on behind a key that a
recursive right-hand side ends with (`KeyMap.Closes`): such a key completes
what was held back (`Agenda.Closing.after`).

Key definitions: `Agenda.HoldsLast`, `KeyMap.Closes`, `Agenda.Closing`.
Key theorems: `Agenda.holds_iff`, `Typeahead.settle_of_closes`,
`Agenda.Closing.next`, `Agenda.Closing.after`.
-/
import Keywise.Proofs.Session.Abort
import Keywise.Proofs.Typeahead.Segments

namespace Keywise

/-! ### Keys held back have a map -/

namespace Typeahead

variable {t : Typeahead}

theorem Balanced.press (h : t.Balanced) (m : KeyMap) (k : Key) : (t.press m k).1.Balanced := by
  by_cases hfree : (t.press m k).2 = .free
  · rw [press_of_free h hfree]
    exact h
  · obtain ⟨_, -, hbalanced⟩ := exists_consumes_press h hfree
    exact hbalanced

theorem Balanced.flush (h : t.Balanced) (m : KeyMap) : (t.flush m).1.Balanced := by
  obtain ⟨_, -, hbalanced⟩ := exists_consumes_flush m h
  exact hbalanced

end Typeahead

namespace Session

variable {s : Session}

theorem balanced_arrive (h : s.typeahead.Balanced) (k : Key) (depth : Nat) :
    (s.arrive k depth).session.typeahead.Balanced := by
  unfold arrive
  split
  · exact iff_of_true rfl rfl
  · split
    · exact h
    · split
      · split
        · exact h.flush (.empty (.other ""))
        · exact h
      · next name _ =>
        have hpress := h.press (s.keyMap name) k
        split
        · next heq => rwa [heq] at hpress
        · next heq => rwa [heq] at hpress

theorem balanced_pass (h : s.typeahead.Balanced) (k : Key) (depth : Nat) :
    (s.pass k depth).session.typeahead.Balanced := by
  by_cases hheld : s.typeahead.held = []
  · rw [pass_of_held_eq_nil hheld]
    exact h
  · rw [pass_of_held_ne_nil hheld]
    exact iff_of_true rfl rfl

/-- Work that is given up leaves no keys held back. -/
theorem held_arrive_of_aborted {k : Key} {depth : Nat} (h : (s.arrive k depth).aborted = true) :
    (s.arrive k depth).session.typeahead.held = [] := by
  rcases Nat.lt_or_ge s.maxDepth depth with hlt | hle
  · rw [arrive_of_lt hlt]
    rfl
  · rw [(untyped_arrive hle).2] at h
    cases h

end Session

namespace Run

variable {r : Run}

theorem balanced_perform (h : r.session.typeahead.Balanced) (t : Task) :
    (r.perform t).1.session.typeahead.Balanced := by
  cases t with
  | give k =>
    rw [typeahead_perform_give]
    exact h
  | stroke st depth =>
    rcases r.perform_stroke_cases st depth with ⟨-, heq⟩ | ⟨-, heq⟩ | ⟨-, heq⟩ <;> rw [heq]
    · exact h
    · exact Session.balanced_arrive h _ _
    · exact Session.balanced_pass h _ _

/-- If work is given up, no keys are held back. -/
def NoneIfAborted (r : Run) : Prop := r.aborted = true → r.session.typeahead.held = []

theorem NoneIfAborted.of_eq_false (h : r.aborted = false) : r.NoneIfAborted :=
  fun ha => absurd (h.symm.trans ha) Bool.false_ne_true

theorem NoneIfAborted.perform (h : r.NoneIfAborted) (t : Task) : (r.perform t).1.NoneIfAborted := by
  cases t with
  | give k =>
    intro ha
    rw [typeahead_perform_give]
    exact h ha
  | stroke st depth =>
    rcases r.perform_stroke_cases st depth with ⟨-, heq⟩ | ⟨-, heq⟩ | ⟨-, heq⟩ <;> rw [heq]
    · exact h
    · exact Session.held_arrive_of_aborted
    · exact .of_eq_false (r.session.untyped_pass st.key depth).2

end Run

/-! ### The last task -/

namespace Agenda

/-- What is true of a run and kept by every task is true in the course of the
work. -/
theorem after_of_perform {I : Run → Prop} (hI : ∀ {r}, I r → ∀ t, I (r.perform t).1) {a : Agenda}
    (h : I a.run) (n : Nat) : I (a.after n).run := by
  induction n generalizing a with
  | zero => exact h
  | succ n ih =>
    rw [after_succ]
    refine ih ?_
    unfold next
    split
    · exact h
    · exact hI h _

theorem Orderly.held_of_give {a : Agenda} (h : a.Orderly) {k : Key} (hk : .give k ∈ a.tasks) :
    a.run.session.typeahead.held = [] := by
  obtain ⟨first, rest, hsplit, -, hstrokes, hnone⟩ := h.tasks
  rcases hnone with rfl | hheld
  · rw [hsplit, List.nil_append] at hk
    exact (hstrokes _ hk).elim
  · exact hheld

/-- One task is left. It is a recursive stroke, and it is held back. -/
structure HoldsLast (a : Agenda) : Prop where
  tasks : ∃ k depth, a.tasks = [.stroke ⟨k, true⟩ depth]
  done : a.next.tasks = []
  held : a.next.run.session.typeahead.held ≠ []

/-- Only a recursive stroke can be held back without anything that is to be
done after it. -/
theorem holdsLast_of_next {a : Agenda} (h : a.Orderly) (ha : a.run.NoneIfAborted)
    (ht : a.tasks ≠ []) (hdone : a.next.tasks = [])
    (hheld : a.next.run.session.typeahead.held ≠ []) : a.HoldsLast := by
  refine ⟨?_, hdone, hheld⟩
  obtain ⟨r, ts⟩ := a
  cases ts with
  | nil => exact absurd rfl ht
  | cons t ts =>
    obtain ⟨hmore, rfl⟩ := List.append_eq_nil_iff.mp (show (r.perform t).2 ++ ts = [] from hdone)
    have hheld' : (r.perform t).1.session.typeahead.held ≠ [] := hheld
    cases t with
    | give k =>
      rw [r.typeahead_perform_give] at hheld'
      exact absurd (h.held_of_give List.mem_cons_self) hheld'
    | stroke st depth =>
      rcases r.perform_stroke_cases st depth with ⟨haborted, heq⟩ | ⟨hst, -⟩ | ⟨-, heq⟩
      · rw [heq] at hheld'
        exact absurd (ha haborted) hheld'
      · exact ⟨st.key, depth, by rw [← hst]⟩
      · rw [heq] at hheld'
        exact absurd (r.session.held_pass st.key depth) hheld'

theorem after_eq_of_tasks_eq_nil {a : Agenda} {m n : Nat} (hm : (a.after m).tasks = [])
    (hn : (a.after n).tasks = []) : a.after m = a.after n := by
  have hle : ∀ {i j : Nat}, i ≤ j → (a.after i).tasks = [] → a.after j = a.after i := by
    intro i j hij hi
    obtain ⟨d, rfl⟩ := Nat.exists_eq_add_of_le hij
    rw [after_add, after_of_tasks_eq_nil hi]
  rcases Nat.le_total m n with hmn | hnm
  · exact (hle hmn hm).symm
  · exact hle hnm hn

theorem exists_holdsLast : ∀ {n : Nat} {a : Agenda}, a.Orderly → a.run.NoneIfAborted →
    (a.tasks = [] → a.run.session.typeahead.held = []) → (a.after n).tasks = [] →
      (a.after n).run.session.typeahead.held ≠ [] → ∃ m, (a.after m).HoldsLast
  | 0, _, _, _, hstart, hend, hheld => absurd (hstart hend) hheld
  | n + 1, a, h, ha, hstart, hend, hheld => by
    by_cases htasks : a.tasks = []
    · rw [after_of_tasks_eq_nil htasks] at hheld
      exact absurd (hstart htasks) hheld
    · rw [after_succ] at hend hheld
      by_cases hlast : a.next.tasks = [] ∧ a.next.run.session.typeahead.held ≠ []
      · exact ⟨0, holdsLast_of_next h ha htasks hlast.1 hlast.2⟩
      · have hnone : a.next.run.NoneIfAborted := after_of_perform Run.NoneIfAborted.perform ha 1
        have hstart' : a.next.tasks = [] → a.next.run.session.typeahead.held = [] :=
          fun hn => not_not.mp fun hne => hlast ⟨hn, hne⟩
        obtain ⟨m, hm⟩ := exists_holdsLast h.next hnone hstart' hend hheld
        exact ⟨m + 1, hm⟩

/-- **Keys are held back in the end** if and only if the last thing that is
done is to hold back a recursive stroke. -/
theorem holds_iff {n : Nat} {a : Agenda} (h : a.Orderly) (ha : a.run.NoneIfAborted)
    (hstart : a.tasks = [] → a.run.session.typeahead.held = []) (hend : (a.after n).tasks = []) :
    (a.after n).run.session.typeahead.held ≠ [] ↔ ∃ m, (a.after m).HoldsLast := by
  constructor
  · exact exists_holdsLast h ha hstart hend
  · rintro ⟨m, hm⟩
    have hnext : a.after (m + 1) = (a.after m).next := a.after_add m 1
    have hlast : (a.after (m + 1)).tasks = [] := hnext ▸ hm.done
    rw [after_eq_of_tasks_eq_nil hend hlast, hnext]
    exact hm.held

end Agenda

/-! ### Keys that complete what is held back -/

/-- A stroke that is recursive is one of the keys `E`. -/
def Stroke.Closes (E : List Key) (st : Stroke) : Prop := st.recursive = true → st.key ∈ E

/-- A stroke that is to be mapped is one of the keys `E`. -/
def Task.Closes (E : List Key) : Task → Prop
  | stroke st _ => st.Closes E
  | give _ => True

/-- A recursive right-hand side ends with one of the keys `E`, and no
left-hand side goes on behind one of them. -/
structure KeyMap.Closes (E : List Key) (m : KeyMap) : Prop where
  ends : ∀ p ∈ m.entries, p.2.recursive = true → ∀ k ∈ p.2.keys.getLast?, k ∈ E
  inner : ∀ p ∈ m.entries, ∀ k ∈ p.1.dropLast, k ∉ E

instance (E : List Key) (m : KeyMap) : Decidable (m.Closes E) :=
  decidable_of_iff
    ((∀ p ∈ m.entries, p.2.recursive = true → ∀ k ∈ p.2.keys.getLast?, k ∈ E) ∧
      ∀ p ∈ m.entries, ∀ k ∈ p.1.dropLast, k ∉ E)
    ⟨fun h => ⟨h.1, h.2⟩, fun h => ⟨h.ends, h.inner⟩⟩

theorem KeyMap.closes_empty (E : List Key) (name : MapName) : (KeyMap.empty name).Closes E :=
  ⟨nofun, nofun⟩

theorem forall_mem_getLast?_append {α : Type} {P : α → Prop} {l l' : List α}
    (h : ∀ a ∈ l.getLast?, P a) (h' : ∀ a ∈ l'.getLast?, P a) : ∀ a ∈ (l ++ l').getLast?, P a := by
  by_cases hnil : l' = []
  · rw [hnil, List.append_nil]
    exact h
  · rw [List.getLast?_append_of_ne_nil l hnil]
    exact h'

theorem forall_mem_getLast?_map {α β : Type} {P : β → Prop} {f : α → β} {l : List α}
    (h : ∀ a ∈ l.getLast?, P (f a)) : ∀ b ∈ (l.map f).getLast?, P b := by
  intro b hb
  rw [List.getLast?_map] at hb
  obtain ⟨a, ha, rfl⟩ := Option.map_eq_some_iff.mp hb
  exact h a ha

namespace Typeahead

variable {m : KeyMap} {E : List Key}

/-- Keys come to strokes of which the last is one of `E`, if it is
recursive. -/
theorem closes_translation (h : m.Closes E) (ks : List Key) :
    ∀ st ∈ (m.translation ks).getLast?, st.Closes E := by
  induction ks using KeyMap.translation.induct m with
  | case1 =>
    intro st hst
    rw [KeyMap.translation_nil] at hst
    cases hst
  | case2 k ks n e hl ih =>
    obtain ⟨lhs, hmem, -⟩ := (m.longest?_eq_iff _ _).mp hl
    rw [KeyMap.translation, hl]
    refine forall_mem_getLast?_append (forall_mem_getLast?_map fun k hk hrec => ?_) ih
    exact h.ends _ hmem hrec k hk
  | case3 k ks hl ih =>
    rw [KeyMap.translation_of_none hl]
    exact forall_mem_getLast?_append (l := [Stroke.literal k])
      (fun st hst hrec => by cases hst; cases hrec) ih

/-- A key of `E` completes the keys held back. -/
theorem settle_of_closes (h : m.Closes E) {k : Key} (hk : k ∈ E) (ks : List Key) :
    settle m false (ks ++ [k]) = ([], m.translation (ks ++ [k])) := by
  have hnil : (settle m false (ks ++ [k])).1 = [] := by
    by_contra hne
    obtain ⟨segs, -, hkeys, -⟩ := exists_segments_settle m false (ks ++ [k])
    have hlast : (settle m false (ks ++ [k])).1.getLast? = some k := by
      rw [← List.getLast?_append_of_ne_nil (Segment.allKeys segs) hne, ← hkeys,
        List.getLast?_concat]
    obtain ⟨p, hp, ⟨more, hmore⟩, hshort⟩ :=
      (m.mayGrow_iff _).mp ((mayGrow_settle m (ks ++ [k])).resolve_left hne)
    have hrest : more ≠ [] := by
      rintro rfl
      rw [List.append_nil] at hmore
      exact hshort hmore
    refine h.inner p hp k ?_ hk
    rw [← hmore, List.dropLast_append_of_ne_nil hrest]
    exact List.mem_append_left _ (List.mem_of_getLast? hlast)
  have hall := translation_settle m (ks ++ [k]) []
  rw [hnil, List.append_nil, List.append_nil, KeyMap.translation_nil, List.append_nil] at hall
  exact Prod.ext hnil hall.symm

theorem closes_press {t : Typeahead} (h : m.Closes E) {k : Key} (hk : k ∈ E)
    (hout : t.output = []) : (t.press m k).1.held = [] ∧
      ∀ st ∈ (t.press m k).1.output.getLast?, st.Closes E := by
  have hliteral : ∀ (ks : List Key), ∀ st ∈ (ks.map Stroke.literal).getLast?, st.Closes E :=
    fun ks => forall_mem_getLast?_map fun k _ hrec => absurd hrec Bool.false_ne_true
  have hleft : ∀ st ∈ (if t.strandedFrom m.name then t.release else t).output.getLast?,
      st.Closes E := by
    split
    · rw [release, hout, List.nil_append]
      exact hliteral t.held
    · intro st hst
      rw [hout] at hst
      cases hst
  unfold press
  generalize (if t.strandedFrom m.name then t.release else t) = t₁ at hleft ⊢
  simp only
  split
  · next hfree =>
    simp only [Bool.and_eq_true, List.isEmpty_iff] at hfree
    exact ⟨hfree.1.1, hleft⟩
  · rw [settleOn_fst]
    simp only [settle_of_closes h hk]
    exact ⟨trivial, forall_mem_getLast?_append hleft (closes_translation h _)⟩

end Typeahead

namespace Session

/-- All key maps are of that kind. -/
def Closes (E : List Key) (s : Session) : Prop := ∀ m ∈ s.editor.keyMaps, m.Closes E

instance (E : List Key) (s : Session) : Decidable (s.Closes E) :=
  inferInstanceAs (Decidable (∀ m ∈ s.editor.keyMaps, m.Closes E))

variable {s : Session} {E : List Key}

theorem Closes.keyMap (h : s.Closes E) (name : MapName) : (s.keyMap name).Closes E := by
  unfold Session.keyMap
  cases hfind : s.editor.keyMaps.find? name with
  | none => exact KeyMap.closes_empty E name
  | some m => exact h m (List.mem_of_find?_eq_some hfind)

end Session

/-- The last task is one that closes, and if there is none no keys are held
back. -/
structure Session.Onset.Closing (E : List Key) (o : Session.Onset) : Prop where
  last : ∀ t ∈ o.tasks.getLast?, t.Closes E
  done : o.tasks = [] → o.session.typeahead.held = []

namespace Session

variable {s : Session} {E : List Key}

theorem closing_of_give (s : Session) (ts : List Task) (k : Key) (aborted : Bool) :
    Onset.Closing E { session := s, tasks := ts ++ [.give k], aborted } where
  last t ht := by
    rw [List.getLast?_concat] at ht
    cases ht
    trivial
  done hn := absurd hn (List.append_ne_nil_of_right_ne_nil ts (List.cons_ne_nil _ _))

theorem closing_takeStrokes {t : Typeahead} (hheld : t.held = [])
    (hout : ∀ st ∈ t.output.getLast?, st.Closes E) (depth : Nat) :
    Onset.Closing E
      { session := (takeStrokes { s with typeahead := t } depth).1
        tasks := (takeStrokes { s with typeahead := t } depth).2 } where
  last := forall_mem_getLast?_map hout
  done _ := hheld

/-- **A key of `E` that arrives** leaves none held back, or more is to be
done. -/
theorem closing_arrive (hmode : s.currentMode? ≠ none) (hout : s.typeahead.output = [])
    (h : s.Closes E) {k : Key} (hk : k ∈ E) (depth : Nat) :
    (s.arrive k depth).Closing E := by
  unfold arrive
  split
  · exact ⟨nofun, fun _ => rfl⟩
  · split
    · next hnone => exact absurd hnone hmode
    · split
      · split
        · exact closing_of_give _ _ k false
        · exact closing_of_give _ [] k false
      · next name _ =>
        obtain ⟨hheld, hlast⟩ := Typeahead.closes_press (h.keyMap name) hk hout
        split
        · exact closing_of_give _ [] k false
        · next t _ _ heq =>
          rw [heq] at hheld hlast
          exact closing_takeStrokes hheld hlast depth

theorem closing_pass (s : Session) (k : Key) (depth : Nat) : (s.pass k depth).Closing E := by
  by_cases hheld : s.typeahead.held = []
  · rw [pass_of_held_eq_nil hheld]
    exact closing_of_give s [] k false
  · rw [pass_of_held_ne_nil hheld]
    refine ⟨forall_mem_getLast?_map fun st hst hrec => ?_, fun _ => rfl⟩
    rw [List.getLast?_concat] at hst
    cases hst
    cases hrec

theorem held_lapse (s : Session) (name : MapName) :
    (s.lapse name).session.typeahead.held = [] := by
  show (s.typeahead.flush (s.keyMap name)).1.held = []
  unfold Typeahead.flush
  split
  · next hnil => exact List.isEmpty_iff.mp hnil
  · rw [Typeahead.settleOn_fst, Typeahead.settle_true]

theorem closing_lapse (hout : s.typeahead.output = []) (h : s.Closes E) (name : MapName) :
    (s.lapse name).Closing E := by
  have hheld : (s.typeahead.flush (s.keyMap name)).1.held = [] := held_lapse s name
  refine closing_takeStrokes hheld ?_ 0
  unfold Typeahead.flush
  split
  · rw [hout]
    exact nofun
  · rw [Typeahead.settleOn_fst, Typeahead.settle_true, hout]
    exact Typeahead.closes_translation (h.keyMap name) _

end Session

namespace Agenda

/-- The last task is one that closes, and if there is none no keys are held
back. -/
structure Closing (E : List Key) (a : Agenda) : Prop where
  last : ∀ t ∈ a.tasks.getLast?, t.Closes E
  done : a.tasks = [] → a.run.session.typeahead.held = []

variable {E : List Key} {a : Agenda}

theorem Closing.of_onset {o : Session.Onset} (h : o.Closing E) {r : Run}
    (hr : r.session = o.session) : Closing E ⟨r, o.tasks⟩ :=
  ⟨h.last, fun hn => (congrArg (fun s : Session => s.typeahead.held) hr).trans (h.done hn)⟩

/-- **Every task leaves the last one to close.** -/
theorem Closing.next (h : a.Closing E) (horderly : a.Orderly) (ha : a.run.NoneIfAborted)
    (hmode : a.run.session.currentMode? ≠ none) (hmaps : a.run.session.Closes E) :
    a.next.Closing E := by
  obtain ⟨r, ts⟩ := a
  cases ts with
  | nil => exact h
  | cons t ts =>
    by_cases hts : ts = []
    · subst hts
      have hcloses : t.Closes E := h.last t rfl
      have hmore : (r.perform t).2 ++ [] = (r.perform t).2 := List.append_nil _
      show Closing E ⟨(r.perform t).1, (r.perform t).2 ++ []⟩
      rw [hmore]
      cases t with
      | give k =>
        have hheld : r.session.typeahead.held = [] := horderly.held_of_give List.mem_cons_self
        exact ⟨nofun, fun _ => (congrArg Typeahead.held (r.typeahead_perform_give k)).trans hheld⟩
      | stroke st depth =>
        rcases r.perform_stroke_cases st depth with ⟨haborted, heq⟩ | ⟨hst, heq⟩ | ⟨-, heq⟩ <;>
          rw [heq]
        · exact ⟨nofun, fun _ => ha haborted⟩
        · exact .of_onset
            (Session.closing_arrive hmode horderly.output hmaps (hcloses hst) (depth + 1)) rfl
        · exact .of_onset (Session.closing_pass r.session st.key depth) rfl
    · -- the last task is the same as before
      have hlast : ((r.perform t).2 ++ ts).getLast? = (t :: ts).getLast? := by
        rw [List.getLast?_append_of_ne_nil _ hts, ← List.singleton_append,
          List.getLast?_append_of_ne_nil _ hts]
      exact ⟨fun t' ht' => h.last t' (hlast ▸ ht'),
        fun hn => absurd (List.append_eq_nil_iff.mp hn).2 hts⟩

/-- **In the end nothing is held back**, if throughout the work the last task
closes. -/
theorem Closing.after (h : a.Closing E) (horderly : a.Orderly) (ha : a.run.NoneIfAborted)
    (hmode : ∀ n, (a.after n).run.session.currentMode? ≠ none)
    (hmaps : ∀ n, (a.after n).run.session.Closes E) (n : Nat) : (a.after n).Closing E := by
  induction n with
  | zero => exact h
  | succ n ih =>
    have hnext : a.after (n + 1) = (a.after n).next := a.after_add n 1
    rw [hnext]
    exact ih.next (horderly.after n) (after_of_perform Run.NoneIfAborted.perform ha n) (hmode n)
      (hmaps n)

end Agenda

end Keywise
