/-
# What typing in Insert mode inserts

Keys that type characters, through a map from characters to characters, only
ever insert: what they come to stands at the cursor, in the order in which it
came out (`Session.inserts_iff`). That is the translation of the keys unless
a key divides those held back, and which keys do is a matter of the left-hand
sides of the map (`Session.inserts_translation_iff_undivided`).

Key definitions: `Typing.typeAll`, `Session.InInsert`, `Session.Inserts`.
Key theorems: `Session.give_typing`, `Session.press?_typing`,
`Session.inserts_iff`, `Session.inserts_translation_iff_undivided`.
-/
import Keywise.Proofs.Session.Work
import Keywise.Proofs.Typeahead.Release

namespace Keywise

/-! ### Characters typed into an editor -/

namespace Typing

/-- Types characters one after the other. -/
def typeAll (e : Editor) (cs : List Char) : Editor := cs.foldl (fun e c => type e [c]) e

theorem typeAll_append (e : Editor) (cs cs' : List Char) :
    typeAll e (cs ++ cs') = typeAll (typeAll e cs) cs' :=
  List.foldl_append

theorem keyMaps_typeAll : ∀ (cs : List Char) (e : Editor), (typeAll e cs).keyMaps = e.keyMaps
  | [], _ => rfl
  | c :: cs, e => keyMaps_typeAll cs (type e [c])

/-- Characters that are typed stand at the cursor, in order. -/
theorem text_typeAll : ∀ (cs : List Char) (e : Editor),
    (typeAll e cs).text = e.text.take e.cursor ++ cs ++ e.text.drop e.cursor
  | [], e => by
    rw [List.append_nil, List.take_append_drop]
    rfl
  | c :: cs, e => by
    have htext : (type e [c]).text = e.text.take e.cursor ++ [c] ++ e.text.drop e.cursor := rfl
    have hcursor : (type e [c]).cursor = (e.text.take e.cursor ++ [c]).length := by
      have hmin : (type e [c]).cursor = min (e.cursor + 1) (type e [c]).text.length := rfl
      rw [hmin, htext]
      simp only [List.length_append, List.length_take, List.length_drop, List.length_singleton]
      omega
    have htype : typeAll e (c :: cs) = typeAll (type e [c]) cs := rfl
    rw [htype, text_typeAll cs, hcursor, htext, List.take_left, List.drop_left]
    simp

end Typing

namespace Insert

theorem handle_typing (i : Insert) (e : Editor) {k : Key} {c : Char} (h : k.char? = some c) :
    i.handle e k = (Typing.type e [c], true) := by
  have hcontrol := Typing.control?_of_char? e h i.typedFrom
  obtain ⟨code, mods⟩ := k
  cases code with
  | char d => simp [handle, hcontrol, Key.plain, h]
  | _ => cases h

end Insert

namespace Typeahead

/-- The keys `held` held back for the map `m`. -/
def holding (m : KeyMap) (held : List Key) : Typeahead :=
  if held = [] then {} else { held, map := some m.name }

end Typeahead

namespace Session

/-! ### Insert mode -/

/-- Insert mode is current, and nothing is waiting that was asked for. -/
structure InInsert (s : Session) : Prop where
  current : s.current = some .insert
  mode : ∃ i, s.mode? .insert = some (.insert i)
  requests : s.editor.requests = []
  replays : s.editor.replays = []

theorem InInsert.typeahead {s : Session} (h : s.InInsert) (t : Typeahead) :
    InInsert { s with typeahead := t } :=
  ⟨h.current, h.mode, h.requests, h.replays⟩

theorem InInsert.exists_keyMap_eq {s : Session} (h : s.InInsert) {m : KeyMap}
    (hm : m.name = .insert) :
    ∃ s' : Session, s'.InInsert ∧ s'.typeahead = s.typeahead ∧ s'.keyMap .insert = m := by
  refine ⟨{ s with editor := { s.editor with keyMaps := [m] } },
    ⟨h.current, h.mode, h.requests, h.replays⟩, rfl, ?_⟩
  simp [keyMap, KeyMaps.find?, hm]

theorem give_typing {s : Session} (h : s.InInsert) {k : Key} {c : Char} (hk : k.char? = some c) :
    (s.give k).1.InInsert ∧ (s.give k).1.editor = Typing.type s.editor [c] := by
  obtain ⟨i, hi⟩ := h.mode
  have hcur : s.currentMode? = some (.insert i) := by rw [currentMode?, h.current]; exact hi
  have hhand : s.hand k =
      ({ s with editor := Typing.type s.editor [c] }.putMode (.insert i), true) := by
    simp only [hand, hcur, Mode.handle, Insert.handle_typing i s.editor hk]
    rfl
  have hgive : s.give k = s.hand k := by
    have hserve := serve_of_nil (s := (s.hand k).1) (by rw [hhand]; exact h.requests)
      (by rw [hhand]; exact h.replays)
    unfold give
    simp only [h.current, hserve]
  rw [hgive, hhand]
  exact ⟨⟨h.current, ⟨i, mode?_putMode (m := .insert i) hi⟩, h.requests, h.replays⟩, rfl⟩

/-- `s'` is Insert mode after the characters `cs` were typed in `s`. -/
structure Types (s : Session) (cs : List Char) (s' : Session) : Prop where
  inInsert : s'.InInsert
  editor : s'.editor = Typing.typeAll s.editor cs

theorem Types.keyMap {s s' : Session} {cs : List Char} (h : s.Types cs s') (name : MapName) :
    s'.keyMap name = s.keyMap name := by
  unfold Session.keyMap
  rw [h.editor, Typing.keyMaps_typeAll]

theorem Types.trans {s s' s'' : Session} {cs cs' : List Char} (h : s.Types cs s')
    (h' : s'.Types cs' s'') : s.Types (cs ++ cs') s'' :=
  ⟨h'.inInsert, by rw [h'.editor, h.editor, Typing.typeAll_append]⟩

/-- The keys `held` are held back for the map `m`, and no strokes wait. -/
def Holds (s : Session) (m : KeyMap) (held : List Key) : Prop := s.typeahead = .holding m held

theorem Holds.nil {s : Session} {m : KeyMap} (h : s.Holds m []) : s.typeahead = {} := h

theorem Holds.of_ne_nil {s : Session} {m : KeyMap} {held : List Key} (h : s.Holds m held)
    (hne : held ≠ []) : s.typeahead = { held, map := some m.name } := by
  rw [h, Typeahead.holding, if_neg hne]

theorem Holds.held {s : Session} {m : KeyMap} {held : List Key} (h : s.Holds m held) :
    s.typeahead.held = held := by
  rw [h, Typeahead.holding]
  split
  · next hnil => rw [hnil]
  · rfl

theorem Holds.output {s : Session} {m : KeyMap} {held : List Key} (h : s.Holds m held) :
    s.typeahead.output = [] := by
  rw [h, Typeahead.holding]
  split <;> rfl

/-- Keys go through the map `m` before they reach the current mode. -/
def Uses (s : Session) (m : KeyMap) : Prop :=
  ∃ mode name, s.currentMode? = some mode ∧ mode.keyMap? = some name ∧ s.keyMap name = m

theorem InInsert.uses {s : Session} (h : s.InInsert) {m : KeyMap} (hm : s.keyMap .insert = m) :
    s.Uses m := by
  obtain ⟨i, hi⟩ := h.mode
  exact ⟨.insert i, .insert, by rw [currentMode?, h.current]; exact hi, rfl, hm⟩

theorem Uses.keyMap_name {s : Session} {m : KeyMap} (h : s.Uses m) : s.keyMap m.name = m := by
  obtain ⟨_, name, -, -, rfl⟩ := h
  rw [name_keyMap]

end Session

namespace Run

open Session (Types)

theorem works_strokes : ∀ {sts : List Stroke} {r : Run}, r.aborted = false → r.session.InInsert →
    r.session.typeahead = {} → (∀ st ∈ sts, st.IsPlain) → ∃ r',
      r.Works (sts.map (.stroke · 0)) r' ∧ r'.session.typeahead = {} ∧
        r.session.Types (Stroke.chars sts) r'.session
  | [], r, _, h, ht, _ => ⟨r, works_nil r, ht, h, rfl⟩
  | st :: sts, r, ha, h, ht, hsts => by
    obtain ⟨hrec, hkey⟩ := hsts st List.mem_cons_self
    obtain ⟨c, hc⟩ := Option.isSome_iff_exists.mp hkey
    obtain ⟨hin, hed⟩ := Session.give_typing h hc
    have htypes : r.session.Types [c] (r.perform (.give st.key)).1.session := ⟨hin, hed⟩
    have htype : (r.perform (.give st.key)).1.session.typeahead = {} :=
      (r.session.typeahead_give st.key).trans ht
    obtain ⟨r', hr', ht', h'⟩ := works_strokes (r := (r.perform (.give st.key)).1) ha hin htype
      fun st hst => hsts st (List.mem_cons_of_mem _ hst)
    refine ⟨r', hr'.literal ha (by rw [ht]) hrec 0, ht', ?_⟩
    rw [Stroke.chars_cons hc]
    exact htypes.trans h'

/-- A stroke that is not to be mapped drives out the keys held back, and
follows what they come to. -/
theorem perform_of_holds {r : Run} (ha : r.aborted = false) {m : KeyMap} (h : r.session.Uses m)
    {held : List Key} (hholds : r.session.Holds m held) (hne : held ≠ []) {st : Stroke}
    (hst : st.recursive = false) (depth : Nat) :
    r.perform (.stroke st depth) =
      ({ r with session := { r.session with typeahead := {} } },
        (m.translation held ++ [st]).map (.stroke · depth)) := by
  have hending : r.session.ending = m.translation held := by
    unfold Session.ending Session.heldMap
    rw [hholds.of_ne_nil hne]
    show [] ++ (r.session.keyMap m.name).translation held = _
    rw [h.keyMap_name, List.nil_append]
  have hheld : r.session.typeahead.held ≠ [] := by
    rw [hholds.held]
    exact hne
  rw [perform_of_not_recursive ha hst, Session.pass_of_held_ne_nil hheld, Stroke.literal_key hst,
    hending, ← ha]

theorem works_strokes_of_holds {r : Run} {m : KeyMap} {held : List Key} {sts : List Stroke}
    (ha : r.aborted = false) (h : r.session.InInsert) (hm : r.session.keyMap .insert = m)
    (hholds : r.session.Holds m held) (hheld : ∀ st ∈ m.translation held, st.IsPlain)
    (hsts : ∀ st ∈ sts, st.IsPlain) (hne : sts ≠ []) : ∃ r',
      r.Works (sts.map (.stroke · 0)) r' ∧ r'.session.typeahead = {} ∧
        r.session.Types (Stroke.chars (m.translation held ++ sts)) r'.session := by
  by_cases hnil : held = []
  · subst hnil
    rw [KeyMap.translation_nil, List.nil_append]
    exact works_strokes ha h hholds.nil hsts
  · -- the first stroke comes behind what the keys held back come to
    obtain ⟨st, sts, rfl⟩ := List.exists_cons_of_ne_nil hne
    obtain ⟨hrec, -⟩ := hsts st List.mem_cons_self
    have hperform := perform_of_holds ha (h.uses hm) hholds hnil hrec 0
    have hall : ∀ st' ∈ m.translation held ++ st :: sts, st'.IsPlain :=
      List.forall_mem_append.mpr ⟨hheld, hsts⟩
    obtain ⟨r', hr', ht', h'⟩ := works_strokes
      (r := { r with session := { r.session with typeahead := {} } }) ha (h.typeahead {}) rfl hall
    refine ⟨r', ?_, ht', h'.inInsert, h'.editor⟩
    rw [List.append_cons, List.map_append] at hr'
    obtain ⟨r₁, hmore, hrest⟩ := hr'.of_append
    exact Works.cons (by rw [hperform]; exact hmore) hrest

end Run

namespace Session

/-! ### Keys -/

/-- Plain strokes that an onset leaves type their characters, behind those of
the keys that are held back. -/
theorem complete?_strokes {s : Session} (h : s.InInsert) {m : KeyMap}
    (hm : s.keyMap .insert = m) {held : List Key} {sts : List Stroke}
    (hheld : ∀ st ∈ m.translation held, st.IsPlain) (hsts : ∀ st ∈ sts, st.IsPlain)
    (hne : sts ≠ []) : ∃ room s' used,
      complete? { session := { s with typeahead := .holding m held }
                  tasks := sts.map (.stroke · 0) } room = some (s', used) ∧
        s'.typeahead = {} ∧ s.Types (Stroke.chars (m.translation held ++ sts)) s' := by
  obtain ⟨r', hr', ht', h'⟩ := Run.works_strokes_of_holds
    (r := { session := { s with typeahead := .holding m held } })
    rfl (h.typeahead _) hm rfl hheld hsts hne
  obtain ⟨room, used, hused⟩ := exists_complete?_of_works (o := {
    session := { s with typeahead := .holding m held }
    tasks := sts.map (.stroke · 0) }) hr'
  exact ⟨room, r'.session, used, hused, ht', h'.inInsert, h'.editor⟩

theorem Holds.heldFor {s : Session} {m : KeyMap} {held : List Key} (h : s.Holds m held)
    (hgrow : held = [] ∨ m.mayGrow held = true) : s.typeahead.HeldFor m := by
  by_cases hnil : held = []
  · subst hnil
    rw [h.nil]
    exact Or.inl ⟨rfl, rfl⟩
  · rw [h.of_ne_nil hnil]
    exact Or.inr ⟨hnil, hgrow.resolve_left hnil, rfl⟩

theorem arrive_of_keyMap?_eq_none {s : Session} {k : Key} {depth : Nat} (hdepth : depth ≤ s.maxDepth)
    (h : s.typeahead = {}) {mode : Mode} (hcur : s.currentMode? = some mode)
    (hmap : mode.keyMap? = none) : s.arrive k depth = { session := s, tasks := [.give k] } := by
  have hnone : s.typeahead.isHolding = false := by rw [h]; rfl
  simp [arrive, Nat.not_lt.mpr hdepth, hcur, hmap, hnone]

namespace Uses

variable {s : Session} {m : KeyMap} {k : Key} {depth : Nat}

theorem arrive (h : s.Uses m) (hdepth : depth ≤ s.maxDepth) (k : Key) :
    s.arrive k depth =
      match s.typeahead.press m k with
      | (t, .free) => { session := { s with typeahead := t }, tasks := [.give k] }
      | (t, _) =>
        { session := { s with typeahead := { t with output := [] } }
          tasks := t.output.map (.stroke · depth) } := by
  obtain ⟨mode, name, hmode, hmap, hm⟩ := h
  unfold Session.arrive
  rw [if_neg (Nat.not_lt.mpr hdepth), hmode]
  simp only [hmap, hm]
  rfl

theorem arrive_of_nothing (h : s.Uses m) (hdepth : depth ≤ s.maxDepth) (ht : s.typeahead = {})
    (hk : m.matching [k] = .nothing) :
    s.arrive k depth = { session := s, tasks := [.give k] } := by
  have hheld : s.typeahead.HeldFor m := by
    rw [ht]
    exact Or.inl ⟨rfl, rfl⟩
  have hfree : s.typeahead.press m k = (s.typeahead, .free) := by
    rw [Typeahead.press_eq hheld, if_pos (by rw [ht]; exact ⟨rfl, rfl, hk⟩)]
  rw [h.arrive hdepth, hfree]

theorem arrive_of_holds (h : s.Uses m) (hdepth : depth ≤ s.maxDepth) {held : List Key}
    (hholds : s.Holds m held) (hgrow : held = [] ∨ m.mayGrow held = true)
    (hk : ¬ (held = [] ∧ m.matching [k] = .nothing)) :
    s.arrive k depth =
      { session :=
          { s with typeahead := .holding m (Typeahead.settle m false (held ++ [k])).1 }
        tasks := (Typeahead.settle m false (held ++ [k])).2.map (.stroke · depth) } := by
  have hpress := Typeahead.press_eq (hholds.heldFor hgrow) k
  rw [hholds.held, hholds.output, if_neg fun hfree => hk ⟨hfree.1, hfree.2.2⟩] at hpress
  have hne := Typeahead.settleOn_ne_free { held := held ++ [k], map := some m.name } m false
  have hfst := Typeahead.settleOn_fst { held := held ++ [k], map := some m.name } m false
  rw [h.arrive hdepth, hpress]
  generalize Typeahead.settleOn { held := held ++ [k], map := some m.name } m false = r at hne hfst
  obtain ⟨t, fate⟩ := r
  simp only at hne hfst
  subst hfst
  have hhold : ∀ rest : List Key, Typeahead.holding m rest =
      { held := rest, map := if rest = [] then none else some m.name } := by
    intro rest
    unfold Typeahead.holding
    split
    · next hnil => rw [hnil]
    · rfl
  rw [hhold]
  cases fate with
  | free => exact absurd rfl hne
  | held => rfl
  | settled => rfl

end Uses

/-- **One key.** It types what it releases, and what is not released stays
held back. -/
theorem press?_typing {s : Session} (h : s.InInsert) {m : KeyMap} (hm : s.keyMap .insert = m)
    (hplain : m.Plain) {held : List Key} (hholds : s.Holds m held)
    (hgrow : held = [] ∨ m.mayGrow held = true) (hheld : ∀ j ∈ held, j.IsTyping) {k : Key}
    (hk : k.IsTyping) :
    ∃ room s' used, s.press? k room = some (s', used) ∧ s'.Holds m (m.release held k).1 ∧
      s.Types (Stroke.chars (m.release held k).2) s' := by
  have hpress : ∀ room, s.press? k room = complete? (s.arrive k 0) room := by
    intro room
    simp only [press?, h.current]
  simp only [hpress]
  by_cases hfree : held = [] ∧ m.matching [k] = .nothing
  · obtain ⟨rfl, hnothing⟩ := hfree
    obtain ⟨c, hc⟩ := Option.isSome_iff_exists.mp hk
    obtain ⟨hin, hed⟩ := give_typing h hc
    rw [(h.uses hm).arrive_of_nothing (Nat.zero_le _) hholds.nil hnothing,
      KeyMap.release_of_nothing hnothing]
    refine ⟨1, (s.give k).1, (s.give k).2, rfl, ?_, hin, ?_⟩
    · exact (s.typeahead_give k).trans hholds.nil
    · rw [hed, Stroke.chars_cons (c := c) hc]
      rfl
  · rw [(h.uses hm).arrive_of_holds (Nat.zero_le _) hholds hgrow hfree]
    by_cases hg : m.mayGrow (held ++ [k]) = true
    · rw [Typeahead.settle_of_mayGrow hg, KeyMap.release_of_mayGrow hg]
      exact
        ⟨0, { s with typeahead := .holding m (held ++ [k]) }, true, rfl, rfl, h.typeahead _, rfl⟩
    · rw [Bool.not_eq_true] at hg
      have hall : ∀ j ∈ held ++ [k], j.IsTyping :=
        List.forall_mem_append.mpr ⟨hheld, List.forall_mem_singleton.mpr hk⟩
      have hout := hplain.translation hall
      rw [KeyMap.translation_eq_settle] at hout
      obtain ⟨hsts, hrest⟩ := List.forall_mem_append.mp hout
      rw [KeyMap.release_of_not_mayGrow hg]
      have hne := hplain.settle_ne_nil (List.append_ne_nil_of_right_ne_nil held (by simp)) hg
      obtain ⟨room, s', used, hused, ht', h'⟩ := complete?_strokes h hm hrest hsts hne
      exact ⟨room, s', used, hused, ht', h'⟩

/-! ### Many keys -/

/-- Keys that are typed release some of what they come to in all, and the
keys held back then would release the rest. -/
theorem pressAll?_typing {m : KeyMap} (hplain : m.Plain) : ∀ {ks : List Key} {s : Session}
    {held : List Key}, s.InInsert → s.keyMap .insert = m → s.Holds m held →
    (held = [] ∨ m.mayGrow held = true) → (∀ j ∈ held, j.IsTyping) → (∀ k ∈ ks, k.IsTyping) →
    ∃ room s' used held' out, s.pressAll? ks room = some (s', used) ∧ s'.Holds m held' ∧
      (∀ j ∈ held', j.IsTyping) ∧ m.released held ks = out ++ m.translation held' ∧
      s.Types (Stroke.chars out) s'
  | [], s, held, h, _, hholds, _, hheld, _ =>
    ⟨0, s, [], held, [], rfl, hholds, hheld, rfl, h, rfl⟩
  | k :: ks, s, held, h, hm, hholds, hgrow, hheld, hks => by
    have hk := hks k List.mem_cons_self
    obtain ⟨n, s₁, used, hpress, hholds₁, h₁⟩ := press?_typing h hm hplain hholds hgrow hheld hk
    have hall : ∀ j ∈ held ++ [k], j.IsTyping :=
      List.forall_mem_append.mpr ⟨hheld, List.forall_mem_singleton.mpr hk⟩
    obtain ⟨n', s', rest, held', out, hrest, hholds', hheld', hout, h'⟩ :=
      pressAll?_typing hplain h₁.inInsert ((h₁.keyMap _).trans hm) hholds₁
        (m.mayGrow_release held k) (fun j hj => hall j (KeyMap.mem_held_release hj))
        fun j hj => hks j (List.mem_cons_of_mem _ hj)
    refine ⟨max n n', s', used :: rest, held', (m.release held k).2 ++ out, ?_, hholds', hheld',
      ?_, ?_⟩
    · exact pressAll?_cons (press?_of_le (Nat.le_max_left n n') hpress)
        (pressAll?_of_le (Nat.le_max_right n n') hrest)
    · rw [KeyMap.released, hout, List.append_assoc]
    · rw [Stroke.chars_append]
      exact h₁.trans h'

theorem timeout?_typing {s : Session} (h : s.InInsert) {m : KeyMap} (hm : s.keyMap .insert = m)
    (hplain : m.Plain) {held : List Key} (hholds : s.Holds m held)
    (hheld : ∀ j ∈ held, j.IsTyping) :
    ∃ room s' waited, s.timeout? room = some (s', waited) ∧ s'.typeahead = {} ∧
      s.Types (Stroke.chars (m.translation held)) s' := by
  by_cases hnil : held = []
  · subst hnil
    refine ⟨0, s, false, ?_, hholds.nil, h, ?_⟩
    · rw [timeout?, hholds.nil]
    · rw [KeyMap.translation_nil]
      rfl
  · have hname : m.name = .insert := hm ▸ s.name_keyMap .insert
    have hlapse : s.lapse .insert =
        { session := { s with typeahead := .holding m [] }
          tasks := (m.translation held).map (.stroke · 0) } := by
      unfold lapse
      rw [hm, hholds.of_ne_nil hnil]
      simp [Typeahead.flush, Typeahead.settleOn, Typeahead.settle_true, hnil, takeStrokes,
        Typeahead.take, Typeahead.holding]
    have hempty : ∀ st ∈ m.translation [], st.IsPlain := by
      rw [KeyMap.translation_nil]
      simp
    obtain ⟨room, s', used, hused, ht', h'⟩ := complete?_strokes h hm hempty
      (hplain.translation hheld) (hplain.translation_ne_nil hnil)
    rw [KeyMap.translation_nil, List.nil_append] at h'
    refine ⟨room, s', true, ?_, ht', h'⟩
    rw [timeout?, hholds.of_ne_nil hnil, hname]
    simp [hlapse, hused]

/-- Typing the keys one after the other, and then none for a while, inserts
the characters `cs` at the cursor, and nothing is held back in the end. -/
def Inserts (s : Session) (ks : List Key) (cs : List Char) : Prop :=
  ∃ room s₁ used s₂ waited, s.pressAll? ks room = some (s₁, used) ∧
    s₁.timeout? room = some (s₂, waited) ∧ s₂.typeahead = {} ∧
    s₂.editor.text = s.editor.text.take s.editor.cursor ++ cs ++ s.editor.text.drop s.editor.cursor

/-- **What is inserted is what the keys release.** -/
theorem inserts_iff {s : Session} (h : s.InInsert) (hnone : s.typeahead = {}) {m : KeyMap}
    (hm : s.keyMap .insert = m) (hplain : m.Plain) {ks : List Key} (hks : ∀ k ∈ ks, k.IsTyping)
    (cs : List Char) : s.Inserts ks cs ↔ cs = Stroke.chars (m.released [] ks) := by
  obtain ⟨n, s₁, used, held, out, hpress, hholds, hheld, hout, h₁⟩ :=
    pressAll?_typing hplain h hm (show s.Holds m [] from hnone) (Or.inl rfl) (by simp) hks
  obtain ⟨n', s₂, waited, htimeout, hnone₂, h₂⟩ :=
    timeout?_typing h₁.inInsert ((h₁.keyMap _).trans hm) hplain hholds hheld
  have htext := Typing.text_typeAll (Stroke.chars (m.released [] ks)) s.editor
  rw [hout, Stroke.chars_append, ← (h₁.trans h₂).editor, ← Stroke.chars_append, ← hout] at htext
  constructor
  · rintro ⟨room, s₁', used', s₂', waited', hpress', htimeout', -, htext'⟩
    -- on a stack that is large enough for both, both are the same
    have hpress₁ := pressAll?_of_le (Nat.le_max_left n room) hpress
    rw [pressAll?_of_le (Nat.le_max_right n room) hpress'] at hpress₁
    cases hpress₁
    have htimeout₁ := timeout?_of_le (Nat.le_max_left n' room) htimeout
    rw [timeout?_of_le (Nat.le_max_right n' room) htimeout'] at htimeout₁
    cases htimeout₁
    rw [htext'] at htext
    exact List.append_cancel_left (List.append_cancel_right htext)
  · rintro rfl
    exact ⟨max n n', s₁, used, s₂, waited, pressAll?_of_le (Nat.le_max_left n n') hpress,
      timeout?_of_le (Nat.le_max_right n n') htimeout, hnone₂, htext⟩

/-- **Keys insert their translation where none divides the keys held back.**
Whether the map allows for that is a matter of its left-hand sides: where it
does, there are right-hand sides and keys that insert something else. -/
theorem inserts_translation_iff_undivided {s : Session} (h : s.InInsert) (hnone : s.typeahead = {})
    (hplain : (s.keyMap .insert).Plain) :
    (∀ ks, (∀ k ∈ ks, k.IsTyping) → ∀ cs,
      s.Inserts ks cs ↔ cs = Stroke.chars ((s.keyMap .insert).released [] ks)) ∧
    (∀ ks, (∀ k ∈ ks, k.IsTyping) → (s.keyMap .insert).Undivided [] ks →
      s.Inserts ks (Stroke.chars ((s.keyMap .insert).translation ks))) ∧
    ((∀ s' : Session, s'.InInsert → s'.typeahead = {} → (s'.keyMap .insert).Plain →
        (s.keyMap .insert).SameLhs (s'.keyMap .insert) → ∀ ks, (∀ k ∈ ks, k.IsTyping) →
        s'.Inserts ks (Stroke.chars ((s'.keyMap .insert).translation ks))) ↔
      ∀ held k, (s.keyMap .insert).mayGrow held = true → k.IsTyping →
        ¬ (s.keyMap .insert).Divides held k) := by
  refine ⟨fun ks hks => inserts_iff h hnone rfl hplain hks, fun ks hks hno => ?_, ?_, ?_⟩
  · rw [inserts_iff h hnone rfl hplain hks, KeyMap.released_of_undivided hno, List.nil_append]
  · intro hall held k hg hk hd
    obtain ⟨ks, hks, hne⟩ := KeyMap.exists_released_ne_translation hplain hg hk hd .insert
      (j := .char 'x') rfl
    obtain ⟨s', h', hnone', hmap⟩ := h.exists_keyMap_eq
      (m := (s.keyMap .insert).uniform .insert ⟨[.char 'x'], false⟩) rfl
    have hplain' := hplain.uniform .insert (k := .char 'x') rfl
    have hsame := (s.keyMap .insert).sameLhs_uniform .insert ⟨[.char 'x'], false⟩
    rw [← hmap] at hne hplain' hsame
    have hins := hall s' h' (hnone'.trans hnone) hplain' hsame ks hks
    rw [inserts_iff h' (hnone'.trans hnone) rfl hplain' hks] at hins
    exact hne hins.symm
  · intro hno s' h' hnone' hplain' hsame ks hks
    have hundivided : (s'.keyMap .insert).Undivided [] ks :=
      KeyMap.undivided_of_forall
        (fun held k hg hk hd => hno held k (by rwa [hsame.mayGrow]) hk (hsame.divides.mpr hd))
        (Or.inl rfl) hks
    rw [inserts_iff h' hnone' rfl hplain' hks, KeyMap.released_of_undivided hundivided,
      List.nil_append]

/-- Insert mode, in which `ab` stands for `Z`. -/
def abbreviating : Session :=
  (standard
    { text := ['a', 'b', 'c']
      keyMaps := KeyMaps.standard.add .insert [.char 'a', .char 'b'] ⟨[.char 'Z'], false⟩
    }).changeMode ⟨.insert, []⟩

theorem inInsert_abbreviating : abbreviating.InInsert :=
  ⟨by decide +kernel, ⟨{ typedFrom := some 0 }, by decide +kernel⟩, by decide +kernel,
    by decide +kernel⟩

theorem plain_abbreviating : (abbreviating.keyMap .insert).Plain := by
  have hentries : (abbreviating.keyMap .insert).entries =
      [([.char 'a', .char 'b'], ⟨[.char 'Z'], false⟩)] := by decide +kernel
  constructor <;> rw [hentries] <;> simp [Key.IsTyping, Key.char?_char]

/-- Nothing divides the keys of `xab`. -/
theorem inserts_abbreviating_xab :
    abbreviating.InInsert ∧ abbreviating.typeahead = {} ∧ (abbreviating.keyMap .insert).Plain ∧
      abbreviating.Inserts [.char 'x', .char 'a', .char 'b'] ['x', 'Z'] := by
  have hnone : abbreviating.typeahead = {} := by decide +kernel
  have hall := inserts_translation_iff_undivided inInsert_abbreviating hnone plain_abbreviating
  refine ⟨inInsert_abbreviating, hnone, plain_abbreviating, ?_⟩
  exact (hall.1 _ (by simp [Key.IsTyping, Key.char?_char]) _).mpr (by decide +kernel)

/-- The second `a` divides the keys of `aab`: it is driven out before the `b`
that would complete it is typed. -/
theorem not_inserts_abbreviating_aab :
    Stroke.chars ((abbreviating.keyMap .insert).translation [.char 'a', .char 'a', .char 'b']) =
        ['a', 'Z'] ∧
      abbreviating.Inserts [.char 'a', .char 'a', .char 'b'] ['a', 'a', 'b'] ∧
      ¬ abbreviating.Inserts [.char 'a', .char 'a', .char 'b'] ['a', 'Z'] := by
  have hnone : abbreviating.typeahead = {} := by decide +kernel
  have hks : ∀ k ∈ [Key.char 'a', .char 'a', .char 'b'], k.IsTyping := by
    simp [Key.IsTyping, Key.char?_char]
  have hiff := inserts_iff inInsert_abbreviating hnone rfl plain_abbreviating hks
  refine ⟨by decide +kernel, ?_, ?_⟩
  · rw [hiff]
    decide +kernel
  · rw [hiff]
    decide +kernel

end Session
end Keywise
