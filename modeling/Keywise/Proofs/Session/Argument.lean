/-
# Arguments and the key map

Keys go through no map while Normal mode waits for an argument. That keeps the
argument as it was typed if the key that waits for it was given to the mode by
then (`Session.took_of_calls`). It may not have been: as the beginning of a
longer left-hand side it is held back, and when the argument shows that none
is meant both are matched against the map of Normal mode at once. An argument
that is a left-hand side, or begins one, then overtakes the key it is for
(`KeyMap.Overtakes`): it is replaced before the key is given, or it is held
back in turn and comes out in front of the key (`Session.Overtaken`).

Key definitions: `KeyMap.Unmapped`, `KeyMap.Overtakes`, `Session.Overtaken`.
Key theorems: `KeyMap.Unmapped.settle`, `Session.call?_of_held`,
`Session.took_of_calls`.
-/
import Keywise.Proofs.Mode.Argument
import Keywise.Proofs.Session.Calls
import Keywise.Proofs.Session.Given
import Keywise.Proofs.Session.Typing
import Keywise.Proofs.Session.Unfinished

namespace Keywise

/-! ### Two keys that are not mapped -/

namespace KeyMap

/-- No left-hand side begins the two keys, and they begin none. -/
structure Unmapped (m : KeyMap) (k j : Key) : Prop where
  not_begun : ∀ p ∈ m.entries, ¬ p.1 <+: [k, j]
  not_beginning : ∀ p ∈ m.entries, ¬ [k, j] <+: p.1

/-- The first key begins a longer left-hand side, and the second one is
another key that is a left-hand side or begins one. -/
structure Overtakes (m : KeyMap) (k j : Key) : Prop where
  grows : m.mayGrow [k] = true
  matched : m.matching [j] ≠ .nothing
  ne : j ≠ k

namespace Unmapped

variable {m : KeyMap} {k j : Key}

theorem get?_eq_none (h : m.Unmapped k j) : m.get? [k] = none := by
  rw [Option.eq_none_iff_forall_not_mem]
  intro e he
  exact h.not_begun ([k], e) ((m.mem_entries_iff [k] e).mpr he) (List.prefix_append [k] [j])

theorem translation_fst (h : m.Unmapped k j) : m.translation [k] = [.literal k] := by
  rw [translation_singleton, h.get?_eq_none]

theorem settle (h : m.Unmapped k j) :
    Typeahead.settle m false [k, j] =
      Typeahead.ahead [.literal k] (Typeahead.settle m false [j]) := by
  have hgrow : ¬ m.mayGrow [k, j] = true := by
    rw [mayGrow_iff]
    rintro ⟨p, hp, hk, -⟩
    exact h.not_beginning p hp hk
  have hnone : m.longest? [k, j] = none :=
    (m.longest?_eq_iff [k, j] none).mpr fun p hp hk => h.not_begun p hp hk
  rw [Typeahead.settle_cons, if_neg fun hg => hgrow hg.2, hnone]

theorem matching_fst (h : m.Unmapped k j) (hgrow : m.mayGrow [k] = false) :
    m.matching [k] = .nothing :=
  (m.matching_singleton_eq_nothing_iff k).mpr ⟨hgrow, h.get?_eq_none⟩

end Unmapped
end KeyMap

/-! ### Keys given as they are -/

namespace Run

variable {r : Run}

theorem perform_literal (ha : r.aborted = false) (h : r.session.typeahead.held = []) (k : Key)
    (depth : Nat) : r.perform (.stroke (.literal k) depth) = (r, [.give k]) := by
  rw [perform_of_not_recursive ha rfl, Session.pass_of_held_eq_nil h, ← ha]
  rfl

theorem carryOut?_literal (ha : r.aborted = false) (h : r.session.typeahead.held = []) (k : Key)
    (depth room : Nat) :
    carryOut? (room + 2) r (.stroke (.literal k) depth) = some (r.perform (.give k)).1 := by
  rw [carryOut?_succ, perform_literal ha h]
  rfl

theorem work?_two_literals (ha : r.aborted = false) (h : r.session.typeahead.held = []) (k j : Key)
    (depth room : Nat) :
    (r.work? (room + 2) [.stroke (.literal k) depth, .stroke (.literal j) depth]).map (·.session) =
      some ((r.session.give k).1.give j).1 := by
  have hheld : (r.perform (.give k)).1.session.typeahead.held = [] :=
    (congrArg Typeahead.held (r.session.typeahead_give k)).trans h
  rw [work?_cons, carryOut?_literal ha h, Option.bind_some, work?_cons,
    carryOut?_literal (r := (r.perform (.give k)).1) ha hheld]
  rfl

end Run

namespace Session

theorem call?_key_eq (s : Session) (k : Key) (room : Nat) :
    s.call? (.key k) room =
      ((s.arrive k 0).agenda.run.work? room (s.arrive k 0).tasks).map (·.session) :=
  (s.fst_press? k room).trans (fst_complete? _ room)

/-! ### A key held back -/

section

variable {s : Session} {m : KeyMap} {k j : Key}

theorem Uses.withTypeahead (h : s.Uses m) (t : Typeahead) : Uses { s with typeahead := t } m := h

theorem arrive_of_mayGrow (h : s.Uses m) (ht : s.typeahead = {}) (hgrow : m.mayGrow [k] = true) :
    s.arrive k 0 = { session := { s with typeahead := .holding m [k] }, tasks := [] } := by
  have hholds : s.Holds m [] := ht
  have hmatch : ¬ ([] = ([] : List Key) ∧ m.matching [k] = .nothing) := by
    rintro ⟨-, hnothing⟩
    rw [((m.matching_singleton_eq_nothing_iff k).mp hnothing).1] at hgrow
    cases hgrow
  rw [h.arrive_of_holds (Nat.zero_le _) hholds (Or.inl rfl) hmatch, List.nil_append,
    Typeahead.settle_of_mayGrow hgrow]
  rfl

theorem call?_of_mayGrow (h : s.Uses m) (ht : s.typeahead = {}) (hgrow : m.mayGrow [k] = true)
    (room : Nat) : s.call? (.key k) room = some { s with typeahead := .holding m [k] } := by
  rw [call?_key_eq, arrive_of_mayGrow h ht hgrow]
  rfl

/-- The key after it, with which it is no left-hand side, lets it out, and is
matched against the map before it is given. -/
theorem arrive_behind (h : s.Uses m) (hgrow : m.mayGrow [k] = true) (hun : m.Unmapped k j) :
    arrive { s with typeahead := .holding m [k] } j 0 =
      { session := { s with typeahead := .holding m (Typeahead.settle m false [j]).1 }
        tasks :=
          .stroke (.literal k) 0 :: (Typeahead.settle m false [j]).2.map (.stroke · 0) } := by
  have hholds : Holds { s with typeahead := .holding m [k] } m [k] := rfl
  have hmatch : ¬ ([k] = [] ∧ m.matching [j] = .nothing) := fun hnil => nomatch hnil.1
  rw [(h.withTypeahead _).arrive_of_holds (Nat.zero_le _) hholds (Or.inr hgrow) hmatch,
    List.singleton_append, hun.settle]
  rfl

/-- A key that comes up while the one typed after it is held back follows
it. -/
theorem perform_behind (h : s.Uses m) (ht : s.typeahead = {}) (k j : Key) :
    Run.perform { session := { s with typeahead := .holding m [j] } } (.stroke (.literal k) 0) =
      ({ session := s }, (m.translation [j] ++ [Stroke.literal k]).map (.stroke · 0)) := by
  have hholds : Holds { s with typeahead := .holding m [j] } m [j] := rfl
  have hliteral : (Stroke.literal k).recursive = false := rfl
  have hperform := Run.perform_of_holds (r := { session := { s with typeahead := .holding m [j] } })
    rfl (h.withTypeahead _) hholds (List.cons_ne_nil j []) hliteral 0
  rw [hperform]
  show (({ session := { s with typeahead := {} } } : Run), _) = _
  rw [withTypeahead_nil ht]

/-- Without an argument that overtakes it the key is given first, and then the
argument. -/
theorem call?_behind (h : s.Uses m) (ht : s.typeahead = {}) (hgrow : m.mayGrow [k] = true)
    (hun : m.Unmapped k j) (hno : ¬ m.Overtakes k j) {room : Nat} (hroom : 3 ≤ room) :
    call? { s with typeahead := .holding m [k] } (.key j) room = some ((s.give k).1.give j).1 := by
  obtain ⟨room, rfl⟩ : ∃ n, room = n + 3 := ⟨room - 3, by omega⟩
  have hheld : s.typeahead.held = [] := by rw [ht]
  rw [call?_key_eq, arrive_behind h hgrow hun]
  by_cases hnothing : m.matching [j] = .nothing
  · obtain ⟨hgrow', hget⟩ := (m.matching_singleton_eq_nothing_iff j).mp hnothing
    rw [Typeahead.settle_singleton hgrow', KeyMap.translation_singleton, hget]
    show (Run.work? { session := { s with typeahead := {} } } _ _).map _ = _
    rw [withTypeahead_nil ht]
    exact Run.work?_two_literals (r := { session := s }) rfl hheld k j 0 (room + 1)
  · -- the second key is the first one again: it comes out in front of it
    obtain rfl : j = k := by
      by_contra hne
      exact hno ⟨hgrow, hnothing, hne⟩
    have hperform := perform_behind h ht j j
    rw [hun.translation_fst] at hperform
    rw [Typeahead.settle_of_mayGrow hgrow]
    show (Run.work? { session := { s with typeahead := .holding m [j] } } (room + 3)
      [.stroke (.literal j) 0]).map _ = _
    rw [Run.work?_cons, Run.carryOut?_succ, hperform]
    show ((Run.work? { session := s } (room + 2) _).bind some).map _ = _
    rw [Option.bind_fun_some]
    exact Run.work?_two_literals (r := { session := s }) rfl hheld j j 0 room

/-! ### An argument that overtakes the key -/

/-- An argument that is mapped, and begins no longer left-hand side, is
replaced before the key is given. -/
theorem after_replaced (h : s.Uses m) (ht : s.typeahead = {}) (hgrow : m.mayGrow [k] = true)
    (hun : m.Unmapped k j) (hgrow' : m.mayGrow [j] = false) {e : Expansion}
    (hget : m.get? [j] = some e) :
    (arrive { s with typeahead := .holding m [k] } j 0).agenda.after 2 =
        ⟨{ session := (s.give k).1, used := (s.give k).2 }, e.strokes.map (.stroke · 0)⟩ ∧
      (arrive { s with typeahead := .holding m [k] } j 0).agenda.given 2 = [k] := by
  have hheld : s.typeahead.held = [] := by rw [ht]
  have hperform := Run.perform_literal (r := { session := s }) rfl hheld k 0
  have hagenda : (arrive { s with typeahead := .holding m [k] } j 0).agenda =
      ⟨{ session := s }, .stroke (.literal k) 0 :: e.strokes.map (.stroke · 0)⟩ := by
    rw [arrive_behind h hgrow hun, Typeahead.settle_singleton hgrow',
      KeyMap.translation_singleton, hget]
    show (⟨{ session := { s with typeahead := {} } }, _⟩ : Agenda) = _
    rw [withTypeahead_nil ht]
  have hnext : Agenda.next
        ⟨{ session := s }, .stroke (.literal k) 0 :: e.strokes.map (.stroke · 0)⟩ =
      ⟨{ session := s }, .give k :: e.strokes.map (.stroke · 0)⟩ := by
    unfold Agenda.next
    simp only [hperform, List.singleton_append]
  rw [hagenda, Agenda.after_succ, Agenda.given_succ, hnext]
  exact ⟨rfl, rfl⟩

/-- An argument that begins a longer left-hand side is held back in turn, and
comes out in front of the key. -/
theorem after_reordered (h : s.Uses m) (ht : s.typeahead = {}) (hgrow : m.mayGrow [k] = true)
    (hun : m.Unmapped k j) (hgrow' : m.mayGrow [j] = true) :
    (arrive { s with typeahead := .holding m [k] } j 0).agenda.after 1 =
      ⟨{ session := s }, (m.translation [j] ++ [Stroke.literal k]).map (.stroke · 0)⟩ := by
  rw [arrive_behind h hgrow hun, Typeahead.settle_of_mayGrow hgrow']
  show Agenda.next
    ⟨{ session := { s with typeahead := .holding m [j] } }, [.stroke (.literal k) 0]⟩ = _
  unfold Agenda.next
  simp only [perform_behind h ht, List.append_nil]

theorem given_stroke {r : Run} (ha : r.aborted = false) (ht : r.session.typeahead = {})
    {mode : Mode} (hcur : r.session.currentMode? = some mode) (hmap : mode.keyMap? = none)
    (st : Stroke) {depth : Nat} (hdepth : st.recursive = true → depth < r.session.maxDepth)
    (ts : List Task) : Agenda.given ⟨r, .stroke st depth :: ts⟩ 2 = [st.key] := by
  have hperform : (r.perform (.stroke st depth)).2 = [.give st.key] := by
    by_cases hrec : st.recursive = true
    · rw [Run.perform_of_recursive ha hrec, arrive_of_keyMap?_eq_none (hdepth hrec) ht hcur hmap]
    · have hheld : r.session.typeahead.held = [] := by rw [ht]
      rw [Run.perform_of_not_recursive ha (Bool.not_eq_true _ ▸ hrec), pass_of_held_eq_nil hheld]
  show [] ++ (Agenda.gives ⟨_, (r.perform (.stroke st depth)).2 ++ ts⟩ ++ []) = [st.key]
  rw [hperform]
  rfl

/-- What becomes of a key `k` that is held back, and an argument `j` that
overtakes it. -/
structure Overtaken (s : Session) (m : KeyMap) (k j : Key) : Prop where
  held : ∀ room, s.call? (.key k) room = some { s with typeahead := .holding m [k] }
  replaced : ∀ e, m.mayGrow [j] = false → m.get? [j] = some e → ∃ used,
    (arrive { s with typeahead := .holding m [k] } j 0).agenda.after 2 =
      ⟨{ session := (s.give k).1, used }, e.strokes.map (.stroke · 0)⟩
  /-- The argument of the key is then the first one of those the mapping stands
  for. -/
  argument : ∀ e j' js, m.mayGrow [j] = false → m.get? [j] = some e → e.keys = j' :: js →
    (e.recursive = true → 0 < s.maxDepth) →
    (arrive { s with typeahead := .holding m [k] } j 0).agenda.given 4 = [k, j']
  reordered : m.mayGrow [j] = true →
    (arrive { s with typeahead := .holding m [k] } j 0).agenda.after 1 =
      ⟨{ session := s }, (m.translation [j] ++ [Stroke.literal k]).map (.stroke · 0)⟩

theorem overtaken (h : s.Uses m) (ht : s.typeahead = {}) (hgrow : m.mayGrow [k] = true)
    (hun : m.Unmapped k j) {mode : Mode} (hcur : (s.give k).1.currentMode? = some mode)
    (hmap : mode.keyMap? = none) : s.Overtaken m k j where
  held := call?_of_mayGrow h ht hgrow
  replaced _ hgrow' hget := ⟨_, (after_replaced h ht hgrow hun hgrow' hget).1⟩
  argument e j' js hgrow' hget hkeys hdepth := by
    obtain ⟨hafter, hgiven⟩ := after_replaced h ht hgrow hun hgrow' hget
    have hstrokes : e.strokes = ⟨j', e.recursive⟩ :: js.map fun j => ⟨j, e.recursive⟩ := by
      rw [Expansion.strokes, hkeys]
      rfl
    have hdepth' : e.recursive = true → 0 < (s.give k).1.maxDepth := by
      rw [s.maxDepth_give k]
      exact hdepth
    have hstroke := given_stroke (r := { session := (s.give k).1, used := (s.give k).2 }) rfl
      ((s.typeahead_give k).trans ht) hcur hmap ⟨j', e.recursive⟩ hdepth'
      ((js.map fun j => (⟨j, e.recursive⟩ : Stroke)).map (.stroke · 0))
    rw [Agenda.given_add _ 2 2, hafter, hgiven, hstrokes]
    exact congrArg ([k] ++ ·) hstroke
  reordered := after_reordered h ht hgrow hun

end

/-! ### Arguments -/

theorem At.took_give {s : Session} {a : ArgumentKey} {e : Editor} (h : s.At (.normal a.waiting) e)
    (he : e.Served) (c : Char) :
    ∃ n' e', (s.give (.char c)).1.At (.normal n') e' ∧ a.Took c e n' e' := by
  obtain ⟨htook, hedited⟩ := a.took_handle c e
  obtain ⟨m', e', hsettles, hat⟩ := h.give_of_asks he (Mode.asks_normal a.waiting e (.char c))
  cases hsettles with
  | stays _ => exact ⟨_, _, hat, htook⟩
  | goes hrequests _ _ _ _ =>
    have hnone : (a.waiting.handle e (.char c)).2.1.requests = [] := by
      rw [hedited.requests, he.requests]
      rfl
    have hone := hnone.symm.trans hrequests
    cases hone

theorem calls?_timeout {s : Session} (h : s.typeahead = {}) (room : Nat) :
    s.calls? [.timeout] room = some s := by
  have htimeout : s.timeout? room = some (s, false) := by rw [timeout?, h]
  rw [calls?, call?, htimeout]
  rfl

/-- Without an argument that overtakes it the key is given, then the argument,
and nothing is held back. -/
theorem calls?_argument {s : Session} {e : Editor} (h : s.At (.normal .idle) e) (he : e.Served)
    (ht : s.typeahead = {}) {a : ArgumentKey} {j : Key}
    (hun : (s.keyMap .normal).Unmapped (.char a.char) j)
    (hno : ¬ (s.keyMap .normal).Overtakes (.char a.char) j) {room : Nat} (hroom : 3 ≤ room) :
    s.calls? [.key (.char a.char), .key j, .timeout] room =
      some ((s.give (.char a.char)).1.give j).1 := by
  have huses : s.Uses (s.keyMap .normal) := ⟨.normal .idle, .normal, h.current, rfl, rfl⟩
  have hat := h.give_of_extends he a.extends_waiting
  have ht₁ : (s.give (.char a.char)).1.typeahead = {} := (s.typeahead_give _).trans ht
  have ht₂ : ((s.give (.char a.char)).1.give j).1.typeahead = {} :=
    (typeahead_give _ _).trans ht₁
  by_cases hgrow : (s.keyMap .normal).mayGrow [.char a.char] = true
  · rw [calls?, call?_of_mayGrow huses ht hgrow, Option.bind_some, calls?,
      call?_behind huses ht hgrow hun hno hroom, Option.bind_some, calls?_timeout ht₂]
  · have hpos : 0 < room := by omega
    have hcur : s.current.isSome := by rw [(current_of_currentMode? h.current).1]; rfl
    have hcur₁ : (s.give (.char a.char)).1.current.isSome := by
      rw [(current_of_currentMode? hat.current).1]
      rfl
    have hfree := huses.arrive_of_nothing (Nat.zero_le _) ht
      (hun.matching_fst (Bool.not_eq_true _ ▸ hgrow))
    have hstraight := arrive_of_keyMap?_eq_none (k := j) (Nat.zero_le _) ht₁ hat.current
      a.keyMap?_waiting
    rw [calls?_key hcur hfree hpos, calls?_key hcur₁ hstraight hpos, calls?_timeout ht₂]

/-- **Arguments are taken as they are typed** in an idle Normal mode in which
nothing is held back, unless they overtake the key they are for. -/
theorem took_of_calls {s : Session} {e : Editor} (h : s.At (.normal .idle) e) (he : e.Served)
    (ht : s.typeahead = {}) {a : ArgumentKey} {c : Char}
    (hun : (s.keyMap .normal).Unmapped (.char a.char) (.char c)) :
    (¬ (s.keyMap .normal).Overtakes (.char a.char) (.char c) → ∀ room, 3 ≤ room → ∃ s' n' e',
      s.calls? [.key (.char a.char), .key (.char c), .timeout] room = some s' ∧
        s'.typeahead = {} ∧ s'.At (.normal n') e' ∧ a.Took c e n' e') ∧
    ((s.keyMap .normal).Overtakes (.char a.char) (.char c) →
      s.Overtaken (s.keyMap .normal) (.char a.char) (.char c)) := by
  have hat := h.give_of_extends he a.extends_waiting
  constructor
  · intro hno room hroom
    obtain ⟨n', e', hat', htook⟩ := hat.took_give he c
    have ht' : ((s.give (.char a.char)).1.give (.char c)).1.typeahead = {} :=
      (typeahead_give _ _).trans ((typeahead_give _ _).trans ht)
    exact ⟨_, n', e', calls?_argument h he ht hun hno hroom, ht', hat', htook⟩
  · intro hover
    have huses : s.Uses (s.keyMap .normal) := ⟨.normal .idle, .normal, h.current, rfl, rfl⟩
    exact overtaken huses ht hover.grows hun hat.current a.keyMap?_waiting

/-- A session in which `f` begins a mapping, and `b` may stand for `l`. -/
def finding (mapped : Bool) : Session :=
  let ms := KeyMaps.standard.add .normal [.char 'f', .char 'x'] ⟨[.char 'j'], false⟩
  standard
    { text := ['a', ' ', 'b', ' ', 'l']
      keyMaps := if mapped then ms.add .normal [.char 'b'] ⟨[.char 'l'], false⟩ else ms }

/-- The key `f` is held back, and `b` is found if it is not mapped. If it is,
`f` is given `l`. -/
theorem took_of_finding :
    (∃ s', (finding false).calls? [.key (.char 'f'), .key (.char 'b'), .timeout] = some s' ∧
      s'.editor.registers.lastFind = some ⟨'b', false, false⟩) ∧
    (arrive { finding true with
        typeahead := .holding ((finding true).keyMap .normal) [.char 'f'] }
      (.char 'b') 0).agenda.given 4 = [.char 'f', .char 'l'] := by
  have hat : ∀ mapped, (finding mapped).At (.normal .idle) (finding mapped).editor :=
    fun mapped => ⟨rfl, rfl, rfl⟩
  have hserved : ∀ mapped, (finding mapped).editor.Served := fun mapped => ⟨rfl, rfl⟩
  have hnone : ∀ mapped, (finding mapped).typeahead = {} := fun mapped => rfl
  have hun : ∀ mapped, ((finding mapped).keyMap .normal).Unmapped
      (.char (ArgumentKey.find false false).char) (.char 'b') := by
    intro mapped
    cases mapped
    · exact ⟨by decide +kernel, by decide +kernel⟩
    · exact ⟨by decide +kernel, by decide +kernel⟩
  have hno : ((finding false).keyMap .normal).matching [.char 'b'] = .nothing := by decide +kernel
  have hover : ((finding true).keyMap .normal).Overtakes (.char 'f') (.char 'b') :=
    ⟨by decide +kernel, by decide +kernel, by decide⟩
  constructor
  · obtain ⟨s', n', e', hcalls, -, hat', -, hlast⟩ :=
      (took_of_calls (hat false) (hserved false) (hnone false) (hun false)).1
        (fun h => h.matched hno) stackRoom (by decide)
    obtain rfl := hat'.editor
    exact ⟨s', hcalls, hlast⟩
  · have hovertaken :=
      (took_of_calls (hat true) (hserved true) (hnone true) (hun true)).2 hover
    exact hovertaken.argument ⟨[.char 'l'], false⟩ (.char 'l') [] (by decide +kernel)
      (by decide +kernel) rfl nofun

/-- **An argument may be mapped**: no left-hand side begins `fb`, and `fb`
begins none, but what is found is `l`. -/
theorem not_took_of_overtaking :
    ((finding true).keyMap .normal).Unmapped (.char 'f') (.char 'b') ∧
      ∃ s', (finding true).calls? [.key (.char 'f'), .key (.char 'b'), .timeout] = some s' ∧
        s'.editor.registers.lastFind = some ⟨'l', false, false⟩ ∧
        ∀ n', ¬ ArgumentKey.Took (.find false false) 'b' (finding true).editor n' s'.editor := by
  have hview : ((finding true).calls?
      [.key (.char 'f'), .key (.char 'b'), .timeout]).map (·.editor.registers.lastFind) =
        some (some ⟨'l', false, false⟩) := by decide +kernel
  obtain ⟨s', hcalls, hlast⟩ := Option.map_eq_some_iff.mp hview
  refine ⟨⟨by decide +kernel, by decide +kernel⟩, s', hcalls, hlast, ?_⟩
  rintro n' ⟨-, htook⟩
  rw [hlast] at htook
  exact absurd htook (by decide)

end Session
end Keywise
