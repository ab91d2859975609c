/-
# One key given to the current mode

A session with the modes an editor has is known, as far as the modes are
concerned, by the current one and the editor (`Session.At`). A key given to
it is handled by the current mode, and that is all if nothing is asked for;
otherwise another mode is gone over to (`Session.At.give_of_asks`). From the
mode that completes a line a key may go on to Insert mode, and then the same
holds there (`Session.At.give_of_resume`). So what is to hold of the current
mode and the editor after every key need only be shown of a key that is
handled and of a change of mode (`Session.At.give`).

Where the mode asked for is known, so is all of the session after the key,
whatever modes it has (`Session.give_of_served`, `Session.give_of_request`).

Key definitions: `Session.At`, `Mode.goTo`, `Session.goneTo`, `Mode.Settles`,
`Mode.Keeps`.
Key theorems: `Session.changeMode_eq`, `Session.At.hand`, `Session.At.changeMode`,
`Session.At.changeMode_cases`, `Session.give_of_served`, `Session.give_of_request`,
`Session.At.give_of_asks`, `Session.At.give_of_resume`, `Session.At.give`.
-/
import Keywise.Proofs.Mode.Asking
import Keywise.Proofs.Session.Work

namespace Keywise

/-! ### Going from mode to mode -/

namespace Editor

/-- The editor with the name of a mode shown. -/
def shown (e : Editor) (display : String) : Editor :=
  { e with screen := e.screen.showMode display }

/-- Nothing that was asked for waits. -/
structure Served (e : Editor) : Prop where
  requests : e.requests = []
  replays : e.replays = []

/-- The editor with nothing asked for. -/
def withoutRequests (e : Editor) : Editor := { e with requests := [] }

theorem Served.edited {e e' : Editor} (h : e.Served) (hedited : Edited [] e e') : e'.Served :=
  ⟨by rw [hedited.requests, h.requests, List.append_nil], hedited.replays.trans h.replays⟩

theorem Served.withoutRequests_request {e : Editor} (h : e.Served) (name : ModeName)
    (args : List ModeArg) : (e.request name args).withoutRequests = e := by
  show ({ e with requests := [] } : Editor) = e
  rw [← h.requests]

theorem Edited.eq_request {e e' : Editor} {name : ModeName} {args : List ModeArg}
    (h : Edited [⟨name, args⟩] e e') (he : e.Served) :
    e' = e'.withoutRequests.request name args ∧ e'.withoutRequests.Served := by
  have hone : e'.requests = [⟨name, args⟩] := by
    rw [h.requests, he.requests, List.nil_append]
  refine ⟨?_, rfl, h.replays.trans he.replays⟩
  show e' = { e' with requests := [⟨name, args⟩] }
  rw [← hone]

theorem Served.shown {e : Editor} (h : e.Served) (display : String) : (e.shown display).Served :=
  ⟨h.requests, h.replays⟩

end Editor

namespace Mode

theorem fresh_eq_of_name_eq {m m' : Mode} (hm : m.IsStandard) (hm' : m'.IsStandard)
    (h : m.name = m'.name) : m.fresh = m'.fresh := by
  have hinj : ∀ a ∈ standard, ∀ b ∈ standard, a.name = b.name → a = b := by decide
  refine hinj _ hm _ hm' ?_
  rw [name_fresh, name_fresh, h]

theorem isStandard_insert (i : Insert) : (insert i).IsStandard := by
  have hstd : (insert {}).IsStandard := by decide
  exact hstd

theorem IsStandard.name_mem {m : Mode} (hm : m.IsStandard) : m.name ∈ names := by
  rw [← name_fresh]
  exact List.mem_map_of_mem hm

theorem IsStandard.handle {m : Mode} (hm : m.IsStandard) (e : Editor) (k : Key) :
    (m.handle e k).1.IsStandard := by
  unfold IsStandard
  rw [fresh_handle]
  exact hm

theorem IsStandard.leave {m : Mode} (hm : m.IsStandard) (e : Editor) :
    (m.leave e).1.IsStandard := by
  unfold IsStandard
  rw [fresh_leave]
  exact hm

theorem IsStandard.enter {m : Mode} (hm : m.IsStandard) (e : Editor) (args : List ModeArg) :
    (m.enter e args).1.IsStandard := by
  unfold IsStandard
  rw [fresh_enter]
  exact hm

theorem name_handle (m : Mode) (e : Editor) (k : Key) : (m.handle e k).1.name = m.name := by
  rw [← name_fresh, fresh_handle, name_fresh]

theorem name_leave (m : Mode) (e : Editor) : (m.leave e).1.name = m.name := by
  rw [← name_fresh, fresh_leave, name_fresh]

theorem name_enter (m : Mode) (e : Editor) (args : List ModeArg) :
    (m.enter e args).1.name = m.name := by
  rw [← name_fresh, fresh_enter, name_fresh]

/-- A mode is told by its name, but for what it keeps from key to key. -/
theorem IsStandard.eq_normal {m : Mode} (hm : m.IsStandard) (h : m.name = .normal) :
    ∃ s, m = .normal s := by
  have hstd : (normal .idle).IsStandard := by decide
  have hfresh := fresh_eq_of_name_eq hm hstd h
  cases m with
  | normal s => exact ⟨s, rfl⟩
  | _ => cases hfresh

theorem IsStandard.eq_insert {m : Mode} (hm : m.IsStandard) (h : m.name = .insert) :
    ∃ i, m = .insert i := by
  have hfresh := fresh_eq_of_name_eq hm (isStandard_insert {}) h
  cases m with
  | insert i => exact ⟨i, rfl⟩
  | _ => cases hfresh

theorem IsStandard.eq_command {m : Mode} (hm : m.IsStandard) (h : m.name = .command) :
    ∃ p, m = .command p := by
  have hstd : (command {}).IsStandard := by decide
  have hfresh := fresh_eq_of_name_eq hm hstd h
  cases m with
  | command p => exact ⟨p, rfl⟩
  | _ => cases hfresh

theorem IsStandard.eq_insertExpand {m : Mode} (hm : m.IsStandard) (h : m.name = .insertExpand) :
    ∃ c, m = .insertExpand c := by
  have hstd : (insertExpand {}).IsStandard := by decide
  have hfresh := fresh_eq_of_name_eq hm hstd h
  cases m with
  | insertExpand c => exact ⟨c, rfl⟩
  | _ => cases hfresh

theorem IsStandard.eq_linewiseVisual {m : Mode} (hm : m.IsStandard)
    (h : m.name = .linewiseVisual) : ∃ v, m = .visual v ∧ v.kind = .lines := by
  cases m with
  | visual v =>
    refine ⟨v, rfl, ?_⟩
    cases hkind : v.kind with
    | lines => rfl
    | characters => simp [name, hkind] at h
  | observer o => exact absurd hm (not_isStandard_observer o)
  | _ => cases h

theorem asks_of_ne {m : Mode} (hm : m.IsStandard) (hne : m.name ≠ .insertExpand) (e : Editor)
    (k : Key) : Asks m.name e (m.handle e k).2.1 :=
  (handle_asks hm e k).resolve_right fun h => hne h.1

/-- Only a host's own mode can fail to be entered. -/
theorem enter_eq_none {m : Mode} (hm : m.IsStandard) (e : Editor) (args : List ModeArg) :
    (m.enter e args).2.2 = none := by
  cases m with
  | observer o => exact absurd hm (not_isStandard_observer o)
  | _ => rfl

/-- Goes over from one mode to another. -/
def goTo (m m' : Mode) (e : Editor) (args : List ModeArg) : Mode × Editor :=
  ((m'.enter (m.leave e).2 args).1, (m'.enter (m.leave e).2 args).2.1.shown m'.display)

theorem served_goTo {e : Editor} (h : e.Served) (m m' : Mode) (args : List ModeArg) :
    (m.goTo m' e args).2.Served := by
  have hleave : (m.leave e).2.Served := by cases m <;> exact ⟨h.requests, h.replays⟩
  have henter : (m'.enter (m.leave e).2 args).2.1.Served := by
    cases m' <;> exact ⟨hleave.requests, hleave.replays⟩
  exact henter.shown _

/-- What becomes of mode `m` and an editor in which another mode than `own` is
asked for at most, once that is done. -/
inductive Settles (own : ModeName) (m : Mode) (e : Editor) : Mode → Editor → Prop
  | stays : e.Served → Settles own m e m e
  | goes {r : ModeRequest} {m' : Mode} : e.requests = [r] → e.replays = [] → r.name ≠ own →
      m'.name = r.name → m'.IsStandard →
      Settles own m e (m.goTo m' e.withoutRequests r.args).1
        (m.goTo m' e.withoutRequests r.args).2

theorem Settles.served {own : ModeName} {m m' : Mode} {e e' : Editor}
    (h : Settles own m e m' e') : e'.Served := by
  cases h with
  | stays he => exact he
  | goes hrequests hreplays _ _ _ =>
    have hserved : e.withoutRequests.Served := ⟨rfl, hreplays⟩
    exact served_goTo hserved _ _ _

/-- A key that mode `m` handles in editor `e` leaves `P` true of the mode and
the editor, whether the mode stays or another one is gone over to. -/
def Keeps (P : Mode → Editor → Prop) (m : Mode) (e : Editor) (k : Key) : Prop :=
  ∀ m' e', Settles m.name (m.handle e k).1 (m.handle e k).2.1 m' e' → P m' e'

end Mode

namespace Session

/-! ### Where a session is -/

/-- The session has the modes an editor has, `m` is the current one and `e`
the editor. -/
structure At (s : Session) (m : Mode) (e : Editor) : Prop where
  modes : s.modes.map Mode.fresh = Mode.standard
  current : s.currentMode? = some m
  editor : s.editor = e

theorem mem_of_mode? {s : Session} {name : ModeName} {m : Mode} (h : s.mode? name = some m) :
    m ∈ s.modes ∧ m.name = name :=
  ⟨List.mem_of_find?_eq_some h, by simpa using List.find?_some h⟩

theorem current_of_currentMode? {s : Session} {m : Mode} (h : s.currentMode? = some m) :
    s.current = some m.name ∧ s.mode? m.name = some m := by
  unfold currentMode? at h
  obtain ⟨name, hcur, hmode⟩ := Option.bind_eq_some_iff.mp h
  rw [(mem_of_mode? hmode).2]
  exact ⟨hcur, hmode⟩

theorem isSome_current_of_currentMode? {s : Session} {m : Mode} (h : s.currentMode? = some m) :
    s.current.isSome := by
  rw [(current_of_currentMode? h).1]
  rfl

theorem currentMode?_putMode {s : Session} {m m' : Mode} (h : s.currentMode? = some m)
    (hname : m'.name = m.name) : (s.putMode m').currentMode? = some m' := by
  obtain ⟨hcur, hmode⟩ := current_of_currentMode? h
  have hcur' : (s.putMode m').current = some m'.name := hcur.trans (by rw [hname])
  rw [currentMode?, hcur', Option.bind_some]
  exact mode?_putMode (hname ▸ hmode)

theorem isStandard_of_mem {s : Session} (hs : s.modes.map Mode.fresh = Mode.standard) {m : Mode}
    (h : m ∈ s.modes) : m.IsStandard := by
  unfold Mode.IsStandard
  rw [← hs]
  exact List.mem_map_of_mem h

theorem exists_mode? {s : Session} (hs : s.modes.map Mode.fresh = Mode.standard)
    {name : ModeName} (h : name ∈ Mode.names) : ∃ m, s.mode? name = some m := by
  unfold Mode.names at h
  rw [← hs, List.map_map] at h
  obtain ⟨m, hm, hname⟩ := List.mem_map.mp h
  have hsome : (s.mode? name).isSome = true := by
    unfold mode?
    rw [List.find?_isSome]
    refine ⟨m, hm, ?_⟩
    rw [← hname]
    simp [Mode.name_fresh]
  exact Option.isSome_iff_exists.mp hsome

theorem note_of_isStandard (s : Session) {m : Mode} (hm : m.IsStandard) (n : Notice) :
    s.note m n = s := by
  cases m with
  | observer o => exact absurd hm (Mode.not_isStandard_observer o)
  | _ => rfl

theorem map_fresh_putMode {s : Session} (hs : s.modes.map Mode.fresh = Mode.standard) {m : Mode}
    (hm : m.IsStandard) : (s.putMode m).modes.map Mode.fresh = Mode.standard := by
  rw [← hs]
  unfold putMode
  rw [List.map_map]
  refine List.map_congr_left fun m' hm' => ?_
  simp only [Function.comp_apply]
  split
  · next hname => exact (Mode.fresh_eq_of_name_eq (isStandard_of_mem hs hm') hm hname).symm
  · rfl

theorem mode?_putMode_of_ne {s : Session} {m : Mode} {name : ModeName} (h : name ≠ m.name) :
    (s.putMode m).mode? name = s.mode? name := by
  unfold mode? putMode
  induction s.modes with
  | nil => rfl
  | cons a ms ih =>
    rw [List.map_cons, List.find?_cons, List.find?_cons]
    by_cases ha : a.name = m.name
    · have hm : (m.name == name) = false := beq_false_of_ne (Ne.symm h)
      have ha' : (a.name == name) = false := by rw [ha, hm]
      rw [if_pos ha, hm, ha']
      exact ih
    · rw [if_neg ha]
      cases a.name == name
      · exact ih
      · rfl

theorem putMode_putMode (s : Session) {m m' : Mode} (h : m.name = m'.name) :
    (s.putMode m).putMode m' = s.putMode m' := by
  have hmap : ∀ x ∈ s.modes, (if (if x.name = m.name then m else x).name = m'.name then m'
      else if x.name = m.name then m else x) = if x.name = m'.name then m' else x := by
    intro x _
    by_cases hx : x.name = m.name
    · rw [if_pos hx, if_pos h, if_pos (hx.trans h)]
    · rw [if_neg hx]
  unfold putMode
  simp only [List.map_map]
  exact congrArg (fun ms => { s with modes := ms }) (List.map_congr_left hmap)

theorem hand_eq {s : Session} {m : Mode} (h : s.currentMode? = some m) (hm : m.IsStandard)
    (k : Key) : (s.hand k).1 =
      ({ s with editor := (m.handle s.editor k).2.1 } : Session).putMode
        (m.handle s.editor k).1 := by
  unfold hand
  rw [h]
  exact note_of_isStandard _ hm _

theorem leaveCurrent_eq {s : Session} {m : Mode} (h : s.currentMode? = some m)
    (hm : m.IsStandard) : s.leaveCurrent =
      ({ s with editor := (m.leave s.editor).2 } : Session).putMode (m.leave s.editor).1 := by
  unfold leaveCurrent
  rw [h]
  exact note_of_isStandard _ hm _

theorem enterMode_eq (s : Session) {m : Mode} (hm : m.IsStandard) (args : List ModeArg) :
    s.enterMode m args = ({ s with
      editor := (m.enter s.editor args).2.1
      current := some m.name } : Session).putMode (m.enter s.editor args).1 := by
  unfold enterMode
  simp only [Mode.enter_eq_none hm]
  exact note_of_isStandard _ hm _

/-- The session when mode `m'` has been gone over to from mode `m`. -/
def goneTo (s : Session) (m m' : Mode) (e : Editor) (args : List ModeArg) : Session :=
  (({ s with editor := (m.goTo m' e args).2, current := some m'.name } : Session).putMode
    (m.leave e).1).putMode (m.goTo m' e args).1

/-- **All of a change of mode**, whatever modes there are. -/
theorem changeMode_eq {s : Session} {m m' : Mode} {r : ModeRequest}
    (h : s.currentMode? = some m) (hm : m.IsStandard) (hmode : s.mode? r.name = some m')
    (hm' : m'.IsStandard) (hne : r.name ≠ m.name) :
    s.changeMode r = s.goneTo m m' s.editor r.args := by
  obtain ⟨hcur, -⟩ := current_of_currentMode? h
  have hother : s.current ≠ some m'.name := by
    rw [hcur, (mem_of_mode? hmode).2]
    exact fun heq => hne (Option.some.inj heq).symm
  unfold changeMode
  rw [hmode]
  simp only [if_neg hother, leaveCurrent_eq h hm, enterMode_eq _ hm']
  rfl

section

variable {s : Session} {m m' : Mode} (e : Editor) (args : List ModeArg)

theorem currentMode?_goneTo (hm' : s.mode? m'.name = some m') (hne : m'.name ≠ m.name) :
    (s.goneTo m m' e args).currentMode? = some (m.goTo m' e args).1 := by
  have hname : (m.goTo m' e args).1.name = m'.name := m'.name_enter _ _
  have hcur : (s.goneTo m m' e args).current = some (m.goTo m' e args).1.name := by
    rw [hname]
    rfl
  have hleft : (({ s with editor := (m.goTo m' e args).2, current := some m'.name } :
      Session).putMode (m.leave e).1).mode? (m.goTo m' e args).1.name = some m' := by
    rw [hname, mode?_putMode_of_ne (by rw [Mode.name_leave]; exact hne)]
    exact hm'
  rw [currentMode?, hcur, Option.bind_some]
  exact mode?_putMode hleft

theorem mode?_goneTo {name : ModeName} (h : name ≠ m.name) (h' : name ≠ m'.name) :
    (s.goneTo m m' e args).mode? name = s.mode? name := by
  have hname : (m.goTo m' e args).1.name = m'.name := m'.name_enter _ _
  rw [goneTo, mode?_putMode_of_ne (by rw [hname]; exact h'),
    mode?_putMode_of_ne (by rw [Mode.name_leave]; exact h)]
  rfl

end

namespace At

variable {s : Session} {m : Mode} {e : Editor}

theorem isStandard (h : s.At m e) : m.IsStandard :=
  isStandard_of_mem h.modes (mem_of_mode? (current_of_currentMode? h.current).2).1

theorem typed (h : s.At m e) (t : Typeahead) : At { s with typeahead := t } m e :=
  ⟨h.modes, h.current, h.editor⟩

theorem withEditor (h : s.At m e) (e' : Editor) : At { s with editor := e' } m e' :=
  ⟨h.modes, h.current, rfl⟩

theorem putMode (h : s.At m e) {m' : Mode} (hm : m'.IsStandard) (hname : m'.name = m.name) :
    (s.putMode m').At m' e :=
  ⟨map_fresh_putMode h.modes hm, currentMode?_putMode h.current hname, h.editor⟩

/-- **A key that is handed over** is handled by the current mode. -/
theorem hand (h : s.At m e) (k : Key) :
    (s.hand k).1.At (m.handle e k).1 (m.handle e k).2.1 := by
  rw [hand_eq h.current h.isStandard, h.editor]
  exact (h.withEditor _).putMode (h.isStandard.handle e k) (m.name_handle e k)

theorem changeMode_self (h : s.At m e) {r : ModeRequest} (hr : r.name = m.name) :
    (s.changeMode r).At m (e.shown m.display) := by
  obtain ⟨hcur, hmode⟩ := current_of_currentMode? h.current
  have hchange : s.changeMode r = s.showMode m := by
    unfold Session.changeMode
    rw [hr, hmode]
    exact if_pos hcur
  rw [hchange]
  refine ⟨h.modes, h.current, ?_⟩
  show ({ s.editor with screen := s.editor.screen.showMode m.display } : Editor) = _
  rw [h.editor]
  rfl

theorem goneTo (h : s.At m e) {m' : Mode} (hm' : s.mode? m'.name = some m')
    (hne : m'.name ≠ m.name) (args : List ModeArg) :
    (s.goneTo m m' e args).At (m.goTo m' e args).1 (m.goTo m' e args).2 := by
  have hstd' : m'.IsStandard := isStandard_of_mem h.modes (mem_of_mode? hm').1
  refine ⟨?_, currentMode?_goneTo e args hm' hne, rfl⟩
  exact map_fresh_putMode (map_fresh_putMode h.modes (h.isStandard.leave e)) (hstd'.enter _ _)

/-- **A change of mode** goes over to the mode of the name. -/
theorem changeMode (h : s.At m e) {r : ModeRequest} (hne : r.name ≠ m.name)
    (hmem : r.name ∈ Mode.names) : ∃ m', m'.name = r.name ∧ m'.IsStandard ∧
      (s.changeMode r).At (m.goTo m' e r.args).1 (m.goTo m' e r.args).2 := by
  obtain ⟨m', hm'⟩ := exists_mode? h.modes hmem
  have hname : m'.name = r.name := (mem_of_mode? hm').2
  have hstd : m'.IsStandard := isStandard_of_mem h.modes (mem_of_mode? hm').1
  refine ⟨m', hname, hstd, ?_⟩
  rw [changeMode_eq h.current h.isStandard hm' hstd hne, h.editor]
  exact h.goneTo (hname ▸ hm') (hname ▸ hne) r.args

/-- **All that a change of mode can do**, whatever name is given: nothing if it is
that of no mode, or it shows the name of the current mode, or goes over to another
one. -/
theorem changeMode_cases (h : s.At m e) (r : ModeRequest) :
    s.changeMode r = s ∨ (s.changeMode r).At m (e.shown m.display) ∨
      ∃ m', m'.name = r.name ∧ m'.IsStandard ∧
        (s.changeMode r).At (m.goTo m' e r.args).1 (m.goTo m' e r.args).2 := by
  cases hmode : s.mode? r.name with
  | none =>
    left
    unfold Session.changeMode
    rw [hmode]
  | some m' =>
    right
    obtain ⟨hmem, hname⟩ := mem_of_mode? hmode
    by_cases hself : r.name = m.name
    · exact Or.inl (h.changeMode_self hself)
    · exact Or.inr (h.changeMode hself (hname ▸ (isStandard_of_mem h.modes hmem).name_mem))

end At

/-! ### What was asked for is done -/

theorem applyRequests_of_one {s : Session} {r : ModeRequest} (h : s.editor.requests = [r]) :
    s.applyRequests = changeMode { s with editor := s.editor.withoutRequests } r := by
  unfold applyRequests
  rw [h]
  rfl

/-- With no keys to be handed over there is one change of mode at most. -/
theorem serve_of_replays_eq_nil {s : Session} (h : s.applyRequests.editor.replays = []) (n : Nat) :
    serve n s = s.applyRequests := by
  cases n with
  | zero => rfl
  | succ n =>
    simp only [serve]
    rw [h]

theorem give_eq_serve {s : Session} {m : Mode} (h : s.currentMode? = some m) (k : Key) :
    (s.give k).1 = (s.hand k).1.serve (2 * (s.hand k).1.editor.replays.length + 1) := by
  unfold Session.give
  rw [(current_of_currentMode? h).1]

/-- **A key that asks for nothing** does what the mode does, and that is all. -/
theorem give_of_served {s : Session} {m : Mode} (h : s.currentMode? = some m)
    (hm : m.IsStandard) {k : Key} (he : (m.handle s.editor k).2.1.Served) :
    (s.give k).1 = ({ s with editor := (m.handle s.editor k).2.1 } : Session).putMode
      (m.handle s.editor k).1 := by
  rw [give_eq_serve h, hand_eq h hm]
  exact serve_of_nil he.requests he.replays _

/-- **A key that asks for another mode** does what the mode does, and then that
one is gone over to. -/
theorem give_of_request {s : Session} {m m' : Mode} (h : s.currentMode? = some m)
    (hm : m.IsStandard) {k : Key} {e : Editor} {r : ModeRequest}
    (hhandle : (m.handle s.editor k).2.1 = e.request r.name r.args) (he : e.Served)
    (hmode : s.mode? r.name = some m') (hm' : m'.IsStandard) (hne : r.name ≠ m.name) :
    (s.give k).1 = s.goneTo (m.handle s.editor k).1 m' e r.args := by
  have hname := m.name_handle s.editor k
  let s₁ : Session := ({ s with editor := e } : Session).putMode (m.handle s.editor k).1
  have hone : (s.hand k).1.editor.requests = [r] := by
    rw [hand_eq h hm]
    show (m.handle s.editor k).2.1.requests = [r]
    rw [hhandle]
    show e.requests ++ [r] = [r]
    rw [he.requests, List.nil_append]
  have happlied : (s.hand k).1.applyRequests = s₁.changeMode r := by
    rw [applyRequests_of_one hone, hand_eq h hm]
    show Session.changeMode (Session.putMode
      { s with editor := (m.handle s.editor k).2.1.withoutRequests } _) r = _
    rw [hhandle, he.withoutRequests_request]
  have hcur₁ : s₁.currentMode? = some (m.handle s.editor k).1 :=
    currentMode?_putMode (s := { s with editor := e }) h hname
  have hmode₁ : s₁.mode? r.name = some m' := by
    rw [mode?_putMode_of_ne (by rw [hname]; exact hne)]
    exact hmode
  have hgone : s₁.changeMode r = s.goneTo (m.handle s.editor k).1 m' e r.args := by
    rw [changeMode_eq hcur₁ (hm.handle _ _) hmode₁ hm' (by rw [hname]; exact hne)]
    unfold goneTo
    rw [← putMode_putMode { s with
      editor := (((m.handle s.editor k).1).goTo m' e r.args).2
      current := some m'.name } (((m.handle s.editor k).1).name_leave e).symm]
    rfl
  rw [give_eq_serve h, serve_of_replays_eq_nil, happlied, hgone]
  rw [happlied, hgone]
  exact (Mode.served_goTo he _ _ _).replays

namespace At

variable {s : Session} {m : Mode} {e : Editor}

theorem applyRequests_hand (h : s.At m e) (he : e.Served) {k : Key}
    (hasks : Mode.Asks m.name e (m.handle e k).2.1) :
    ∃ m' e', Mode.Settles m.name (m.handle e k).1 (m.handle e k).2.1 m' e' ∧
      (s.hand k).1.applyRequests.At m' e' := by
  obtain ⟨rs, hrs, hrequests, hreplays⟩ := hasks
  rw [he.requests, List.nil_append] at hrequests
  rw [he.replays] at hreplays
  have hhand := h.hand k
  rcases hrs with rfl | ⟨r, rfl, hne, hmem⟩
  · refine ⟨_, _, .stays ⟨hrequests, hreplays⟩, ?_⟩
    rw [applyRequests_of_nil (hhand.editor ▸ hrequests)]
    exact hhand
  · have hone : (s.hand k).1.applyRequests = Session.changeMode
        { (s.hand k).1 with editor := (m.handle e k).2.1.withoutRequests } r := by
      rw [applyRequests_of_one (hhand.editor ▸ hrequests), hhand.editor]
    have hne' : r.name ≠ (m.handle e k).1.name := by
      rw [Mode.name_handle]
      exact hne
    have hedit := hhand.withEditor (m.handle e k).2.1.withoutRequests
    obtain ⟨m', hname, hstd, hat⟩ := hedit.changeMode hne' hmem
    rw [hone]
    exact ⟨_, _, .goes hrequests hreplays hne hname hstd, hat⟩

theorem serve_hand (h : s.At m e) (he : e.Served) {k : Key}
    (hasks : Mode.Asks m.name e (m.handle e k).2.1) (n : Nat) :
    (s.hand k).1.serve n = (s.hand k).1.applyRequests := by
  obtain ⟨m', e', hsettles, hat⟩ := h.applyRequests_hand he hasks
  refine serve_of_replays_eq_nil ?_ n
  rw [hat.editor]
  exact hsettles.served.replays

theorem give_eq (h : s.At m e) (k : Key) :
    (s.give k).1 = (s.hand k).1.serve (2 * (s.hand k).1.editor.replays.length + 1) :=
  give_eq_serve h.current k

/-- **A mode that asks for another one at most** is the whole story of a
key. -/
theorem give_of_asks (h : s.At m e) (he : e.Served) {k : Key}
    (hasks : Mode.Asks m.name e (m.handle e k).2.1) :
    ∃ m' e', Mode.Settles m.name (m.handle e k).1 (m.handle e k).2.1 m' e' ∧
      (s.give k).1.At m' e' := by
  rw [h.give_eq, h.serve_hand he hasks]
  exact h.applyRequests_hand he hasks

/-- **A key that is handed over again**, to Insert mode, is given to it. -/
theorem give_of_resume {c : Completion} (h : s.At (.insertExpand c) e) (he : e.Served) {k : Key}
    (hresume : ((Mode.insertExpand c).handle e k).2.1 = (e.request .insert [.resume]).replay k) :
    ∃ (i : Insert) (s' : Session), (s.give k).1 = (s'.give k).1 ∧
      s'.At ((Mode.insertExpand c).goTo (.insert i) e [.resume]).1
        ((Mode.insertExpand c).goTo (.insert i) e [.resume]).2 := by
  let asked := (e.request .insert [.resume]).replay k
  have hhand := h.hand k
  rw [hresume] at hhand
  have hrequests : (s.hand k).1.editor.requests = [⟨.insert, [.resume]⟩] := by
    rw [hhand.editor]
    show e.requests ++ _ = _
    rw [he.requests, List.nil_append]
  -- Insert mode is entered, and the key still waits to be handed over
  let r : ModeRequest := ⟨.insert, [.resume]⟩
  have hother : r.name ≠ ((Mode.insertExpand c).handle e k).1.name := by
    rw [Mode.name_handle]
    show ModeName.insert ≠ .insertExpand
    decide
  obtain ⟨m', hname, hstd, hat⟩ :=
    (hhand.withEditor asked.withoutRequests).changeMode hother (by decide)
  obtain ⟨i, rfl⟩ := hstd.eq_insert hname
  have hone : (s.hand k).1.applyRequests =
      Session.changeMode { (s.hand k).1 with editor := asked.withoutRequests } r := by
    rw [applyRequests_of_one hrequests, hhand.editor]
  rw [← hone] at hat
  have hreplays : (s.hand k).1.applyRequests.editor.replays = [k] := by
    rw [hat.editor]
    show e.replays ++ [k] = [k]
    rw [he.replays, List.nil_append]
  -- without it the editor is as if Insert mode had been gone over to at once
  let s' : Session :=
    { (s.hand k).1.applyRequests with
      editor := { (s.hand k).1.applyRequests.editor with replays := [] } }
  have hback : ({ asked.withoutRequests with replays := [] } : Editor) = e := by
    show ({ e with requests := [], replays := [] } : Editor) = e
    rw [← he.requests, ← he.replays]
  have hat' : s'.At (.insert (i.enter e [.resume])) (e.shown "INSERT") := by
    refine ⟨hat.modes, hat.current, ?_⟩
    show ({ (s.hand k).1.applyRequests.editor with replays := [] } : Editor) = _
    rw [hat.editor]
    exact congrArg (Editor.shown · "INSERT") hback
  refine ⟨i, s', ?_, hat'⟩
  have hwait : (s.hand k).1.editor.replays.length = 1 := by
    rw [hhand.editor]
    show (e.replays ++ [k]).length = 1
    rw [he.replays]
    rfl
  have hserve : (s.hand k).1.serve 3 = (s'.hand k).1.serve 2 := by
    rw [serve]
    simp only [hreplays]
    rfl
  have hserved : (e.shown "INSERT").Served := he.shown _
  have hasks := Mode.asks_of_ne hat'.isStandard (by rintro ⟨⟩) (e.shown "INSERT") k
  rw [h.give_eq, hat'.give_eq, hwait, hserve, hat'.serve_hand hserved hasks,
    hat'.serve_hand hserved hasks]

end At

end Session

/-! ### What every key keeps -/

/-- **What keys keep** is true of the current mode and the editor after a key
if it was before. -/
theorem Session.At.give {P : Mode → Editor → Prop} {s : Session} {m : Mode} {e : Editor} {k : Key}
    (h : s.At m e) (he : e.Served) (hkeeps : m.Keeps P e k)
    (hresume : ∀ c i, m = .insertExpand c →
      (Mode.goTo m (.insert i) e [.resume]).1.Keeps P (Mode.goTo m (.insert i) e [.resume]).2 k) :
    ∃ m' e', (s.give k).1.At m' e' ∧ e'.Served ∧ P m' e' := by
  rcases Mode.handle_asks h.isStandard e k with hasks | ⟨hname, heq⟩
  · obtain ⟨m', e', hsettles, hat⟩ := h.give_of_asks he hasks
    exact ⟨m', e', hat, hsettles.served, hkeeps m' e' hsettles⟩
  · obtain ⟨c, rfl⟩ := h.isStandard.eq_insertExpand hname
    obtain ⟨i, s', hgive, hat⟩ := h.give_of_resume he heq
    have hserved : ((Mode.insertExpand c).goTo (.insert i) e [.resume]).2.Served :=
      Mode.served_goTo he _ _ _
    obtain ⟨m', e', hsettles, hat'⟩ :=
      hat.give_of_asks hserved (Mode.asks_of_ne hat.isStandard nofun _ k)
    rw [hgive]
    exact ⟨m', e', hat', hsettles.served, hresume c i rfl m' e' hsettles⟩

end Keywise
