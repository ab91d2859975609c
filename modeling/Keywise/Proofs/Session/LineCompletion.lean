/-
# Completing a line in a session

As long as a host only has keys typed, the mode that completes a line is left
by a key alone, and then nothing is kept of the completion
(`Session.Uninterrupted.give`). So when Insert mode goes over to it, a
completion is begun with the text as it is then, and the keys that follow go
around the candidates (`Session.completes_lines_around`).

Key definitions: `Session.Uncompleted`, `Session.Uninterrupted`.
Key theorems: `Session.Uninterrupted.give`, `Session.At.calls?_completing`,
`Session.completes_lines_around`.
-/
import Keywise.Proofs.Mode.LineCompletion
import Keywise.Proofs.Session.Invariant
import Keywise.Proofs.Session.Typing

namespace Keywise

/-! ### What entering and leaving a mode asks for -/

theorem Mode.IsStandard.requests_leave {m : Mode} (hm : m.IsStandard) (e : Editor) :
    (m.leave e).2.requests = e.requests := by
  cases m with
  | observer o => exact absurd hm (not_isStandard_observer o)
  | _ => rfl

theorem Mode.IsStandard.requests_enter {m : Mode} (hm : m.IsStandard) (e : Editor)
    (args : List ModeArg) : (m.enter e args).2.1.requests = e.requests := by
  cases m with
  | observer o => exact absurd hm (not_isStandard_observer o)
  | _ => rfl

namespace Session

/-! ### Nothing is kept of a completion -/

/-- Nothing is kept of a completion. -/
structure Uncompleted (s : Session) : Prop where
  modes : s.modes.map Mode.fresh = Mode.standard
  completion : s.mode? .insertExpand = some (.insertExpand {})

namespace Uncompleted

variable {s : Session}

theorem withEditor (h : s.Uncompleted) (e : Editor) : Uncompleted { s with editor := e } :=
  ⟨h.modes, h.completion⟩

theorem isStandard (h : s.Uncompleted) {name : ModeName} {m : Mode} (hm : s.mode? name = some m) :
    m.IsStandard :=
  isStandard_of_mem h.modes (mem_of_mode? hm).1

theorem eq_empty (h : s.Uncompleted) {name : ModeName} {c : Completion}
    (hmode : s.mode? name = some (.insertExpand c)) : c = {} := by
  obtain rfl : ModeName.insertExpand = name := (mem_of_mode? hmode).2
  rw [h.completion] at hmode
  exact (Mode.insertExpand.inj (Option.some.inj hmode)).symm

theorem putMode (h : s.Uncompleted) {m : Mode} (hm : m.IsStandard)
    (hempty : ∀ c, m = .insertExpand c → c = {}) : (s.putMode m).Uncompleted := by
  refine ⟨map_fresh_putMode h.modes hm, ?_⟩
  by_cases hname : m.name = .insertExpand
  · obtain ⟨c, rfl⟩ := hm.eq_insertExpand hname
    obtain rfl := hempty c rfl
    exact mode?_putMode (m := .insertExpand {}) h.completion
  · rw [mode?_putMode_of_ne (Ne.symm hname)]
    exact h.completion

theorem leaveCurrent (h : s.Uncompleted) : s.leaveCurrent.Uncompleted ∧
    s.leaveCurrent.editor.requests = s.editor.requests := by
  cases hcur : s.currentMode? with
  | none =>
    unfold Session.leaveCurrent
    rw [hcur]
    exact ⟨h, rfl⟩
  | some m =>
    obtain ⟨-, hmode⟩ := current_of_currentMode? hcur
    have hstd := h.isStandard hmode
    rw [leaveCurrent_eq hcur hstd]
    refine ⟨(h.withEditor _).putMode (hstd.leave _) fun c hc => ?_, hstd.requests_leave _⟩
    cases m with
    | insertExpand c' =>
      rw [← h.eq_empty hmode]
      exact (Mode.insertExpand.inj hc).symm
    | _ => cases hc

theorem changeMode (h : s.Uncompleted) (r : ModeRequest) : (s.changeMode r).Uncompleted ∧
    (s.changeMode r).editor.requests = s.editor.requests := by
  unfold Session.changeMode
  split
  · exact ⟨h, rfl⟩
  · next m hmode =>
    have hstd := h.isStandard hmode
    split
    · exact ⟨h.withEditor _, rfl⟩
    · obtain ⟨hleft, hrequests⟩ := h.leaveCurrent
      rw [enterMode_eq _ hstd]
      have hentered : Uncompleted { s.leaveCurrent with
          editor := (m.enter s.leaveCurrent.editor r.args).2.1
          current := some m.name } := ⟨hleft.modes, hleft.completion⟩
      refine ⟨(hentered.putMode (hstd.enter _ _) fun c hc => ?_).withEditor _,
        (hstd.requests_enter _ _).trans hrequests⟩
      cases m with
      | insertExpand c' =>
        rw [← h.eq_empty hmode]
        exact (Mode.insertExpand.inj hc).symm
      | _ => cases hc

theorem applyRequests (h : s.Uncompleted) :
    s.applyRequests.Uncompleted ∧ s.applyRequests.editor.requests = [] := by
  have hfold : ∀ (rs : List ModeRequest) {s : Session}, s.Uncompleted →
      (rs.foldl Session.changeMode s).Uncompleted ∧
        (rs.foldl Session.changeMode s).editor.requests = s.editor.requests := by
    intro rs
    induction rs with
    | nil => exact fun h => ⟨h, rfl⟩
    | cons r rs ih =>
      intro s h
      obtain ⟨hchanged, hrequests⟩ := h.changeMode r
      obtain ⟨hrest, hrequests'⟩ := ih hchanged
      exact ⟨hrest, hrequests'.trans hrequests⟩
  exact hfold _ (h.withEditor _)

end Uncompleted

/-- Nothing is asked for, and nothing is kept of a completion unless the mode
that completes lines is current. -/
structure Uninterrupted (s : Session) : Prop where
  modes : s.modes.map Mode.fresh = Mode.standard
  requests : s.editor.requests = []
  completion : s.current ≠ some .insertExpand → s.mode? .insertExpand = some (.insertExpand {})

namespace Uninterrupted

variable {s : Session} {k : Key}

theorem of_uncompleted (h : s.Uncompleted) (hrequests : s.editor.requests = []) :
    s.Uninterrupted :=
  ⟨h.modes, hrequests, fun _ => h.completion⟩

theorem hand (h : s.Uninterrupted) (k : Key) :
    (s.hand k).1.Uncompleted ∨ (s.hand k).1.Uninterrupted := by
  cases hcur : s.currentMode? with
  | none =>
    unfold Session.hand
    rw [hcur]
    exact Or.inr h
  | some m =>
    obtain ⟨hname, hmode⟩ := current_of_currentMode? hcur
    have hstd : m.IsStandard := isStandard_of_mem h.modes (mem_of_mode? hmode).1
    have hmodes := map_fresh_putMode h.modes (hstd.handle s.editor k)
    rw [hand_eq hcur hstd]
    by_cases hexpand : m.name = .insertExpand
    · obtain ⟨c, rfl⟩ := hstd.eq_insertExpand hexpand
      cases hk : Completion.forward k || Completion.back k with
      | true =>
        right
        have hedited := c.edited_complete s.editor (Completion.forward k)
        rw [Mode.handle, Completion.handle_eq c s.editor hk] at hmodes ⊢
        refine ⟨hmodes, ?_, fun hcur' => absurd hname hcur'⟩
        show (c.complete s.editor (Completion.forward k)).2.requests = []
        rw [hedited.requests, h.requests, List.nil_append]
      | false =>
        left
        rw [Mode.handle, Completion.handle_of_other c s.editor hk] at hmodes ⊢
        exact ⟨hmodes, mode?_putMode (m := .insertExpand {}) hmode⟩
    · refine Or.inl ⟨hmodes, ?_⟩
      rw [mode?_putMode_of_ne (by rw [Mode.name_handle]; exact Ne.symm hexpand)]
      refine h.completion fun hcur' => hexpand ?_
      rw [hname] at hcur'
      exact Option.some.inj hcur'

theorem serve : ∀ (n : Nat) {s : Session}, s.Uncompleted ∨ s.Uninterrupted →
    (s.serve n).Uninterrupted := by
  have hdone : ∀ {s : Session}, s.Uncompleted ∨ s.Uninterrupted →
      s.applyRequests.Uninterrupted := by
    rintro s (h | h)
    · obtain ⟨happlied, hrequests⟩ := h.applyRequests
      exact of_uncompleted happlied hrequests
    · rw [applyRequests_of_nil h.requests]
      exact h
  intro n
  induction n with
  | zero => exact fun h => hdone h
  | succ n ih =>
    intro s h
    have happlied := hdone h
    rw [Session.serve]
    simp only
    split
    · exact happlied
    · next k ks _ =>
      have hwaiting : Uninterrupted { s.applyRequests with
          editor := { s.applyRequests.editor with replays := ks } } :=
        ⟨happlied.modes, happlied.requests, happlied.completion⟩
      exact ih (hwaiting.hand k)

/-- **A key that is given** interrupts no completion. -/
theorem give (h : s.Uninterrupted) (k : Key) : (s.give k).1.Uninterrupted := by
  unfold Session.give
  split
  · exact h
  · exact serve _ (h.hand k)

theorem stable : Stable Uninterrupted where
  typed h _ := ⟨h.modes, h.requests, h.completion⟩
  abort h := ⟨h.modes, h.requests, h.completion⟩

/-- As long as only keys are typed, no completion is interrupted. -/
theorem of_calls? (h : s.Uninterrupted) {room : Nat} {cs : List Call} {s' : Session}
    (hkeys : ∀ name, .mode name ∉ cs) (hrun : s.calls? cs room = some s') :
    s'.Uninterrupted :=
  (holds_calls?_of_mem stable h (fun name hname => absurd hname (hkeys name))
    (fun _ k _ h => h.give k) hrun).1

end Uninterrupted

theorem uninterrupted_configured {e : Editor} (he : e.Served) (c : Config) :
    (configured e c).Uninterrupted :=
  ⟨rfl, he.requests, fun _ => rfl⟩

/-! ### The keys that complete the line -/

variable {s : Session} {room : Nat}

/-- **A key that completes the line** does that, and nothing else. -/
theorem At.calls?_completing {c : Completion} {e : Editor} (h : s.At (.insertExpand c) e)
    (he : e.Served) (huntyped : s.typeahead = {}) (hroom : 0 < room) {k : Key}
    (hk : Completion.forward k || Completion.back k) :
    ∃ s' : Session,
      s'.At (.insertExpand (c.complete e (Completion.forward k)).1)
        (c.complete e (Completion.forward k)).2 ∧
      (c.complete e (Completion.forward k)).2.Served ∧ s'.typeahead = {} ∧
      ∀ cs, s.calls? (.key k :: cs) room = s'.calls? cs room := by
  have hhandle : (Mode.insertExpand c).handle e k =
      (.insertExpand (c.complete e (Completion.forward k)).1,
        (c.complete e (Completion.forward k)).2, true) := by
    rw [Mode.handle, Completion.handle_eq c e hk]
  have hserved := he.edited (c.edited_complete e (Completion.forward k))
  have hat := h.hand k
  have hgive : (s.give k).1 = (s.hand k).1 := by
    rw [h.give_eq]
    refine serve_of_nil ?_ ?_ _ <;> rw [hat.editor, hhandle]
    · exact hserved.requests
    · exact hserved.replays
  rw [hhandle, ← hgive] at hat
  have hcur := isSome_current_of_currentMode? h.current
  have harrive := arrive_of_keyMap?_eq_none (k := k) (Nat.zero_le _) huntyped h.current rfl
  exact ⟨(s.give k).1, hat, hserved, (s.typeahead_give k).trans huntyped,
    calls?_key hcur harrive hroom⟩

theorem At.calls?_completingAll (hroom : 0 < room) : ∀ {ks : List Key} {s : Session}
    {c : Completion} {e : Editor}, (∀ k ∈ ks, Completion.forward k || Completion.back k) →
      s.At (.insertExpand c) e → e.Served → s.typeahead = {} →
        ∃ s', s.calls? (ks.map .key) room = some s' ∧
          s'.editor = (Completion.completeAll c e ks).2
  | [], s, _, _, _, h, _, _ => ⟨s, rfl, h.editor⟩
  | k :: ks, s, c, e, hks, h, he, huntyped => by
    obtain ⟨s₁, h₁, he₁, huntyped₁, hcalls⟩ :=
      h.calls?_completing he huntyped hroom (hks k List.mem_cons_self)
    obtain ⟨s', hs', heditor⟩ := calls?_completingAll hroom
      (fun k' hk' => hks k' (List.mem_cons_of_mem k hk')) h₁ he₁ huntyped₁
    exact ⟨s', (hcalls _).trans hs', heditor⟩

/-- The key with which Insert mode goes over to completing the line. -/
def expandKey : Key := ⟨.char 'x', .control⟩

/-- **Insert mode goes over** to completing the line, if nothing is kept of a
completion. -/
theorem At.calls?_expand {i : Insert} (h : s.At (.insert i) s.editor) (he : s.editor.Served)
    (hnone : s.mode? .insertExpand = some (.insertExpand {})) (huntyped : s.typeahead = {})
    (hunmapped : (s.keyMap .insert).matching [expandKey] = .nothing) (hroom : 0 < room) :
    ∃ (s' : Session) (display : String), s'.At (.insertExpand {}) (s.editor.shown display) ∧
      s'.typeahead = {} ∧ ∀ cs, s.calls? (.key expandKey :: cs) room = s'.calls? cs room := by
  have hne : (Mode.insertExpand {}).name ≠ (Mode.insert i).name := nofun
  have hgive : (s.give expandKey).1 =
      s.goneTo (.insert i) (.insertExpand {}) s.editor [] :=
    give_of_request (r := ⟨.insertExpand, []⟩) h.current h.isStandard rfl he hnone (by decide) hne
  have hcur := isSome_current_of_currentMode? h.current
  have huses : s.Uses (s.keyMap .insert) := ⟨_, _, h.current, rfl, rfl⟩
  have harrive := huses.arrive_of_nothing (Nat.zero_le _) huntyped hunmapped
  have hmode : s.mode? (Mode.insertExpand {}).name = some (.insertExpand {}) := hnone
  exact ⟨(s.give expandKey).1, _, hgive ▸ h.goneTo hmode hne [],
    (s.typeahead_give expandKey).trans huntyped, calls?_key hcur harrive hroom⟩

/-- **Completing a line goes around the candidates.** In a session in which only
keys were typed, Insert mode is current and nothing is held back; no mapping
begins with `<C-x>`. The line of the cursor is its indent, what is before the
cursor and what is behind it. After `<C-x>` and keys that go forward and back,
what was before the cursor is the candidate that they lead to, and the cursor
is behind it. If there is no other candidate nothing is changed. So keys that
lead back to the first candidate restore the text. -/
theorem completes_lines_around {e : Editor} (he : e.Served) (c : Config) {room : Nat}
    (hroom : 0 < room) {cs : List Call} (hkeys : ∀ name, .mode name ∉ cs) {s : Session}
    (hrun : (configured e c).calls? cs room = some s) (hinsert : s.current = some .insert)
    (huntyped : s.typeahead = {})
    (hunmapped : (s.keyMap .insert).matching [expandKey] = .nothing)
    (hbreaks : s.editor.text.ReturnsOnly) {indent stem suffix : List Char}
    (hparted : Completion.Parted s.editor.text s.editor.cursor indent stem suffix)
    {ks : List Key} (hks : ∀ k ∈ ks, Completion.forward k || Completion.back k) (hne : ks ≠ []) :
    let t := s.editor.text
    let l := t.lineAt s.editor.cursor
    let m := Completion.lineMatches t stem
    let d := Completion.place m.length ks
    ∃ s' : Session, s.calls? ((expandKey :: ks).map .key) room = some s' ∧
      (m.length = 1 → s'.editor.text = t ∧ s'.editor.cursor = s.editor.cursor) ∧
      (1 < m.length → ∃ chosen, m[d]? = some chosen ∧
        s'.editor.text = t.splice l.start l.length (indent ++ chosen ++ suffix) ∧
        s'.editor.cursor = l.start + indent.length + chosen.length) ∧
      (d = 0 → s'.editor.text = t) := by
  intro t l m d
  have hbegin : (configured e c).Satisfies fun _ _ => True :=
    satisfies_configured_of he c fun _ => trivial
  obtain ⟨⟨⟨m₀, hat, -⟩, hserved⟩, -⟩ :=
    Mode.invariant_true.of_calls? hbegin (fun _ _ _ _ _ => trivial) hrun
  obtain ⟨i, rfl⟩ : ∃ i, m₀ = .insert i := by
    obtain ⟨hcur, -⟩ := current_of_currentMode? hat.current
    exact hat.isStandard.eq_insert (Option.some.inj (hcur.symm.trans hinsert))
  have hnone : s.mode? .insertExpand = some (.insertExpand {}) := by
    refine ((uninterrupted_configured he c).of_calls? hkeys hrun).completion ?_
    rw [hinsert]
    decide
  obtain ⟨s₁, display, hat₁, huntyped₁, hcalls⟩ :=
    hat.calls?_expand hserved hnone huntyped hunmapped hroom
  obtain ⟨s', hs', heditor⟩ :=
    At.calls?_completingAll hroom hks hat₁ (hserved.shown display) huntyped₁
  have hmany : 1 < m.length → Completion.Standing t s.editor.cursor indent stem suffix d
      (Completion.completeAll {} (s.editor.shown display) ks).1 s'.editor := by
    rw [heditor]
    exact fun hm => Completion.standing_completeAll (e := s.editor.shown display) hparted hbreaks
      rfl rfl hm hks hne
  have hone : m.length ≤ 1 → s'.editor.text = t ∧ s'.editor.cursor = s.editor.cursor := by
    rw [heditor]
    exact fun hm => Completion.same_completeAll (e := s.editor.shown display) hparted rfl rfl hm ks
  refine ⟨s', (hcalls _).trans hs', fun hm => hone (Nat.le_of_eq hm), fun hm => ?_, fun hd => ?_⟩
  · have hstanding := hmany hm
    exact ⟨_, Completion.getElem?_lineMatches hstanding.lt, hstanding.text, hstanding.cursor⟩
  · rcases Nat.lt_or_ge 1 m.length with hm | hm
    · have hstanding := hmany hm
      rw [hd] at hstanding
      exact hstanding.text.trans hparted.splice_lineWith_zero
    · exact (hone hm).1

/-- In an indented line, before its last character: forward to the first line of
the text, and back again. -/
theorem completes_lines_around_indented :
    let t : Text := ['a', 'b', 'c', '\n', ' ', 'a', 'b']
    let next : Key := ⟨.char 'n', .control⟩
    let previous : Key := ⟨.char 'p', .control⟩
    ∃ s, (configured { text := t } {}).calls? (['G', '$', 'i'].map fun c => .key (.char c)) =
        some s ∧
      let typed (ks : List Key) := (s.calls? ((expandKey :: ks).map .key)).map (·.editor.text)
      typed [next] = some ['a', 'b', 'c', '\n', ' ', 'a', 'b', 'c', 'b'] ∧
        typed [next, previous] = some t := by
  intro t next previous
  have hview : ((configured { text := t } {}).calls?
      (['G', '$', 'i'].map fun c => .key (.char c))).map (fun s => (s.current, s.typeahead,
        s.editor.text, s.editor.cursor, (s.keyMap .insert).matching [expandKey])) =
      some (some .insert, {}, t, 6, .nothing) := by
    decide +kernel
  obtain ⟨s, hrun, hs⟩ := Option.map_eq_some_iff.mp hview
  simp only [Prod.mk.injEq] at hs
  obtain ⟨hinsert, huntyped, htext, hcursor, hunmapped⟩ := hs
  have hserved : Editor.Served { text := t } := ⟨rfl, rfl⟩
  have hbreaks : s.editor.text.ReturnsOnly := htext ▸ by decide
  have hparted : Completion.Parted s.editor.text s.editor.cursor [' '] ['a'] ['b'] := by
    have hblank : Unicode.isWhitespace ' ' = true := by decide
    have hindented : Unicode.isWhitespace 'a' = false := by decide
    rw [htext, hcursor]
    refine ⟨rfl, List.forall_mem_singleton.mpr hblank, ?_, rfl⟩
    rintro _ ⟨⟩
    exact hindented
  have hroom : 0 < stackRoom := by decide
  have hkeys : ∀ name, .mode name ∉ (['G', '$', 'i'].map fun c => Call.key (.char c)) := by
    simp
  refine ⟨s, hrun, ?_, ?_⟩
  · have hks : ∀ k ∈ [next], Completion.forward k || Completion.back k := by decide
    obtain ⟨s', hs', -, hmany, -⟩ := completes_lines_around hserved {} hroom hkeys hrun hinsert
      huntyped hunmapped hbreaks hparted hks (List.cons_ne_nil _ _)
    rw [htext, hcursor] at hmany
    obtain ⟨chosen, hchosen, hresult, -⟩ := hmany (by decide +kernel)
    have hfirst : (Completion.lineMatches t ['a'])[Completion.place
        (Completion.lineMatches t ['a']).length [next]]? = some ['a', 'b', 'c'] := by
      decide +kernel
    obtain rfl := Option.some.inj (hfirst.symm.trans hchosen)
    exact (congrArg (Option.map _) hs').trans (congrArg some hresult)
  · have hks : ∀ k ∈ [next, previous], Completion.forward k || Completion.back k := by decide
    obtain ⟨s', hs', -, -, hback⟩ := completes_lines_around hserved {} hroom hkeys hrun hinsert
      huntyped hunmapped hbreaks hparted hks (List.cons_ne_nil _ _)
    have hzero : ∀ n : Nat, Completion.place n [next, previous] = 0 := by
      intro n
      have hcount : (([next, previous].countP Completion.forward : Nat) : Int) -
          [next, previous].countP Completion.back = 0 := by decide
      rw [Completion.place, hcount, Int.zero_emod]
      rfl
    exact (congrArg (Option.map _) hs').trans (congrArg some ((hback (hzero _)).trans htext))

end Session
end Keywise
