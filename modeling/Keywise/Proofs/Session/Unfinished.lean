/-
# What is left of a command in Normal mode

Normal mode has nothing of a command typed while another mode is current
(`Session.Tidy`): it is idle when it is left, and when it is entered. So what
it has of a command was typed since it became current, and each key that was
given to it since has gone on with that command. After any other key it is
idle, but for a register that is named and stays so when characters are
replaced (`Session.parser_of_gives`).

Key definitions: `Session.Tidy`.
Key theorems: `Session.Tidy.give`, `Session.At.mode?_normal_give`,
`Session.At.give_of_extends`, `Session.parser_of_gives`.
-/
import Keywise.Proofs.Mode.Unfinished
import Keywise.Proofs.Session.Resting

namespace Keywise

namespace Session

/-- The session has the modes an editor has, and Normal mode is idle while
another one is current. -/
structure Tidy (s : Session) : Prop where
  modes : s.modes.map Mode.fresh = Mode.standard
  idle : s.current ≠ some .normal → s.mode? .normal = some (.normal .idle)

namespace Tidy

variable {s : Session}

theorem withEditor (h : s.Tidy) (e : Editor) : Tidy { s with editor := e } := ⟨h.modes, h.idle⟩

theorem leaveCurrent (h : s.Tidy) : s.leaveCurrent.modes.map Mode.fresh = Mode.standard ∧
    s.leaveCurrent.mode? .normal = some (.normal .idle) := by
  cases hcur : s.currentMode? with
  | none =>
    unfold Session.leaveCurrent
    rw [hcur]
    refine ⟨h.modes, h.idle fun hnormal => ?_⟩
    -- Normal mode is there: it cannot be the current one
    obtain ⟨m, hm⟩ := exists_mode? h.modes (show ModeName.normal ∈ Mode.names by decide)
    rw [currentMode?, hnormal, Option.bind_some, hm] at hcur
    cases hcur
  | some m =>
    obtain ⟨hname, hmode⟩ := current_of_currentMode? hcur
    have hstd : m.IsStandard := isStandard_of_mem h.modes (mem_of_mode? hmode).1
    rw [leaveCurrent_eq hcur hstd]
    refine ⟨map_fresh_putMode h.modes (hstd.leave _), ?_⟩
    by_cases hnormal : m.name = .normal
    · obtain ⟨n, rfl⟩ := hstd.eq_normal hnormal
      exact mode?_putMode (m := .normal .idle) hmode
    · rw [mode?_putMode_of_ne (by rw [Mode.name_leave]; exact Ne.symm hnormal)]
      refine h.idle fun hcur' => hnormal ?_
      rw [hname] at hcur'
      exact Option.some.inj hcur'

theorem enterMode (hmodes : s.modes.map Mode.fresh = Mode.standard)
    (hidle : s.mode? .normal = some (.normal .idle)) {m : Mode} (hm : m.IsStandard)
    (args : List ModeArg) : (s.enterMode m args).Tidy := by
  rw [enterMode_eq s hm]
  refine ⟨map_fresh_putMode hmodes (hm.enter _ _), fun _ => ?_⟩
  by_cases hnormal : m.name = .normal
  · obtain ⟨n, rfl⟩ := hm.eq_normal hnormal
    exact mode?_putMode (m := .normal .idle) hidle
  · rw [mode?_putMode_of_ne (by rw [Mode.name_enter]; exact Ne.symm hnormal)]
    exact hidle

theorem changeMode (h : s.Tidy) (r : ModeRequest) : (s.changeMode r).Tidy := by
  unfold Session.changeMode
  split
  · exact h
  · next m hm =>
    split
    · exact ⟨h.modes, h.idle⟩
    · obtain ⟨hmodes, hidle⟩ := h.leaveCurrent
      have hstd : m.IsStandard := isStandard_of_mem h.modes (mem_of_mode? hm).1
      have hentered := enterMode hmodes hidle hstd r.args
      exact ⟨hentered.modes, hentered.idle⟩

theorem hand (h : s.Tidy) (k : Key) : (s.hand k).1.Tidy := by
  unfold Session.hand
  cases hcur : s.currentMode? with
  | none => exact h
  | some m =>
    obtain ⟨hname, hmode⟩ := current_of_currentMode? hcur
    have hstd : m.IsStandard := isStandard_of_mem h.modes (mem_of_mode? hmode).1
    simp only [note_of_isStandard _ hstd]
    refine ⟨map_fresh_putMode h.modes (hstd.handle _ _), fun hother => ?_⟩
    have hne : m.name ≠ .normal := fun hn => hother (hname.trans (congrArg some hn))
    rw [mode?_putMode_of_ne (by rw [Mode.name_handle]; exact hne.symm)]
    exact h.idle hother

theorem steady : Steady Tidy where
  edited h e := h.withEditor e
  changeMode h r := h.changeMode r
  hand h k := h.hand k

/-- **A key that is given** keeps Normal mode idle unless it is current. -/
theorem give (h : s.Tidy) (k : Key) : (s.give k).1.Tidy := steady.give h k

theorem stable : Stable Tidy where
  typed h _ := ⟨h.modes, h.idle⟩
  abort h := ⟨h.modes, h.idle⟩

end Tidy

theorem tidy_configured (e : Editor) (c : Config) : (configured e c).Tidy :=
  ⟨rfl, fun h => absurd rfl h⟩

end Session

/-! ### One key -/

/-- A key that makes Normal mode ask for another mode ends the command. -/
theorem Normal.fst_handle_of_requests {n : Normal} {e : Editor} (he : e.requests = []) {k : Key}
    (h : (n.handle e k).2.1.requests ≠ []) : (n.handle e k).1 = .idle := by
  have heffect := n.effect_attempt e k
  unfold handle at h ⊢
  generalize n.attempt e k = reply at heffect h
  cases heffect with
  | reads n' used _ => exact absurd he h
  | replaces c e' _ _ hreplace =>
    exact absurd ((edited_replaceChars hreplace).requests.trans (by rw [he]; rfl)) h
  | _ => rfl

/-- A key that is given to another mode than Normal mode leaves that idle if
it leads there. -/
theorem Mode.keeps_idle {m : Mode} (hm : ∀ n, m ≠ normal n) (e : Editor) (k : Key) :
    m.Keeps (fun m _ => ∀ n, m = normal n → n = .idle) e k := by
  intro m' e' hsettles n hn
  cases hsettles with
  | stays _ =>
    obtain ⟨n', rfl⟩ := exists_normal_of_handle hn
    exact absurd rfl (hm n')
  | @goes r m' _ _ _ _ _ =>
    cases m' with
    | normal n' => exact Mode.normal.inj hn ▸ rfl
    | _ => cases hn

namespace Session

theorem At.mode?_normal_give {s : Session} {n : Normal} {e : Editor} (h : s.At (.normal n) e)
    (he : e.Served) (htidy : s.Tidy) (k : Key) :
    (s.give k).1.mode? .normal = some (.normal (n.handle e k).1) := by
  obtain ⟨m', e', hsettles, hat⟩ := h.give_of_asks he (Mode.asks_normal n e k)
  cases hsettles with
  | stays _ => exact (current_of_currentMode? hat.current).2
  | @goes r m' hrequests _ hne hname _ =>
    have hcur : (s.give k).1.current = some r.name := by
      rw [(current_of_currentMode? hat.current).1, ← hname]
      exact congrArg some (Mode.name_enter m' _ _)
    have hother : (s.give k).1.current ≠ some .normal := by
      rw [hcur]
      exact fun hn => hne (Option.some.inj hn)
    have hidle : (n.handle e k).1 = .idle := by
      refine Normal.fst_handle_of_requests he.requests ?_
      have hone : (n.handle e k).2.1.requests = [r] := hrequests
      rw [hone]
      exact List.cons_ne_nil _ _
    rw [(htidy.give k).idle hother, hidle]

/-- **A key that goes on with a command** changes nothing in the editor. -/
theorem At.give_of_extends {s : Session} {n n' : Normal} {e : Editor} (h : s.At (.normal n) e)
    (he : e.Served) {k : Key} (hk : n.Extends k n') : (s.give k).1.At (.normal n') e := by
  have hhandle : Mode.handle (.normal n) e k = (.normal n', e, true) :=
    congrArg (fun p : Normal × Editor × Bool => (Mode.normal p.1, p.2)) (hk.handle e)
  obtain ⟨m', e', hsettles, hat⟩ := h.give_of_asks he (Mode.asks_normal n e k)
  rw [hhandle] at hsettles
  cases hsettles with
  | stays _ => exact hat
  | goes hrequests _ _ _ _ =>
    rw [he.requests] at hrequests
    cases hrequests

/-- **Given to Normal mode**, a key goes on with a command and does nothing
else, or it leaves nothing of a command but the register of characters that
are replaced. -/
theorem At.parser_give {s : Session} {n : Normal} (h : s.At (.normal n) s.editor)
    (he : s.editor.Served) (htidy : s.Tidy) (k : Key) :
    ∃ n', (s.give k).1.mode? .normal = some (.normal n') ∧
      (n.Extends k n' ∧ (s.give k).1.editor = s.editor ∨
        (∀ n'', ¬ n.Extends k n'') ∧
          n' = if n.replaces s.editor k then { register := n.register } else .idle) := by
  refine ⟨_, h.mode?_normal_give he htidy k, ?_⟩
  by_cases hext : ∃ n', n.Extends k n'
  · obtain ⟨n', hn'⟩ := hext
    rw [hn'.handle s.editor]
    exact Or.inl ⟨hn', (h.give_of_extends he hn').editor⟩
  · have hno : ∀ n'', ¬ n.Extends k n'' := fun n'' hn => hext ⟨n'', hn⟩
    exact Or.inr ⟨hno, Normal.fst_handle hno s.editor⟩

/-- **Whenever a key is given** Normal mode is idle, before and after it,
unless it is current. If it is, the key goes on with a command and does
nothing else, or it leaves nothing of a command but the register of characters
that are replaced. -/
theorem parser_of_gives {e : Editor} (he : e.Served) (c : Config) {room : Nat} {cs : List Call}
    {s : Session} {k : Key} (h : (configured e c).Gives cs room s k) :
    ∃ n n', s.mode? .normal = some (.normal n) ∧ (s.give k).1.mode? .normal = some (.normal n') ∧
      (s.current ≠ some .normal → n = .idle ∧ n' = .idle) ∧
      (s.current = some .normal →
        n.Extends k n' ∧ (s.give k).1.editor = s.editor ∨
        (∀ n'', ¬ n.Extends k n'') ∧
          n' = if n.replaces s.editor k then { register := n.register } else .idle) := by
  have hbegin : (configured e c).Satisfies fun _ _ => True :=
    satisfies_configured_of he c fun _ => trivial
  obtain ⟨⟨m, hat, -⟩, hserved⟩ := Mode.invariant_true.of_gives hbegin h
  have htidy : s.Tidy := holds_of_gives Tidy.stable (fun h name => h.changeMode ⟨name, []⟩)
    (fun h k => h.give k) (tidy_configured e c) h
  obtain ⟨hcur, hmode⟩ := current_of_currentMode? hat.current
  by_cases hnormal : s.current = some .normal
  · obtain ⟨n, rfl⟩ : ∃ n, m = .normal n := by
      rw [hcur] at hnormal
      exact hat.isStandard.eq_normal (Option.some.inj hnormal)
    obtain ⟨n', hn', hnext⟩ := hat.parser_give hserved htidy k
    exact ⟨n, n', hmode, hn', fun hother => absurd hnormal hother, fun _ => hnext⟩
  · have hm : ∀ n, m ≠ .normal n := by
      rintro n rfl
      exact hnormal hcur
    obtain ⟨m', e', hat', -, hidle⟩ := hat.give hserved (Mode.keeps_idle hm s.editor k)
      (by
        rintro c i rfl
        refine Mode.keeps_idle (fun n hn => ?_) _ k
        cases hn)
    refine ⟨.idle, .idle, htidy.idle hnormal, ?_, fun _ => ⟨rfl, rfl⟩, fun hn => absurd hn hnormal⟩
    by_cases hnormal' : (s.give k).1.current = some .normal
    · obtain ⟨hcur', hmode'⟩ := current_of_currentMode? hat'.current
      rw [hcur'] at hnormal'
      obtain ⟨n', rfl⟩ := hat'.isStandard.eq_normal (Option.some.inj hnormal')
      rw [hidle n' rfl] at hmode'
      exact hmode'
    · exact (htidy.give k).idle hnormal'

/-- An operator is typed: what it applies to is still to come. -/
theorem parser_of_operator :
    let e : Editor := { text := ['a', 'b'] }
    let k : Key := .char 'd'
    e.Served ∧ (configured e {}).Gives [.key k] stackRoom (configured e {}) k ∧
      ∃ n', ((configured e {}).give k).1.mode? .normal = some (.normal n') ∧
        Normal.idle.Extends k n' ∧
        ((configured e {}).give k).1.editor = (configured e {}).editor := by
  intro e k
  have hserved : e.Served := ⟨rfl, rfl⟩
  have harrive : (configured e {}).arrive k 0 =
      { session := configured e {}, tasks := [.give k] } := by rfl
  have hgives : (configured e {}).Gives [.key k] stackRoom (configured e {}) k :=
    (gives_key_iff rfl harrive (by decide) [] _ _).mpr (Or.inl ⟨rfl, rfl⟩)
  obtain ⟨n, n', hn, hn', -, hnext⟩ := parser_of_gives hserved {} hgives
  have hidle : n = .idle := by
    have hmode : (configured e {}).mode? .normal = some (.normal .idle) := rfl
    rw [hmode] at hn
    exact (Mode.normal.inj (Option.some.inj hn)).symm
  subst hidle
  refine ⟨hserved, hgives, n', hn', ?_⟩
  rcases hnext rfl with hextends | ⟨hno, -⟩
  · exact hextends
  · exact absurd (.operator 'd' .delete rfl rfl rfl rfl) (hno { operator := some .delete })

/-- Characters are replaced with a register named: the register is still named
then, and the lines deleted next are taken into it. -/
theorem not_idle_after_replacing :
    ∃ s s', (configured { text := ['a', '\n', 'b'] } {}).calls?
        (['"', 'a', 'r', 'x'].map fun c => .key (.char c)) = some s ∧
      s.mode? .normal = some (.normal { register := some 'a' }) ∧
      s.calls? (['d', 'd'].map fun c => .key (.char c)) = some s' ∧
      s'.editor.registers.named 'a' = some ⟨['x', '\n'], .lines⟩ := by
  have hview : ((configured { text := ['a', '\n', 'b'] } {}).calls?
      (['"', 'a', 'r', 'x'].map fun c => .key (.char c))).map (fun s =>
        (s.mode? .normal, (s.calls? (['d', 'd'].map fun c => .key (.char c))).map fun s' =>
          s'.editor.registers.named 'a')) =
      some (some (.normal { register := some 'a' }), some (some ⟨['x', '\n'], .lines⟩)) := by
    decide +kernel
  obtain ⟨s, hrun, hs⟩ := Option.map_eq_some_iff.mp hview
  obtain ⟨hmode, hthen⟩ := Prod.mk.inj hs
  obtain ⟨s', hrun', hnamed⟩ := Option.map_eq_some_iff.mp hthen
  exact ⟨s, s', hrun, hmode, hrun', hnamed⟩

end Session
end Keywise
