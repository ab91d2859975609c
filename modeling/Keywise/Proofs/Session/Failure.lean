/-
# A command that fails changes nothing but the report

The parser is ahead of the command: when the command fails it has taken in
counts, a register and an operator, and perhaps recorded a character search.
Nothing else has happened by then. In Normal and Visual mode the session
after a key that fails is the one before it, with the last search, the error
shown and the parser as it is at first. A command line that fails leaves the
editor as it was; at most, key maps without mappings have come into being.

Key definitions: `Mode.failure?`.
Key theorems: `Mode.handle_of_failure`, `ExCommand.run_of_error`,
`Session.hand_of_failure`, `Session.failed_command_only_reports`.
-/
import Keywise.Proofs.Session.Turn

namespace Keywise

/-! ### Keys -/

namespace Mode

/-- The error that an attempt ends in. -/
def errorOf? (out : Except CommandError Bool) : Option CommandError :=
  match out with
  | .error err => some err
  | .ok _ => none

/-- The error that a key ends in, in Normal and Visual mode. -/
def failure? (m : Mode) (e : Editor) (k : Key) : Option CommandError :=
  match m with
  | normal s => errorOf? (s.attempt e k).2.2
  | visual s => errorOf? (s.attempt e k).2.2
  | _ => none

theorem handle_normal_of_failure {s : Normal} {e : Editor} {k : Key} {err : CommandError}
    (h : errorOf? (s.attempt e k).2.2 = some err) :
    ∃ find, s.handle e k = (.idle, (e.remember find).report err, true) := by
  have heffect := Normal.effect_attempt s e k
  unfold Normal.handle
  generalize s.attempt e k = reply at h heffect
  cases heffect with
  | fails s' find err' =>
    obtain rfl : err' = err := Option.some.inj h
    exact ⟨find, rfl⟩
  | _ => cases h

theorem handle_visual_of_failure {s : Visual} {e : Editor} {k : Key} {err : CommandError}
    (h : errorOf? (s.attempt e k).2.2 = some err) :
    ∃ find, s.handle e k = (.idle s.kind, (e.remember find).report err, true) := by
  have heffect := Visual.effect_attempt s e k
  unfold Visual.handle
  generalize s.attempt e k = reply at h heffect
  cases heffect with
  | fails s' find err' hkind =>
    obtain rfl : err' = err := Option.some.inj h
    exact ⟨find, by simp only [hkind]⟩
  | _ => cases h

/-- **A key that fails** leaves the parser as it is at first, and the editor
with at most another last search and the error. -/
theorem handle_of_failure {m : Mode} {e : Editor} {k : Key} {err : CommandError}
    (h : m.failure? e k = some err) :
    ∃ find, m.handle e k = (m.fresh, (e.remember find).report err, true) := by
  cases m with
  | normal s =>
    obtain ⟨find, hfind⟩ := handle_normal_of_failure h
    exact ⟨find, by simp only [handle, hfind, fresh]⟩
  | visual s =>
    obtain ⟨find, hfind⟩ := handle_visual_of_failure h
    exact ⟨find, by simp only [handle, hfind, fresh]⟩
  | _ => cases h

end Mode

/-! ### Command lines -/

theorem KeyMap.remove_of_not_defines {m : KeyMap} {lhs : List Key} (h : m.defines lhs = false) :
    m.remove lhs = m := by
  have hall : m.entries.filter (·.1 != lhs) = m.entries := by
    refine List.filter_eq_self.mpr fun p hp => ?_
    have hne : (p.1 == lhs) = false := List.any_eq_false.mp h p hp |> Bool.eq_false_iff.mpr
    simp [bne, hne]
  unfold remove
  simp only [hall, if_pos]

namespace KeyMaps

theorem any_defines_eq (ms : KeyMaps) (name : MapName) (lhs : List Key) :
    (ms.find? name).any (·.defines lhs) = (ms.mappings name).any (·.1 == lhs) := by
  unfold mappings
  cases ms.find? name <;> rfl

theorem mappings_modify_remove {ms : KeyMaps} {name : MapName} {lhs : List Key}
    (h : (ms.mappings name).any (·.1 == lhs) = false) (other : MapName) :
    (modify name (·.remove lhs) ms).mappings other = ms.mappings other := by
  have hkeep : ∀ m : KeyMap, (m.remove lhs).name = m.name :=
    fun m => m.name_remove lhs
  unfold mappings
  by_cases ho : other = name
  · subst ho
    rw [find?_modify_self other hkeep]
    rw [← any_defines_eq] at h
    cases hfind : ms.find? other with
    | none => rfl
    | some m =>
      rw [hfind] at h
      show (m.remove lhs).entries = m.entries
      rw [KeyMap.remove_of_not_defines h]
  · rw [find?_modify_of_ne ho hkeep]

theorem mappings_foldl_remove {names : List MapName} {lhs : List Key} : ∀ {ms : KeyMaps},
    (∀ name ∈ names, (ms.mappings name).any (·.1 == lhs) = false) → ∀ other,
      (names.foldl (fun ms name => modify name (·.remove lhs) ms) ms).mappings other =
        ms.mappings other := by
  induction names with
  | nil => intro ms _ other; rfl
  | cons name names ih =>
    intro ms h other
    have hone := mappings_modify_remove (h name List.mem_cons_self)
    rw [List.foldl_cons, ih, hone]
    intro name' hname'
    rw [hone]
    exact h name' (List.mem_cons_of_mem _ hname')

end KeyMaps

/-- **A command line that fails** changes no mappings, and nothing else. -/
theorem ExCommand.run_of_error {e e' : Editor} {line : List Char} {err : CommandError}
    (h : ExCommand.run e line = (e', some err)) :
    { e' with keyMaps := e.keyMaps } = e ∧
      ∀ name, e'.keyMaps.mappings name = e.keyMaps.mappings name := by
  have hsame : ∀ {err'}, (e, some err') = (e', some err) →
      { e' with keyMaps := e.keyMaps } = e ∧
        ∀ name, e'.keyMaps.mappings name = e.keyMaps.mappings name := by
    intro err' heq
    obtain rfl := (Prod.mk.inj heq).1
    exact ⟨rfl, fun _ => rfl⟩
  unfold run at h
  cases hline : parse line with
  | nothing => rw [hline] at h; cases h
  | goto n => rw [hline] at h; cases h
  | map maps recursive lhs rhs =>
    rw [hline] at h
    simp only [apply] at h
    split at h
    · cases h
    · exact hsame h
    · exact hsame h
  | list maps lhs =>
    rw [hline] at h
    cases lhs with
    | none => cases h
    | some lhs =>
      simp only [apply] at h
      split at h
      · cases h
      · exact hsame h
  | unmap maps lhs =>
    rw [hline] at h
    simp only [apply] at h
    split at h
    · exact hsame h
    · split at h
      · exact hsame h
      · next lhs' _ =>
        obtain ⟨rfl, hknown⟩ := Prod.mk.inj h
        refine ⟨rfl, KeyMaps.mappings_foldl_remove fun name hname => ?_⟩
        rw [← KeyMaps.any_defines_eq]
        by_contra hdefines
        rw [Bool.not_eq_false] at hdefines
        have hany : (maps.any fun name => (e.keyMaps.find? name).any (·.defines lhs')) = true :=
          List.any_eq_true.mpr ⟨name, hname, hdefines⟩
        rw [hany] at hknown
        cases hknown
  | mapclear maps => rw [hline] at h; cases h
  | unknown line' =>
    rw [hline] at h
    exact hsame h

/-! ### Sessions -/

namespace Session

/-- **A key that fails** is handled by the current mode alone. -/
theorem hand_of_failure {s : Session} {m : Mode} {k : Key} {err : CommandError}
    (hm : s.currentMode? = some m) (hfail : m.failure? s.editor k = some err) :
    ∃ find, s.hand k =
      ({ s with editor := (s.editor.remember find).report err }.putMode m.fresh, true) := by
  obtain ⟨find, hhandle⟩ := Mode.handle_of_failure hfail
  refine ⟨find, ?_⟩
  unfold hand
  rw [hm]
  simp only [hhandle]
  cases m with
  | observer o => cases hfail
  | _ => rfl

theorem give_of_hand {s s' : Session} {k : Key} {used : Bool} (hcur : s.current.isSome)
    (hhand : s.hand k = (s', used)) (hserved : s'.editor.Served) : s.give k = (s', used) := by
  obtain ⟨name, hname⟩ := Option.isSome_iff_exists.mp hcur
  unfold give
  rw [hname, hhand]
  exact Prod.ext (serve_of_nil hserved.requests hserved.replays _) rfl

/-- **A command that fails** changes nothing but the last character search,
the parser, which is as it is at first, and the error that is shown; a command
line that fails not even these. -/
theorem failed_command_only_reports :
    (∀ (s : Session) (m : Mode) (k : Key) (err : CommandError), s.currentMode? = some m →
      m.failure? s.editor k = some err → ∃ find,
        let s' := { s with editor := (s.editor.remember find).report err }.putMode m.fresh
        s.hand k = (s', true) ∧ (s.editor.Served → s.give k = (s', true))) ∧
    ∀ (e e' : Editor) (line : List Char) (err : CommandError),
      ExCommand.run e line = (e', some err) →
        { e' with keyMaps := e.keyMaps } = e ∧
          ∀ name, e'.keyMaps.mappings name = e.keyMaps.mappings name := by
  refine ⟨fun s m k err hm hfail => ?_, fun e e' line err => ExCommand.run_of_error⟩
  obtain ⟨find, hhand⟩ := hand_of_failure hm hfail
  refine ⟨find, hhand, fun hserved => give_of_hand ?_ hhand ?_⟩
  · rw [(current_of_currentMode? hm).1]
    rfl
  · have hedited := (s.editor.edited_remember find).then (Editor.edited_report _ err)
    exact hserved.edited hedited

/-- Text in which the second of some character on the line is looked for. -/
def seeking : Session :=
  (standard { text := ['a', 'b'] }).putMode
    (.normal { count := some 2, awaiting := .motion (.find false false) })

/-- The character is not found, and a mapping that is not there is not
removed. -/
theorem failed_find_only_reports :
    (∃ m err, seeking.currentMode? = some m ∧ m.failure? seeking.editor (.char 'z') = some err ∧
      seeking.editor.Served ∧ ∃ find, seeking.give (.char 'z') =
        ({ seeking with editor := (seeking.editor.remember find).report err }.putMode m.fresh,
          true)) ∧
    ∃ e' err, ExCommand.run seeking.editor ['u', 'n', 'm', 'a', 'p', ' ', 'q'] = (e', some err) ∧
      { e' with keyMaps := seeking.editor.keyMaps } = seeking.editor ∧
      ∀ name, e'.keyMaps.mappings name = seeking.editor.keyMaps.mappings name := by
  obtain ⟨hkey, hline⟩ := failed_command_only_reports
  have hserved : seeking.editor.Served := ⟨rfl, rfl⟩
  constructor
  · have hmode : seeking.currentMode? =
        some (.normal { count := some 2, awaiting := .motion (.find false false) }) := rfl
    have hfail : Mode.failure? (.normal { count := some 2, awaiting := .motion (.find false false) })
        seeking.editor (.char 'z') = some (.charNotFound 'z') := by
      decide +kernel
    obtain ⟨find, -, hgive⟩ := hkey seeking _ _ _ hmode hfail
    exact ⟨_, _, hmode, hfail, hserved, find, hgive hserved⟩
  · have herr : (ExCommand.run seeking.editor ['u', 'n', 'm', 'a', 'p', ' ', 'q']).2 =
        some .noSuchMapping := by
      decide +kernel
    have hrun : ExCommand.run seeking.editor ['u', 'n', 'm', 'a', 'p', ' ', 'q'] =
        (_, some .noSuchMapping) := Prod.ext rfl herr
    exact ⟨_, _, hrun, hline _ _ _ _ hrun⟩

end Session
end Keywise
