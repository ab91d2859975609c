/-
# What a mode asks for

A key that a mode handles makes it ask for another mode at most. There is one
exception: the mode that completes a line goes back to Insert mode with a key
it has no use for, and has that key handed over again
(`Mode.handle_asks`). What a mode is does not change by its handling keys, nor
by its being entered and left: it is a mode an editor has at first, but for
what it keeps from key to key (`Mode.fresh`).

Key definitions: `Visual.next`, `Mode.fresh`.
Key theorems: `Insert.edited_handle`, `Replace.edited_handle`,
`Completion.handle_cases`, `Prompt.handle_cases`, `Normal.edited_handle`,
`Visual.edited_operate`, `Visual.handle_operatorKey`, `Visual.handle_cases`,
`Mode.handle_asks`.
-/
import Keywise.Mode.Basic
import Keywise.Proofs.Mode.Effect

namespace Keywise

open Editor (Edited)

/-! ### Modes that type -/

namespace Typing

theorem edited_type (e : Editor) (new : Text) : Edited [] e (type e new) :=
  e.edited_replace_moveTo _ _ _ _ _

theorem edited_deleteBackTo (e : Editor) (start : Nat) : Edited [] e (deleteBackTo e start) := by
  unfold deleteBackTo
  split
  · exact e.edited_replace_moveTo _ _ _ _ _
  · exact .refl e

theorem edited_escape (e : Editor) : Edited [⟨.normal, []⟩] e (escape e) := by
  have hmove : Edited [] e
      (if e.cursor > e.line.start then e.moveTo (e.cursor - 1) .column else e) := by
    split
    · exact e.edited_moveTo _ _
    · exact .refl e
  exact hmove.then (Editor.edited_request _ _ _)

theorem edited_delete (e : Editor) :
    Edited [] e (if e.cursor < e.text.length then e.replace e.cursor 1 [] else e) := by
  split
  · next hlt =>
    refine ⟨rfl, rfl, rfl, (List.append_nil _).symm, rfl, fun _ => ?_⟩
    show e.cursor ≤ (e.text.splice e.cursor 1 []).length
    simp only [Text.splice, List.append_nil, List.length_append, List.length_take,
      List.length_drop]
    omega
  · exact .refl e

/-- The modes that typing modes ask for. -/
def asked : List (List ModeRequest) := [[], [⟨.insertExpand, []⟩], [⟨.normal, []⟩]]

/-- **The keys both modes treat alike** edit, and may lead to Normal mode or to
completing a line. -/
theorem edited_control? {e e' : Editor} {k : Key} {typedFrom : Option Nat}
    (h : control? e k typedFrom = some e') : ∃ rs ∈ asked, Edited rs e e' := by
  unfold control? at h
  split at h
  · split at h
    · obtain rfl := Option.some.inj h
      exact ⟨_, by simp [asked], e.edited_request _ _⟩
    · obtain rfl := Option.some.inj h
      exact ⟨[], by simp [asked], edited_deleteBackTo e _⟩
    · obtain rfl := Option.some.inj h
      exact ⟨[], by simp [asked], edited_deleteBackTo e _⟩
    · cases h
  · split at h
    · obtain rfl := Option.some.inj h
      exact ⟨_, by simp [asked], edited_escape e⟩
    · obtain rfl := Option.some.inj h
      exact ⟨[], by simp [asked], edited_type e _⟩
    · obtain rfl := Option.some.inj h
      exact ⟨[], by simp [asked], edited_delete e⟩
    · obtain ⟨m, -, rfl⟩ := Option.map_eq_some_iff.mp h
      exact ⟨[], by simp [asked], e.edited_moveTo _ _⟩

end Typing

theorem Insert.edited_handle (s : Insert) (e : Editor) (k : Key) :
    ∃ rs ∈ Typing.asked, Edited rs e (s.handle e k).1 := by
  unfold handle
  split
  · next e' hcontrol => exact Typing.edited_control? hcontrol
  · refine ⟨[], by simp [Typing.asked], ?_⟩
    split
    · exact Typing.edited_type e _
    · split
      · split
        · exact Typing.edited_deleteBackTo e _
        · exact .refl e
      · split
        · exact Typing.edited_type e _
        · exact .refl e

theorem Replace.edited_restore (s : Replace) (e : Editor) : Edited [] e (s.restore e).2 := by
  unfold restore
  split
  · exact .refl e
  · split <;> dsimp only
    · exact e.edited_replace_moveTo _ _ _ _ _
    · exact e.edited_replace_moveTo _ _ _ _ _
    · exact e.edited_moveTo _ _

theorem Replace.edited_overwrite (s : Replace) (e : Editor) (c : Char) :
    Edited [] e (s.overwrite e c).2 := by
  unfold overwrite
  dsimp only
  exact e.edited_replace_moveTo _ _ _ _ _

theorem Replace.edited_handle (s : Replace) (e : Editor) (k : Key) :
    ∃ rs ∈ Typing.asked, Edited rs e (s.handle e k).2.1 := by
  unfold handle
  split
  · exact ⟨[], by simp [Typing.asked], s.edited_restore e⟩
  · split
    · exact ⟨[], by simp [Typing.asked], Typing.edited_type e _⟩
    · split
      · next e' hcontrol => exact Typing.edited_control? hcontrol
      · refine ⟨[], by simp [Typing.asked], ?_⟩
        split
        · exact s.edited_overwrite e _
        · exact .refl e

/-! ### The mode that completes a line -/

namespace Completion

theorem edited_complete (s : Completion) (e : Editor) (forward : Bool) :
    Edited [] e (s.complete e forward).2 := by
  unfold complete
  extract_lets l line s
  split
  · exact e.edited_showError _
  · dsimp only
    exact (e.edited_replace_moveTo _ _ _ _ _).then (Editor.edited_showInfo _ _)

/-- **A key completes the line**, or it goes on to Insert mode. -/
theorem handle_cases (s : Completion) (e : Editor) (k : Key) :
    Edited [] e (s.handle e k).2.1 ∨
      (s.handle e k).2.1 = (e.request .insert [.resume]).replay k := by
  unfold handle
  simp only
  split
  · exact Or.inl (s.edited_complete e true)
  · split
    · exact Or.inl (s.edited_complete e false)
    · exact Or.inr rfl

end Completion

/-! ### Lines typed at the bottom -/

/-- Command lines ask for nothing, whether they fail or not. -/
theorem ExCommand.edited_run (e : Editor) (line : List Char) :
    Edited [] e (ExCommand.run e line).1 := by
  have hmaps : ∀ maps f, Edited [] e (modifyMaps maps f e) := fun _ _ =>
    ⟨rfl, rfl, rfl, (List.append_nil _).symm, rfl, id⟩
  have hlist : ∀ maps lhs, Edited [] e (showListings e maps lhs) := by
    intro maps lhs
    unfold showListings
    split <;> exact e.edited_showInfo _
  unfold run
  cases parse line with
  | nothing => exact .refl e
  | goto n => exact e.edited_moveTo (lineTarget e.text n) .column
  | map maps recursive lhs rhs =>
    unfold apply
    simp only
    split
    · exact hmaps _ _
    · exact .refl e
    · exact .refl e
  | list maps lhs =>
    cases lhs with
    | none => exact hlist _ _
    | some lhs =>
      unfold apply
      simp only
      split
      · exact hlist _ _
      · exact .refl e
  | unmap maps lhs =>
    unfold apply
    simp only
    split
    · exact .refl e
    · split
      · exact .refl e
      · exact hmaps _ _
  | mapclear maps => exact hmaps _ _
  | unknown line => exact .refl e

namespace Prompt

theorem edited_command (e : Editor) (line : List Char) : Edited [] e (command e line) := by
  have hrun := ExCommand.edited_run e line
  unfold command
  split
  · next e' h =>
    rw [h] at hrun
    exact hrun
  · next e' err h =>
    rw [h] at hrun
    exact hrun.then (e'.edited_report err)

theorem edited_search (backward : Bool) (e : Editor) (line : List Char) :
    Edited [] e (search backward e line) := by
  unfold search
  simp only
  split
  · exact e.edited_report _
  · split
    · exact e.edited_report _
    · next pattern _ _ _ _ =>
      refine (e.edited_modifyRegisters fun r =>
        { r with lastSearch := some ⟨pattern, backward⟩ }).then ?_
      split
      · exact Editor.edited_report _ _
      · exact Editor.edited_moveTo _ _ _

/-- **A key edits the line**, which is shown then, or the line is carried out
or abandoned, or nothing happens. -/
theorem handle_cases (p : Prompt) (lead : Char) {run : Editor → List Char → Editor}
    (hrun : ∀ e line, Edited [] e (run e line)) (e : Editor) (k : Key) :
    (∃ p', (p.handle lead run e k).1 = p' ∧ (p.handle lead run e k).2.1 = p'.display lead e) ∨
      (p.handle lead run e k).1 = p ∧ ∃ rs ∈ ([[], [⟨.normal, []⟩]] : List (List ModeRequest)),
        Edited rs e (p.handle lead run e k).2.1 := by
  unfold handle
  split
  · exact Or.inl ⟨_, rfl, rfl⟩
  · exact Or.inr ⟨rfl, _, by simp, e.edited_request _ _⟩
  · exact Or.inr ⟨rfl, _, by simp, (e.edited_request _ _).trans (hrun _ _)⟩
  · exact Or.inr ⟨rfl, [], by simp, .refl e⟩

end Prompt

/-! ### Normal and Visual mode -/

theorem Normal.edited_operate (op : Operator) (e : Editor) (r : Range) (kind : TextKind)
    (register : Option Char) : Edited op.requests e (operate op e r kind register) := by
  have happly := op.edited_apply e r kind register
  unfold operate settleAfter
  split
  · exact happly
  · have hsettle := happly.trans (Editor.edited_settle _ .column)
    rwa [List.append_nil] at hsettle

theorem Normal.edited_replaceChars {e e' : Editor} {c : Char} {n : Nat}
    (h : replaceChars e c n = (e', none)) : Edited [] e e' := by
  unfold replaceChars at h
  split at h
  · cases h
  · obtain rfl := (Prod.mk.inj h).1
    exact e.edited_replace_moveTo _ _ _ _ _

/-- **A key in Normal mode** edits and asks for another mode at most. -/
theorem Normal.edited_handle (s : Normal) (e : Editor) (k : Key) :
    ∃ rs, Edited rs e (s.handle e k).2.1 ∧
      (rs = [] ∨ ∃ r, rs = [r] ∧ r.name ∈ asked ∧ ∀ p, .anchor p ∉ r.args) := by
  have heffect := effect_attempt s e k
  unfold handle
  generalize s.attempt e k = reply at heffect
  cases heffect with
  | reads s' used _ => exact ⟨[], .refl e, Or.inl rfl⟩
  | follows m e' h => exact ⟨[], (Editor.follow_ok h).1, Or.inl rfl⟩
  | operates op find r kind =>
    refine ⟨op.requests, (e.edited_remember find).then (edited_operate _ _ _ _ _), ?_⟩
    cases op with
    | change => exact Or.inr ⟨_, rfl, by simp [asked], by simp⟩
    | delete => exact Or.inl rfl
    | yank => exact Or.inl rfl
  | puts side e' _ h => exact ⟨[], Editor.edited_put h, Or.inl rfl⟩
  | replaces c e' _ _ h => exact ⟨[], edited_replaceChars h, Or.inl rfl⟩
  | types start new p =>
    exact ⟨_, (e.edited_replace_moveTo _ _ _ _ _).then (Editor.edited_request _ _ _),
      Or.inr ⟨_, rfl, by simp [asked], by simp⟩⟩
  | asks name args hname hargs => exact ⟨_, e.edited_request _ _, Or.inr ⟨_, rfl, hname, hargs⟩⟩
  | fails s' find err => exact ⟨[], (e.edited_remember find).then (Editor.edited_report _ _), Or.inl rfl⟩

namespace Visual

/-- The mode that Visual mode goes over to when an operator was applied. -/
def next : Operator → ModeName
  | .change => .insert
  | .delete | .yank => .normal

/-- **An operator** edits, and asks for the mode that comes next. -/
theorem edited_operate (e : Editor) (op : Operator) (wholeLines : Bool) (register : Option Char) :
    Edited [⟨next op, []⟩] e (operate e op wholeLines register) := by
  unfold operate
  generalize selected e wholeLines = sel
  obtain ⟨r, kind⟩ := sel
  have happly := op.edited_apply e r kind register
  cases op with
  | change => exact happly
  | delete | yank =>
    exact happly.then ((Editor.edited_settle _ .column).then (Editor.edited_request _ _ _))

/-- **The key of an operator** applies it to what is selected, whatever count
was typed. -/
theorem handle_operatorKey {s : Visual} {c : Char} {op : Operator} {wholeLines : Bool}
    (h : operatorOf? c = some (op, wholeLines)) (hname : s.awaitsName = false)
    (hlead : s.lead = none) (e : Editor) : s.handle e (.char c) =
      ({ s with count := none, register := none }, operate e op wholeLines s.register, true) := by
  obtain ⟨kind, count, register, awaitsName, lead⟩ := s
  obtain rfl : awaitsName = false := hname
  obtain rfl : lead = none := hlead
  unfold operatorOf? at h
  split at h <;> cases h <;> rfl

/-- **A key in Visual mode** leaves the cursor and the text as they are, or it
takes the end of the selection along with the cursor, or to its other end, or
another mode is asked for. -/
theorem handle_cases (s : Visual) (e : Editor) (k : Key) :
    (s.handle e k).1.kind = s.kind ∧
      (Edited [] e (s.handle e k).2.1 ∧ (s.handle e k).2.1.text = e.text ∧
          (s.handle e k).2.1.cursor = e.cursor ∨
        (∃ e', Edited [] e e' ∧ e'.text = e.text ∧ (s.handle e k).2.1 = s.followCursor e') ∨
        (s.handle e k).2.1 = exchange e ∨
        (∃ r, Edited [r] e (s.handle e k).2.1 ∧ r.name ∈ [.insert, .normal, .command] ∧
          r.args = []) ∨
        ∃ kind, (s.handle e k).2.1 = s.switch e kind) := by
  have heffect := effect_attempt s e k
  unfold handle
  generalize s.attempt e k = reply at heffect
  cases heffect with
  | reads s' used hkind => exact ⟨hkind, Or.inl ⟨.refl e, rfl, rfl⟩⟩
  | follows s' m e' hkind h =>
    obtain ⟨hedited, htext, -⟩ := Editor.follow_ok h
    exact ⟨hkind, Or.inr (Or.inl ⟨e', hedited, htext, rfl⟩)⟩
  | operates s' op wholeLines hkind =>
    have hedited := edited_operate e op wholeLines s.register
    refine ⟨hkind, Or.inr (Or.inr (Or.inr (Or.inl ⟨_, hedited, ?_, rfl⟩)))⟩
    cases op <;> simp [next]
  | exchanges s' hkind => exact ⟨hkind, Or.inr (Or.inr (Or.inl rfl))⟩
  | switches s' kind hkind => exact ⟨hkind, Or.inr (Or.inr (Or.inr (Or.inr ⟨kind, rfl⟩)))⟩
  | leaves s' name hkind hname =>
    refine ⟨hkind, Or.inr (Or.inr (Or.inr (Or.inl ⟨_, e.edited_request _ _, ?_, rfl⟩)))⟩
    simp only [List.mem_cons] at hname ⊢
    rcases hname with h | h | h
    · exact Or.inr (Or.inl h)
    · exact Or.inr (Or.inr (Or.inl h))
    · cases h
  | fails s' find err hkind =>
    exact ⟨hkind, Or.inl ⟨(e.edited_remember find).then (Editor.edited_report _ err),
      e.text_remember find, e.cursor_remember find⟩⟩

end Visual

/-! ### All modes -/

namespace Mode

/-- The mode as it is at first. -/
def fresh : Mode → Mode
  | normal _ => normal .idle
  | visual s => visual (.idle s.kind)
  | insert _ => insert {}
  | replace _ => replace {}
  | command _ => command {}
  | search _ _ => search {} false
  | insertExpand _ => insertExpand {}
  | observer o => observer o

theorem name_fresh (m : Mode) : m.fresh.name = m.name := by cases m <;> rfl

theorem display_fresh (m : Mode) : m.fresh.display = m.display := by cases m <;> rfl

theorem fresh_enter (m : Mode) (e : Editor) (args : List ModeArg) :
    (m.enter e args).1.fresh = m.fresh := by cases m <;> rfl

theorem fresh_leave (m : Mode) (e : Editor) : (m.leave e).1.fresh = m.fresh := by cases m <;> rfl

theorem fresh_handle (m : Mode) (e : Editor) (k : Key) : (m.handle e k).1.fresh = m.fresh := by
  cases m with
  | visual s =>
    show visual (.idle (s.handle e k).1.kind) = visual (.idle s.kind)
    rw [(s.handle_cases e k).1]
  | _ => rfl

/-- Whether the mode is one an editor has, and not one of a host's own. -/
def IsStandard (m : Mode) : Prop := m.fresh ∈ standard

instance (m : Mode) : Decidable m.IsStandard := inferInstanceAs (Decidable (m.fresh ∈ standard))

theorem not_isStandard_observer (o : Observer) : ¬ (observer o).IsStandard := by
  simp [IsStandard, standard, fresh]

/-- The names of the modes an editor has. -/
def names : List ModeName := standard.map name

/-- Modes to be entered from a mode: one at most, and another one. -/
def Leads (own : ModeName) (rs : List ModeRequest) : Prop :=
  rs = [] ∨ ∃ r, rs = [r] ∧ r.name ≠ own ∧ r.name ∈ names

/-- In the editor `e'` another mode than `own` is asked for at most, as far as
nothing was in `e`. -/
def Asks (own : ModeName) (e e' : Editor) : Prop :=
  ∃ rs, Leads own rs ∧ e'.requests = e.requests ++ rs ∧ e'.replays = e.replays

theorem Asks.of_edited {own : ModeName} {rs : List ModeRequest} {e e' : Editor}
    (h : Edited rs e e') (hrs : Leads own rs) : Asks own e e' :=
  ⟨rs, hrs, h.requests, h.replays⟩

theorem Asks.of_edited_one {own : ModeName} {r : ModeRequest} {e e' : Editor}
    (h : Edited [r] e e') (hne : r.name ≠ own) (hmem : r.name ∈ names) : Asks own e e' :=
  .of_edited h (Or.inr ⟨r, rfl, hne, hmem⟩)

theorem Asks.nothing {own : ModeName} {e e' : Editor} (hrequests : e'.requests = e.requests)
    (hreplays : e'.replays = e.replays) : Asks own e e' :=
  ⟨[], Or.inl rfl, by rw [hrequests, List.append_nil], hreplays⟩

theorem asks_normal (s : Normal) (e : Editor) (k : Key) :
    Asks .normal e (s.handle e k).2.1 := by
  obtain ⟨rs, hedited, rfl | ⟨r, rfl, hname, -⟩⟩ := s.edited_handle e k
  · exact .of_edited hedited (Or.inl rfl)
  · have hother : ∀ name ∈ Normal.asked, name ≠ .normal ∧ name ∈ names := by decide
    exact .of_edited_one hedited (hother _ hname).1 (hother _ hname).2

theorem asks_visual (s : Visual) (e : Editor) (k : Key) :
    Asks (visual s).name e (s.handle e k).2.1 := by
  have hname : (visual s).name = .visual ∨ (visual s).name = .linewiseVisual := by
    obtain ⟨kind⟩ := s
    cases kind
    · exact Or.inl rfl
    · exact Or.inr rfl
  obtain ⟨-, ⟨hedited, -⟩ | ⟨e', hedited, -, h⟩ | h | ⟨r, hedited, hr, -⟩ | ⟨kind, h⟩⟩ :=
    s.handle_cases e k
  · exact .of_edited hedited (Or.inl rfl)
  · have hasks : Asks (visual s).name e e' := .of_edited hedited (Or.inl rfl)
    rw [h]
    exact hasks
  · rw [h]
    unfold Visual.exchange
    split
    · exact .nothing rfl rfl
    · exact .nothing rfl rfl
  · simp only [List.mem_cons, List.not_mem_nil, or_false] at hr
    refine .of_edited_one hedited ?_ ?_
    · rcases hname with h | h <;> rcases hr with h' | h' | h' <;> rw [h, h'] <;> exact nofun
    · rcases hr with h' | h' | h' <;> rw [h'] <;> decide
  · rw [h]
    unfold Visual.switch
    split
    · refine .of_edited_one (e.edited_request _ _) ?_ (by decide)
      rcases hname with h | h <;> rw [h] <;> exact nofun
    · next hkind =>
      refine .of_edited_one (e.edited_request _ _) ?_ ?_
      · obtain ⟨own⟩ := s
        cases kind <;> cases own <;> first | exact absurd rfl hkind | exact nofun
      · show (if kind = .characters then ModeName.visual else .linewiseVisual) ∈ names
        split <;> decide

theorem asks_of_mem_asked {own : ModeName} (hown : own ≠ .insertExpand) (hown' : own ≠ .normal)
    {e e' : Editor} (h : ∃ rs ∈ Typing.asked, Edited rs e e') : Asks own e e' := by
  obtain ⟨rs, hrs, hedited⟩ := h
  simp only [Typing.asked, List.mem_cons, List.not_mem_nil, or_false] at hrs
  rcases hrs with rfl | rfl | rfl
  · exact .of_edited hedited (Or.inl rfl)
  · exact .of_edited_one hedited hown.symm (by decide)
  · exact .of_edited_one hedited hown'.symm (by decide)

theorem asks_prompt {own : ModeName} (hown : own ≠ .normal) (p : Prompt) (lead : Char)
    {run : Editor → List Char → Editor} (hrun : ∀ e line, Edited [] e (run e line)) (e : Editor)
    (k : Key) : Asks own e (p.handle lead run e k).2.1 := by
  rcases p.handle_cases lead hrun e k with ⟨p', -, h⟩ | ⟨-, rs, hrs, hedited⟩
  · rw [h]
    exact .nothing rfl rfl
  · simp only [List.mem_cons, List.not_mem_nil, or_false] at hrs
    rcases hrs with rfl | rfl
    · exact .of_edited hedited (Or.inl rfl)
    · exact .of_edited_one hedited hown.symm (by decide)

/-- **A mode that handles a key** asks for another mode at most. Only the mode
that completes a line has the key handed over again, to Insert mode. -/
theorem handle_asks {m : Mode} (hm : m.IsStandard) (e : Editor) (k : Key) :
    Asks m.name e (m.handle e k).2.1 ∨
      m.name = .insertExpand ∧ (m.handle e k).2.1 = (e.request .insert [.resume]).replay k := by
  cases m with
  | normal s => exact Or.inl (asks_normal s e k)
  | visual s => exact Or.inl (asks_visual s e k)
  | insert s =>
    have hasks : Asks .insert e (s.handle e k).1 :=
      asks_of_mem_asked (by decide) (by decide) (s.edited_handle e k)
    exact Or.inl hasks
  | replace s =>
    have hasks : Asks .replace e (s.handle e k).2.1 :=
      asks_of_mem_asked (by decide) (by decide) (s.edited_handle e k)
    exact Or.inl hasks
  | command p =>
    have hasks : Asks .command e (p.handle ':' Prompt.command e k).2.1 :=
      asks_prompt (by decide) p _ Prompt.edited_command e k
    exact Or.inl hasks
  | search p backward =>
    have hasks : Asks .search e
        (p.handle (searchLead backward) (Prompt.search backward) e k).2.1 :=
      asks_prompt (by decide) p _ (Prompt.edited_search backward) e k
    exact Or.inl hasks
  | insertExpand s =>
    rcases s.handle_cases e k with hedited | h
    · exact Or.inl (.of_edited hedited (Or.inl rfl))
    · exact Or.inr ⟨rfl, h⟩
  | observer o => exact absurd hm (not_isStandard_observer o)

end Mode
end Keywise
