/-
# Mode, selection and prompt stay in step

The name that is shown, the selection and the line at the bottom say what the
current mode is: a mode that selects has a selection of its kind that ends at
the cursor, a mode that prompts shows its line, and no other mode has either
(`Mode.InStep`). Every key keeps that, whatever mode it leads to, and so does
every change of mode; it is true after all that a host can call
(`Session.in_step_of_calls?`).

A mode that asks for another one may leave its own selection and line out of
step: they are gone once it is left (`Mode.Leavable`).

Key definitions: `Mode.InStep`, `Mode.Leavable`.
Key theorems: `Mode.Leavable.goTo`, `Mode.InStep.keeps`,
`Mode.invariant_inStep`, `Session.in_step_of_calls?`.
-/
import Keywise.Proofs.Session.Invariant

namespace Keywise

open Editor (Edited)

namespace Mode

/-- What the mode selects, if it does. -/
def selects? : Mode → Option SelectionKind
  | visual s => some s.kind
  | _ => none

/-- The line that the mode shows, if it does. -/
def shows? : Mode → Option String
  | command p => some (String.ofList (':' :: p.contents))
  | search p backward => some (String.ofList (searchLead backward :: p.contents))
  | _ => none

/-- There is a selection of the kind given that ends at the cursor, or none if
no kind is. -/
def Selecting (kind : Option SelectionKind) (e : Editor) : Prop :=
  match kind with
  | some kind => ∃ a ≤ e.text.length, e.selection = some ⟨a, e.cursor, kind⟩
  | none => e.selection = none

/-- The editor is in step with the mode. -/
structure InStep (m : Mode) (e : Editor) : Prop where
  display : e.screen.mode = m.display
  cursor_le : e.cursor ≤ e.text.length
  selection : Selecting m.selects? e
  commandLine : e.screen.commandLine = m.shows?

/-- It is in step as soon as the mode is left. -/
structure Leavable (m : Mode) (e : Editor) : Prop where
  cursor_le : e.cursor ≤ e.text.length
  selection : m.selects? = none → e.selection = none
  commandLine : m.shows? = none → e.screen.commandLine = none

/-- Neither selection nor line is left. -/
structure Clear (e : Editor) : Prop where
  cursor_le : e.cursor ≤ e.text.length
  selection : e.selection = none
  commandLine : e.screen.commandLine = none

/-! ### Going from mode to mode -/

theorem InStep.leavable {m : Mode} {e : Editor} (h : m.InStep e) : m.Leavable e := by
  refine ⟨h.cursor_le, fun hm => ?_, fun hm => ?_⟩
  · have hsel := h.selection
    rw [hm] at hsel
    exact hsel
  · rw [h.commandLine, hm]

theorem Leavable.withoutRequests {m : Mode} {e : Editor} (h : m.Leavable e) :
    m.Leavable e.withoutRequests :=
  ⟨h.cursor_le, h.selection, h.commandLine⟩

/-- A mode that is left takes its selection and its line along. -/
theorem Leavable.leave {m : Mode} {e : Editor} (h : m.Leavable e) : Clear (m.leave e).2 := by
  cases m with
  | visual s => exact ⟨h.cursor_le, rfl, h.commandLine rfl⟩
  | command p => exact ⟨h.cursor_le, h.selection rfl, rfl⟩
  | search p backward => exact ⟨h.cursor_le, h.selection rfl, rfl⟩
  | _ => exact ⟨h.cursor_le, h.selection rfl, h.commandLine rfl⟩

theorem text_leave (m : Mode) (e : Editor) : (m.leave e).2.text = e.text := by
  cases m <;> rfl

/-- Where a selection is to begin is in the text. -/
def Anchored (args : List ModeArg) (t : Text) : Prop := ∀ p, .anchor p ∈ args → p ≤ t.length

theorem anchored_nil (t : Text) : Anchored [] t := fun _ h => nomatch h

/-- **A mode that is entered** has a selection and a line of its own. -/
theorem Clear.enter {e : Editor} (h : Clear e) {m : Mode} (hm : m.IsStandard)
    {args : List ModeArg} (hargs : Anchored args e.text) :
    (m.enter e args).1.InStep ((m.enter e args).2.1.shown m.display) := by
  cases m with
  | normal s =>
    have hsettle := e.edited_settle .keep
    exact ⟨rfl, hsettle.cursor_le h.cursor_le, hsettle.selection.trans h.selection,
      hsettle.commandLine.trans h.commandLine⟩
  | visual s =>
    refine ⟨rfl, h.cursor_le, ⟨_, ?_, rfl⟩, h.commandLine⟩
    cases hanchor : args.findSome? _ with
    | none => exact h.cursor_le
    | some p =>
      obtain ⟨arg, hmem, hp⟩ := List.exists_of_findSome?_eq_some hanchor
      cases arg with
      | anchor q =>
        cases hp
        exact hargs _ hmem
      | resume => cases hp
      | searchBackward => cases hp
  | command p => exact ⟨rfl, h.cursor_le, h.selection, rfl⟩
  | search p backward => exact ⟨rfl, h.cursor_le, h.selection, rfl⟩
  | observer o => exact absurd hm (not_isStandard_observer o)
  | _ => exact ⟨rfl, h.cursor_le, h.selection, h.commandLine⟩

/-- **A mode that is gone over to** is in step. -/
theorem Leavable.goTo {m : Mode} {e : Editor} (h : m.Leavable e) {m' : Mode} (hm : m'.IsStandard)
    {args : List ModeArg} (hargs : Anchored args e.text) :
    (m.goTo m' e args).1.InStep (m.goTo m' e args).2 := by
  rw [← m.text_leave e] at hargs
  exact h.leave.enter hm hargs

/-! ### Keys -/

/-- It is enough to look at the mode and the editor before what was asked for
is done. -/
theorem keeps_inStep {m : Mode} {e : Editor} {k : Key}
    (hstays : (m.handle e k).2.1.requests = [] → (m.handle e k).1.InStep (m.handle e k).2.1)
    (hgoes : ∀ r, (m.handle e k).2.1.requests = [r] → (m.handle e k).2.1.replays = [] →
      (m.handle e k).1.Leavable (m.handle e k).2.1 ∧
        Anchored r.args (m.handle e k).2.1.text) :
    m.Keeps InStep e k := by
  intro m' e' h
  cases h with
  | stays hserved => exact hstays hserved.requests
  | goes hrequests hreplays _ _ hstd =>
    obtain ⟨hleavable, hargs⟩ := hgoes _ hrequests hreplays
    exact hleavable.withoutRequests.goTo hstd hargs

theorem InStep.edited {m m' : Mode} {rs : List ModeRequest} {e e' : Editor} (h : m.InStep e)
    (hedited : Edited rs e e') (hnone : m.selects? = none) (hselects : m'.selects? = none)
    (hshows : m'.shows? = m.shows?) (hdisplay : m'.display = m.display) : m'.InStep e' := by
  have hsel := h.selection
  rw [hnone] at hsel
  refine ⟨?_, hedited.cursor_le h.cursor_le, ?_, ?_⟩
  · rw [hedited.display, h.display, hdisplay]
  · rw [hselects]
    exact hedited.selection.trans hsel
  · rw [hedited.commandLine, h.commandLine, hshows]

theorem keeps_inStep_of_edited {m : Mode} {e : Editor} {k : Key} {rs : List ModeRequest}
    (h : m.InStep e) (he : e.Served) (hedited : Edited rs e (m.handle e k).2.1)
    (hargs : ∀ r ∈ rs, ∀ p, .anchor p ∉ r.args) (hnone : m.selects? = none)
    (hselects : (m.handle e k).1.selects? = none) (hshows : (m.handle e k).1.shows? = m.shows?)
    (hdisplay : (m.handle e k).1.display = m.display) : m.Keeps InStep e k := by
  have hinStep := h.edited hedited hnone hselects hshows hdisplay
  refine keeps_inStep (fun _ => hinStep) fun r hr _ => ⟨hinStep.leavable, fun p hp => ?_⟩
  have hrs : rs = [r] := by
    have hrequests := hedited.requests
    rw [he.requests, hr] at hrequests
    exact hrequests.symm
  have hmem : r ∈ rs := by
    rw [hrs]
    exact List.mem_singleton_self r
  exact absurd hp (hargs r hmem p)

theorem anchor_notMem_of_asked {rs : List ModeRequest} (h : rs ∈ Typing.asked) :
    ∀ r ∈ rs, ∀ p, .anchor p ∉ r.args := by
  simp only [Typing.asked, List.mem_cons, List.not_mem_nil, or_false] at h
  rcases h with rfl | rfl | rfl <;> simp

theorem keeps_inStep_prompt {m : Mode} {p : Prompt} {lead : Char}
    {run : Editor → List Char → Editor} (hrun : ∀ e line, Edited [] e (run e line)) {e : Editor}
    {k : Key} (h : m.InStep e) (he : e.Served) (hnone : m.selects? = none)
    (hshows : m.shows? = some (String.ofList (lead :: p.contents)))
    (hhandle : (m.handle e k).2.1 = (p.handle lead run e k).2.1)
    (hselects' : (m.handle e k).1.selects? = none)
    (hshows' : (m.handle e k).1.shows? =
      some (String.ofList (lead :: (p.handle lead run e k).1.contents)))
    (hdisplay' : (m.handle e k).1.display = m.display) : m.Keeps InStep e k := by
  rcases p.handle_cases lead hrun e k with ⟨p', hp', hdisplay⟩ | ⟨hp, rs, hrs, hedited⟩
  · have hinStep : (m.handle e k).1.InStep (m.handle e k).2.1 := by
      have hsel := h.selection
      rw [hnone] at hsel
      rw [hhandle, hdisplay]
      refine ⟨?_, h.cursor_le, ?_, ?_⟩
      · exact h.display.trans hdisplay'.symm
      · rw [hselects']
        exact hsel
      · rw [hshows', hp']
        rfl
    refine keeps_inStep (fun _ => hinStep) fun r hr _ => ?_
    rw [hhandle, hdisplay] at hr
    have hr' : e.requests = [r] := hr
    rw [he.requests] at hr'
    cases hr'
  · refine keeps_inStep_of_edited h he (hhandle ▸ hedited) ?_ hnone hselects' ?_ hdisplay'
    · simp only [List.mem_cons, List.not_mem_nil, or_false] at hrs
      rcases hrs with rfl | rfl <;> simp
    · rw [hshows', hp, hshows]

theorem display_handle (m : Mode) (e : Editor) (k : Key) : (m.handle e k).1.display = m.display := by
  rw [← display_fresh, fresh_handle, display_fresh]

theorem InStep.keeps_of_selecting {s : Visual} {e e' : Editor} {k : Key} (h : (visual s).InStep e)
    (he : e.Served) (heq : (s.handle e k).2.1 = e') (hmode : e'.screen.mode = e.screen.mode)
    (hline : e'.screen.commandLine = e.screen.commandLine) (hrequests : e'.requests = e.requests)
    (hcursor : e'.cursor ≤ e'.text.length) (hsel : Selecting (some s.kind) e') :
    (visual s).Keeps InStep e k := by
  refine keeps_inStep (fun _ => ?_) fun r hr _ => ?_
  · show (visual (s.handle e k).1).InStep (s.handle e k).2.1
    rw [heq]
    refine ⟨?_, hcursor, ?_, hline.trans h.commandLine⟩
    · rw [hmode, h.display]
      exact (display_handle (visual s) e k).symm
    · show Selecting (some (s.handle e k).1.kind) e'
      rw [(s.handle_cases e k).1]
      exact hsel
  · have hr' : (s.handle e k).2.1.requests = [r] := hr
    rw [heq, hrequests, he.requests] at hr'
    cases hr'

/-- Visual mode can be left whatever it has done to the selection. -/
theorem InStep.keeps_of_asking {s : Visual} {e : Editor} {k : Key} {r : ModeRequest}
    (h : (visual s).InStep e) (he : e.Served) (hedited : Edited [r] e (s.handle e k).2.1)
    (hargs : Anchored r.args (s.handle e k).2.1.text) : (visual s).Keeps InStep e k := by
  have hone : (s.handle e k).2.1.requests = [r] := by
    rw [hedited.requests, he.requests, List.nil_append]
  refine keeps_inStep (fun hnil => ?_) fun r' hr _ => ⟨⟨hedited.cursor_le h.cursor_le, ?_, ?_⟩, ?_⟩
  · have hnil' : (s.handle e k).2.1.requests = [] := hnil
    rw [hone] at hnil'
    cases hnil'
  · exact fun hn => nomatch hn
  · exact fun _ => hedited.commandLine.trans h.commandLine
  · have hr' : (s.handle e k).2.1.requests = [r'] := hr
    rw [hone] at hr'
    cases hr'
    exact hargs

theorem exists_edited_switch (s : Visual) (e : Editor) (kind : SelectionKind) :
    ∃ r, Edited [r] e (s.switch e kind) ∧ (s.switch e kind).text = e.text ∧
      ∀ p, .anchor p ∈ r.args → p = (e.selection.map (·.anchor)).getD e.cursor := by
  unfold Visual.switch
  split
  · exact ⟨_, e.edited_request _ _, rfl, fun p hp => nomatch hp⟩
  · refine ⟨_, e.edited_request _ _, rfl, fun p hp => ?_⟩
    exact ModeArg.anchor.inj (List.mem_singleton.mp hp)

theorem InStep.keeps_visual {s : Visual} {e : Editor} (h : (visual s).InStep e) (he : e.Served)
    (k : Key) : (visual s).Keeps InStep e k := by
  obtain ⟨a, ha, hsel⟩ := h.selection
  obtain ⟨-, ⟨hedited, htext, hcursor⟩ | ⟨e', hedited, htext, heq⟩ | heq |
    ⟨r, hedited, -, hargs⟩ | ⟨kind, heq⟩⟩ := s.handle_cases e k
  · -- the cursor stays
    refine h.keeps_of_selecting he rfl hedited.display hedited.commandLine ?_
      (hedited.cursor_le h.cursor_le) ⟨a, ?_, ?_⟩
    · rw [hedited.requests, List.append_nil]
    · rw [htext]
      exact ha
    · rw [hedited.selection, hsel, hcursor]
  · -- the end of the selection follows the cursor
    refine h.keeps_of_selecting he heq hedited.display hedited.commandLine ?_
      (hedited.cursor_le h.cursor_le) ⟨a, ?_, ?_⟩
    · show e'.requests = e.requests
      rw [hedited.requests, List.append_nil]
    · show a ≤ e'.text.length
      rw [htext]
      exact ha
    · show some (Selection.mk ((e'.selection.map (·.anchor)).getD e'.cursor) e'.cursor s.kind) = _
      rw [hedited.selection, hsel]
      rfl
  · -- the ends are exchanged
    have hexchange : Visual.exchange e =
        ({ e with selection := some ⟨e.cursor, a, s.kind⟩ } : Editor).moveTo a .column := by
      unfold Visual.exchange
      rw [hsel]
    have hmin : min a e.text.length = a := Nat.min_eq_left ha
    rw [hexchange] at heq
    refine h.keeps_of_selecting he heq rfl rfl rfl (Nat.min_le_right _ _) ⟨e.cursor, ?_, ?_⟩
    · exact h.cursor_le
    · show some (Selection.mk e.cursor a s.kind) = some ⟨e.cursor, min a e.text.length, s.kind⟩
      rw [hmin]
  · refine h.keeps_of_asking he hedited ?_
    rw [hargs]
    exact anchored_nil _
  · obtain ⟨r, hedited, htext, hargs⟩ := exists_edited_switch s e kind
    rw [← heq] at hedited htext
    refine h.keeps_of_asking he hedited fun p hp => ?_
    have hp' : p = a := by
      rw [hargs p hp, hsel]
      rfl
    rw [hp', htext]
    exact ha

/-- **Every key keeps** mode, selection and line in step. -/
theorem InStep.keeps {m : Mode} {e : Editor} (h : m.InStep e) (hm : m.IsStandard) (he : e.Served)
    (k : Key) : m.Keeps InStep e k := by
  cases m with
  | normal s =>
    obtain ⟨rs, hedited, hrs⟩ := s.edited_handle e k
    refine keeps_inStep_of_edited h he hedited ?_ rfl rfl rfl rfl
    rcases hrs with rfl | ⟨r, rfl, -, hargs⟩
    · exact fun r hr => nomatch hr
    · intro r' hr'
      rw [List.mem_singleton.mp hr']
      exact hargs
  | visual s => exact h.keeps_visual he k
  | insert s =>
    obtain ⟨rs, hrs, hedited⟩ := s.edited_handle e k
    exact keeps_inStep_of_edited h he hedited (anchor_notMem_of_asked hrs) rfl rfl rfl rfl
  | replace s =>
    obtain ⟨rs, hrs, hedited⟩ := s.edited_handle e k
    exact keeps_inStep_of_edited h he hedited (anchor_notMem_of_asked hrs) rfl rfl rfl rfl
  | command p => exact keeps_inStep_prompt Prompt.edited_command h he rfl rfl rfl rfl rfl rfl
  | search p backward =>
    exact keeps_inStep_prompt (Prompt.edited_search backward) h he rfl rfl rfl rfl rfl rfl
  | insertExpand s =>
    rcases s.handle_cases e k with hedited | heq
    · exact keeps_inStep_of_edited h he hedited (fun r hr => nomatch hr) rfl rfl rfl rfl
    · -- the key waits to be handed over, so nothing is settled yet
      have hreplays : ((insertExpand s).handle e k).2.1.replays = e.replays ++ [k] :=
        congrArg Editor.replays heq
      intro m' e' hsettles
      cases hsettles with
      | stays hserved =>
        rw [hserved.replays] at hreplays
        exact absurd hreplays.symm (by simp)
      | goes _ hnil _ _ _ =>
        rw [hnil] at hreplays
        exact absurd hreplays.symm (by simp)
  | observer o => exact absurd hm (not_isStandard_observer o)

/-- **Mode, selection and line stay in step**, whatever happens. -/
theorem invariant_inStep : Invariant (fun _ _ _ => True) InStep where
  keeps h hm he _ := h.keeps hm he _
  goTo h hm hargs := h.leavable.goTo hm fun p hp => absurd hp (hargs p)
  resume _ := trivial
  shown h := ⟨rfl, h.cursor_le, h.selection, h.commandLine⟩
  report h _ := ⟨h.display, h.cursor_le, h.selection, h.commandLine⟩

end Mode

/-- **After all calls** a mode the editor has is current, and the name that is
shown, the cursor, the selection and the line at the bottom are in step with
it; nothing that was asked for waits. -/
theorem Session.in_step_of_calls? {e : Editor} (hsel : e.selection = none)
    (hline : e.screen.commandLine = none) (he : e.Served) (depth : Nat) {room : Nat}
    {cs : List Call} {s : Session}
    (h : ((standard e).setMaxDepth depth).calls? cs room = some s) :
    ∃ m, s.current = some m.name ∧ s.mode? m.name = some m ∧ m.IsStandard ∧
      m.InStep s.editor ∧ s.editor.Served := by
  have hstart : Mode.InStep (.normal .idle) ((e.settle .keep).shown "NORMAL") :=
    ⟨rfl, Nat.min_le_right _ _, hsel, hline⟩
  have hbegin := (at_standard e depth).satisfies ⟨he.requests, he.replays⟩ hstart
  obtain ⟨⟨⟨m, hat, hm⟩, hserved⟩, -⟩ :=
    Mode.invariant_inStep.of_calls? hbegin (fun _ _ _ _ _ => trivial) h
  obtain ⟨hcur, hmode⟩ := current_of_currentMode? hat.current
  exact ⟨m, hcur, hmode, hat.isStandard, hm, hserved⟩

/-- A selection is begun, and given up for a command line. -/
theorem Session.in_step_of_command_line :
    let e : Editor := { text := ['a', 'b'] }
    let cs : List Call :=
      [.key (.char 'v'), .key (.char 'l'), .mode .command, .timeout, .key (.char 'x')]
    e.selection = none ∧ e.screen.commandLine = none ∧ e.Served ∧
      ∃ s, ((standard e).setMaxDepth 1).calls? cs = some s ∧
        s.editor.screen.commandLine = some ":x" ∧ ∃ m, s.current = some m.name ∧
          s.mode? m.name = some m ∧ m.IsStandard ∧ m.InStep s.editor ∧ s.editor.Served := by
  intro e cs
  have hserved : e.Served := ⟨rfl, rfl⟩
  have hview : (((standard e).setMaxDepth 1).calls? cs).map (·.editor.screen.commandLine) =
      some (some ":x") := by
    decide +kernel
  obtain ⟨s, hrun, hline⟩ := Option.map_eq_some_iff.mp hview
  exact ⟨rfl, rfl, hserved, s, hrun, hline, in_step_of_calls? rfl rfl hserved 1 hrun⟩

end Keywise
