/-
# Operators on whole lines in a session

A capital operator key in Visual mode takes whole lines. The key that selects
lines and then the small one come to the same (`Session.forced_lines_agree`):
the lines are selected from where the selection was begun to the cursor, and
the mode that is gone over to in the end finds the editor the same but for
what is shown. What is selected need not end at the cursor, but its end must
be on the line of the cursor; otherwise other lines are selected
(`Session.not_forced_lines_agree`).

Key definitions: `Session.AwaitsKeys`, `Session.selecting`.
Key theorems: `Session.AwaitsKeys.stays`, `Session.AwaitsKeys.goes`,
`Session.AwaitsKeys.names`, `Session.AwaitsKeys.operates`,
`Session.AwaitsKeys.switches`, `Session.forced_lines_agree`.
-/
import Keywise.Proofs.Mode.ForcedLines
import Keywise.Proofs.Session.GoToLine

namespace Keywise

/-! ### Going over from Visual mode -/

namespace Mode

theorem next_ne_name_visual (op : Operator) (v : Visual) : Visual.next op ≠ (visual v).name := by
  cases op <;> cases hkind : v.kind <;> simp [Visual.next, name, hkind]

/-- **After an operator** the next mode is the same, and so is the editor but
for what is shown, whatever was selected and shown before. -/
theorem goTo_presenting {m : Mode} (hm : m.IsStandard) {op : Operator}
    (hname : m.name = Visual.next op) (v v' : Visual) (e : Editor)
    (selection : Option Selection) (screen : Screen) :
    (visual v).goTo m (e.presenting selection screen) [] =
      (((visual v').goTo m e []).1,
        ((visual v').goTo m e []).2.showing (screen.showMode m.display)) := by
  cases op with
  | change =>
    obtain ⟨i, rfl⟩ := hm.eq_insert hname
    rfl
  | delete | yank =>
    obtain ⟨n, rfl⟩ := hm.eq_normal hname
    rfl

end Mode

namespace Session

/-- Mode `m` is the current one and `e` the editor. Nothing was asked for that
is still to be done, nothing is typed ahead, and no key is mapped. What other
modes there are does not matter. -/
structure AwaitsKeys (s : Session) (m : Mode) (e : Editor) : Prop where
  current : s.currentMode? = some m
  isStandard : m.IsStandard
  editor : s.editor = e
  served : e.Served
  untyped : s.typeahead = {}
  unmapped : ∀ m ∈ e.keyMaps, m.entries = []

namespace AwaitsKeys

variable {s : Session} {m m' : Mode} {e e' : Editor} {room : Nat} {k : Key} {used : Bool}

theorem calls?_key (h : s.AwaitsKeys m e) (hroom : 0 < room) (k : Key) (cs : List Call) :
    s.calls? (.key k :: cs) room = (s.give k).1.calls? cs room := by
  have hunmapped : ∀ m ∈ s.editor.keyMaps, m.entries = [] := by
    rw [h.editor]
    exact h.unmapped
  exact calls?_key_of_unmapped h.current h.untyped hunmapped hroom k cs

theorem putMode (h : s.AwaitsKeys m e) (hm : m'.IsStandard) (hname : m'.name = m.name) :
    (s.putMode m').AwaitsKeys m' e :=
  ⟨currentMode?_putMode h.current hname, hm, h.editor, h.served, h.untyped, h.unmapped⟩

theorem stays (h : s.AwaitsKeys m e) (hroom : 0 < room) (hhandle : m.handle e k = (m', e, used)) :
    (s.putMode m').AwaitsKeys m' e ∧
      ∀ cs, s.calls? (.key k :: cs) room = (s.putMode m').calls? cs room := by
  have hmode : (m.handle e k).1 = m' := congrArg Prod.fst hhandle
  have hm' : m'.IsStandard := hmode ▸ h.isStandard.handle e k
  have hname : m'.name = m.name := hmode ▸ m.name_handle e k
  refine ⟨h.putMode hm' hname, fun cs => ?_⟩
  have hgive : (s.give k).1 = s.putMode m' := by
    rw [give_of_served h.current h.isStandard (by rw [h.editor, hhandle]; exact h.served),
      h.editor, hhandle, ← h.editor]
  rw [h.calls?_key hroom, hgive]

theorem goes (h : s.AwaitsKeys m e) (hroom : 0 < room) {m₁ : Mode} {r : ModeRequest}
    (hhandle : m.handle e k = (m₁, e'.request r.name r.args, used)) (he : e'.Served)
    (hmode : s.mode? r.name = some m') (hm' : m'.IsStandard) (hne : r.name ≠ m.name)
    (cs : List Call) :
    s.calls? (.key k :: cs) room = (s.goneTo m₁ m' e' r.args).calls? cs room := by
  have hasked : (m.handle s.editor k).2.1 = e'.request r.name r.args := by
    rw [h.editor, hhandle]
  have hfirst : (m.handle s.editor k).1 = m₁ := by rw [h.editor, hhandle]
  rw [h.calls?_key hroom, give_of_request h.current h.isStandard hasked he hmode hm' hne, hfirst]

/-! ### Keys in Visual mode -/

/-- **Names of registers** are taken in one after the other. -/
theorem names (hroom : 0 < room) {kind : SelectionKind} : ∀ (names : List Char) {s : Session}
    {register : Option Char}, s.AwaitsKeys (.visual (.naming kind register)) e →
      ∃ s' : Session,
        s'.AwaitsKeys (.visual (.naming kind (names.foldl Visual.nameRead register))) e ∧
        (∀ op, s'.mode? (Visual.next op) = s.mode? (Visual.next op)) ∧
        ∀ cs, s.calls? ((Key.registerPrefix names).map .key ++ cs) room = s'.calls? cs room
  | [], s, _, h => ⟨s, h, fun _ => rfl, fun _ => rfl⟩
  | c :: names, s, register, h => by
    obtain ⟨hquote, hcalls⟩ := h.stays hroom
      (by rw [Mode.handle, Visual.handle_quote])
    obtain ⟨hname, hcalls'⟩ := hquote.stays hroom
      (by rw [Mode.handle, Visual.handle_name kind register e c])
    obtain ⟨s', h', hmodes, hrest⟩ := AwaitsKeys.names hroom names hname
    refine ⟨s', h', fun op => ?_, fun cs => ?_⟩
    · rw [hmodes, mode?_putMode_of_ne (Mode.next_ne_name_visual op _),
        mode?_putMode_of_ne (Mode.next_ne_name_visual op _)]
    · rw [← hrest, ← hcalls', ← hcalls]
      rfl

/-- **Names of registers and the key of an operator** apply it, with the last
register that was named, and lead to the next mode. -/
theorem operates {kind : SelectionKind} (h : s.AwaitsKeys (.visual (.idle kind)) e)
    (hroom : 0 < room) (names : List Char) {c : Char} {op : Operator} {wholeLines : Bool}
    (hop : Visual.operatorOf? c = some (op, wholeLines))
    (hmode : s.mode? (Visual.next op) = some m') (hm' : m'.IsStandard) :
    let e' := Visual.operate e op wholeLines (names.foldl Visual.nameRead none)
    let gone := (Mode.visual (.idle kind)).goTo m' e'.withoutRequests []
    ∃ s' : Session, s.calls? ((Key.registerPrefix names ++ [Key.char c]).map .key) room = some s' ∧
      s'.currentMode? = some gone.1 ∧ s'.editor = gone.2 := by
  intro e' gone
  have hidle : s.AwaitsKeys (.visual (.naming kind none)) e := h
  obtain ⟨s₁, h₁, hmodes, hcalls⟩ := AwaitsKeys.names hroom names hidle
  obtain ⟨hrequest, hserved⟩ : e' = e'.withoutRequests.request (Visual.next op) [] ∧
      e'.withoutRequests.Served :=
    (Visual.edited_operate e op wholeLines _).eq_request h.served
  have hhandle : (Visual.naming kind (names.foldl Visual.nameRead none)).handle e (.char c) =
      (.idle kind, e', true) := Visual.handle_operatorKey hop rfl rfl e
  rw [← hmodes] at hmode
  have hname : m'.name = Visual.next op := (mem_of_mode? hmode).2
  have hgoes := h₁.goes hroom (k := .char c) (r := ⟨Visual.next op, []⟩)
    (by rw [Mode.handle, hhandle, ← hrequest]) hserved hmode hm'
    (Mode.next_ne_name_visual op _) []
  refine ⟨_, ?_, currentMode?_goneTo _ _ (hname ▸ hmode) ?_, rfl⟩
  · rw [List.map_append, hcalls]
    exact hgoes
  · rw [hname]
    exact Mode.next_ne_name_visual op _

/-- **The key that selects lines** selects them from where the selection was
begun to the cursor. -/
theorem switches (h : s.AwaitsKeys (.visual (.idle .characters)) e) (hroom : 0 < room)
    {anchor head : Nat} {kind : SelectionKind} (hsel : e.selection = some ⟨anchor, head, kind⟩)
    (hmode : s.mode? .linewiseVisual = some m') (hm' : m'.IsStandard) :
    ∃ (s' : Session) (screen : Screen),
      s'.AwaitsKeys (.visual (.idle .lines))
        (e.presenting (some ⟨anchor, e.cursor, .lines⟩) screen) ∧
      (∀ op, s'.mode? (Visual.next op) = s.mode? (Visual.next op)) ∧
      ∀ cs, s.calls? (.key (.char 'V') :: cs) room = s'.calls? cs room := by
  obtain ⟨v, rfl, hlines⟩ := hm'.eq_linewiseVisual (mem_of_mode? hmode).2
  have hhandle := Visual.handle_switch e
  rw [hsel] at hhandle
  have hgone : (Mode.visual (.idle .characters)).goTo (.visual v) e [.anchor anchor] =
      (.visual (.idle .lines), e.presenting (some ⟨anchor, e.cursor, .lines⟩)
        (e.screen.showMode "VISUAL LINE")) := by
    obtain ⟨kind, count, register, awaitsName, lead⟩ := v
    cases hlines
    rfl
  have hname : (Mode.visual v).name = .linewiseVisual := (mem_of_mode? hmode).2
  have hne : ModeName.linewiseVisual ≠ (Mode.visual (.idle .characters)).name := by decide
  have hgoes := h.goes hroom (k := .char 'V') (r := ⟨.linewiseVisual, [.anchor anchor]⟩)
    (by rw [Mode.handle, hhandle]; rfl) h.served hmode hm' hne
  refine ⟨s.goneTo (.visual (.idle .characters)) (.visual v) e [.anchor anchor],
    e.screen.showMode "VISUAL LINE",
    ⟨?_, by decide, ?_, ⟨h.served.requests, h.served.replays⟩, h.untyped, h.unmapped⟩,
    fun op => ?_, hgoes⟩
  · rw [currentMode?_goneTo e _ (hname ▸ hmode) (by rw [hname]; exact hne)]
    exact congrArg (fun x => some x.1) hgone
  · exact congrArg Prod.snd hgone
  · exact mode?_goneTo e _ (Mode.next_ne_name_visual op _) (Mode.next_ne_name_visual op _)

end AwaitsKeys

/-- **A capital operator takes the lines that could have been selected.** In a
session in an idle Visual mode for characters, in which no key is mapped, the
two ends of the selection are in the text, if there is any, and the second is
on the line of the cursor. Then the names of registers and an operator key that
takes whole lines lead to the same mode and, but for what is shown, to the same
editor as the key that selects lines, the same names and the operator's own
key. -/
theorem forced_lines_agree {s : Session} (h : s.AwaitsKeys (.visual (.idle .characters)) s.editor)
    {anchor head : Nat} {kind : SelectionKind}
    (hsel : s.editor.selection = some ⟨anchor, head, kind⟩)
    (hlen : s.editor.text.length ≤ Offset.max)
    (hplaced : s.editor.text = [] ∨
      anchor < s.editor.text.length ∧ head < s.editor.text.length)
    (hline : s.editor.text.lineAt head = s.editor.text.lineAt s.editor.cursor) {c : Char}
    {op : Operator} (hop : Visual.operatorOf? c = some (op, true))
    (hmodes : ∀ name ∈ [Visual.next op, .linewiseVisual],
      ∃ m, s.mode? name = some m ∧ m.IsStandard)
    (names : List Char) {room : Nat} (hroom : 0 < room) :
    let forced := Key.registerPrefix names ++ [Key.char c]
    let selected := Key.char 'V' :: (Key.registerPrefix names ++ [Key.char op.char])
    ∃ s₁ s₂ : Session, s.calls? (forced.map .key) room = some s₁ ∧
      s.calls? (selected.map .key) room = some s₂ ∧
      s₂.currentMode? = s₁.currentMode? ∧
      s₂.editor = s₁.editor.showing s₂.editor.screen := by
  intro forced selected
  obtain ⟨m, hmode, hm⟩ := hmodes _ List.mem_cons_self
  obtain ⟨w, hwise, hw⟩ := hmodes .linewiseVisual (by simp)
  obtain ⟨s₁, hcalls₁, hcur₁, heditor₁⟩ := h.operates hroom names hop hmode hm
  obtain ⟨s', screen, h', hkept, hswitch⟩ := h.switches hroom hsel hwise hw
  obtain ⟨s₂, hcalls₂, hcur₂, heditor₂⟩ :=
    h'.operates hroom names (Visual.operatorOf?_char op) ((hkept op).trans hmode) hm
  -- the next mode finds the editor the same, but for what was selected and is shown
  rw [Visual.operate_forced hsel hlen hplaced hline] at hcur₂ heditor₂
  have hgone := Mode.goTo_presenting hm (mem_of_mode? hmode).2 (.idle .lines) (.idle .characters)
    (Visual.operate s.editor op true (names.foldl Visual.nameRead none)).withoutRequests
    (some ⟨anchor, s.editor.cursor, .lines⟩) screen
  refine ⟨s₁, s₂, hcalls₁, (hswitch _).trans hcalls₂, ?_, ?_⟩
  · rw [hcur₁, hcur₂]
    exact congrArg (fun x => some x.1) hgone
  · have hshown : s₂.editor = s₁.editor.showing (screen.showMode m.display) := by
      rw [heditor₁, heditor₂]
      exact congrArg Prod.snd hgone
    rw [hshown]
    rfl

/-- A session in Visual mode with characters selected. -/
def selecting (modes : List Mode) (t : Text) (cursor anchor head : Nat) : Session where
  editor := { text := t, cursor, selection := some ⟨anchor, head, .characters⟩ }
  modes := modes
  current := some .visual

theorem awaitsKeys_selecting {modes : List Mode}
    (h : modes.find? (·.name == .visual) = some (.visual (.idle .characters))) (t : Text)
    (cursor anchor head : Nat) : (selecting modes t cursor anchor head).AwaitsKeys
      (.visual (.idle .characters)) (selecting modes t cursor anchor head).editor := by
  have hunmapped : ∀ m ∈ KeyMaps.standard, m.entries = [] := by decide
  exact ⟨h, by decide, rfl, ⟨rfl, rfl⟩, rfl, hunmapped⟩

/-- The last two lines, the last of which has no break, are deleted into a
register either way. -/
theorem forced_lines_agree_at_end :
    let s := selecting Mode.standard ['a', 'b', '\n', 'c', 'd', '\n', 'e', 'f'] 7 4 7
    let after (keys : List Char) := (s.calls? (keys.map fun c => .key (.char c))).map fun s =>
      (s.editor.text, s.editor.cursor, s.editor.registers.read (some 'a'))
    after ['"', 'a', 'D'] =
        some (['a', 'b'], 0, some ⟨['c', 'd', '\n', 'e', 'f', '\n'], .lines⟩) ∧
      after ['V', '"', 'a', 'd'] = after ['"', 'a', 'D'] := by
  intro s after
  have hmodes : ∀ name ∈ [Visual.next .delete, .linewiseVisual],
      ∃ m, s.mode? name = some m ∧ m.IsStandard := by
    simp only [List.forall_mem_cons]
    exact ⟨⟨.normal .idle, rfl, by decide⟩, ⟨.visual (.idle .lines), rfl, by decide⟩, nofun⟩
  have hroom : 0 < stackRoom := by decide
  obtain ⟨s₁, s₂, h₁, h₂, -, heditor⟩ := forced_lines_agree (awaitsKeys_selecting rfl _ 7 4 7) rfl
    (by decide) (.inr (by decide)) rfl (c := 'D') rfl hmodes ['a'] hroom
  refine ⟨by decide +kernel, ?_⟩
  refine (congrArg (Option.map _) h₂).trans (Eq.trans ?_ (congrArg (Option.map _) h₁).symm)
  rw [Option.map_some, Option.map_some, heditor]
  rfl

/-- **Other lines are selected** if the host has put the end of the selection on
the first of three lines and the cursor on the last, and none where the mode
for lines is missing. -/
theorem not_forced_lines_agree :
    let after (s : Session) (keys : List Char) :=
      (s.calls? (keys.map fun c => .key (.char c))).map (·.editor.text)
    let off := selecting Mode.standard ['a', '\n', 'b', '\n', 'c'] 4 0 0
    let bare := selecting [.normal .idle, .visual (.idle .characters)] ['a', 'b', '\n', 'c'] 0 0 0
    (off.AwaitsKeys (.visual (.idle .characters)) off.editor ∧
        off.editor.selection = some ⟨0, 0, .characters⟩ ∧ 0 < off.editor.text.length ∧
        after off ['D'] = some ['b', '\n', 'c'] ∧ after off ['V', 'd'] = some []) ∧
      bare.AwaitsKeys (.visual (.idle .characters)) bare.editor ∧
        bare.editor.selection = some ⟨0, 0, .characters⟩ ∧ 0 < bare.editor.text.length ∧
        after bare ['D'] = some ['c'] ∧ after bare ['V', 'd'] = some ['b', '\n', 'c'] := by
  intro after off bare
  constructor
  · exact ⟨awaitsKeys_selecting rfl _ 4 0 0, rfl, by decide, by decide +kernel, by decide +kernel⟩
  · exact ⟨awaitsKeys_selecting rfl _ 0 0 0, rfl, by decide, by decide +kernel, by decide +kernel⟩

end Session
end Keywise
