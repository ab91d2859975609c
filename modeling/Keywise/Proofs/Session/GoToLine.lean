/-
# Two ways to go to a line

The keys that go to a line are typed in an idle Normal mode, either as a
command line or as a motion with a count. What keys lead to is told by the
current mode and the editor, whatever is shown beside the text
(`Mode.LeadsTo`), and from the keys one by one it is put together. Both ways
lead back to an idle Normal mode, and to the same place unless the number of
the line overshoots (`Session.goes_to_line`).

Key definitions: `Session.Unmapped`, `Mode.LeadsTo`.
Key theorems: `Mode.leadsTo_of_settles`, `Mode.leadsTo_commandLine`,
`Mode.leadsTo_lastLine`, `Session.goes_to_line`.
-/
import Keywise.Proofs.Mode.LineNumbers
import Keywise.Proofs.Session.Counts

namespace Keywise

namespace Key

/-- The command to go to line `n`. -/
def lineCommand (n : Nat) : List Key := .char ':' :: decimal n ++ [.plain .enter]

/-- The motion to line `n`. -/
def lineMotion (n : Nat) : List Key := decimal n ++ [.char 'G']

end Key

/-- The editor with something else shown beside the text. -/
def Editor.showing (e : Editor) (screen : Screen) : Editor := { e with screen }

namespace Session

/-- Mode `m` is the current one of the modes an editor has, and the editor is
`e`, but for what is shown. Nothing was asked for that is still to be done,
nothing is typed ahead, and no key is mapped. -/
structure Unmapped (s : Session) (m : Mode) (e : Editor) : Prop where
  shown : ∃ screen, s.At m (e.showing screen)
  served : e.Served
  untyped : s.typeahead = {}
  unmapped : ∀ m ∈ e.keyMaps, m.entries = []

theorem Unmapped.calls?_key {s : Session} {m : Mode} {e : Editor} {room : Nat}
    (h : s.Unmapped m e) (hroom : 0 < room) (k : Key) (cs : List Call) :
    s.calls? (.key k :: cs) room = (s.give k).1.calls? cs room := by
  obtain ⟨screen, hat⟩ := h.shown
  have hunmapped : ∀ m ∈ s.editor.keyMaps, m.entries = [] := by
    rw [hat.editor]
    exact h.unmapped
  exact calls?_key_of_unmapped hat.current h.untyped hunmapped hroom k cs

end Session

namespace Mode

/-- Where mode `m` is the current one and the editor is `e`, typing the keys
leads to mode `m'` and the editor `e'`. -/
def LeadsTo (m : Mode) (e : Editor) (ks : List Key) (m' : Mode) (e' : Editor) : Prop :=
  ∀ (s : Session) (room : Nat), s.Unmapped m e → 0 < room → ∃ s' : Session, s'.Unmapped m' e' ∧
    ∀ cs, s.calls? (ks.map .key ++ cs) room = s'.calls? cs room

variable {m m' m'' : Mode} {e e' e'' : Editor}

theorem leadsTo_nil (m : Mode) (e : Editor) : LeadsTo m e [] m e :=
  fun s _ h _ => ⟨s, h, fun _ => rfl⟩

theorem LeadsTo.append {ks ks' : List Key} (h : LeadsTo m e ks m' e')
    (h' : LeadsTo m' e' ks' m'' e'') : LeadsTo m e (ks ++ ks') m'' e'' := by
  intro s room hs hroom
  obtain ⟨s', hs', hcalls⟩ := h s room hs hroom
  obtain ⟨s'', hs'', hcalls'⟩ := h' s' room hs' hroom
  refine ⟨s'', hs'', fun cs => ?_⟩
  rw [List.map_append, List.append_assoc, hcalls, hcalls']

theorem leadsTo_of_settles {k : Key} (hm : m.name ≠ .insertExpand)
    (hmaps : e'.keyMaps = e.keyMaps)
    (h : e.Served → ∀ screen m₁ e₁, Settles m.name (m.handle (e.showing screen) k).1
      (m.handle (e.showing screen) k).2.1 m₁ e₁ → ∃ screen', (m₁, e₁) = (m', e'.showing screen')) :
    LeadsTo m e [k] m' e' := by
  intro s room hs hroom
  obtain ⟨screen, hat⟩ := hs.shown
  have hserved : (e.showing screen).Served := ⟨hs.served.requests, hs.served.replays⟩
  obtain ⟨m₁, e₁, hsettles, hat₁⟩ :=
    hat.give_of_asks hserved (asks_of_ne hat.isStandard hm _ k)
  obtain ⟨screen', heq⟩ := h hs.served screen m₁ e₁ hsettles
  obtain ⟨rfl, rfl⟩ := Prod.mk.inj heq
  have hserved' := hsettles.served
  refine ⟨(s.give k).1, ⟨⟨screen', hat₁⟩, ⟨hserved'.requests, hserved'.replays⟩, ?_, ?_⟩,
    hs.calls?_key hroom k⟩
  · rw [s.typeahead_give]
    exact hs.untyped
  · rw [hmaps]
    exact hs.unmapped

theorem leadsTo_of_stays {k : Key} (hm : m.name ≠ .insertExpand) (hmaps : e'.keyMaps = e.keyMaps)
    (hserved : e.Served → e'.Served)
    (h : ∀ screen, ∃ screen' used, m.handle (e.showing screen) k = (m', e'.showing screen', used)) :
    LeadsTo m e [k] m' e' := by
  refine leadsTo_of_settles hm hmaps fun he screen m₁ e₁ hsettles => ?_
  obtain ⟨screen', used, hhandle⟩ := h screen
  rw [hhandle] at hsettles
  cases hsettles with
  | stays => exact ⟨screen', rfl⟩
  | goes hrequests => exact absurd ((hserved he).requests.symm.trans hrequests) nofun

theorem leadsTo_of_goes {k : Key} (m₁ : Mode) (e₁ : Editor) (r : ModeRequest)
    (hm : m.name ≠ .insertExpand) (hmaps : e'.keyMaps = e.keyMaps)
    (hserved : e.Served → e₁.Served)
    (h : ∀ screen, ∃ screen' used, m.handle (e.showing screen) k =
      (m₁, (e₁.showing screen').request r.name r.args, used))
    (hgo : ∀ screen m₂, m₂.IsStandard → m₂.name = r.name →
      ∃ screen', m₁.goTo m₂ (e₁.showing screen) r.args = (m', e'.showing screen')) :
    LeadsTo m e [k] m' e' := by
  refine leadsTo_of_settles hm hmaps fun he screen m₂ e₂ hsettles => ?_
  obtain ⟨screen', used, hhandle⟩ := h screen
  have hasked : ((e₁.showing screen').request r.name r.args).requests = [r] := by
    show e₁.requests ++ [r] = [r]
    rw [(hserved he).requests, List.nil_append]
  have hback : ((e₁.showing screen').request r.name r.args).withoutRequests =
      e₁.showing screen' := by
    have hserved' : (e₁.showing screen').Served := ⟨(hserved he).requests, (hserved he).replays⟩
    exact hserved'.withoutRequests_request _ _
  rw [hhandle] at hsettles
  cases hsettles with
  | stays hstays => exact absurd (hasked.symm.trans hstays.requests) nofun
  | @goes r' m₃ hrequests _ _ hname hstd =>
    obtain rfl := List.singleton_inj.mp (hasked.symm.trans hrequests)
    rw [hback]
    exact hgo screen' m₃ hstd hname

/-! ### The command line -/

variable (e)

theorem leadsTo_colon : LeadsTo (.normal .idle) e [.char ':'] (.command {}) e := by
  refine leadsTo_of_goes (.normal .idle) e ⟨.command, []⟩ nofun rfl id
    (fun screen => ⟨screen, true, rfl⟩) fun screen m₂ hstd hname => ?_
  obtain ⟨p, rfl⟩ := hstd.eq_command hname
  exact ⟨_, rfl⟩

theorem leadsTo_typing (cs : List Char) : ∀ p : Prompt,
    LeadsTo (.command p) e (cs.map .char) (.command { p with before := cs.reverse ++ p.before })
      e := by
  induction cs with
  | nil => exact fun p => leadsTo_nil _ e
  | cons c cs ih =>
    intro p
    have hchar : LeadsTo (.command p) e [.char c] (.command (p.insert c)) e :=
      leadsTo_of_stays nofun rfl id fun screen => ⟨_, true, rfl⟩
    have hrest := hchar.append (ih (p.insert c))
    rw [List.reverse_cons, List.append_assoc]
    exact hrest

/-- **A line number** typed as a command leads back to Normal mode, and the
cursor is put to rest. -/
theorem leadsTo_enter {p : Prompt} {n : Nat} (h : ExCommand.parse p.contents = .goto n) :
    LeadsTo (.command p) e [.plain .enter] (.normal .idle)
      ((e.moveTo (ExCommand.lineTarget e.text n) .column).settle .keep) := by
  refine leadsTo_of_goes (.command p) (e.moveTo (ExCommand.lineTarget e.text n) .column)
    ⟨.normal, []⟩ nofun rfl (fun he => ⟨he.requests, he.replays⟩) (fun screen => ⟨screen, true, ?_⟩)
    fun screen m₂ hstd hname => ?_
  · have hrun : ExCommand.run ((e.showing screen).request .normal []) p.contents =
        (((e.moveTo (ExCommand.lineTarget e.text n) .column).showing screen).request .normal [],
          none) := by
      rw [ExCommand.run, h]
      rfl
    show (Mode.command p, Prompt.command _ p.contents, true) = _
    rw [Prompt.command, hrun]
  · obtain ⟨s, rfl⟩ := hstd.eq_normal hname
    exact ⟨_, rfl⟩

/-- **The number of a line** typed as a command leads there. -/
theorem leadsTo_commandLine {n : Nat} (hn : n ≤ Offset.max) :
    LeadsTo (.normal .idle) e (Key.lineCommand n) (.normal .idle)
      ((e.moveTo (ExCommand.lineTarget e.text n) .column).settle .keep) := by
  let p : Prompt := { before := (Nat.toDigits 10 n).reverse ++ [] }
  have hcontents : p.contents = Nat.toDigits 10 n := by
    simp [p, Prompt.contents]
  have hparse : ExCommand.parse p.contents = .goto n := by
    rw [hcontents]
    exact ExCommand.parse_toDigits hn
  exact ((leadsTo_colon e).append (leadsTo_typing e (Nat.toDigits 10 n) {})).append
    (leadsTo_enter e hparse)

/-! ### The motion -/

theorem handle_normal (n : Normal) (k : Key) :
    (normal n).handle e k = (normal (n.handle e k).1, (n.handle e k).2) := rfl

variable {e} in
theorem leadsTo_reads {n n' : Normal} {ks : List Key} (h : n.Reads ks n') :
    LeadsTo (.normal n) e ks (.normal n') e := by
  induction h with
  | nil n => exact leadsTo_nil _ e
  | @cons n n₁ n' k ks hk _ ih =>
    have hkey : LeadsTo (.normal n) e [k] (.normal n₁) e := by
      refine leadsTo_of_stays nofun rfl id fun screen => ⟨screen, true, ?_⟩
      rw [handle_normal, hk.handle]
    exact hkey.append ih

/-- **The number of a line** typed as a count leads there. -/
theorem leadsTo_lastLine {n : Nat} (hn : 1 ≤ n) (hlimit : n ≤ Count.limit) :
    LeadsTo (.normal .idle) e (Key.lineMotion n) (.normal .idle)
      (e.moveTo (e.text.linePlace n) .column) := by
  have hcount := Normal.reads_number hn
  rw [Nat.min_eq_left hlimit] at hcount
  refine (leadsTo_reads hcount).append (leadsTo_of_stays nofun rfl
    (fun he => ⟨he.requests, he.replays⟩) fun screen => ⟨screen, true, ?_⟩)
  rw [handle_normal, Normal.handle_lastLine _ hn hlimit]
  rfl

end Mode

namespace Session

variable {s : Session}

theorem InNormal.toUnmapped {n : Normal} (h : s.InNormal n)
    (hmodes : s.modes.map Mode.fresh = Mode.standard) : s.Unmapped (.normal n) s.editor :=
  ⟨⟨s.editor.screen, ⟨hmodes, h.current, rfl⟩⟩, h.served, h.untyped, h.unmapped⟩

theorem Unmapped.inNormal {n : Normal} {e : Editor} (h : s.Unmapped (.normal n) e) :
    s.InNormal n ∧ s.editor.text = e.text ∧ s.editor.cursor = e.cursor := by
  obtain ⟨screen, hat⟩ := h.shown
  refine ⟨⟨hat.current, ?_, h.untyped, ?_⟩, ?_, ?_⟩
  all_goals rw [hat.editor]
  · exact ⟨h.served.requests, h.served.replays⟩
  · exact h.unmapped
  · rfl
  · rfl

/-- **A line is gone to by its number**, as a command or as the count of a
motion. In an idle Normal mode in which no key is mapped, either way leads back
to an idle Normal mode. The motion leads to the first character that is no
blank, on the last line if there are fewer. The command leads there too, unless
the number overshoots: then it leads to the end of the last line. So the places
are the same if and only if that is the first character that is no blank. -/
theorem goes_to_line (hmodes : s.modes.map Mode.fresh = Mode.standard) (h : s.InNormal .idle)
    {n : Nat} (hn : 1 ≤ n) (hlimit : n ≤ Count.limit) {room : Nat} (hroom : 0 < room) :
    let t := s.editor.text
    let last := (t.line t.lastLine).last
    ∃ s₁ s₂ : Session,
      s.calls? ((Key.lineCommand n).map .key) room = some s₁ ∧
      s.calls? ((Key.lineMotion n).map .key) room = some s₂ ∧
      (s₁.InNormal .idle ∧ s₁.editor.text = t ∧
        s₁.editor.cursor = if t.Overshoots n then last else t.linePlace n) ∧
      (s₂.InNormal .idle ∧ s₂.editor.text = t ∧ s₂.editor.cursor = t.linePlace n) ∧
      (s₁.editor.cursor = s₂.editor.cursor ↔ (t.Overshoots n → t.linePlace n = last)) := by
  intro t last
  have hidle := h.toUnmapped hmodes
  have hmax : n ≤ Offset.max := Nat.le_trans hlimit (by decide)
  obtain ⟨s₁, h₁, hcalls₁⟩ := Mode.leadsTo_commandLine s.editor hmax s room hidle hroom
  obtain ⟨s₂, h₂, hcalls₂⟩ := Mode.leadsTo_lastLine s.editor hn hlimit s room hidle hroom
  obtain ⟨hnormal₁, htext₁, hcursor₁⟩ := h₁.inNormal
  obtain ⟨hnormal₂, htext₂, hcursor₂⟩ := h₂.inNormal
  have hplace₁ : s₁.editor.cursor = if t.Overshoots n then last else t.linePlace n := by
    rw [hcursor₁, ← ExCommand.rest_lineTarget t n]
    show min (t.rest (min (ExCommand.lineTarget t n) t.length)) t.length = _
    rw [Nat.min_eq_left (ExCommand.lineTarget_le t n), Nat.min_eq_left (t.rest_le_length _)]
  have hplace₂ : s₂.editor.cursor = t.linePlace n := by
    rw [hcursor₂, Editor.cursor_moveTo, Nat.min_eq_left (t.linePlace_le n)]
  refine ⟨s₁, s₂, ?_, ?_, ⟨hnormal₁, htext₁, hplace₁⟩, ⟨hnormal₂, htext₂, hplace₂⟩, ?_⟩
  · simpa [calls?] using hcalls₁ []
  · simpa [calls?] using hcalls₂ []
  · rw [hplace₁, hplace₂]
    by_cases hover : t.Overshoots n
    · rw [if_pos hover]
      exact ⟨fun heq _ => heq.symm, fun heq => (heq hover).symm⟩
    · rw [if_neg hover]
      exact iff_of_true rfl fun hn => absurd hn hover

/-- Two lines, the second of which is indented, and the end of the text behind
its last break. -/
def indented : Session := standard
  { text := ['o', 'n', 'e', '\n', ' ', ' ', 't', 'w', 'o', '\n'] }

/-- To the second line, either way. -/
theorem goes_to_line_indented :
    (indented.calls? ((Key.lineCommand 2).map .key)).map (·.editor.cursor) = some 6 ∧
      (indented.calls? ((Key.lineMotion 2).map .key)).map (·.editor.cursor) = some 6 := by
  have hmodes : indented.modes.map Mode.fresh = Mode.standard := rfl
  have hidle : indented.InNormal .idle := ⟨rfl, ⟨rfl, rfl⟩, rfl, by decide⟩
  have hroom : 0 < stackRoom := by decide
  obtain ⟨s₁, s₂, h₁, h₂, -, ⟨-, -, hplace⟩, hiff⟩ :=
    goes_to_line hmodes hidle (n := 2) (by decide) (by decide) hroom
  have hsame := hiff.mpr fun hover => absurd hover (by decide)
  have hsix : s₂.editor.cursor = 6 := hplace.trans (by decide)
  rw [h₁, h₂]
  exact ⟨congrArg some (hsame.trans hsix), congrArg some hsix⟩

/-- A number that is too great leads to the last character of the second line,
or to the first that is no blank. -/
theorem not_same_line_overshooting :
    (indented.calls? ((Key.lineCommand 9).map .key)).map (·.editor.cursor) = some 8 ∧
      (indented.calls? ((Key.lineMotion 9).map .key)).map (·.editor.cursor) = some 6 := by
  decide +kernel

end Session
end Keywise
