/-
# What a task does to a session

What lasts through each step that a key given to the current mode may lead to
lasts through them all (`Session.Steady.give`). So what modes do with a key does
not touch the keys typed ahead, nor how deep mappings may lead
(`Session.input_give`). A stroke that is not to be mapped
goes to the mode if no keys are held back; otherwise it ends them and follows
what they come to.

Key definitions: `Session.Steady`, `Session.input`, `Session.heldMap`,
`Session.ending`, `Run.Works`.
Key theorems: `Session.Steady.give`, `Session.input_give`,
`Session.pass_of_held_eq_nil`, `Session.pass_of_held_ne_nil`, `Run.Works.cons`,
`Run.Works.literal`.
-/
import Keywise.Session.Agenda
import Keywise.Proofs.Typeahead.Translation

namespace Keywise

/-! ### What lasts while a key is given -/

namespace Session

/-- What holds of a session still does when the editor changes, when another mode
becomes current and when the current mode has handled a key. -/
structure Steady (I : Session → Prop) : Prop where
  edited : ∀ {s}, I s → ∀ e, I { s with editor := e }
  changeMode : ∀ {s}, I s → ∀ r, I (s.changeMode r)
  hand : ∀ {s}, I s → ∀ k, I (s.hand k).1

namespace Steady

variable {I : Session → Prop} {s : Session}

theorem foldl_changeMode (hI : Steady I) : ∀ (rs : List ModeRequest) {s : Session}, I s →
    I (rs.foldl Session.changeMode s)
  | [], _, hs => hs
  | r :: rs, _, hs => hI.foldl_changeMode rs (hI.changeMode hs r)

theorem applyRequests (hI : Steady I) (hs : I s) : I s.applyRequests :=
  hI.foldl_changeMode _ (hI.edited hs _)

theorem serve (hI : Steady I) : ∀ (n : Nat) {s : Session}, I s → I (s.serve n)
  | 0, _, hs => hI.applyRequests hs
  | n + 1, s, hs => by
    have happlied := hI.applyRequests hs
    rw [Session.serve]
    simp only
    split
    · exact happlied
    · exact hI.serve n (hI.hand (hI.edited happlied _) _)

theorem give (hI : Steady I) (hs : I s) (k : Key) : I (s.give k).1 := by
  unfold Session.give
  split
  · exact hs
  · exact hI.serve _ (hI.hand hs k)

end Steady

end Session

/-! ### What modes cannot touch -/

namespace Session

/-- What the modes of a session do not get to see: the keys typed ahead and
the bound on the depth. -/
def input (s : Session) : Typeahead × Nat := (s.typeahead, s.maxDepth)

theorem input_note (s : Session) (m : Mode) (n : Notice) : (s.note m n).input = s.input := by
  unfold note
  split <;> rfl

theorem input_leaveCurrent (s : Session) : s.leaveCurrent.input = s.input := by
  unfold leaveCurrent
  split
  · rfl
  · rw [input_note]
    rfl

theorem input_enterMode (s : Session) (m : Mode) (args : List ModeArg) :
    (s.enterMode m args).input = s.input := by
  unfold enterMode
  rw [input_note]
  rfl

theorem input_changeMode (s : Session) (r : ModeRequest) : (s.changeMode r).input = s.input := by
  unfold changeMode
  split
  · rfl
  · split
    · rfl
    · exact (input_enterMode _ _ _).trans (input_leaveCurrent s)

theorem input_hand (s : Session) (k : Key) : (s.hand k).1.input = s.input := by
  unfold hand
  split
  · rfl
  · exact input_note _ _ _

theorem steady_input (x : Typeahead × Nat) : Steady (·.input = x) where
  edited h _ := h
  changeMode h r := (input_changeMode _ r).trans h
  hand h k := (input_hand _ k).trans h

theorem input_give (s : Session) (k : Key) : (s.give k).1.input = s.input :=
  (steady_input _).give rfl k

theorem typeahead_give (s : Session) (k : Key) : (s.give k).1.typeahead = s.typeahead :=
  congrArg Prod.fst (s.input_give k)

theorem maxDepth_give (s : Session) (k : Key) : (s.give k).1.maxDepth = s.maxDepth :=
  congrArg Prod.snd (s.input_give k)

/-! ### What was asked for -/

theorem applyRequests_of_nil {s : Session} (h : s.editor.requests = []) : s.applyRequests = s := by
  unfold applyRequests
  rw [h]
  obtain ⟨e, _, _, _, _, _⟩ := s
  obtain ⟨_, _, _, _, _, _, _, _, _, _⟩ := e
  simp only at h
  subst h
  rfl

theorem serve_of_nil {s : Session} (h : s.editor.requests = []) (h' : s.editor.replays = []) :
    ∀ n, serve n s = s
  | 0 => applyRequests_of_nil h
  | n + 1 => by
    simp only [serve, applyRequests_of_nil h, h']

theorem mode?_putMode {s : Session} {m m' : Mode} (h : s.mode? m.name = some m') :
    (s.putMode m).mode? m.name = some m := by
  unfold mode? putMode at *
  generalize s.modes = ms at h ⊢
  induction ms with
  | nil => cases h
  | cons a ms ih =>
    by_cases ha : a.name = m.name
    · simp [ha]
    · have hb : (a.name == m.name) = false := beq_false_of_ne ha
      rw [List.find?_cons, hb] at h
      simp [ha, ih h]

/-! ### What strokes lead to -/

theorem maxDepth_arrive (s : Session) (k : Key) (depth : Nat) :
    (s.arrive k depth).session.maxDepth = s.maxDepth := by
  unfold arrive
  split
  · rfl
  · split
    · rfl
    · split
      · split <;> rfl
      · split <;> rfl

theorem maxDepth_pass (s : Session) (k : Key) (depth : Nat) :
    (s.pass k depth).session.maxDepth = s.maxDepth := by
  unfold pass
  split
  · split <;> rfl
  · rfl

theorem tasks_arrive_of_lt {s : Session} {depth : Nat} (h : s.maxDepth < depth) (k : Key) :
    (s.arrive k depth).tasks = [] := by
  unfold arrive
  rw [if_pos h]

theorem depth_of_mem_arrive {s : Session} {k : Key} {depth : Nat} {st : Stroke} {d : Nat}
    (h : Task.stroke st d ∈ (s.arrive k depth).tasks) : d = depth := by
  have hown : ∀ {t : Typeahead},
      Task.stroke st d ∈ (takeStrokes { s with typeahead := t } depth).2 → d = depth := by
    intro t ht
    obtain ⟨st', -, heq⟩ := List.mem_map.mp ht
    injection heq with _ hd
    exact hd.symm
  unfold arrive at h
  split at h
  · simp at h
  · split at h
    · simp at h
    · split at h
      · split at h
        · rcases List.mem_append.mp h with h | h
          · exact hown h
          · simp at h
        · simp at h
      · split at h
        · simp at h
        · exact hown h

/-! ### What keys held back come to -/

theorem name_keyMap (s : Session) (name : MapName) : (s.keyMap name).name = name := by
  unfold keyMap
  cases h : s.editor.keyMaps.find? name with
  | none => rfl
  | some m => simpa using List.find?_some h

/-- The map that keys held back are settled against. -/
def heldMap (s : Session) : KeyMap := s.keyMap (s.typeahead.map.getD (.other ""))

/-- The strokes that come out if the keys held back are ended now. -/
def ending (s : Session) : List Stroke :=
  s.typeahead.output ++ s.heldMap.translation s.typeahead.held

theorem strandedFrom_heldMap (s : Session) :
    s.typeahead.strandedFrom s.heldMap.name = false := by
  unfold Typeahead.strandedFrom heldMap
  rw [name_keyMap]
  cases s.typeahead.map with
  | none => rfl
  | some n => simp

theorem pass_of_held_eq_nil {s : Session} (h : s.typeahead.held = []) (k : Key) (depth : Nat) :
    s.pass k depth = { session := s, tasks := [.give k] } := by
  simp [pass, Typeahead.isHolding, h]

/-- Keys that are held back are ended by a stroke that is not to be mapped, and it
follows what they come to. -/
theorem pass_of_held_ne_nil {s : Session} (h : s.typeahead.held ≠ []) (k : Key) (depth : Nat) :
    s.pass k depth =
      { session := { s with typeahead := {} }
        tasks := (s.ending ++ [Stroke.literal k]).map (.stroke · depth) } := by
  have hlit : s.typeahead.literal s.heldMap k =
      ({ output := s.ending ++ [Stroke.literal k] }, .settled) := by
    simp [Typeahead.literal, h, strandedFrom_heldMap, Typeahead.settleOn, Typeahead.settle_true,
      ending]
  have hhold : s.typeahead.isHolding = true := by simp [Typeahead.isHolding, h]
  unfold heldMap at hlit
  unfold pass
  rw [if_pos hhold, hlit]
  rfl

theorem held_pass (s : Session) (k : Key) (depth : Nat) :
    (s.pass k depth).session.typeahead.held = [] := by
  by_cases h : s.typeahead.held = []
  · rw [pass_of_held_eq_nil h]
    exact h
  · rw [pass_of_held_ne_nil h]

end Session

namespace Run

/-! ### One task -/

theorem perform_of_aborted {r : Run} (h : r.aborted = true) (st : Stroke) (depth : Nat) :
    r.perform (.stroke st depth) = (r, []) := by
  simp [perform, h]

theorem perform_of_recursive {r : Run} (h : r.aborted = false) {st : Stroke}
    (hst : st.recursive = true) (depth : Nat) :
    r.perform (.stroke st depth) =
      ({ r with
          session := (r.session.arrive st.key (depth + 1)).session
          aborted := (r.session.arrive st.key (depth + 1)).aborted },
        (r.session.arrive st.key (depth + 1)).tasks) := by
  simp [perform, h, hst]

theorem perform_of_not_recursive {r : Run} (h : r.aborted = false) {st : Stroke}
    (hst : st.recursive = false) (depth : Nat) :
    r.perform (.stroke st depth) =
      ({ r with
          session := (r.session.pass st.key depth).session
          aborted := (r.session.pass st.key depth).aborted },
        (r.session.pass st.key depth).tasks) := by
  simp [perform, h, hst]

/-- All that a stroke can come to: it is dropped once the work is given up, or
else arrives if it is recursive, and passes if it is not. -/
theorem perform_stroke_cases (r : Run) (st : Stroke) (depth : Nat) :
    (r.aborted = true ∧ r.perform (.stroke st depth) = (r, [])) ∨
      (st.recursive = true ∧ r.perform (.stroke st depth) =
        ({ r with
            session := (r.session.arrive st.key (depth + 1)).session
            aborted := (r.session.arrive st.key (depth + 1)).aborted },
          (r.session.arrive st.key (depth + 1)).tasks)) ∨
      (st.recursive = false ∧ r.perform (.stroke st depth) =
        ({ r with
            session := (r.session.pass st.key depth).session
            aborted := (r.session.pass st.key depth).aborted },
          (r.session.pass st.key depth).tasks)) := by
  cases ha : r.aborted with
  | true => exact Or.inl ⟨rfl, perform_of_aborted ha st depth⟩
  | false =>
    cases hst : st.recursive with
    | true => exact Or.inr (Or.inl ⟨rfl, perform_of_recursive ha hst depth⟩)
    | false => exact Or.inr (Or.inr ⟨rfl, perform_of_not_recursive ha hst depth⟩)

theorem typeahead_perform_give (r : Run) (k : Key) :
    (r.perform (.give k)).1.session.typeahead = r.session.typeahead :=
  r.session.typeahead_give k

theorem maxDepth_perform (r : Run) (t : Task) :
    (r.perform t).1.session.maxDepth = r.session.maxDepth := by
  cases t with
  | give k => exact r.session.maxDepth_give k
  | stroke st depth =>
    by_cases ha : r.aborted = true
    · rw [perform_of_aborted ha]
    · rw [Bool.not_eq_true] at ha
      by_cases hst : st.recursive = true
      · rw [perform_of_recursive ha hst]
        exact r.session.maxDepth_arrive _ _
      · rw [perform_of_not_recursive ha (Bool.not_eq_true _ ▸ hst)]
        exact r.session.maxDepth_pass _ _

/-! ### Work that ends -/

/-- The tasks are worked off, and `r'` is the run then: there is a stack that
is large enough. -/
def Works (r : Run) (ts : List Task) (r' : Run) : Prop := ∃ room, r.work? room ts = some r'

theorem works_nil (r : Run) : r.Works [] r := ⟨0, rfl⟩

theorem Works.cons {r r₁ r' : Run} {t : Task} {ts : List Task}
    (h : (r.perform t).1.Works (r.perform t).2 r₁) (h' : r₁.Works ts r') :
    r.Works (t :: ts) r' := by
  obtain ⟨n, hn⟩ := h
  obtain ⟨n', hn'⟩ := h'
  refine ⟨max n n' + 1, ?_⟩
  rw [work?_cons, carryOut?_succ, work?_of_le (Nat.le_max_left n n') hn]
  exact work?_of_le (Nat.le_succ_of_le (Nat.le_max_right n n')) hn'

theorem Works.of_append {r r' : Run} {ts us : List Task} (h : r.Works (ts ++ us) r') :
    ∃ r₁, r.Works ts r₁ ∧ r₁.Works us r' := by
  obtain ⟨n, hn⟩ := h
  rw [work?_append] at hn
  obtain ⟨r₁, h₁, h₂⟩ := Option.bind_eq_some_iff.mp hn
  exact ⟨r₁, ⟨n, h₁⟩, ⟨n, h₂⟩⟩

theorem works_give (r : Run) (k : Key) : r.Works [.give k] (r.perform (.give k)).1 :=
  Works.cons (works_nil _) (works_nil _)

theorem Works.literal {r r' : Run} (ha : r.aborted = false)
    (hheld : r.session.typeahead.held = []) {st : Stroke} (hst : st.recursive = false)
    (depth : Nat) {ts : List Task} (h : (r.perform (.give st.key)).1.Works ts r') :
    r.Works (.stroke st depth :: ts) r' := by
  have hperform : r.perform (.stroke st depth) = (r, [.give st.key]) := by
    rw [perform_of_not_recursive ha hst, Session.pass_of_held_eq_nil hheld, ← ha]
  refine Works.cons ?_ h
  rw [hperform]
  exact works_give r st.key

end Run

namespace Session

/-! ### Larger stacks -/

theorem exists_complete?_of_works {o : Onset} {r : Run}
    (h : Run.Works { session := o.session, aborted := o.aborted } o.tasks r) :
    ∃ room used, complete? o room = some (r.session, used) := by
  obtain ⟨room, hroom⟩ := h
  refine ⟨room, ?_⟩
  unfold complete?
  rw [hroom, Option.map_some]
  split <;> exact ⟨_, rfl⟩

theorem complete?_of_le {room room' : Nat} (hle : room ≤ room') {o : Onset}
    {x : Session × Bool} (h : complete? o room = some x) : complete? o room' = some x := by
  obtain ⟨r, hr, rfl⟩ := Option.map_eq_some_iff.mp h
  rw [complete?, Run.work?_of_le hle hr]
  rfl

theorem press?_of_le {room room' : Nat} (hle : room ≤ room') {s : Session} {k : Key}
    {x : Session × Bool} (h : s.press? k room = some x) : s.press? k room' = some x := by
  unfold press? at h ⊢
  cases hc : s.current with
  | none => simpa only [hc] using h
  | some name =>
    simp only [hc] at h
    exact complete?_of_le hle h

theorem timeout?_of_le {room room' : Nat} (hle : room ≤ room') {s : Session}
    {x : Session × Bool} (h : s.timeout? room = some x) : s.timeout? room' = some x := by
  unfold timeout? at h ⊢
  cases hm : s.typeahead.map with
  | none => simpa only [hm] using h
  | some name =>
    simp only [hm] at h
    obtain ⟨y, hy, rfl⟩ := Option.map_eq_some_iff.mp h
    simp only [complete?_of_le hle hy, Option.map_some]

theorem pressAll?_cons {s s₁ s' : Session} {k : Key} {ks : List Key} {room : Nat} {used : Bool}
    {rest : List Bool} (h : s.press? k room = some (s₁, used))
    (h' : s₁.pressAll? ks room = some (s', rest)) :
    s.pressAll? (k :: ks) room = some (s', used :: rest) := by
  rw [pressAll?, h]
  simp [h']

theorem pressAll?_of_le {room room' : Nat} (hle : room ≤ room') : ∀ {ks : List Key} {s : Session}
    {x : Session × List Bool}, s.pressAll? ks room = some x → s.pressAll? ks room' = some x
  | [], _, _, h => h
  | k :: ks, s, x, h => by
    obtain ⟨⟨s₁, used⟩, h₁, h₂⟩ := Option.bind_eq_some_iff.mp h
    obtain ⟨⟨s', rest⟩, h₃, h₄⟩ := Option.bind_eq_some_iff.mp h₂
    cases h₄
    exact pressAll?_cons (press?_of_le hle h₁) (pressAll?_of_le hle h₃)

end Session
end Keywise
