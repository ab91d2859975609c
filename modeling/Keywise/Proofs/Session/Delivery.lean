/-
# Giving a key comes to an end

A mode that handles a key may ask for modes and for keys to be handed over
again, and a key that is handed over again is given in turn, with all that it
asks for. What this leads to is told without a bound on how often it may happen
(`Session.Ends`); there is one outcome at most (`Session.Ends.unique`), and
nothing waits in the end (`Session.Ends.served_of_give`).

With the modes an editor has there always is an outcome, and it is that of
`Session.give` (`Session.Equipped.ends_give`). The measure is the number of keys
that wait, counted twice, and one more while the mode that completes a line is
current (`Session.owed`): a key that mode has handed over again is the only one
that goes on waiting, and then Insert mode becomes current. So a key that is given
while nothing waits is handed to one mode only, or to that mode and then to Insert
mode (`Session.delivery_ends`).

Key definitions: `Session.Duty`, `Session.Ends`, `Session.Equipped`,
`Session.owed`.
Key theorems: `Session.Ends.unique`, `Session.Ends.served_of_give`,
`Session.Equipped.owed_hand_lt`, `Session.Equipped.ends_give`,
`Session.Equipped.hostCalls?`, `Session.delivery_ends`.
-/
import Keywise.Proofs.Session.Invariant
import Keywise.Proofs.Session.Scope

namespace Keywise

/-! ### Modes do not see what waits -/

/-- The editor with these modes asked for, and these keys to be handed over. -/
def Editor.queued (e : Editor) (rs : List ModeRequest) (ks : List Key) : Editor :=
  { e with requests := rs, replays := ks }

namespace Mode

variable (m : Mode) (e : Editor) (rs : List ModeRequest) (ks : List Key)

theorem leave_queued : m.leave (e.queued rs ks) = ((m.leave e).1, (m.leave e).2.queued rs ks) := by
  cases m <;> rfl

theorem enter_queued (args : List ModeArg) : m.enter (e.queued rs ks) args =
    ((m.enter e args).1, (m.enter e args).2.1.queued rs ks, (m.enter e args).2.2) := by
  cases m <;> rfl

end Mode

namespace Session

/-- The session with other things waiting. -/
def queued (s : Session) (rs : List ModeRequest) (ks : List Key) : Session :=
  { s with editor := s.editor.queued rs ks }

theorem queued_self (s : Session) : s.queued s.editor.requests s.editor.replays = s := rfl

section

variable (s : Session) (rs : List ModeRequest) (ks : List Key)

theorem note_queued (m : Mode) (n : Notice) :
    (s.queued rs ks).note m n = (s.note m n).queued rs ks := by
  cases m <;> rfl

theorem leaveCurrent_queued : (s.queued rs ks).leaveCurrent = s.leaveCurrent.queued rs ks := by
  have hmode : (s.queued rs ks).currentMode? = s.currentMode? := rfl
  have heditor : (s.queued rs ks).editor = s.editor.queued rs ks := rfl
  unfold leaveCurrent
  rw [hmode]
  cases s.currentMode? with
  | none => rfl
  | some m =>
    simp only [heditor, Mode.leave_queued]
    refine Eq.trans ?_ (note_queued _ rs ks m _)
    rfl

theorem enterMode_queued (m : Mode) (args : List ModeArg) :
    (s.queued rs ks).enterMode m args = (s.enterMode m args).queued rs ks := by
  have heditor : (s.queued rs ks).editor = s.editor.queued rs ks := rfl
  unfold enterMode
  simp only [heditor, Mode.enter_queued]
  refine Eq.trans ?_ (note_queued _ rs ks m _)
  cases (m.enter s.editor args).2.2 <;> rfl

/-- **A change of mode** is the same whatever waits, and changes nothing of it. -/
theorem changeMode_queued (r : ModeRequest) :
    (s.queued rs ks).changeMode r = (s.changeMode r).queued rs ks := by
  have hmode : (s.queued rs ks).mode? r.name = s.mode? r.name := rfl
  have hcur : (s.queued rs ks).current = s.current := rfl
  unfold changeMode
  rw [hmode, hcur]
  cases s.mode? r.name with
  | none => rfl
  | some m =>
    simp only
    split
    · rfl
    · rw [leaveCurrent_queued, enterMode_queued]
      rfl

theorem foldl_changeMode_queued (rs' : List ModeRequest) :
    rs'.foldl changeMode (s.queued rs ks) = (rs'.foldl changeMode s).queued rs ks := by
  induction rs' generalizing s with
  | nil => rfl
  | cons r rs' ih => rw [List.foldl_cons, changeMode_queued, ih, List.foldl_cons]

end

variable {s s' s₁ : Session} {k : Key} {hs hs' : List (ModeName × Key)}

theorem queues_changeMode (s : Session) (r : ModeRequest) :
    (s.changeMode r).editor.requests = s.editor.requests ∧
      (s.changeMode r).editor.replays = s.editor.replays := by
  have hchange := s.changeMode_queued s.editor.requests s.editor.replays r
  rw [queued_self] at hchange
  rw [hchange]
  exact ⟨rfl, rfl⟩

/-- When the modes asked for have been gone over to, none is asked for, and the
same keys wait. -/
theorem applyRequests_eq (s : Session) :
    s.applyRequests = (s.editor.requests.foldl changeMode s).queued [] s.editor.replays :=
  s.foldl_changeMode_queued [] s.editor.replays s.editor.requests

theorem requests_applyRequests (s : Session) : s.applyRequests.editor.requests = [] := by
  rw [applyRequests_eq]
  rfl

theorem replays_applyRequests (s : Session) :
    s.applyRequests.editor.replays = s.editor.replays := by
  rw [applyRequests_eq]
  rfl

/-! ### What giving a key leads to -/

/-- What is to be done: a key is to be given to the current mode, or what was
asked for is to be done. -/
inductive Duty where
  | give (k : Key)
  | serve

/-- A key that is handed over is handed to the current mode, if there is one. -/
def handed (s : Session) (k : Key) : List (ModeName × Key) :=
  s.currentMode?.toList.map fun m => (m.name, k)

/-- A duty comes to an end: the keys that are handed to modes until then, in order,
and the session it leaves. Modes that are asked for come before keys that are to be
handed over again, and each of these is given with all that it asks for before it
is looked whether something still waits. -/
inductive Ends : Duty → Session → List (ModeName × Key) → Session → Prop
  | idle {s : Session} {k : Key} : s.current = none → Ends (.give k) s [] s
  | hands {s s' : Session} {k : Key} {hs : List (ModeName × Key)} : s.current ≠ none →
      Ends .serve (s.hand k).1 hs s' → Ends (.give k) s (s.handed k ++ hs) s'
  | served {s : Session} : s.editor.Served → Ends .serve s [] s
  | changes {s s' : Session} {r : ModeRequest} {rs : List ModeRequest}
      {hs : List (ModeName × Key)} : s.editor.requests = r :: rs →
      Ends .serve ((s.queued rs s.editor.replays).changeMode r) hs s' → Ends .serve s hs s'
  | again {s s₁ s' : Session} {k : Key} {ks : List Key} {hs hs' : List (ModeName × Key)} :
      s.editor.requests = [] → s.editor.replays = k :: ks →
      Ends (.give k) (s.queued [] ks) hs s₁ → Ends .serve s₁ hs' s' → Ends .serve s (hs ++ hs') s'

namespace Ends

/-- **Nothing waits** when what was asked for has been done. -/
theorem served_of_serve {d : Duty} (h : Ends d s hs s') (hd : d = .serve) : s'.editor.Served := by
  induction h with
  | idle | hands => cases hd
  | served hserved => exact hserved
  | changes _ _ ih => exact ih rfl
  | again _ _ _ _ _ ih => exact ih rfl

theorem served_of_give (h : Ends (.give k) s hs s') (hcur : s.current ≠ none) :
    s'.editor.Served := by
  cases h with
  | idle hnone => exact absurd hnone hcur
  | hands _ hserve => exact hserve.served_of_serve rfl

/-- **There is one outcome at most.** -/
theorem unique {d : Duty} (h : Ends d s hs s') :
    ∀ {hs₁ s₁}, Ends d s hs₁ s₁ → hs₁ = hs ∧ s₁ = s' := by
  induction h with
  | idle hnone =>
    intro hs₁ s₁ h₁
    cases h₁ with
    | idle => exact ⟨rfl, rfl⟩
    | hands hcur => exact absurd hnone hcur
  | hands hcur _ ih =>
    intro hs₁ s₁ h₁
    cases h₁ with
    | idle hnone => exact absurd hnone hcur
    | hands _ hserve =>
      obtain ⟨rfl, rfl⟩ := ih hserve
      exact ⟨rfl, rfl⟩
  | served hserved =>
    intro hs₁ s₁ h₁
    cases h₁ with
    | served => exact ⟨rfl, rfl⟩
    | changes hrequests => rw [hserved.requests] at hrequests; cases hrequests
    | again _ hreplays => rw [hserved.replays] at hreplays; cases hreplays
  | changes hrequests _ ih =>
    intro hs₁ s₁ h₁
    cases h₁ with
    | served hserved => rw [hserved.requests] at hrequests; cases hrequests
    | changes hrequests' hserve =>
      rw [hrequests] at hrequests'
      cases hrequests'
      exact ih hserve
    | again hnone => rw [hnone] at hrequests; cases hrequests
  | again hnone hreplays _ _ ihgive ihserve =>
    intro hs₁ s₁ h₁
    cases h₁ with
    | served hserved => rw [hserved.replays] at hreplays; cases hreplays
    | changes hrequests => rw [hnone] at hrequests; cases hrequests
    | again _ hreplays' hgive hserve =>
      rw [hreplays] at hreplays'
      cases hreplays'
      obtain ⟨rfl, rfl⟩ := ihgive hgive
      obtain ⟨rfl, rfl⟩ := ihserve hserve
      exact ⟨rfl, rfl⟩

/-- **The modes asked for** are gone over to one after the other. -/
theorem of_applyRequests (h : Ends .serve s.applyRequests hs s') : Ends .serve s hs s' := by
  generalize hrequests : s.editor.requests = rs at *
  induction rs generalizing s with
  | nil =>
    have hsame : s.applyRequests = s := applyRequests_of_nil hrequests
    rwa [hsame] at h
  | cons r rs ih =>
    refine .changes hrequests (ih ?_ ?_)
    · have happlied : ((s.queued rs s.editor.replays).changeMode r).applyRequests =
          s.applyRequests := by
        obtain ⟨hrs, hks⟩ := (s.queued rs s.editor.replays).queues_changeMode r
        rw [applyRequests_eq, applyRequests_eq, hrs, hks, hrequests, changeMode_queued,
          foldl_changeMode_queued]
        rfl
      rwa [happlied]
    · exact ((s.queued rs s.editor.replays).queues_changeMode r).1

end Ends

/-! ### With the modes an editor has -/

/-- The session has the modes an editor has, and one of them is current. -/
def Equipped (s : Session) : Prop := ∃ m, s.At m s.editor

theorem At.equipped {m : Mode} {e : Editor} (h : s.At m e) : s.Equipped :=
  ⟨m, h.modes, h.current, rfl⟩

theorem At.handed_eq {m : Mode} {e : Editor} (h : s.At m e) (k : Key) :
    s.handed k = [(m.name, k)] := by
  unfold handed
  rw [h.current]
  rfl

theorem At.applyRequests_of_one {m : Mode} {e : Editor} {r : ModeRequest} (h : s.At m e)
    (hone : e.requests = [r]) (hne : r.name ≠ m.name) (hmem : r.name ∈ Mode.names) :
    ∃ m', m'.name = r.name ∧ s.applyRequests.At m' s.applyRequests.editor := by
  obtain ⟨m', hname, -, hat⟩ := (h.withEditor s.editor.withoutRequests).changeMode hne hmem
  rw [← Session.applyRequests_of_one (h.editor.symm ▸ hone)] at hat
  refine ⟨_, ?_, hat.modes, hat.current, rfl⟩
  rw [← hname]
  exact m'.name_enter _ _

namespace Equipped

theorem current_ne_none (h : s.Equipped) : s.current ≠ none := by
  obtain ⟨m, hat⟩ := h
  rw [(current_of_currentMode? hat.current).1]
  nofun

theorem queued (h : s.Equipped) (rs : List ModeRequest) (ks : List Key) :
    (s.queued rs ks).Equipped := by
  obtain ⟨m, hat⟩ := h
  exact (hat.withEditor _).equipped

theorem changeMode (h : s.Equipped) (r : ModeRequest) : (s.changeMode r).Equipped := by
  obtain ⟨m, hat⟩ := h
  rcases hat.changeMode_cases r with hsame | hat₂ | ⟨m', -, -, hat₂⟩
  · rw [hsame]
    exact hat.equipped
  · exact hat₂.equipped
  · exact hat₂.equipped

theorem hand (h : s.Equipped) (k : Key) : (s.hand k).1.Equipped := by
  obtain ⟨m, hat⟩ := h
  exact (hat.hand k).equipped

theorem steady : Steady Equipped where
  edited := fun ⟨_, hat⟩ _ => (hat.withEditor _).equipped
  changeMode h r := h.changeMode r
  hand h k := h.hand k

end Equipped

/-! ### It comes to an end -/

/-- How many keys may still be handed over for those that wait. The mode that
completes a line may have one of them handed over twice. -/
def owed (s : Session) : Nat :=
  2 * s.editor.replays.length + if s.current = some .insertExpand then 1 else 0

/-- To begin with it is no more than `Session.give` allows. -/
theorem owed_applyRequests_le (s : Session) :
    s.applyRequests.owed ≤ 2 * s.editor.replays.length + 1 := by
  unfold owed
  rw [replays_applyRequests]
  split <;> omega

/-- **It gets less with every key** that is handed over again. -/
theorem Equipped.owed_hand_lt (h : s.Equipped) {ks : List Key}
    (hreplays : s.editor.replays = k :: ks) :
    ((s.queued [] ks).hand k).1.applyRequests.owed < s.owed := by
  obtain ⟨m, hat⟩ := h
  have hqueued : (s.queued [] ks).At m (s.editor.queued [] ks) := hat.withEditor _
  have hhand := hqueued.hand k
  rcases Mode.handle_asks hat.isStandard (s.editor.queued [] ks) k with hasks | ⟨hname, hresume⟩
  · -- the key does not wait again
    obtain ⟨-, -, -, hkeys⟩ := hasks
    have hwaiting : ((s.queued [] ks).hand k).1.editor.replays = ks := by
      rw [hhand.editor, hkeys]
      rfl
    have hle := owed_applyRequests_le ((s.queued [] ks).hand k).1
    rw [hwaiting] at hle
    have howed : 2 * (ks.length + 1) ≤ s.owed := by
      unfold owed
      rw [hreplays, List.length_cons]
      exact Nat.le_add_right _ _
    omega
  · -- it does, for Insert mode
    rw [hresume] at hhand
    have hother : ModeName.insert ≠ (m.handle (s.editor.queued [] ks) k).1.name := by
      rw [Mode.name_handle, hname]
      decide
    obtain ⟨m', hinsert, hat'⟩ :=
      hhand.applyRequests_of_one (r := ⟨.insert, [.resume]⟩) rfl hother (by decide)
    have hcur : s.current = some .insertExpand := by
      rw [(current_of_currentMode? hat.current).1, hname]
    have hcur' : ((s.queued [] ks).hand k).1.applyRequests.current = some .insert := by
      rw [(current_of_currentMode? hat'.current).1, hinsert]
    have hwaiting : ((s.queued [] ks).hand k).1.applyRequests.editor.replays = ks ++ [k] := by
      rw [replays_applyRequests, hhand.editor]
      rfl
    unfold owed
    rw [hcur, hcur', hwaiting, hreplays]
    simp

namespace Equipped

/-- **What was asked for is done** by as many steps as are owed. -/
theorem ends_serve : ∀ (n : Nat) {s : Session}, s.Equipped → s.applyRequests.owed ≤ n →
    ∃ hs, Ends .serve s hs (s.serve n) := by
  intro n
  induction n with
  | zero =>
    intro s h howed
    have hreplays : s.applyRequests.editor.replays = [] := by
      unfold owed at howed
      exact List.length_eq_zero_iff.mp (by omega)
    exact ⟨[], Ends.of_applyRequests (.served ⟨s.requests_applyRequests, hreplays⟩)⟩
  | succ n ih =>
    intro s h howed
    have hnone := s.requests_applyRequests
    cases hreplays : s.applyRequests.editor.replays with
    | nil =>
      rw [serve_of_replays_eq_nil hreplays]
      exact ⟨[], Ends.of_applyRequests (.served ⟨hnone, hreplays⟩)⟩
    | cons k ks =>
      have hserve : s.serve (n + 1) = ((s.applyRequests.queued [] ks).hand k).1.serve n := by
        rw [Session.serve]
        simp only [hreplays]
        rw [Session.queued, Editor.queued, ← hnone]
      have hequipped := (steady.applyRequests h).queued [] ks
      have hless := (steady.applyRequests h).owed_hand_lt hreplays
      obtain ⟨hs, hends⟩ := ih (hequipped.hand k) (by omega)
      have hgive := Ends.hands hequipped.current_ne_none hends
      have hserved := hends.served_of_serve rfl
      rw [hserve]
      exact ⟨_, Ends.of_applyRequests (.again hnone hreplays hgive (.served hserved))⟩

/-- **A key that is given** comes to an end, whatever waits. -/
theorem ends_give (h : s.Equipped) (k : Key) : ∃ hs, Ends (.give k) s hs (s.give k).1 := by
  obtain ⟨m, hat⟩ := h
  rw [hat.give_eq]
  obtain ⟨hs, hends⟩ := ends_serve _ (hat.equipped.hand k) (owed_applyRequests_le _)
  exact ⟨_, .hands hat.equipped.current_ne_none hends⟩

end Equipped

/-! ### The modes that a key is handed to -/

/-- A mode that asks for another one at most is the only one that gets the key. -/
theorem At.ends_of_asks {m : Mode} {e : Editor} (h : s.At m e) (he : e.Served) {k : Key}
    (hasks : Mode.Asks m.name e (m.handle e k).2.1) : ∃ s', Ends (.give k) s [(m.name, k)] s' := by
  obtain ⟨m', e', hsettles, hat⟩ := h.applyRequests_hand he hasks
  have hserved : (s.hand k).1.applyRequests.editor.Served := by
    rw [hat.editor]
    exact hsettles.served
  have hgive := Ends.hands h.equipped.current_ne_none (.of_applyRequests (.served hserved))
  rw [h.handed_eq] at hgive
  exact ⟨_, hgive⟩

theorem At.ends_of_resume {m : Mode} {e : Editor} (h : s.At m e) (he : e.Served) {k : Key}
    (hname : m.name = .insertExpand)
    (hresume : (m.handle e k).2.1 = (e.request .insert [.resume]).replay k) :
    ∃ s', Ends (.give k) s [(.insertExpand, k), (.insert, k)] s' := by
  have hhand := h.hand k
  rw [hresume] at hhand
  have hone : ((e.request .insert [.resume]).replay k).requests = [⟨.insert, [.resume]⟩] := by
    show e.requests ++ _ = _
    rw [he.requests, List.nil_append]
  have hother : ModeName.insert ≠ (m.handle e k).1.name := by
    rw [Mode.name_handle, hname]
    decide
  obtain ⟨m', hinsert, hat⟩ := hhand.applyRequests_of_one hone hother (by decide)
  have hreplays : (s.hand k).1.applyRequests.editor.replays = [k] := by
    rw [replays_applyRequests, hhand.editor]
    show e.replays ++ [k] = [k]
    rw [he.replays, List.nil_append]
  have hnone := (s.hand k).1.requests_applyRequests
  -- Insert mode asks for another mode at most
  have hqueued := hat.withEditor ((s.hand k).1.applyRequests.editor.queued [] [])
  have hasks := Mode.asks_of_ne hat.isStandard (by rw [hinsert]; decide)
    ((s.hand k).1.applyRequests.editor.queued [] []) k
  obtain ⟨s', hends⟩ := hqueued.ends_of_asks ⟨rfl, rfl⟩ hasks
  have hserved := hends.served_of_give hqueued.equipped.current_ne_none
  have hgive := Ends.hands h.equipped.current_ne_none
    (.of_applyRequests (.again hnone hreplays hends (.served hserved)))
  rw [h.handed_eq, hname, hinsert] at hgive
  exact ⟨_, hgive⟩

/-! ### After all that a host calls -/

theorem stable_equipped : Stable Equipped where
  typed h t := by
    obtain ⟨m, hat⟩ := h
    exact (hat.typed t).equipped
  abort {s} h := by
    obtain ⟨m, hat⟩ := h
    exact ⟨m, hat.modes, hat.current, rfl⟩

theorem Equipped.hostCall? (h : s.Equipped) {c : HostCall} {room : Nat}
    (hcall : s.hostCall? c room = some s') : s'.Equipped := by
  have hcases : ∀ c : Call, s.call? c room = some s' → s'.Equipped := by
    intro c hcall
    rcases call?_cases hcall with rfl | ⟨o, n, ho, rfl⟩ | ⟨name, rfl, rfl⟩
    · exact h
    · exact stable_equipped.after (a := o.agenda) (stable_equipped.onset? h ho)
        (fun _ k _ _ h => Equipped.steady.give h k) n
    · exact h.changeMode _
  cases c with
  | key k => exact hcases (.key k) hcall
  | timeout => exact hcases .timeout hcall
  | mode r =>
    cases hcall
    exact h.changeMode r
  | command line =>
    cases hcall
    obtain ⟨m, hat⟩ := h
    exact (hat.withEditor _).equipped

theorem Equipped.hostCalls? {room : Nat} : ∀ {cs : List HostCall} {s s' : Session}, s.Equipped →
    s.hostCalls? cs room = some s' → s'.Equipped
  | [], _, _, h, hcalls => by
    cases hcalls
    exact h
  | c :: cs, s, s', h, hcalls => by
    obtain ⟨s₁, hcall, hrest⟩ := Option.bind_eq_some_iff.mp hcalls
    exact (h.hostCall? hcall).hostCalls? hrest

/-- **A key that is given comes to an end, and leaves nothing behind.** Whatever a
host has called before, while nothing that was asked for waits a key that is given
has one outcome, and it is that of `Session.give`: nothing waits then. It is handed
to the current mode only, or to the mode that completes a line and then to Insert
mode; no other key is handed to any mode. -/
theorem delivery_ends {e : Editor} {depth room : Nat} {cs : List HostCall} {s : Session}
    (h : ((standard e).setMaxDepth depth).hostCalls? cs room = some s) (hserved : s.editor.Served)
    (k : Key) : ∃ hs, Ends (.give k) s hs (s.give k).1 ∧
      (∀ hs' s', Ends (.give k) s hs' s' → hs' = hs ∧ s' = (s.give k).1) ∧
      (s.give k).1.editor.Served ∧
      ((∃ name, s.current = some name ∧ hs = [(name, k)]) ∨
        s.current = some .insertExpand ∧ hs = [(.insertExpand, k), (.insert, k)]) := by
  have hequipped : s.Equipped := (at_standard e depth).equipped.hostCalls? h
  obtain ⟨hs, hends⟩ := hequipped.ends_give k
  refine ⟨hs, hends, fun hs' s' => hends.unique, hends.served_of_give hequipped.current_ne_none, ?_⟩
  obtain ⟨m, hat⟩ := hequipped
  have hcur := (current_of_currentMode? hat.current).1
  rcases Mode.handle_asks hat.isStandard s.editor k with hasks | ⟨hname, hresume⟩
  · obtain ⟨s', hends'⟩ := hat.ends_of_asks hserved hasks
    exact Or.inl ⟨m.name, hcur, (hends'.unique hends).1⟩
  · obtain ⟨s', hends'⟩ := hat.ends_of_resume hserved hname hresume
    rw [hname] at hcur
    exact Or.inr ⟨hcur, (hends'.unique hends).1⟩

/-- A character that is typed while a line is being completed is handed to both
modes. -/
theorem delivery_ends_completing :
    let s := (standard { text := ['a'] }).changeMode ⟨.insertExpand, []⟩
    s.editor.Served ∧
      Ends (.give (.char 'z')) s [(.insertExpand, .char 'z'), (.insert, .char 'z')]
        (s.give (.char 'z')).1 ∧
      (s.give (.char 'z')).1.editor.Served ∧ (s.give (.char 'z')).1.editor.text = ['z', 'a'] := by
  intro s
  have hserved : s.editor.Served := ⟨rfl, rfl⟩
  have hat : s.At (.insertExpand {}) s.editor := ⟨rfl, rfl, rfl⟩
  have hcalls : ((standard { text := ['a'] }).setMaxDepth 100).hostCalls?
      [.mode ⟨.insertExpand, []⟩] = some s := rfl
  obtain ⟨hs, hends, hunique, hserved', -⟩ := delivery_ends hcalls hserved (.char 'z')
  obtain ⟨s', hends'⟩ := hat.ends_of_resume hserved (k := .char 'z') rfl rfl
  obtain ⟨rfl, -⟩ := hunique _ _ hends'
  exact ⟨hserved, hends, hserved', by decide⟩

end Session
end Keywise
