/-
# The cursor of Normal mode

As long as no key strands the cursor, it is after every call where it may
rest whenever Normal mode is current; and a key that strands it does leave it
where it may not rest (`Session.rests_of_calls?`). Text that is put and
characters that are replaced are the only such keys.

Key definitions: `Session.Rests`, `Session.Strands`.
Key theorems: `Mode.invariant_rests`, `Session.At.give_of_strands`,
`Session.rests_give_iff`, `Session.rests_of_calls?`.
-/
import Keywise.Config.Install
import Keywise.Proofs.Mode.Resting
import Keywise.Proofs.Session.Invariant

namespace Keywise

namespace Mode

/-- In Normal mode no count typed is zero. -/
def Counted (m : Mode) : Prop := ∀ s, m = normal s → s.Counted

/-- In Normal mode the cursor is where it may rest. -/
def Rests (m : Mode) (e : Editor) : Prop := ∀ s, m = normal s → e.Rests

/-- The key does not leave the cursor of Normal mode where it may not rest. -/
def Spares (m : Mode) (e : Editor) (k : Key) : Prop := ∀ s, m = normal s → s.strands e k = false

theorem exists_normal_of_handle {m : Mode} {e : Editor} {k : Key} {s' : Normal}
    (h : (m.handle e k).1 = normal s') : ∃ s, m = normal s := by
  have hfresh := m.fresh_handle e k
  rw [h] at hfresh
  cases m with
  | normal s => exact ⟨s, rfl⟩
  | _ => cases hfresh

theorem counted_goTo (m m' : Mode) (e : Editor) (args : List ModeArg) :
    (m.goTo m' e args).1.Counted := by
  intro s hs
  cases m' with
  | normal s' =>
    cases hs
    exact Normal.counted_idle
  | _ => cases hs

/-- **To enter Normal mode** is to put the cursor to rest. -/
theorem rests_goTo (m m' : Mode) (e : Editor) (args : List ModeArg) :
    (m.goTo m' e args).1.Rests (m.goTo m' e args).2 := by
  intro s hs
  cases m' with
  | normal s' => exact (m.leave e).2.rests_settle .keep
  | _ => cases hs

theorem invariant_counted : Invariant (fun _ _ _ => True) fun m _ => m.Counted where
  keeps {m e k} h _ _ _ := by
    intro m' e' hsettles
    cases hsettles with
    | stays _ =>
      intro s' hs'
      obtain ⟨s, rfl⟩ := exists_normal_of_handle hs'
      cases hs'
      exact (h s rfl).handle e k
    | goes _ _ _ _ _ => exact counted_goTo _ _ _ _
  goTo _ _ _ := counted_goTo _ _ _ _
  resume _ := trivial
  shown h := h
  report h _ := h

/-- **Keys that do not strand the cursor** leave it at rest. -/
theorem invariant_rests : Invariant Spares fun m e => m.Counted ∧ m.Rests e where
  keeps {m e k} h hm he hk := by
    intro m' e' hsettles
    refine ⟨invariant_counted.keeps h.1 hm he trivial m' e' hsettles, ?_⟩
    cases hsettles with
    | stays hserved =>
      intro s' hs'
      obtain ⟨s, rfl⟩ := exists_normal_of_handle hs'
      exact (Normal.rests_handle_iff (h.1 s rfl) (h.2 s rfl) hserved.requests).mpr (hk s rfl)
    | goes _ _ _ _ _ => exact rests_goTo _ _ _ _
  goTo _ _ _ := ⟨counted_goTo _ _ _ _, rests_goTo _ _ _ _⟩
  resume _ := fun s hs => nomatch hs
  shown h := h
  report h _ := h

end Mode

namespace Session

/-- If Normal mode is current, the cursor is where it may rest. -/
def Rests (s : Session) : Prop := s.current = some .normal → s.editor.Rests

/-- Normal mode is current, and the key leaves the cursor where it may not
rest. -/
def Strands (s : Session) (k : Key) : Prop :=
  ∃ n, s.currentMode? = some (.normal n) ∧ n.strands s.editor k = true

theorem At.rests_iff {s : Session} {m : Mode} {e : Editor} (h : s.At m e) :
    s.Rests ↔ m.Rests e := by
  obtain rfl := h.editor
  have hcur := (current_of_currentMode? h.current).1
  constructor
  · rintro hrests n rfl
    exact hrests hcur
  · intro hrests hnormal
    obtain ⟨n, rfl⟩ : ∃ n, m = .normal n := by
      rw [hcur] at hnormal
      exact h.isStandard.eq_normal (Option.some.inj hnormal)
    exact hrests n rfl

theorem not_strands_iff {s : Session} {m : Mode} (h : s.currentMode? = some m) (k : Key) :
    ¬ s.Strands k ↔ m.Spares s.editor k := by
  unfold Strands
  rw [h]
  constructor
  · rintro hn n rfl
    by_contra hstrands
    exact hn ⟨n, rfl, Bool.not_eq_false _ ▸ hstrands⟩
  · rintro hspares ⟨n, hm, hstrands⟩
    rw [hspares n (Option.some.inj hm)] at hstrands
    cases hstrands

/-- **A key that strands the cursor** leaves Normal mode current. -/
theorem At.give_of_strands {s : Session} {n : Normal} {e : Editor} (h : s.At (.normal n) e)
    (he : e.Served) (hn : n.Counted) (hle : e.cursor ≤ e.text.length) {k : Key}
    (hstrands : n.strands e k = true) : ¬ (s.give k).1.Rests := by
  obtain ⟨hedited, hrests⟩ := Normal.handle_of_strands hn hle hstrands
  have hasks : Mode.Asks .normal e (n.handle e k).2.1 := .of_edited hedited (Or.inl rfl)
  obtain ⟨m', e', hsettles, hat⟩ := h.give_of_asks he hasks
  rw [hat.rests_iff]
  cases hsettles with
  | stays _ => exact fun hn => hrests (hn _ rfl)
  | goes hrequests _ _ _ _ =>
    have hone : (n.handle e k).2.1.requests = [_] := hrequests
    rw [(he.edited hedited).requests] at hone
    cases hone

/-- **Given with the cursor at rest**, a key leaves it at rest if and only if
it does not strand it. -/
theorem rests_give_iff {s : Session} (h : s.Satisfies fun m _ => m.Counted) (hrests : s.Rests)
    (k : Key) : (s.give k).1.Rests ↔ ¬ s.Strands k := by
  obtain ⟨⟨m, hat, hm⟩, he⟩ := h
  have hrests' : m.Rests s.editor := hat.rests_iff.mp hrests
  rw [not_strands_iff hat.current]
  constructor
  · rintro hgive n rfl
    by_contra hstrands
    have hle := (hrests' n rfl).cursor_le
    exact hat.give_of_strands he (hm n rfl) hle (Bool.not_eq_false _ ▸ hstrands) hgive
  · intro hspares
    have hsat : s.Satisfies fun m e => m.Counted ∧ m.Rests e := ⟨⟨m, hat, hm, hrests'⟩, he⟩
    obtain ⟨⟨m', hat', -, hm'⟩, -⟩ := Mode.invariant_rests.give hsat fun m₁ hm₁ => by
      rw [hat.current] at hm₁
      exact Option.some.inj hm₁ ▸ hspares
    exact hat'.rests_iff.mpr hm'

theorem satisfies_configured {e : Editor} (he : e.Served) (c : Config) :
    (configured e c).Satisfies fun m e => m.Counted ∧ m.Rests e := by
  let e₀ : Editor := { e with keyMaps := (e.keyMaps.install c.mappings).1 }
  have hserved : ((e₀.settle .keep).shown "NORMAL").Served := ⟨he.requests, he.replays⟩
  refine (at_standard e₀ c.input.depth).satisfies hserved ⟨fun s hs => ?_, fun s hs => ?_⟩
  · cases hs
    exact Normal.counted_idle
  · exact e₀.rests_settle .keep

/-- **After all calls** the cursor of Normal mode is where it may rest if no
key given strands it. A key that is given with the cursor at rest leaves it
at rest if and only if it does not strand it. -/
theorem rests_of_calls? {e : Editor} (he : e.Served) (c : Config) {room : Nat} {cs : List Call}
    {s' : Session} (h : (configured e c).calls? cs room = some s') :
    ((∀ s k, (configured e c).Gives cs room s k → ¬ s.Strands k) → s'.Rests) ∧
      ∀ s k, (configured e c).Gives cs room s k → s.Rests →
        ((s.give k).1.Rests ↔ ¬ s.Strands k) := by
  have hbegin := satisfies_configured he c
  constructor
  · intro hspares
    obtain ⟨⟨⟨m, hat, -, hm⟩, -⟩, -⟩ := Mode.invariant_rests.of_calls? hbegin
      (fun s k hk m hm => (not_strands_iff hm k).mp (hspares s k hk)) h
    exact hat.rests_iff.mpr hm
  · -- counts are kept by every key, one that strands the cursor or not
    have hcounted : (configured e c).Satisfies fun m _ => m.Counted :=
      ⟨hbegin.at_mode.imp fun m hm => ⟨hm.1, hm.2.1⟩, hbegin.served⟩
    obtain ⟨-, hgiven⟩ :=
      Mode.invariant_counted.of_calls? hcounted (fun _ _ _ _ _ => trivial) h
    exact fun s k hk hrests => rests_give_iff (hgiven s k hk) hrests k

/-- A letter that is put does not strand the cursor. -/
theorem rests_of_putting :
    let e : Editor := { text := ['a', 'b'], shared := { unnamed := some ⟨['x'], .text⟩ } }
    e.Served ∧ ∃ s', (configured e {}).calls? [.key (.char 'p')] = some s' ∧
      (∀ s k, (configured e {}).Gives [.key (.char 'p')] stackRoom s k → ¬ s.Strands k) ∧
      s'.editor.text = ['a', 'x', 'b'] ∧ s'.Rests := by
  intro e
  have hserved : e.Served := ⟨rfl, rfl⟩
  have harrive : (configured e {}).arrive (.char 'p') 0 =
      { session := configured e {}, tasks := [.give (.char 'p')] } := by rfl
  have hspares : ∀ s k, (configured e {}).Gives [.key (.char 'p')] stackRoom s k →
      ¬ s.Strands k := by
    intro s k hgives
    rcases (gives_key_iff rfl harrive (by decide) [] s k).mp hgives with ⟨rfl, rfl⟩ | hnone
    · have hcur : (configured e {}).currentMode? = some (.normal .idle) := rfl
      rintro ⟨n, hn, hstrands⟩
      rw [hcur] at hn
      cases hn
      revert hstrands
      decide +kernel
    · exact hnone.elim
  have hrun : (configured e {}).calls? [.key (.char 'p')] =
      some ((configured e {}).give (.char 'p')).1 := by rfl
  exact ⟨hserved, _, hrun, hspares, by decide +kernel, (rests_of_calls? hserved {} hrun).1 hspares⟩

/-- A line feed is selected and put after another character: the cursor is on
it, at the end of a line with something before it. -/
theorem not_rests_of_putting_line_feed :
    ∃ s', (configured { text := ['a', '\n', '\n', 'b'] } {}).calls?
        (['j', 'v', 'y', 'k', 'p'].map fun c => .key (.char c)) = some s' ∧
      s'.current = some .normal ∧ s'.editor.cursor = 1 ∧ s'.editor.text.rest 1 = 0 ∧
      ¬ s'.Rests := by
  have hview : ((configured { text := ['a', '\n', '\n', 'b'] } {}).calls?
      (['j', 'v', 'y', 'k', 'p'].map fun c => .key (.char c))).map
        (fun s => (s.current, s.editor.cursor, s.editor.text.rest 1)) =
      some (some .normal, 1, 0) := by
    decide +kernel
  obtain ⟨s', hrun, hs'⟩ := Option.map_eq_some_iff.mp hview
  obtain ⟨hcur, hcursor, hrest⟩ : s'.current = some .normal ∧ s'.editor.cursor = 1 ∧
      s'.editor.text.rest 1 = 0 := by simpa using hs'
  refine ⟨s', hrun, hcur, hcursor, hrest, fun hrests => ?_⟩
  have hsame : s'.editor.text.rest s'.editor.cursor = s'.editor.cursor := hrests hcur
  rw [hcursor, hrest] at hsame
  cases hsame

end Session
end Keywise
