/-
# What is true of the current mode and the editor after every call

What a key does to the current mode and the editor is a matter of the mode
alone, and so is a change of mode. A condition that modes keep, and that does
not depend on the names and messages shown, is therefore true after all that
a host calls (`Mode.Invariant.of_calls?`). It may be one that only some keys
keep: then it is true as long as no other keys are given.

Key definitions: `Mode.Invariant`, `Session.Satisfies`.
Key theorems: `Mode.Invariant.give`, `Mode.Invariant.changeMode`,
`Mode.Invariant.of_calls?`, `Mode.Invariant.of_gives`.
-/
import Keywise.Config.Install
import Keywise.Proofs.Session.Calls
import Keywise.Proofs.Session.Turn

namespace Keywise

/-- The keys that `K` allows keep `P` true of the mode and the editor, and so
does every change of mode. -/
structure Mode.Invariant (K : Mode → Editor → Key → Prop) (P : Mode → Editor → Prop) :
    Prop where
  keeps : ∀ {m e k}, P m e → m.IsStandard → e.Served → K m e k → m.Keeps P e k
  goTo : ∀ {m m' e args}, P m e → m'.IsStandard → (∀ p, .anchor p ∉ args) →
    P (Mode.goTo m m' e args).1 (Mode.goTo m m' e args).2
  /-- A key that Insert mode gets again is allowed there. -/
  resume : ∀ {c i e k}, K (.insertExpand c) e k →
    K ((Mode.insertExpand c).goTo (.insert i) e [.resume]).1
      ((Mode.insertExpand c).goTo (.insert i) e [.resume]).2 k
  shown : ∀ {m e}, P m e → P m (e.shown m.display)
  report : ∀ {m e}, P m e → ∀ err, P m (e.report err)

namespace Session

/-- The session has the modes an editor has, `P` is true of the current one
and the editor, and nothing that was asked for waits. -/
structure Satisfies (P : Mode → Editor → Prop) (s : Session) : Prop where
  at_mode : ∃ m, s.At m s.editor ∧ P m s.editor
  served : s.editor.Served

theorem At.satisfies {P : Mode → Editor → Prop} {s : Session} {m : Mode} {e : Editor}
    (h : s.At m e) (he : e.Served) (hP : P m e) : s.Satisfies P := by
  obtain rfl := h.editor
  exact ⟨⟨m, h, hP⟩, he⟩

theorem standard_eq (e : Editor) : standard e =
    { editor := (e.settle .keep).shown "NORMAL"
      modes := Mode.standard
      current := some .normal } := rfl

theorem at_standard (e : Editor) (depth : Nat) :
    ((standard e).setMaxDepth depth).At (.normal .idle) ((e.settle .keep).shown "NORMAL") := by
  rw [standard_eq]
  exact ⟨rfl, rfl, rfl⟩

end Session

namespace Mode.Invariant

variable {K : Mode → Editor → Key → Prop} {P : Mode → Editor → Prop} {s : Session}

/-- **A key that is given** keeps what all modes keep. -/
theorem give (hP : Invariant K P) (h : s.Satisfies P) {k : Key}
    (hK : ∀ m, s.currentMode? = some m → K m s.editor k) : (s.give k).1.Satisfies P := by
  obtain ⟨⟨m, hat, hm⟩, he⟩ := h
  have hkeeps := hP.keeps hm hat.isStandard he (hK m hat.current)
  have hresume : ∀ c i, m = .insertExpand c →
      (m.goTo (.insert i) s.editor [.resume]).1.Keeps P
        (m.goTo (.insert i) s.editor [.resume]).2 k := by
    rintro c i rfl
    have hstd := isStandard_insert i
    have hgone := hP.goTo hm hstd fun p (hp : ModeArg.anchor p ∈ [ModeArg.resume]) => by simp at hp
    exact hP.keeps hgone (isStandard_insert _) (served_goTo he _ _ _)
      (hP.resume (hK _ hat.current))
  obtain ⟨m', e', hat', he', hm'⟩ := hat.give he hkeeps hresume
  exact hat'.satisfies he' hm'

/-- **A change of mode**, to whatever name, keeps it. -/
theorem changeMode (hP : Invariant K P) (h : s.Satisfies P) (name : ModeName) :
    (s.changeMode ⟨name, []⟩).Satisfies P := by
  obtain ⟨⟨m, hat, hm⟩, he⟩ := h
  rcases hat.changeMode_cases ⟨name, []⟩ with hsame | hat₂ | ⟨m', -, hstd, hat₂⟩
  · rw [hsame]
    exact hat.satisfies he hm
  · exact hat₂.satisfies (he.shown _) (hP.shown hm)
  · exact hat₂.satisfies (served_goTo he _ _ _) (hP.goTo hm hstd fun _ => List.not_mem_nil)

theorem stable (hP : Invariant K P) : Session.Stable (Session.Satisfies P) where
  typed h t := by
    obtain ⟨⟨m, hat, hm⟩, he⟩ := h
    exact (hat.typed t).satisfies he hm
  abort {s} h := by
    obtain ⟨⟨m, hat, hm⟩, he⟩ := h
    have hat' : s.abort.At m (s.editor.report .recursiveMapping) := ⟨hat.modes, hat.current, rfl⟩
    exact hat'.satisfies ⟨he.requests, he.replays⟩ (hP.report hm _)

/-- **After all calls** it is true, and whenever a key is given. -/
theorem of_calls? (hP : Invariant K P) (h : s.Satisfies P) {room : Nat} {cs : List Session.Call}
    {s' : Session}
    (hK : ∀ s₁ k, s.Gives cs room s₁ k → ∀ m, s₁.currentMode? = some m → K m s₁.editor k)
    (hrun : s.calls? cs room = some s') :
    s'.Satisfies P ∧ ∀ s₁ k, s.Gives cs room s₁ k → s₁.Satisfies P :=
  Session.holds_calls? hP.stable (fun h name => hP.changeMode h name) h
    (fun s₁ k hk h₁ => hP.give h₁ (hK s₁ k hk)) hrun

/-- **Whenever a key is given** it is true, if all keys keep it. -/
theorem of_gives {P : Mode → Editor → Prop} (hP : Invariant (fun _ _ _ => True) P)
    (h : s.Satisfies P) {room : Nat} {cs : List Session.Call} {s₁ : Session} {k : Key}
    (hk : s.Gives cs room s₁ k) : s₁.Satisfies P :=
  Session.holds_of_gives hP.stable (fun h name => hP.changeMode h name)
    (fun h _ => hP.give h fun _ _ => trivial) h hk

end Mode.Invariant

theorem Mode.invariant_true : Invariant (fun _ _ _ => True) fun _ _ => True where
  keeps _ _ _ _ := fun _ _ _ => trivial
  goTo _ _ _ := trivial
  resume _ := trivial
  shown _ := trivial
  report _ _ := trivial

/-- What is true of Normal mode as it begins is true of a session that is
set up. -/
theorem Session.satisfies_configured_of {P : Mode → Editor → Prop} {e : Editor} (he : e.Served)
    (c : Config) (hP : ∀ ms, P (.normal .idle)
      ((Editor.settle { e with keyMaps := ms } .keep).shown "NORMAL")) :
    (configured e c).Satisfies P := by
  let e₀ : Editor := { e with keyMaps := (e.keyMaps.install c.mappings).1 }
  have hserved : ((e₀.settle .keep).shown "NORMAL").Served := ⟨he.requests, he.replays⟩
  exact (at_standard e₀ c.input.depth).satisfies hserved (hP _)

end Keywise
