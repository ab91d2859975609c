/-
# Whole lines in registers end with a line feed

As long as no key glues, whole lines in registers end with a line feed after
every call; and a key that glues does leave a register of whole lines without
one (`Session.ended_of_calls?`). To append part of a line to whole lines,
under a capital letter, is to glue, and nothing else is.

Key definitions: `Session.Ended`, `Session.Glues`.
Key theorems: `Mode.invariant_ended`, `Session.ended_give_iff`,
`Session.ended_of_calls?`.
-/
import Keywise.Proofs.Mode.Writing
import Keywise.Proofs.Session.Invariant
import Keywise.Proofs.Text.Rows

namespace Keywise

/-- **Keys that do not glue** leave whole lines in registers with a line feed
at their end. -/
theorem Mode.invariant_ended :
    Invariant (fun m e k => ¬ m.Glues e k) fun _ e => e.registers.Ended where
  keeps {m e k} h _ _ hk := by
    have hhandle := (m.ended_handle_iff h k).mpr hk
    intro m' e' hsettles
    cases hsettles with
    | stays _ => exact hhandle
    | goes _ _ _ _ _ =>
      rw [registers_goTo]
      exact hhandle
  goTo h _ _ := by
    rw [registers_goTo]
    exact h
  resume _ := by
    rintro ⟨new, -, hglues⟩
    obtain ⟨l, old, hname, -⟩ := hglues.lines
    cases hname
  shown h := h
  report h _ := h

namespace Session

/-- In all registers in use whole lines end with a line feed. -/
def Ended (s : Session) : Prop := s.editor.registers.Ended

/-- The key makes the current mode write part of a line under a capital
letter whose register holds whole lines. -/
def Glues (s : Session) (k : Key) : Prop := ∃ m, s.currentMode? = some m ∧ m.Glues s.editor k

theorem not_glues_iff {s : Session} {m : Mode} (h : s.currentMode? = some m) (k : Key) :
    ¬ s.Glues k ↔ ¬ m.Glues s.editor k := by
  unfold Glues
  rw [h]
  simp

theorem not_glues_of_register?_eq_none {s : Session} {m : Mode} (h : s.currentMode? = some m)
    (hm : m.register? = none) (k : Key) : ¬ s.Glues k := by
  rw [not_glues_iff h]
  rintro ⟨new, -, hglues⟩
  obtain ⟨l, old, hname, -⟩ := hglues.lines
  rw [hm] at hname
  cases hname

/-- **Given while all are ended**, a key leaves them so if and only if it does
not glue. -/
theorem ended_give_iff {s : Session} (h : s.Satisfies fun _ _ => True) (hended : s.Ended)
    (k : Key) : (s.give k).1.Ended ↔ ¬ s.Glues k := by
  obtain ⟨⟨m, hat, -⟩, he⟩ := h
  rw [not_glues_iff hat.current]
  constructor
  · -- a mode with a register named is none that has a key handed over again
    rintro hgive ⟨new, hwritten, hglues⟩
    have hother : m.name ≠ .insertExpand := by
      obtain ⟨l, old, hname, -⟩ := hglues.lines
      rintro hm
      obtain ⟨c, rfl⟩ := hat.isStandard.eq_insertExpand hm
      cases hname
    obtain ⟨m', e', hsettles, hat'⟩ :=
      hat.give_of_asks he (Mode.asks_of_ne hat.isStandard hother s.editor k)
    have hsame : (s.give k).1.editor.registers = (m.handle s.editor k).2.1.registers := by
      rw [hat'.editor]
      cases hsettles with
      | stays _ => rfl
      | goes _ _ _ _ _ => exact Mode.registers_goTo _ _ _ _
    have hhandle : (m.handle s.editor k).2.1.registers.Ended := hsame ▸ hgive
    exact (m.ended_handle_iff hended k).mp hhandle ⟨new, hwritten, hglues⟩
  · intro hno
    have hsat : s.Satisfies fun _ e => e.registers.Ended := hat.satisfies he hended
    obtain ⟨⟨m', hat', hm'⟩, -⟩ := Mode.invariant_ended.give hsat fun m₁ hm₁ => by
      rw [hat.current] at hm₁
      exact Option.some.inj hm₁ ▸ hno
    exact hm'

/-- **After all calls** whole lines in registers end with a line feed if no
key given glues. A key that is given while they do leaves them so if and only
if it does not glue. -/
theorem ended_of_calls? {e : Editor} (he : e.Served) (hended : e.registers.Ended) (c : Config)
    {room : Nat} {cs : List Call} :
    (∀ s', (configured e c).calls? cs room = some s' →
      (∀ s k, (configured e c).Gives cs room s k → ¬ s.Glues k) → s'.Ended) ∧
    ∀ s k, (configured e c).Gives cs room s k → s.Ended → ((s.give k).1.Ended ↔ ¬ s.Glues k) := by
  constructor
  · intro s' hrun hno
    have hbegin : (configured e c).Satisfies fun _ e => e.registers.Ended := by
      refine satisfies_configured_of he c fun ms => ?_
      show (Editor.settle { e with keyMaps := ms } .keep).registers.Ended
      rw [Editor.registers_settle]
      exact hended
    obtain ⟨⟨⟨m, hat, hm⟩, -⟩, -⟩ := Mode.invariant_ended.of_calls? hbegin
      (fun s k hk m hm => (not_glues_iff hm k).mp (hno s k hk)) hrun
    exact hm
  · intro s k hk hs
    have hbegin : (configured e c).Satisfies fun _ _ => True :=
      satisfies_configured_of he c fun _ => trivial
    exact ended_give_iff (Mode.invariant_true.of_gives hbegin hk) hs k

/-- The line of the cursor is taken into the unnamed register. -/
theorem ended_of_taking_line :
    let e : Editor := { text := ['a', 'b', '\n', 'c', 'd'] }
    let ks : List Call := [.key (.char 'y'), .key (.char 'y')]
    e.Served ∧ e.registers.Ended ∧ ∃ s', (configured e {}).calls? ks = some s' ∧
      s'.editor.registers.read none = some ⟨['a', 'b', '\n'], .lines⟩ ∧ s'.Ended := by
  intro e ks
  have hserved : e.Served := ⟨rfl, rfl⟩
  have hended : e.registers.Ended := Registers.ended_empty
  let s₁ := ((configured e {}).give (.char 'y')).1
  have harrive : (configured e {}).arrive (.char 'y') 0 =
      { session := configured e {}, tasks := [.give (.char 'y')] } := by rfl
  have harrive₁ : s₁.arrive (.char 'y') 0 = { session := s₁, tasks := [.give (.char 'y')] } := by
    rfl
  have hno : ∀ s k, (configured e {}).Gives ks stackRoom s k → ¬ s.Glues k := by
    intro s k hgives
    rcases (gives_key_iff rfl harrive (by decide) _ s k).mp hgives with ⟨rfl, rfl⟩ | hgives
    · have hcur : (configured e {}).currentMode? = some (.normal .idle) := rfl
      exact not_glues_of_register?_eq_none hcur rfl _
    · rcases (gives_key_iff rfl harrive₁ (by decide) [] s k).mp hgives with ⟨rfl, rfl⟩ | hnone
      · have hcur : s₁.currentMode? = some (.normal { operator := some .yank }) := rfl
        exact not_glues_of_register?_eq_none hcur rfl _
      · exact hnone.elim
  have hrun : (configured e {}).calls? ks = some (s₁.give (.char 'y')).1 := by
    rw [calls?_key rfl harrive (by decide), calls?_key rfl harrive₁ (by decide)]
    rfl
  exact ⟨hserved, hended, _, hrun, by decide +kernel,
    (ended_of_calls? hserved hended {}).1 _ hrun hno⟩

/-- Part of a line is appended to a line in a register, and put before
another line: the two run into one. -/
theorem not_ended_of_appending_to_line :
    ∃ s', (configured { text := ['a', 'b', '\n', 'c', 'd'] } {}).calls?
        (['"', 'a', 'y', 'y', '"', 'A', 'y', 'l', 'P'].map fun c => .key (.char c)) = some s' ∧
      s'.editor.registers.read (some 'a') = some ⟨['a', 'b', '\n', 'a'], .lines⟩ ∧
      s'.editor.text.rows = [['a', 'b'], ['a', 'a', 'b'], ['c', 'd']] ∧ ¬ s'.Ended := by
  have hview : ((configured { text := ['a', 'b', '\n', 'c', 'd'] } {}).calls?
      (['"', 'a', 'y', 'y', '"', 'A', 'y', 'l', 'P'].map fun c => .key (.char c))).map
        (fun s => (s.editor.registers.read (some 'a'), s.editor.text.rows)) =
      some (some ⟨['a', 'b', '\n', 'a'], .lines⟩, [['a', 'b'], ['a', 'a', 'b'], ['c', 'd']]) := by
    decide +kernel
  obtain ⟨s', hrun, hs'⟩ := Option.map_eq_some_iff.mp hview
  obtain ⟨hread, hrows⟩ := Prod.mk.inj hs'
  refine ⟨s', hrun, hread, hrows, fun hended => ?_⟩
  exact absurd (hended.read hread rfl) (by decide)

end Session
end Keywise
