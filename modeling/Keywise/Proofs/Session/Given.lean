/-
# The keys that work gives to modes

Work on a key is a matter of strokes and of the keys typed ahead, until a key
is given to the current mode. Only that changes anything else: unless the
work is given up, the session is at any time what the keys given so far have
made of it, but for the keys typed ahead (`Agenda.untyped_after`). What modes
do with a key in turn does not depend on the keys typed ahead
(`Session.untyped_give`).

Key definitions: `Session.untyped`, `Session.giveAll`, `Agenda.given`.
Key theorems: `Session.untyped_give`, `Agenda.given_add`,
`Agenda.untyped_after`, `Session.press?_of_after`.
-/
import Keywise.Proofs.Session.Ending

namespace Keywise
namespace Session

/-! ### What modes do not see -/

/-- The session with nothing typed ahead. -/
def untyped (s : Session) : Session := { s with typeahead := {} }

theorem withTypeahead_nil {s : Session} (h : s.typeahead = {}) :
    { s with typeahead := ({} : Typeahead) } = s := by
  rw [← h]

theorem untyped_note (s : Session) (m : Mode) (n : Notice) :
    (s.note m n).untyped = s.untyped.note m n := by
  cases m <;> rfl

theorem untyped_leaveCurrent (s : Session) : s.leaveCurrent.untyped = s.untyped.leaveCurrent := by
  have hmode : s.untyped.currentMode? = s.currentMode? := rfl
  unfold leaveCurrent
  rw [hmode]
  cases s.currentMode? with
  | none => rfl
  | some m => exact untyped_note _ _ _

theorem untyped_enterMode (s : Session) (m : Mode) (args : List ModeArg) :
    (s.enterMode m args).untyped = s.untyped.enterMode m args :=
  untyped_note _ _ _

theorem untyped_changeMode (s : Session) (r : ModeRequest) :
    (s.changeMode r).untyped = s.untyped.changeMode r := by
  have hmode : s.untyped.mode? r.name = s.mode? r.name := rfl
  have hcur : s.untyped.current = s.current := rfl
  unfold changeMode
  rw [hmode, hcur]
  cases s.mode? r.name with
  | none => rfl
  | some m =>
    simp only
    split
    · rfl
    · rw [← untyped_leaveCurrent, ← untyped_enterMode]
      rfl

theorem untyped_applyRequests (s : Session) :
    s.applyRequests.untyped = s.untyped.applyRequests := by
  have hall : ∀ (rs : List ModeRequest) (s : Session),
      (rs.foldl changeMode s).untyped = rs.foldl changeMode s.untyped := by
    intro rs
    induction rs with
    | nil => intro s; rfl
    | cons r rs ih =>
      intro s
      rw [List.foldl_cons, List.foldl_cons, ih, untyped_changeMode]
  exact hall _ _

theorem untyped_hand (s : Session) (k : Key) :
    (s.hand k).1.untyped = (s.untyped.hand k).1 := by
  have hmode : s.untyped.currentMode? = s.currentMode? := rfl
  unfold hand
  rw [hmode]
  cases s.currentMode? with
  | none => rfl
  | some m => exact untyped_note _ _ _

theorem untyped_serve : ∀ (n : Nat) (s : Session), (serve n s).untyped = serve n s.untyped
  | 0, s => untyped_applyRequests s
  | n + 1, s => by
    have hreplays : s.untyped.applyRequests.editor.replays = s.applyRequests.editor.replays := by
      rw [← untyped_applyRequests]
      rfl
    simp only [serve]
    rw [hreplays]
    cases s.applyRequests.editor.replays with
    | nil => exact untyped_applyRequests s
    | cons k ks =>
      simp only
      rw [untyped_serve n, untyped_hand, ← untyped_applyRequests]
      rfl

/-- **Modes do not see the keys typed ahead.** -/
theorem untyped_give (s : Session) (k : Key) : (s.give k).1.untyped = (s.untyped.give k).1 := by
  have hcur : s.untyped.current = s.current := rfl
  unfold give
  rw [hcur]
  cases s.current with
  | none => rfl
  | some name =>
    have hreplays : (s.untyped.hand k).1.editor.replays = (s.hand k).1.editor.replays := by
      rw [← untyped_hand]
      rfl
    simp only
    rw [untyped_serve, untyped_hand, hreplays]

/-- Keys given to the current mode one after the other. -/
def giveAll (s : Session) (ks : List Key) : Session := ks.foldl (fun s k => (s.give k).1) s

theorem giveAll_append (s : Session) (ks ks' : List Key) :
    s.giveAll (ks ++ ks') = (s.giveAll ks).giveAll ks' :=
  List.foldl_append

theorem untyped_giveAll (ks : List Key) :
    ∀ s : Session, (s.giveAll ks).untyped = s.untyped.giveAll ks := by
  induction ks with
  | nil => intro s; rfl
  | cons k ks ih =>
    intro s
    have hcons : ∀ s : Session, s.giveAll (k :: ks) = (s.give k).1.giveAll ks := fun _ => rfl
    rw [hcons, hcons, ih, untyped_give]

/-! ### What strokes do not change -/

/-- A key that arrives changes the keys typed ahead at most, unless it leads
too deep. -/
theorem untyped_arrive {s : Session} {k : Key} {depth : Nat} (h : depth ≤ s.maxDepth) :
    (s.arrive k depth).session.untyped = s.untyped ∧ (s.arrive k depth).aborted = false := by
  unfold arrive
  rw [if_neg (Nat.not_lt.mpr h)]
  split
  · exact ⟨rfl, rfl⟩
  · split
    · split <;> exact ⟨rfl, rfl⟩
    · split <;> exact ⟨rfl, rfl⟩

theorem arrive_of_lt {s : Session} {depth : Nat} (h : s.maxDepth < depth) (k : Key) :
    s.arrive k depth = { session := s.abort, tasks := [], aborted := true } :=
  if_pos h

theorem untyped_pass (s : Session) (k : Key) (depth : Nat) :
    (s.pass k depth).session.untyped = s.untyped ∧ (s.pass k depth).aborted = false := by
  unfold pass
  split
  · split <;> exact ⟨rfl, rfl⟩
  · exact ⟨rfl, rfl⟩

end Session

namespace Run

theorem aborted_perform {r : Run} (h : r.aborted = true) (t : Task) :
    (r.perform t).1.aborted = true := by
  cases t with
  | give k => exact h
  | stroke st depth => rw [perform_of_aborted h]; exact h

theorem untyped_perform_stroke {r : Run} {st : Stroke} {depth : Nat}
    (h : (r.perform (.stroke st depth)).1.aborted = false) :
    (r.perform (.stroke st depth)).1.session.untyped = r.session.untyped := by
  have ha : r.aborted = false := by
    rw [Bool.eq_false_iff]
    intro ha
    rw [aborted_perform ha] at h
    cases h
  by_cases hst : st.recursive = true
  · rw [perform_of_recursive ha hst] at h ⊢
    by_cases hdeep : r.session.maxDepth < depth + 1
    · rw [Session.arrive_of_lt hdeep] at h
      cases h
    · exact (Session.untyped_arrive (Nat.not_lt.mp hdeep)).1
  · rw [perform_of_not_recursive ha (Bool.not_eq_true _ ▸ hst)]
    exact (r.session.untyped_pass st.key depth).1

end Run

namespace Agenda

/-! ### Keys given -/

/-- The key that the first task gives to a mode, if it does. -/
def gives (a : Agenda) : List Key :=
  match a.tasks with
  | .give k :: _ => [k]
  | _ => []

/-- The keys that the first `n` tasks to be done give to modes, in order. -/
def given (a : Agenda) : Nat → List Key
  | 0 => []
  | n + 1 => a.gives ++ a.next.given n

theorem given_succ (a : Agenda) (n : Nat) : a.given (n + 1) = a.gives ++ a.next.given n := rfl

theorem given_add (a : Agenda) (m n : Nat) :
    a.given (m + n) = a.given m ++ (a.after m).given n := by
  induction m generalizing a with
  | zero => rw [Nat.zero_add]; rfl
  | succ m ih =>
    rw [Nat.succ_add, given_succ, given_succ, ih, after_succ, List.append_assoc]

theorem given_of_tasks_eq_nil {a : Agenda} (h : a.tasks = []) : ∀ n, a.given n = []
  | 0 => rfl
  | n + 1 => by
    have hgives : a.gives = [] := by rw [gives, h]
    rw [given_succ, hgives, next_of_tasks_eq_nil h, given_of_tasks_eq_nil h n]
    rfl

theorem after_of_done {a : Agenda} {n : Nat} (h : (a.after n).tasks = []) {m : Nat} (hm : n ≤ m) :
    a.after m = a.after n ∧ a.given m = a.given n := by
  obtain ⟨j, rfl⟩ := Nat.exists_eq_add_of_le hm
  rw [after_add, given_add, after_of_tasks_eq_nil h, given_of_tasks_eq_nil h]
  exact ⟨rfl, List.append_nil _⟩

theorem aborted_next {a : Agenda} (h : a.run.aborted = true) : a.next.run.aborted = true := by
  unfold next
  split
  · exact h
  · exact Run.aborted_perform h _

theorem aborted_after {a : Agenda} (h : a.run.aborted = true) (n : Nat) :
    (a.after n).run.aborted = true := by
  induction n generalizing a with
  | zero => exact h
  | succ n ih => rw [after_succ]; exact ih (aborted_next h)

theorem untyped_next {a : Agenda} (h : a.next.run.aborted = false) :
    a.next.run.session.untyped = (a.run.session.giveAll a.gives).untyped := by
  obtain ⟨r, ts⟩ := a
  cases ts with
  | nil => rfl
  | cons t ts =>
    cases t with
    | give k => rfl
    | stroke st depth => exact Run.untyped_perform_stroke h

/-- **Only keys given change a session**, but for the keys typed ahead. -/
theorem untyped_after {a : Agenda} {n : Nat} (h : (a.after n).run.aborted = false) :
    (a.after n).run.session.untyped = (a.run.session.giveAll (a.given n)).untyped := by
  induction n generalizing a with
  | zero => rfl
  | succ n ih =>
    have hnext : a.next.run.aborted = false := by
      rw [Bool.eq_false_iff]
      intro hnext
      rw [after_succ, aborted_after hnext] at h
      cases h
    rw [after_succ] at h ⊢
    rw [ih h, given_succ, Session.giveAll_append, Session.untyped_giveAll, untyped_next hnext,
      ← Session.untyped_giveAll]

end Agenda

namespace Session

/-! ### Outcomes -/

theorem complete?_unique {o : Onset} {room room' : Nat} {x y : Session × Bool}
    (hx : complete? o room = some x) (hy : complete? o room' = some y) : x = y := by
  have hleft := complete?_of_le (Nat.le_max_left room room') hx
  have hright := complete?_of_le (Nat.le_max_right room room') hy
  rw [hleft] at hright
  exact Option.some.inj hright

theorem fst_complete? (o : Onset) (room : Nat) :
    (complete? o room).map (·.1) = (o.agenda.run.work? room o.tasks).map (·.session) := by
  unfold complete?
  rw [Option.map_map]
  refine congrArg (Option.map · _) (funext fun r => ?_)
  simp only [Function.comp_apply]
  split <;> rfl

/-- A key comes to what its work comes to. Without a current mode there is no
work. -/
theorem fst_press? (s : Session) (k : Key) (room : Nat) :
    (s.press? k room).map (·.1) = (complete? (s.arrive k 0) room).map (·.1) := by
  unfold press?
  cases hcur : s.current with
  | none =>
    have hnone : s.arrive k 0 = { session := s, tasks := [] } := by
      simp [arrive, currentMode?, hcur]
    rw [hnone]
    rfl
  | some name => rfl

theorem press?_of_after {s : Session} {k : Key} {n : Nat} {r : Run}
    (h : (s.arrive k 0).agenda.after n = ⟨r, []⟩) :
    (∃ room used, s.press? k room = some (r.session, used)) ∧
      ∀ room s' used, s.press? k room = some (s', used) → s' = r.session := by
  obtain ⟨room, used, hroom⟩ := exists_complete?_of_works (Run.works_of_after h)
  constructor
  · have hfst := s.fst_press? k room
    rw [hroom] at hfst
    obtain ⟨⟨s', used'⟩, hpress, rfl⟩ := Option.map_eq_some_iff.mp hfst
    exact ⟨room, used', hpress⟩
  · intro room' s' used' hpress
    have hfst := s.fst_press? k room'
    rw [hpress] at hfst
    obtain ⟨x, hx, rfl⟩ := Option.map_eq_some_iff.mp hfst.symm
    rw [complete?_unique hx hroom]

end Session
end Keywise
