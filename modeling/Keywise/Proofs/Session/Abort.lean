/-
# Work that is given up

Mappings that lead deeper than the session allows end the work on a key at
once. Nothing is given to a mode from then on: the tasks that are left are
strokes, and strokes are dropped (`Agenda.Orderly.after_of_exceeds`). So the
session is what the keys given before have made of it, with nothing typed
ahead and the error shown (`Session.given_up_of_exceeds`).

A key that waits behind strokes to be given would not be dropped. There is
one only if keys held back are ended without a map, and then the strokes in
front of it are not to be mapped and lead to no others; so the tasks are at
any time such strokes and keys to be given, and behind them strokes alone
(`Agenda.Orderly`). This takes that strokes do not wait in the queue from one
call to the next, and they never do (`Session.output_of_calls?`).

Key definitions: `Agenda.Orderly`, `Agenda.Exceeds`, `Session.Onset.GivesUp`.
Key theorems: `Agenda.Orderly.next`, `Agenda.Orderly.after_of_exceeds`,
`Session.output_of_calls?`, `Session.given_up_of_exceeds`.
-/
import Keywise.Proofs.Session.Calls
import Keywise.Proofs.Session.Given

namespace Keywise

/-! ### What tasks lead to -/

namespace Task

/-- The task is a stroke. -/
def IsStroke : Task → Prop
  | stroke _ _ => True
  | give _ => False

/-- The task is a key to be given, or a stroke that is not to be mapped. -/
def IsDirect : Task → Prop
  | stroke st _ => st.recursive = false
  | give _ => True

theorem isStroke_of_mem_map {sts : List Stroke} {depth : Nat} :
    ∀ t ∈ sts.map (Task.stroke · depth), t.IsStroke :=
  List.forall_mem_map.mpr fun _ _ => trivial

end Task

theorem KeyMap.translation_empty (name : MapName) (ks : List Key) :
    (KeyMap.empty name).translation ks = ks.map .literal := by
  induction ks with
  | nil => exact translation_nil _
  | cons k ks ih =>
    have hnone : (KeyMap.empty name).longest? (k :: ks) = none := rfl
    rw [translation_of_none hnone, ih]
    rfl

/-- A key is free only if none are held back and no strokes wait. -/
theorem Typeahead.nil_of_press_free {t t' : Typeahead} {m : KeyMap} {k : Key}
    (h : t.press m k = (t', .free)) : t'.held = [] ∧ t'.output = [] := by
  unfold press at h
  generalize (if t.strandedFrom m.name then t.release else t) = t₁ at h
  simp only at h
  split at h
  · next hfree =>
    obtain rfl := (Prod.mk.inj h).1
    simp only [Bool.and_eq_true, List.isEmpty_iff] at hfree
    exact hfree.1
  · exact absurd (congrArg Prod.snd h) (settleOn_ne_free _ _ _)

namespace Session

/-- What an onset leads to: strokes alone, or tasks that go straight to the
mode while no keys are held back. No strokes wait in the queue. -/
structure Onset.Orderly (o : Onset) : Prop where
  output : o.session.typeahead.output = []
  tasks : (∀ t ∈ o.tasks, t.IsStroke) ∨
    (∀ t ∈ o.tasks, t.IsDirect) ∧ o.session.typeahead.held = []

theorem orderly_takeStrokes (s : Session) (depth : Nat) :
    Onset.Orderly
      { session := (s.takeStrokes depth).1, tasks := (s.takeStrokes depth).2 } where
  output := rfl
  tasks := Or.inl Task.isStroke_of_mem_map

theorem orderly_flush {s : Session} (h : s.typeahead.output = [])
    (hheld : s.typeahead.isHolding = true) (k : Key) (depth : Nat) :
    Onset.Orderly
      { session := (takeStrokes
          { s with typeahead := (s.typeahead.flush (.empty (.other ""))).1 } depth).1
        tasks := (takeStrokes
          { s with typeahead := (s.typeahead.flush (.empty (.other ""))).1 } depth).2 ++
            [.give k] } := by
  have hne : s.typeahead.held.isEmpty = false := by simpa [Typeahead.isHolding] using hheld
  have hflush : (s.typeahead.flush (.empty (.other ""))).1 =
      { output := s.typeahead.held.map .literal } := by
    simp [Typeahead.flush, hne, Typeahead.settleOn, Typeahead.settle_true,
      KeyMap.translation_empty, h]
  rw [hflush]
  refine ⟨rfl, Or.inr ⟨List.forall_mem_append.mpr ⟨?_, List.forall_mem_singleton.mpr trivial⟩, rfl⟩⟩
  simp only [takeStrokes, Typeahead.take]
  exact List.forall_mem_map.mpr (List.forall_mem_map.mpr fun _ _ => rfl)

theorem orderly_arrive {s : Session} (h : s.typeahead.output = []) (k : Key) (depth : Nat) :
    (s.arrive k depth).Orderly := by
  have hnone : ∀ {s' : Session} {aborted : Bool}, s'.typeahead.output = [] →
      Onset.Orderly { session := s', tasks := [], aborted } := fun hs => ⟨hs, Or.inl nofun⟩
  unfold arrive
  split
  · exact hnone rfl
  · split
    · exact hnone h
    · split
      · split
        · next hheld => exact orderly_flush h hheld k depth
        · next hheld =>
          refine ⟨h, Or.inr ⟨List.forall_mem_singleton.mpr trivial, ?_⟩⟩
          simpa [Typeahead.isHolding] using hheld
      · next m _ name _ =>
        split
        · next t hfree =>
          obtain ⟨hheld, hout⟩ := Typeahead.nil_of_press_free hfree
          exact ⟨hout, Or.inr ⟨List.forall_mem_singleton.mpr trivial, hheld⟩⟩
        · exact orderly_takeStrokes _ depth

theorem orderly_pass {s : Session} (h : s.typeahead.output = []) (k : Key) (depth : Nat) :
    (s.pass k depth).Orderly := by
  by_cases hheld : s.typeahead.held = []
  · rw [pass_of_held_eq_nil hheld]
    exact ⟨h, Or.inr ⟨List.forall_mem_singleton.mpr trivial, hheld⟩⟩
  · rw [pass_of_held_ne_nil hheld]
    exact ⟨rfl, Or.inl Task.isStroke_of_mem_map⟩

theorem orderly_lapse {s : Session} (name : MapName) : (s.lapse name).Orderly :=
  orderly_takeStrokes _ 0

theorem orderly_of_onset? {s : Session} (h : s.typeahead.output = []) {c : Call} {o : Onset}
    (ho : s.onset? c = some o) : o.Orderly := by
  cases c with
  | key k =>
    obtain ⟨_, -, rfl⟩ := Option.map_eq_some_iff.mp ho
    exact orderly_arrive h k 0
  | timeout =>
    obtain ⟨name, -, rfl⟩ := Option.map_eq_some_iff.mp ho
    exact orderly_lapse name
  | mode name => cases ho

end Session

/-! ### Tasks in order -/

namespace Agenda

/-- The first tasks go straight to the mode, while no keys are held back, and
behind them there are strokes alone. No strokes wait in the queue. -/
structure Orderly (a : Agenda) : Prop where
  output : a.run.session.typeahead.output = []
  tasks : ∃ first rest, a.tasks = first ++ rest ∧ (∀ t ∈ first, t.IsDirect) ∧
    (∀ t ∈ rest, t.IsStroke) ∧ (first = [] ∨ a.run.session.typeahead.held = [])

/-- All tasks go straight to the mode, and no keys are held back. -/
structure Direct (a : Agenda) : Prop where
  held : a.run.session.typeahead.held = []
  tasks : ∀ t ∈ a.tasks, t.IsDirect

/-- A task that goes straight to the mode leads to such tasks and leaves the
keys typed ahead as they are. -/
theorem perform_of_isDirect {r : Run} (h : r.session.typeahead.held = []) {t : Task}
    (ht : t.IsDirect) : (r.perform t).1.session.typeahead = r.session.typeahead ∧
      ∀ t' ∈ (r.perform t).2, t'.IsDirect := by
  cases t with
  | give k => exact ⟨r.session.typeahead_give k, nofun⟩
  | stroke st depth =>
    by_cases ha : r.aborted = true
    · rw [Run.perform_of_aborted ha]
      exact ⟨rfl, nofun⟩
    · rw [Run.perform_of_not_recursive (Bool.not_eq_true _ ▸ ha) ht,
        Session.pass_of_held_eq_nil h]
      exact ⟨rfl, List.forall_mem_singleton.mpr trivial⟩

theorem Direct.next {a : Agenda} (h : a.Direct) : a.next.Direct := by
  obtain ⟨r, ts⟩ := a
  cases ts with
  | nil => exact h
  | cons t ts =>
    obtain ⟨ht, hts⟩ := List.forall_mem_cons.mp h.tasks
    obtain ⟨htypeahead, hmore⟩ := perform_of_isDirect h.held ht
    refine ⟨?_, List.forall_mem_append.mpr ⟨hmore, hts⟩⟩
    show (r.perform t).1.session.typeahead.held = []
    rw [htypeahead]
    exact h.held

theorem Direct.after {a : Agenda} (h : a.Direct) (n : Nat) : (a.after n).Direct := by
  induction n generalizing a with
  | zero => exact h
  | succ n ih => rw [after_succ]; exact ih h.next

theorem orderly_of_onset {o : Session.Onset} (h : o.Orderly) : o.agenda.Orderly := by
  refine ⟨h.output, ?_⟩
  rcases h.tasks with hstrokes | ⟨hdirect, hheld⟩
  · exact ⟨[], o.tasks, rfl, nofun, hstrokes, Or.inl rfl⟩
  · exact ⟨o.tasks, [], (List.append_nil _).symm, hdirect, nofun, Or.inr hheld⟩

theorem Orderly.of_onset {o : Session.Onset} (h : o.Orderly) {r : Run}
    (hr : r.session = o.session) {ts : List Task} (hts : ∀ t ∈ ts, t.IsStroke) :
    Orderly ⟨r, o.tasks ++ ts⟩ := by
  refine ⟨?_, ?_⟩
  · show r.session.typeahead.output = []
    rw [hr]
    exact h.output
  · rcases h.tasks with hstrokes | ⟨hdirect, hheld⟩
    · exact ⟨[], o.tasks ++ ts, rfl, nofun, List.forall_mem_append.mpr ⟨hstrokes, hts⟩, Or.inl rfl⟩
    · refine ⟨o.tasks, ts, rfl, hdirect, hts, Or.inr ?_⟩
      show r.session.typeahead.held = []
      rw [hr]
      exact hheld

/-- A stroke in front of other strokes is worked off in order. -/
theorem Orderly.next_of_stroke {r : Run} (h : r.session.typeahead.output = []) (st : Stroke)
    (depth : Nat) {ts : List Task} (hts : ∀ t ∈ ts, t.IsStroke) :
    Orderly (next ⟨r, .stroke st depth :: ts⟩) := by
  show Orderly ⟨(r.perform (.stroke st depth)).1, (r.perform (.stroke st depth)).2 ++ ts⟩
  by_cases ha : r.aborted = true
  · rw [Run.perform_of_aborted ha]
    exact ⟨h, [], ts, rfl, nofun, hts, Or.inl rfl⟩
  · rw [Bool.not_eq_true] at ha
    by_cases hst : st.recursive = true
    · rw [Run.perform_of_recursive ha hst]
      exact Orderly.of_onset (Session.orderly_arrive h st.key (depth + 1)) rfl hts
    · rw [Run.perform_of_not_recursive ha (Bool.not_eq_true _ ▸ hst)]
      exact Orderly.of_onset (Session.orderly_pass h st.key depth) rfl hts

/-- **Every task leaves the others in order.** -/
theorem Orderly.next {a : Agenda} (h : a.Orderly) : a.next.Orderly := by
  obtain ⟨r, ts⟩ := a
  obtain ⟨first, rest, hsplit, hdirect, hstrokes, hheld⟩ := h.tasks
  obtain rfl : ts = first ++ rest := hsplit
  cases first with
  | nil =>
    cases rest with
    | nil => exact h
    | cons t rest =>
      obtain ⟨ht, hrest⟩ := List.forall_mem_cons.mp hstrokes
      cases t with
      | give k => exact ht.elim
      | stroke st depth => exact Orderly.next_of_stroke h.output st depth hrest
  | cons t first =>
    have hnil : r.session.typeahead.held = [] := hheld.resolve_left (List.cons_ne_nil _ _)
    obtain ⟨ht, hfirst⟩ := List.forall_mem_cons.mp hdirect
    obtain ⟨htypeahead, hmore⟩ := perform_of_isDirect hnil ht
    refine ⟨?_, (r.perform t).2 ++ first, rest, (List.append_assoc _ _ _).symm,
      List.forall_mem_append.mpr ⟨hmore, hfirst⟩, hstrokes, Or.inr ?_⟩
    · show (r.perform t).1.session.typeahead.output = []
      rw [htypeahead]
      exact h.output
    · show (r.perform t).1.session.typeahead.held = []
      rw [htypeahead]
      exact hnil

theorem Orderly.after {a : Agenda} (h : a.Orderly) (n : Nat) : (a.after n).Orderly := by
  induction n generalizing a with
  | zero => exact h
  | succ n ih => rw [after_succ]; exact ih h.next

/-! ### Too deep -/

/-- The next task is a stroke to be mapped, on a level that is deeper than the
session allows. -/
def Exceeds (a : Agenda) : Prop :=
  ∃ k depth ts, a.tasks = .stroke ⟨k, true⟩ depth :: ts ∧ a.run.aborted = false ∧
    a.run.session.maxDepth < depth + 1

/-- Such a stroke has nothing in front of it, so there are strokes alone. -/
theorem Orderly.isStroke_of_exceeds {a : Agenda} (h : a.Orderly) (hex : a.Exceeds) :
    ∀ t ∈ a.tasks, t.IsStroke := by
  obtain ⟨k, depth, ts, hts, -, -⟩ := hex
  obtain ⟨first, rest, hsplit, hdirect, hstrokes, -⟩ := h.tasks
  cases first with
  | nil => rw [hsplit]; exact hstrokes
  | cons t first =>
    rw [hts] at hsplit
    obtain ⟨rfl, -⟩ := List.cons.inj hsplit
    have hnot : true = false := hdirect _ List.mem_cons_self
    cases hnot

theorem Direct.not_exceeds {a : Agenda} (h : a.Direct) : ¬ a.Exceeds := by
  rintro ⟨k, depth, ts, hts, -, -⟩
  have hmem : Task.stroke ⟨k, true⟩ depth ∈ a.tasks := by
    rw [hts]
    exact List.mem_cons_self
  have hnot : true = false := h.tasks _ hmem
  cases hnot

/-- The run in which work is given up. -/
def givenUp (r : Run) : Run := { r with session := r.session.abort, aborted := true }

theorem next_of_exceeds {a : Agenda} (h : a.Exceeds) :
    a.next = ⟨givenUp a.run, a.tasks.tail⟩ ∧ a.gives = [] := by
  obtain ⟨k, depth, ts, hts, ha, hdeep⟩ := h
  obtain ⟨r, ts'⟩ := a
  obtain rfl : ts' = .stroke ⟨k, true⟩ depth :: ts := hts
  refine ⟨?_, rfl⟩
  show (⟨(r.perform (.stroke ⟨k, true⟩ depth)).1,
    (r.perform (.stroke ⟨k, true⟩ depth)).2 ++ ts⟩ : Agenda) = _
  rw [Run.perform_of_recursive ha rfl, Session.arrive_of_lt hdeep]
  rfl

/-- Strokes are dropped once work is given up, and nothing is given to a
mode. -/
theorem after_of_aborted {r : Run} (h : r.aborted = true) (n : Nat) :
    ∀ {ts : List Task}, (∀ t ∈ ts, t.IsStroke) →
      (⟨r, ts⟩ : Agenda).after n = ⟨r, ts.drop n⟩ ∧ (⟨r, ts⟩ : Agenda).given n = [] := by
  induction n with
  | zero => exact fun _ => ⟨rfl, rfl⟩
  | succ n ih =>
    intro ts hts
    cases ts with
    | nil => exact ⟨after_of_tasks_eq_nil rfl _, given_of_tasks_eq_nil rfl _⟩
    | cons t ts =>
      obtain ⟨ht, hrest⟩ := List.forall_mem_cons.mp hts
      cases t with
      | give k => exact ht.elim
      | stroke st depth =>
        have hnext : next ⟨r, .stroke st depth :: ts⟩ = ⟨r, ts⟩ := by
          show (⟨(r.perform (.stroke st depth)).1,
            (r.perform (.stroke st depth)).2 ++ ts⟩ : Agenda) = _
          rw [Run.perform_of_aborted h]
          rfl
        rw [after_succ, given_succ, hnext]
        exact ih hrest

/-- **Nothing happens once mappings have led too deep**: the tasks that are
left are dropped one by one. -/
theorem Orderly.after_of_exceeds {a : Agenda} (h : a.Orderly) {n : Nat}
    (hex : (a.after n).Exceeds) (m : Nat) :
    a.after (n + 1 + m) = ⟨givenUp (a.after n).run, (a.after n).tasks.tail.drop m⟩ ∧
      a.given (n + 1 + m) = a.given n := by
  have hstrokes := (h.after n).isStroke_of_exceeds hex
  obtain ⟨hnext, hgives⟩ := next_of_exceeds hex
  have hone : a.after (n + 1) = (a.after n).next := a.after_add n 1
  have hgiven : a.given (n + 1) = a.given n := by
    rw [given_add, given_succ, hgives]
    exact List.append_nil _
  have hrest : ∀ t ∈ (a.after n).tasks.tail, t.IsStroke :=
    fun t ht => hstrokes t (List.mem_of_mem_tail ht)
  obtain ⟨hafter, hnone⟩ := after_of_aborted (r := givenUp (a.after n).run) rfl m hrest
  rw [after_add, given_add, hone, hnext, hafter, hnone, hgiven]
  exact ⟨rfl, List.append_nil _⟩

end Agenda

namespace Session

/-! ### Calls -/

/-- **Between calls no strokes wait in the queue.** -/
theorem output_of_calls? {room : Nat} : ∀ {cs : List Call} {s s' : Session},
    s.typeahead.output = [] → s.calls? cs room = some s' → s'.typeahead.output = []
  | [], s, s', h, hcalls => by
    cases hcalls
    exact h
  | c :: cs, s, s', h, hcalls => by
    obtain ⟨s₁, hcall, hrest⟩ := Option.bind_eq_some_iff.mp hcalls
    refine output_of_calls? ?_ hrest
    rcases call?_cases hcall with rfl | ⟨o, n, ho, rfl⟩ | ⟨name, -, rfl⟩
    · exact h
    · exact ((Agenda.orderly_of_onset (orderly_of_onset? h ho)).after n).output
    · have hinput : (s.changeMode ⟨name, []⟩).typeahead = s.typeahead :=
        congrArg Prod.fst (s.input_changeMode ⟨name, []⟩)
      rw [hinput]
      exact h

/-- The work of an onset is given up after `n` tasks, and `s'` is what is left
of session `s` then: what the keys given so far have made of it, with nothing
typed ahead and the error shown. No more keys are given, and the next key
finds the session as if nothing had ever been typed ahead. -/
structure Onset.GivesUp (o : Onset) (n : Nat) (s s' : Session) : Prop where
  session : s' = (s.giveAll (o.agenda.given n)).abort
  after : ∀ m, n < m → (o.agenda.after m).run.session = s' ∧ o.agenda.given m = o.agenda.given n
  typeahead : s'.typeahead = {}
  error : s'.editor.screen.error = some "E223: recursive mapping"
  next : ∀ k room, s'.press? k room = s'.untyped.press? k room

theorem abort_untyped (s : Session) : s.untyped.abort = s.abort := rfl

theorem Onset.Orderly.givesUp {o : Onset} (h : o.Orderly) {s : Session}
    (ho : o.session.untyped = s.untyped) {n : Nat} (hex : (o.agenda.after n).Exceeds) :
    o.GivesUp n s (s.giveAll (o.agenda.given n)).abort := by
  have hordered := Agenda.orderly_of_onset h
  have hsession : (o.agenda.after n).run.session.abort =
      (s.giveAll (o.agenda.given n)).abort := by
    have halive : (o.agenda.after n).run.aborted = false := by
      obtain ⟨-, -, -, -, ha, -⟩ := hex
      exact ha
    have huntyped : (o.agenda.after n).run.session.untyped =
        (o.session.giveAll (o.agenda.given n)).untyped := Agenda.untyped_after halive
    rw [untyped_giveAll, ho, ← untyped_giveAll] at huntyped
    rw [← abort_untyped, huntyped, abort_untyped]
  refine ⟨rfl, fun m hm => ?_, rfl, rfl, fun k room => rfl⟩
  obtain ⟨m, rfl⟩ := Nat.exists_eq_add_of_le hm
  obtain ⟨hafter, hgiven⟩ := hordered.after_of_exceeds hex m
  refine ⟨?_, hgiven⟩
  rw [hafter]
  exact hsession

theorem complete?_of_getLast?_ne {o : Onset} (h : ∀ k, o.tasks.getLast? ≠ some (.give k))
    {room : Nat} {r : Run} (hr : o.agenda.run.work? room o.tasks = some r) :
    complete? o room = some (r.session, true) := by
  have hwork : Run.work? { session := o.session, aborted := o.aborted } room o.tasks = some r := hr
  unfold complete?
  rw [hwork, Option.map_some]
  split
  · next k hk => exact absurd hk (h k)
  · rfl

theorem Onset.GivesUp.complete? {o : Onset} (h : o.Orderly) {n : Nat} {s s' : Session}
    (hgives : o.GivesUp n s s') (hex : (o.agenda.after n).Exceeds) :
    (∃ room, complete? o room = some (s', true)) ∧
      ∀ room x, Session.complete? o room = some x → x = (s', true) := by
  have hordered := Agenda.orderly_of_onset h
  -- the last task is a stroke: a key to be given would have none behind it that leads too deep
  have hlast : ∀ k, o.tasks.getLast? ≠ some (.give k) := by
    intro k hk
    have hmem : Task.give k ∈ o.tasks := List.mem_of_getLast? hk
    rcases h.tasks with hstrokes | ⟨hdirect, hheld⟩
    · exact hstrokes _ hmem
    · have hstart : o.agenda.Direct := ⟨hheld, hdirect⟩
      exact (hstart.after n).not_exceeds hex
  have hends := (hordered.after_of_exceeds hex (o.agenda.after n).tasks.tail.length).1
  rw [List.drop_length] at hends
  have hworks : o.agenda.run.Works o.agenda.tasks (Agenda.givenUp (o.agenda.after n).run) :=
    Run.works_of_after hends
  obtain ⟨room, hroom⟩ := hworks
  have hsession : (Agenda.givenUp (o.agenda.after n).run).session = s' := by
    have hafter := (hgives.after (n + 1 + 0) (Nat.lt_succ_self n)).1
    rw [(hordered.after_of_exceeds hex 0).1] at hafter
    exact hafter
  have hcomplete : Session.complete? o room = some (s', true) := by
    rw [← hsession]
    exact complete?_of_getLast?_ne hlast hroom
  exact ⟨⟨room, hcomplete⟩, fun room' x hx => complete?_unique hx hcomplete⟩

/-- **Mappings that lead too deep end a key cleanly**, and so they do when no
key is typed for a while. The key is of use and has a result, which is what
the keys given before the point at which it was given up have made of the
session, with nothing typed ahead and the error shown. That no strokes wait in
the queue holds between any two calls (`output_of_calls?`). -/
theorem given_up_of_exceeds {s : Session} (h : s.typeahead.output = []) :
    (∀ k n, ((s.arrive k 0).agenda.after n).Exceeds → ∃ s', (s.arrive k 0).GivesUp n s s' ∧
      (∃ room, s.press? k room = some (s', true)) ∧
      ∀ room x, s.press? k room = some x → x = (s', true)) ∧
    ∀ name, s.typeahead.map = some name → ∀ n, ((s.lapse name).agenda.after n).Exceeds →
      ∃ s', (s.lapse name).GivesUp n s s' ∧
        (∃ room, s.timeout? room = some (s', true)) ∧
        ∀ room x, s.timeout? room = some x → x = (s', true) := by
  constructor
  · intro k n hex
    have horderly := orderly_arrive h k 0
    have hgives := horderly.givesUp (untyped_arrive (Nat.zero_le _)).1 hex
    have hpress : ∀ room, s.press? k room = complete? (s.arrive k 0) room := by
      intro room
      unfold press?
      cases hcur : s.current with
      | some name => rfl
      | none =>
        -- without a current mode there is no work
        have hnone : s.arrive k 0 = { session := s, tasks := [] } := by
          simp [arrive, currentMode?, hcur]
        obtain ⟨_, _, _, htasks, -⟩ := hex
        rw [hnone, Agenda.after_of_tasks_eq_nil rfl] at htasks
        cases htasks
    simp only [hpress]
    exact ⟨_, hgives, hgives.complete? horderly hex⟩
  · intro name hname n hex
    have horderly := s.orderly_lapse name
    have hgives := horderly.givesUp (s := s) rfl hex
    obtain ⟨⟨room, hroom⟩, hall⟩ := hgives.complete? horderly hex
    refine ⟨_, hgives, ⟨room, ?_⟩, fun room' x hx => ?_⟩
    · simp only [timeout?, hname, hroom, Option.map_some]
    · simp only [timeout?, hname] at hx
      obtain ⟨y, hy, rfl⟩ := Option.map_eq_some_iff.mp hx
      rw [hall room' y hy]

/-- A session in which `Q` stands for `x` and then `Q` again, and mappings may
lead to mappings twice. -/
def endless : Session :=
  (standard
    { text := ['a', 'b', 'c', 'd']
      keyMaps := KeyMaps.standard.add .normal [.char 'Q'] ⟨[.char 'x', .char 'Q'], true⟩
    }).setMaxDepth 2

/-- Two characters are deleted before the third `x` is too deep. -/
theorem given_up_of_endless :
    endless.typeahead.output = [] ∧ ((endless.arrive (.char 'Q') 0).agenda.after 6).Exceeds ∧
      ∃ s', (endless.arrive (.char 'Q') 0).GivesUp 6 endless s' ∧
        (∃ room, endless.press? (.char 'Q') room = some (s', true)) ∧
        s'.editor.text = ['c', 'd'] := by
  have hout : endless.typeahead.output = [] := rfl
  have hexceeds : ((endless.arrive (.char 'Q') 0).agenda.after 6).Exceeds := by
    refine ⟨.char 'x', 2, [.stroke ⟨.char 'Q', true⟩ 2], ?_, ?_, ?_⟩
    · decide +kernel
    · decide +kernel
    · decide +kernel
  obtain ⟨s', hgives, hroom, -⟩ := (given_up_of_exceeds hout).1 _ _ hexceeds
  refine ⟨hout, hexceeds, s', hgives, hroom, ?_⟩
  rw [hgives.session]
  decide +kernel

end Session
end Keywise
