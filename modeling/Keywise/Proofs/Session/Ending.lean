/-
# Which keys have a result

The work that a key leads to is an agenda: its first task is done, and the
tasks this leads to are put in front of the others. A key has a result if
its agenda is empty at some time.

The bound on the depth cuts off mappings that lead to mappings. It does not
see a stroke that is not to be mapped: one that arrives while keys are held
back ends these, and they may come to strokes that are to be mapped, on the
level of the stroke that ended them. We say that the stroke reopens the
agenda. Nothing else can go on for ever: a key has a result if and only if
its agenda is reopened only finitely often
(`Session.has_result_iff_reopened_finitely_often`).

Key definitions: `Agenda`, `Agenda.after`, `Agenda.Reopens`.
Key theorems: `Run.exists_works_iff`, `Run.exists_works_of_quiet`,
`Agenda.ends_iff`, `Session.has_result_iff_reopened_finitely_often`.
-/
import Mathlib.Logic.Function.Iterate
import Mathlib.Data.List.Permutation
import Keywise.Proofs.Session.Work

namespace Keywise

/-! ### Agendas -/

/-- Work under way: the run, and the tasks that are left. -/
structure Agenda where
  run : Run
  tasks : List Task

namespace Agenda

/-- The first task is done. What it leads to comes before the others. -/
def next (a : Agenda) : Agenda :=
  match a.tasks with
  | [] => a
  | t :: ts => ⟨(a.run.perform t).1, (a.run.perform t).2 ++ ts⟩

/-- The agenda after `n` tasks are done. -/
def after (a : Agenda) (n : Nat) : Agenda := next^[n] a

/-- All tasks are done some time. -/
def Ends (a : Agenda) : Prop := ∃ n, (a.after n).tasks = []

theorem after_succ (a : Agenda) (n : Nat) : a.after (n + 1) = a.next.after n := rfl

theorem after_add (a : Agenda) (m n : Nat) : a.after (m + n) = (a.after m).after n := by
  unfold after
  rw [Nat.add_comm, Function.iterate_add_apply]

theorem next_of_tasks_eq_nil {a : Agenda} (h : a.tasks = []) : a.next = a := by
  unfold next
  rw [h]

theorem after_of_tasks_eq_nil {a : Agenda} (h : a.tasks = []) : ∀ n, a.after n = a
  | 0 => rfl
  | n + 1 => by rw [after_succ, next_of_tasks_eq_nil h, after_of_tasks_eq_nil h n]

theorem next_append {r : Run} {ts : List Task} (h : ts ≠ []) (us : List Task) :
    next ⟨r, ts ++ us⟩ = ⟨(next ⟨r, ts⟩).run, (next ⟨r, ts⟩).tasks ++ us⟩ := by
  cases ts with
  | nil => exact absurd rfl h
  | cons t ts => simp [next, List.append_assoc]

end Agenda

namespace Run

theorem works_of_after : ∀ {n : Nat} {r r' : Run} {ts : List Task},
    (⟨r, ts⟩ : Agenda).after n = ⟨r', []⟩ → r.Works ts r'
  | 0, r, r', ts, h => by
    obtain ⟨rfl, rfl⟩ := Agenda.mk.inj h
    exact works_nil r
  | n + 1, r, r', [], h => by
    rw [Agenda.after_of_tasks_eq_nil rfl] at h
    rw [(Agenda.mk.inj h).1]
    exact works_nil r'
  | n + 1, r, r', t :: ts, h => by
    have hnext : (r.perform t).1.Works ((r.perform t).2 ++ ts) r' := works_of_after h
    obtain ⟨r₁, hmore, hts⟩ := hnext.of_append
    exact hmore.cons hts

/-- Tasks that have a result come to it on every agenda they are on top
of. -/
theorem after_of_work? : ∀ {room : Nat} {ts : List Task} {r r' : Run},
    r.work? room ts = some r' →
      ∀ us, ∃ n, (⟨r, ts ++ us⟩ : Agenda).after n = ⟨r', us⟩
  | room, [], r, r', h, us => by
    cases h
    exact ⟨0, rfl⟩
  | 0, t :: ts, r, r', h, us => by cases h
  | room + 1, t :: ts, r, r', h, us => by
    obtain ⟨r₁, h₁, h₂⟩ := Option.bind_eq_some_iff.mp h
    obtain ⟨n, hn⟩ := after_of_work? (carryOut?_succ r room t ▸ h₁) (ts ++ us)
    obtain ⟨n', hn'⟩ := after_of_work? h₂ us
    refine ⟨1 + (n + n'), ?_⟩
    have hone : (⟨r, t :: ts ++ us⟩ : Agenda).after 1 =
        ⟨(r.perform t).1, (r.perform t).2 ++ (ts ++ us)⟩ := rfl
    rw [Agenda.after_add, Agenda.after_add, hone, hn, hn']

theorem Works.after {r r' : Run} {ts : List Task} (h : r.Works ts r') (us : List Task) :
    ∃ n, (⟨r, ts ++ us⟩ : Agenda).after n = ⟨r', us⟩ := by
  obtain ⟨room, hroom⟩ := h
  exact after_of_work? hroom us

/-- **Tasks have a result if and only if their agenda ends.** -/
theorem exists_works_iff (r : Run) (ts : List Task) :
    (∃ r', r.Works ts r') ↔ (⟨r, ts⟩ : Agenda).Ends := by
  constructor
  · rintro ⟨r', hr⟩
    obtain ⟨n, hn⟩ := hr.after []
    rw [List.append_nil] at hn
    exact ⟨n, by rw [hn]⟩
  · rintro ⟨n, hn⟩
    have hmk : (⟨r, ts⟩ : Agenda).after n = ⟨((⟨r, ts⟩ : Agenda).after n).run, []⟩ := by
      rw [← hn]
    exact ⟨_, works_of_after hmk⟩

end Run

/-! ### Reopening -/

namespace Agenda

/-- The next task is a stroke that is not to be mapped. It ends keys that are
held back, and they come to a stroke that is to be mapped. -/
def Reopens (a : Agenda) : Prop :=
  ∃ k depth ts, a.tasks = .stroke (.literal k) depth :: ts ∧ a.run.aborted = false ∧
    a.run.session.typeahead.held ≠ [] ∧ ∃ st ∈ a.run.session.ending, st.recursive = true

/-- The agenda is never reopened. -/
def Quiet (a : Agenda) : Prop := ∀ n, ¬ (a.after n).Reopens

theorem Quiet.after {a : Agenda} (h : a.Quiet) (n : Nat) : (a.after n).Quiet := by
  intro m hm
  rw [← after_add] at hm
  exact h _ hm

theorem not_reopens_of_tasks_eq_nil {a : Agenda} (h : a.tasks = []) : ¬ a.Reopens := by
  rintro ⟨k, depth, ts, hts, -⟩
  rw [h] at hts
  cases hts

theorem Reopens.append {r : Run} {ts : List Task} (h : Reopens ⟨r, ts⟩) (us : List Task) :
    Reopens ⟨r, ts ++ us⟩ := by
  obtain ⟨k, depth, ts', hts, hrest⟩ := h
  exact ⟨k, depth, ts' ++ us, by rw [show ts = _ from hts]; rfl, hrest⟩

theorem reopens_append_of_reopens_after (us : List Task) :
    ∀ {n : Nat} {r : Run} {ts : List Task}, Reopens (after ⟨r, ts⟩ n) →
      ∃ m, Reopens (after ⟨r, ts ++ us⟩ m)
  | 0, r, ts, h => ⟨0, Reopens.append h us⟩
  | n + 1, r, ts, h => by
    by_cases hts : ts = []
    · rw [after_of_tasks_eq_nil (by rw [hts])] at h
      exact absurd h (not_reopens_of_tasks_eq_nil hts)
    · rw [after_succ] at h
      obtain ⟨m, hm⟩ := reopens_append_of_reopens_after us h
      refine ⟨m + 1, ?_⟩
      rw [after_succ, next_append hts]
      exact hm

theorem Quiet.of_append {r : Run} {ts us : List Task} (h : Quiet ⟨r, ts ++ us⟩) :
    Quiet ⟨r, ts⟩ := by
  intro n hn
  obtain ⟨m, hm⟩ := reopens_append_of_reopens_after us hn
  exact h m hm

theorem Quiet.next {r : Run} {t : Task} {ts : List Task} (h : Quiet ⟨r, t :: ts⟩) :
    Quiet ⟨(r.perform t).1, (r.perform t).2 ++ ts⟩ :=
  h.after 1

end Agenda

namespace Run

theorem maxDepth_after (a : Agenda) (n : Nat) :
    (a.after n).run.session.maxDepth = a.run.session.maxDepth := by
  induction n generalizing a with
  | zero => rfl
  | succ n ih =>
    rw [Agenda.after_succ, ih]
    unfold Agenda.next
    split
    · rfl
    · exact maxDepth_perform _ _

theorem Works.maxDepth {r r' : Run} {ts : List Task} (h : r.Works ts r') :
    r'.session.maxDepth = r.session.maxDepth := by
  obtain ⟨n, hn⟩ := h.after []
  have hmax := maxDepth_after ⟨r, ts ++ []⟩ n
  rw [hn] at hmax
  exact hmax

/-! ### Work that ends -/

theorem exists_works_of_literal : ∀ {ts : List Task} {r : Run},
    r.session.typeahead.held = [] →
    (∀ st depth, Task.stroke st depth ∈ ts → st.recursive = false) → ∃ r', r.Works ts r'
  | [], r, _, _ => ⟨r, works_nil r⟩
  | t :: ts, r, hheld, hts => by
    have hrest : ∀ st depth, Task.stroke st depth ∈ ts → st.recursive = false :=
      fun st depth h => hts st depth (List.mem_cons_of_mem _ h)
    have hgive : ∀ k, ∃ r', (r.perform (.give k)).1.Works ts r' := by
      intro k
      refine exists_works_of_literal ?_ hrest
      have hta : (r.perform (.give k)).1.session.typeahead = r.session.typeahead :=
        r.session.typeahead_give k
      rw [hta]
      exact hheld
    cases t with
    | give k =>
      obtain ⟨r', hr'⟩ := hgive k
      exact ⟨r', Works.cons (works_nil _) hr'⟩
    | stroke st depth =>
      by_cases ha : r.aborted = true
      · obtain ⟨r', hr'⟩ := exists_works_of_literal hheld hrest
        refine ⟨r', Works.cons ?_ hr'⟩
        rw [perform_of_aborted ha]
        exact works_nil r
      · rw [Bool.not_eq_true] at ha
        obtain ⟨r', hr'⟩ := hgive st.key
        exact ⟨r', hr'.literal ha hheld (hts st depth List.mem_cons_self) depth⟩

/-- What a stroke that is not to be mapped leads to ends, unless it reopens
the agenda. -/
theorem exists_works_of_not_reopens {r : Run} {st : Stroke} {depth : Nat} {ts : List Task}
    (ha : r.aborted = false) (hst : st.recursive = false)
    (h : ¬ Agenda.Reopens ⟨r, .stroke st depth :: ts⟩) :
    ∃ r', (r.perform (.stroke st depth)).1.Works (r.perform (.stroke st depth)).2 r' := by
  rw [perform_of_not_recursive ha hst]
  refine exists_works_of_literal (r.session.held_pass st.key depth) fun st' d hd => ?_
  by_cases hheld : r.session.typeahead.held = []
  · rw [Session.pass_of_held_eq_nil hheld] at hd
    simp at hd
  · rw [Session.pass_of_held_ne_nil hheld] at hd
    obtain ⟨st'', hmem, heq⟩ := List.mem_map.mp hd
    injection heq with heq _
    subst heq
    by_contra hrec
    refine h ⟨st.key, depth, ts, ?_, ha, hheld, ?_⟩
    · rw [Stroke.literal_key hst]
    · rcases List.mem_append.mp hmem with hmem | hmem
      · exact ⟨st'', hmem, Bool.not_eq_false _ ▸ hrec⟩
      · rw [List.mem_singleton.mp hmem] at hrec
        exact absurd rfl hrec

/-- **Work that is never reopened ends.** Strokes lead to strokes one level
deeper, or to strokes of their own level that are not to be mapped. -/
theorem exists_works_of_quiet (g : Nat) : ∀ {ts : List Task} {r : Run},
    (∀ st depth, Task.stroke st depth ∈ ts → r.session.maxDepth < depth + g) →
    Agenda.Quiet ⟨r, ts⟩ → ∃ r', r.Works ts r' := by
  -- `g` bounds the levels that are left, and the tasks of a level are done in order
  induction g using Nat.strongRecOn with
  | ind g ihg =>
    intro ts
    induction ts with
    | nil => intro r _ _; exact ⟨r, works_nil r⟩
    | cons t ts iht =>
      intro r hdepth hquiet
      have hnext := hquiet.next
      have hmore : ∃ r₁, (r.perform t).1.Works (r.perform t).2 r₁ := by
        cases t with
        | give k => exact ⟨_, works_nil _⟩
        | stroke st depth =>
          by_cases ha : r.aborted = true
          · rw [perform_of_aborted ha]
            exact ⟨r, works_nil r⟩
          · rw [Bool.not_eq_true] at ha
            by_cases hst : st.recursive = true
            · have hlt := hdepth st depth List.mem_cons_self
              by_cases hdeep : r.session.maxDepth < depth + 1
              · rw [perform_of_recursive ha hst, Session.tasks_arrive_of_lt hdeep]
                exact ⟨_, works_nil _⟩
              · refine ihg (g - 1) (by omega) (fun st' d hd => ?_) hnext.of_append
                rw [perform_of_recursive ha hst] at hd
                rw [maxDepth_perform, Session.depth_of_mem_arrive hd]
                omega
            · rw [Bool.not_eq_true] at hst
              exact exists_works_of_not_reopens ha hst (hquiet 0)
      obtain ⟨r₁, hr₁⟩ := hmore
      obtain ⟨n, hn⟩ := hr₁.after ts
      have hrest : ∃ r', r₁.Works ts r' := by
        refine iht (fun st d hd => ?_) (hn ▸ hnext.after n)
        rw [hr₁.maxDepth, maxDepth_perform]
        exact hdepth st d (List.mem_cons_of_mem _ hd)
      obtain ⟨r', hr'⟩ := hrest
      exact ⟨r', hr₁.cons hr'⟩

end Run

namespace Agenda

/-- **Only what is reopened again and again does not end.** -/
theorem ends_iff (a : Agenda) : a.Ends ↔ ∃ n, ∀ m, n ≤ m → ¬ (a.after m).Reopens := by
  constructor
  · rintro ⟨n, hn⟩
    refine ⟨n, fun m hm => ?_⟩
    obtain ⟨d, rfl⟩ := Nat.exists_eq_add_of_le hm
    rw [after_add, after_of_tasks_eq_nil hn]
    exact not_reopens_of_tasks_eq_nil hn
  · rintro ⟨n, hn⟩
    have hquiet : (a.after n).Quiet := by
      intro m
      rw [← after_add]
      exact hn (n + m) (Nat.le_add_right n m)
    have hends : (a.after n).Ends := by
      refine (Run.exists_works_iff _ _).mp
        (Run.exists_works_of_quiet ((a.after n).run.session.maxDepth + 1) ?_ hquiet)
      intro st depth _
      show (a.after n).run.session.maxDepth < depth + ((a.after n).run.session.maxDepth + 1)
      omega
    obtain ⟨m, hm⟩ := hends
    exact ⟨n + m, by rw [after_add]; exact hm⟩

/-- An agenda that comes back to itself does not end. -/
theorem not_ends_of_after_eq_self {a : Agenda} {n : Nat} (hn : 0 < n) (h : a.after n = a)
    (ht : a.tasks ≠ []) : ¬ a.Ends := by
  rintro ⟨m, hm⟩
  have hback : a.after (n * m) = a := by
    unfold after at h ⊢
    rw [Function.iterate_mul]
    exact Function.iterate_fixed h m
  obtain ⟨d, hd⟩ := Nat.exists_eq_add_of_le (Nat.le_mul_of_pos_left m hn)
  rw [hd, after_add, after_of_tasks_eq_nil hm] at hback
  exact ht (hback ▸ hm)

end Agenda

namespace Session

/-! ### Keys -/

/-- The work that an onset leaves. -/
def Onset.agenda (o : Onset) : Agenda :=
  ⟨{ session := o.session, aborted := o.aborted }, o.tasks⟩

theorem exists_complete?_iff (o : Onset) :
    (∃ room, (complete? o room).isSome = true) ↔ o.agenda.Ends := by
  unfold Onset.agenda Session.complete?
  rw [← Run.exists_works_iff]
  unfold Run.Works
  rw [exists_comm]
  simp only [Option.isSome_map, Option.isSome_iff_exists]

theorem exists_press?_iff (s : Session) (k : Key) :
    (∃ room, (s.press? k room).isSome = true) ↔ (s.arrive k 0).agenda.Ends := by
  unfold press?
  cases hc : s.current with
  | none =>
    have hnone : s.arrive k 0 = { session := s, tasks := [] } := by
      simp [arrive, currentMode?, hc]
    rw [hnone]
    exact ⟨fun _ => ⟨0, rfl⟩, fun _ => ⟨0, rfl⟩⟩
  | some name => exact exists_complete?_iff _

theorem exists_timeout?_iff (s : Session) :
    (∃ room, (s.timeout? room).isSome = true) ↔
      ∀ name, s.typeahead.map = some name → (s.lapse name).agenda.Ends := by
  unfold timeout?
  cases hm : s.typeahead.map with
  | none => simp
  | some name =>
    simp only [Option.isSome_map, exists_complete?_iff]
    simp

/-- **A key has a result if and only if its work is reopened only finitely
often**, and so it is when no key is typed for a while. -/
theorem has_result_iff_reopened_finitely_often (s : Session) :
    (∀ k, (∃ room, (s.press? k room).isSome = true) ↔
      ∃ n, ∀ m, n ≤ m → ¬ ((s.arrive k 0).agenda.after m).Reopens) ∧
    ((∃ room, (s.timeout? room).isSome = true) ↔ ∀ name, s.typeahead.map = some name →
      ∃ n, ∀ m, n ≤ m → ¬ ((s.lapse name).agenda.after m).Reopens) := by
  refine ⟨fun k => ?_, ?_⟩
  · rw [exists_press?_iff, Agenda.ends_iff]
  · simp only [exists_timeout?_iff, Agenda.ends_iff]

/-- A session in which `b` is mapped to itself, over and over, and `bb` is
mapped too. -/
def reopening : Session :=
  standard
    { text := ['a', 'b', 'c']
      keyMaps := (KeyMaps.standard.add .normal [.char 'b'] ⟨[.char 'b'], true⟩).add .normal
        [.char 'b', .char 'b'] ⟨[.char 'x'], false⟩ }

/-- The stroke `c` ends the `b` held back. It comes to a `b` that is held back
again, with the same `c` behind it, and no stack is large enough for that. -/
theorem press?_reopening_eq_none :
    ∃ s used, reopening.press? (.char 'b') = some (s, used) ∧
      ∀ room, s.press? (.char 'c') room = none := by
  let s : Session := { reopening with typeahead := { held := [.char 'b'], map := some .normal } }
  have harrive : reopening.arrive (.char 'b') 0 = { session := s, tasks := [] } := by cbv
  refine ⟨s, true, ?_, fun room => ?_⟩
  · show complete? (reopening.arrive (.char 'b') 0) stackRoom = some (s, true)
    rw [harrive]
    rfl
  · have hloop : (s.arrive (.char 'c') 0).agenda.next.next = (s.arrive (.char 'c') 0).agenda := by
      cbv
    have htasks : (s.arrive (.char 'c') 0).agenda.tasks.length = 2 := by cbv
    have hends : ¬ (s.arrive (.char 'c') 0).agenda.Ends := by
      have hpos : 0 < 2 := by decide
      refine Agenda.not_ends_of_after_eq_self hpos hloop fun h => ?_
      rw [h] at htasks
      cases htasks
    rw [← Option.not_isSome_iff_eq_none]
    exact fun h => hends ((exists_press?_iff s _).mp ⟨room, h⟩)

end Session
end Keywise
