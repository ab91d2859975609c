/-
# What a host calls

A host has keys typed, lets time pass, and changes modes. What such calls do
to a session they do by giving keys to modes, by changing modes and by what
becomes of the keys typed ahead. So what does not depend on those, and is kept
by every key that is given and every change of mode, is true after every call
(`Session.holds_calls?`).

Key definitions: `Session.Call`, `Session.calls?`, `Session.Gives`,
`Session.Stable`.
Key theorems: `Session.gives_key_iff`, `Session.Stable.after`,
`Session.holds_of_gives`, `Session.holds_calls?_of_mem`, `Session.holds_calls?`.
-/
import Keywise.Proofs.Session.Ending

namespace Keywise
namespace Session

/-- What a host can do: have a key typed, let time pass without one, or go
over to a mode. -/
inductive Call where
  | key (k : Key)
  | timeout
  | mode (name : ModeName)
  deriving DecidableEq, Repr

/-- The session after a call, if its work ends. -/
def call? (s : Session) (c : Call) (room : Nat := stackRoom) : Option Session :=
  match c with
  | .key k => (s.press? k room).map (·.1)
  | .timeout => (s.timeout? room).map (·.1)
  | .mode name => some (s.changeMode ⟨name, []⟩)

/-- The session after calls one after the other. -/
def calls? (s : Session) (cs : List Call) (room : Nat := stackRoom) : Option Session :=
  match cs with
  | [] => some s
  | c :: cs => (s.call? c room).bind fun s => s.calls? cs room

/-- The work that a call leads to, if it is any. -/
def onset? (s : Session) : Call → Option Onset
  | .key k => s.current.map fun _ => s.arrive k 0
  | .timeout => s.typeahead.map.map s.lapse
  | .mode _ => none

/-- In the course of the calls, key `k` is given to the current mode of `s'`. -/
def Gives (s : Session) (cs : List Call) (room : Nat) (s' : Session) (k : Key) : Prop :=
  match cs with
  | [] => False
  | c :: cs =>
    (∃ o n ts, s.onset? c = some o ∧ (o.agenda.after n).tasks = .give k :: ts ∧
      (o.agenda.after n).run.session = s') ∨
    ∃ s₁, s.call? c room = some s₁ ∧ Gives s₁ cs room s' k

/-- A key that begins no mapping is given to the current mode, and the call is
over. -/
theorem gives_key_iff {s s₀ : Session} {k : Key} {room : Nat} (hcur : s.current.isSome)
    (harrive : s.arrive k 0 = { session := s₀, tasks := [.give k] }) (hroom : 0 < room)
    (cs : List Call) (s₁ : Session) (k₁ : Key) :
    s.Gives (.key k :: cs) room s₁ k₁ ↔
      s₁ = s₀ ∧ k₁ = k ∨ (s₀.give k).1.Gives cs room s₁ k₁ := by
  obtain ⟨name, hname⟩ := Option.isSome_iff_exists.mp hcur
  obtain ⟨room, rfl⟩ : ∃ n, room = n + 1 := ⟨room - 1, by omega⟩
  have honset : s.onset? (.key k) = some { session := s₀, tasks := [.give k] } := by
    simp only [onset?, hname, Option.map_some, harrive]
  have hcall : s.call? (.key k) (room + 1) = some (s₀.give k).1 := by
    simp only [call?, press?, hname, harrive]
    rfl
  have hdone : ∀ n, (Onset.agenda { session := s₀, tasks := [.give k] }).after (n + 1) =
      ⟨(Run.perform { session := s₀ } (.give k)).1, []⟩ := fun n =>
    Agenda.after_of_tasks_eq_nil rfl n
  constructor
  · rintro (⟨o, n, ts, ho, htasks, rfl⟩ | ⟨s₂, h₂, hgives⟩)
    · rw [honset] at ho
      cases ho
      cases n with
      | zero =>
        cases htasks
        exact Or.inl ⟨rfl, rfl⟩
      | succ n =>
        rw [hdone] at htasks
        cases htasks
    · rw [hcall] at h₂
      cases h₂
      exact Or.inr hgives
  · rintro (⟨rfl, rfl⟩ | hgives)
    · exact Or.inl ⟨_, 0, [], honset, rfl, rfl⟩
    · exact Or.inr ⟨_, hcall, hgives⟩

theorem calls?_key {s s₀ : Session} {k : Key} {room : Nat} (hcur : s.current.isSome)
    (harrive : s.arrive k 0 = { session := s₀, tasks := [.give k] }) (hroom : 0 < room)
    (cs : List Call) : s.calls? (.key k :: cs) room = (s₀.give k).1.calls? cs room := by
  obtain ⟨name, hname⟩ := Option.isSome_iff_exists.mp hcur
  obtain ⟨room, rfl⟩ : ∃ n, room = n + 1 := ⟨room - 1, by omega⟩
  have hcall : s.call? (.key k) (room + 1) = some (s₀.give k).1 := by
    simp only [call?, press?, hname, harrive]
    rfl
  rw [calls?, hcall, Option.bind_some]

/-- Keys typed ahead do not matter, nor that they are given up. -/
structure Stable (I : Session → Prop) : Prop where
  typed : ∀ {s}, I s → ∀ t, I { s with typeahead := t }
  abort : ∀ {s}, I s → I s.abort

namespace Stable

variable {I : Session → Prop}

theorem arrive (hI : Stable I) {s : Session} (hs : I s) (k : Key) (depth : Nat) :
    I (s.arrive k depth).session := by
  unfold Session.arrive
  split
  · exact hI.abort hs
  · split
    · exact hs
    · split
      · split
        · exact hI.typed hs _
        · exact hs
      · split
        · exact hI.typed hs _
        · exact hI.typed hs _

theorem pass (hI : Stable I) {s : Session} (hs : I s) (k : Key) (depth : Nat) :
    I (s.pass k depth).session := by
  unfold Session.pass
  split
  · split
    · exact hI.typed hs _
    · exact hI.typed hs _
  · exact hs

theorem onset? (hI : Stable I) {s : Session} (hs : I s) {c : Call} {o : Onset}
    (h : s.onset? c = some o) : I o.session := by
  cases c with
  | key k =>
    obtain ⟨_, -, rfl⟩ := Option.map_eq_some_iff.mp h
    exact hI.arrive hs k 0
  | timeout =>
    obtain ⟨name, -, rfl⟩ := Option.map_eq_some_iff.mp h
    exact hI.typed hs _
  | mode name => cases h

theorem perform_stroke (hI : Stable I) {r : Run} (hr : I r.session) (st : Stroke) (depth : Nat) :
    I (r.perform (.stroke st depth)).1.session := by
  unfold Run.perform
  simp only
  split
  · exact hr
  · split
    · exact hI.arrive hr _ _
    · exact hI.pass hr _ _

/-- **In the course of some work** it is true what every key given keeps. -/
theorem after (hI : Stable I) {a : Agenda} (ha : I a.run.session)
    (hgive : ∀ n k ts, (a.after n).tasks = .give k :: ts → I (a.after n).run.session →
      I ((a.after n).run.session.give k).1) : ∀ n, I (a.after n).run.session
  | 0 => ha
  | n + 1 => by
    have ih := hI.after ha hgive n
    have hnext : a.after (n + 1) = (a.after n).next := a.after_add n 1
    rw [hnext]
    unfold Agenda.next
    cases htasks : (a.after n).tasks with
    | nil => exact ih
    | cons t ts =>
      cases t with
      | give k => exact hgive n k ts htasks ih
      | stroke st depth => exact hI.perform_stroke ih st depth

end Stable

theorem exists_after_of_complete? {o : Onset} {room : Nat} {x : Session × Bool}
    (h : complete? o room = some x) : ∃ n, (o.agenda.after n).run.session = x.1 := by
  obtain ⟨r, hr, rfl⟩ := Option.map_eq_some_iff.mp h
  have hworks : Run.Works { session := o.session, aborted := o.aborted } o.tasks r := ⟨room, hr⟩
  obtain ⟨n, hn⟩ := hworks.after []
  rw [List.append_nil] at hn
  refine ⟨n, ?_⟩
  have hrun : (o.agenda.after n).run = r := congrArg Agenda.run hn
  rw [hrun]
  split <;> rfl

theorem call?_cases {s s' : Session} {c : Call} {room : Nat} (h : s.call? c room = some s') :
    s' = s ∨ (∃ o n, s.onset? c = some o ∧ (o.agenda.after n).run.session = s') ∨
      ∃ name, c = .mode name ∧ s' = s.changeMode ⟨name, []⟩ := by
  cases c with
  | key k =>
    obtain ⟨x, hx, rfl⟩ := Option.map_eq_some_iff.mp h
    unfold press? at hx
    cases hcur : s.current with
    | none =>
      rw [hcur] at hx
      exact Or.inl (congrArg Prod.fst (Option.some.inj hx).symm)
    | some name =>
      rw [hcur] at hx
      obtain ⟨n, hn⟩ := exists_after_of_complete? hx
      exact Or.inr (Or.inl ⟨_, n, by simp only [onset?, hcur, Option.map_some], hn⟩)
  | timeout =>
    obtain ⟨x, hx, rfl⟩ := Option.map_eq_some_iff.mp h
    unfold timeout? at hx
    cases hmap : s.typeahead.map with
    | none =>
      rw [hmap] at hx
      exact Or.inl (congrArg Prod.fst (Option.some.inj hx).symm)
    | some name =>
      rw [hmap] at hx
      obtain ⟨y, hy, rfl⟩ := Option.map_eq_some_iff.mp hx
      obtain ⟨n, hn⟩ := exists_after_of_complete? hy
      exact Or.inr (Or.inl ⟨_, n, by simp only [onset?, hmap, Option.map_some], hn⟩)
  | mode name => exact Or.inr (Or.inr ⟨name, rfl, (Option.some.inj h).symm⟩)

/-- **Whenever a key is given** it is true what all keys and every change of
mode keep, whether the calls come to an end or not. -/
theorem holds_of_gives {I : Session → Prop} (hI : Stable I) {room : Nat}
    (hmode : ∀ {s}, I s → ∀ name, I (s.changeMode ⟨name, []⟩))
    (hgive : ∀ {s}, I s → ∀ k, I (s.give k).1) :
    ∀ {cs : List Call} {s s₁ : Session} {k : Key}, I s → s.Gives cs room s₁ k → I s₁
  | [], _, _, _, _, h => h.elim
  | c :: cs, s, s₁, k, hs, h => by
    have hafter : ∀ o n, s.onset? c = some o → I (o.agenda.after n).run.session := fun o n ho =>
      hI.after (a := o.agenda) (hI.onset? hs ho) (fun _ k _ _ hn => hgive hn k) n
    rcases h with ⟨o, n, ts, ho, -, rfl⟩ | ⟨s₂, h₁, h⟩
    · exact hafter o n ho
    · refine holds_of_gives hI hmode hgive ?_ h
      rcases call?_cases h₁ with rfl | ⟨o, n, ho, rfl⟩ | ⟨name, rfl, rfl⟩
      · exact hs
      · exact hafter o n ho
      · exact hmode hs name

/-- **After calls** it is true what every key given keeps and every change of
mode among them, and so it is whenever a key is given. -/
theorem holds_calls?_of_mem {I : Session → Prop} (hI : Stable I) {room : Nat} :
    ∀ {cs : List Call} {s s' : Session}, I s →
      (∀ name, .mode name ∈ cs → ∀ s, I s → I (s.changeMode ⟨name, []⟩)) →
      (∀ s₁ k, s.Gives cs room s₁ k → I s₁ → I (s₁.give k).1) → s.calls? cs room = some s' →
      I s' ∧ ∀ s₁ k, s.Gives cs room s₁ k → I s₁
  | [], s, s', hs, _, _, h => by
    cases h
    exact ⟨hs, fun _ _ hn => hn.elim⟩
  | c :: cs, s, s', hs, hmode, hgive, h => by
    obtain ⟨s₂, h₁, h₂⟩ := Option.bind_eq_some_iff.mp h
    have hafter : ∀ o n, s.onset? c = some o → I (o.agenda.after n).run.session := by
      intro o n ho
      refine hI.after (a := o.agenda) (hI.onset? hs ho) (fun n k ts htasks => ?_) n
      exact hgive _ k (Or.inl ⟨o, n, ts, ho, htasks, rfl⟩)
    have hs₂ : I s₂ := by
      rcases call?_cases h₁ with rfl | ⟨o, n, ho, rfl⟩ | ⟨name, rfl, rfl⟩
      · exact hs
      · exact hafter o n ho
      · exact hmode name List.mem_cons_self s hs
    obtain ⟨hs', hrest⟩ := holds_calls?_of_mem hI hs₂
      (fun name hn => hmode name (List.mem_cons_of_mem c hn))
      (fun s₁ k hk => hgive s₁ k (Or.inr ⟨s₂, h₁, hk⟩)) h₂
    refine ⟨hs', fun s₁ k hk => ?_⟩
    rcases hk with ⟨o, n, ts, ho, htasks, rfl⟩ | ⟨s₃, h₃, hk⟩
    · exact hafter o n ho
    · rw [h₁] at h₃
      cases h₃
      exact hrest s₁ k hk

/-- **After any calls** it is true what every key given and every change of mode keeps. -/
theorem holds_calls? {I : Session → Prop} (hI : Stable I) {room : Nat}
    (hmode : ∀ {s}, I s → ∀ name, I (s.changeMode ⟨name, []⟩)) {cs : List Call}
    {s s' : Session} (hs : I s) (hgive : ∀ s₁ k, s.Gives cs room s₁ k → I s₁ → I (s₁.give k).1)
    (h : s.calls? cs room = some s') : I s' ∧ ∀ s₁ k, s.Gives cs room s₁ k → I s₁ :=
  holds_calls?_of_mem hI hs (fun name _ _ hs => hmode hs name) hgive h

end Session
end Keywise
