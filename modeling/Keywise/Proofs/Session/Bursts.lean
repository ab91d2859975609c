/-
# Bursts of keys

The program types keys in bursts, and after each it pauses if keys are held
back, unless they are to wait for ever. The pause settles them once, so what
is held back by then waits for the next burst: this is so if and only if the
pause ends with a recursive stroke that is held back, and never while the key
maps close (`Session.waits_after_burst_iff`).

What this takes of a session is true of it at the beginning and after every
call: a mode is current, no strokes wait in the queue, and it is known for
which map keys are held back (`Session.Ready.calls?`).

Key definitions: `Session.Ready`, `Session.HoldsAfter`.
Key theorems: `Session.burst?_cases`, `Session.Ready.calls?`,
`Session.Ready.typeahead_timeout?_iff`,
`Session.Ready.typeahead_timeout?_of_closes`,
`Session.waits_after_burst_iff`.
-/
import Keywise.Program.Run
import Keywise.Proofs.Session.Invariant
import Keywise.Proofs.Session.Pause

namespace Keywise
namespace Session

/-- What is true of a session between calls: a mode is current, no strokes
wait in the queue, and it is known for which map keys are held back. -/
structure Ready (s : Session) : Prop where
  satisfies : s.Satisfies fun _ _ => True
  output : s.typeahead.output = []
  balanced : s.typeahead.Balanced

theorem exists_end_of_complete? {o : Onset} {room : Nat} {x : Session × Bool}
    (h : complete? o room = some x) :
    ∃ n, (o.agenda.after n).tasks = [] ∧ (o.agenda.after n).run.session = x.1 := by
  obtain ⟨r, hr, rfl⟩ := Option.map_eq_some_iff.mp h
  have hworks : Run.Works { session := o.session, aborted := o.aborted } o.tasks r := ⟨room, hr⟩
  obtain ⟨n, hn⟩ := hworks.after []
  rw [List.append_nil] at hn
  have hend : o.agenda.after n = ⟨r, []⟩ := hn
  refine ⟨n, by rw [hend], ?_⟩
  rw [hend]
  split <;> rfl

theorem calls?_of_pressAll? {room : Nat} : ∀ {ks : List Key} {s s' : Session} {used : List Bool},
    s.pressAll? ks room = some (s', used) → s.calls? (ks.map .key) room = some s'
  | [], _, _, _, h => by
    cases h
    rfl
  | k :: ks, s, s', used, h => by
    obtain ⟨⟨s₁, used₁⟩, h₁, h⟩ := Option.bind_eq_some_iff.mp h
    obtain ⟨⟨s₂, rest⟩, h₂, h⟩ := Option.bind_eq_some_iff.mp h
    cases h
    have hcall : s.call? (.key k) room = some s₁ := by rw [call?, h₁]; rfl
    rw [List.map_cons, calls?, hcall]
    exact calls?_of_pressAll? h₂

/-- A burst is its keys, and then a pause if keys are held back. -/
theorem burst?_cases {s s' : Session} {settles : Bool} {ks : List Key} {used : List Bool}
    (h : s.burst? settles ks = some (s', used)) : ∃ s₁, s.pressAll? ks = some (s₁, used) ∧
      if s₁.typeahead.isHolding && settles then ∃ waited, s₁.timeout? = some (s', waited)
      else s' = s₁ := by
  obtain ⟨⟨s₁, used₁⟩, hpress, hpause⟩ := Option.bind_eq_some_iff.mp h
  simp only at hpause
  by_cases hholds : (s₁.typeahead.isHolding && settles) = true
  · rw [if_pos hholds] at hpause
    obtain ⟨⟨s₂, waited⟩, htimeout, hend⟩ := Option.bind_eq_some_iff.mp hpause
    cases hend
    refine ⟨s₁, hpress, ?_⟩
    rw [if_pos hholds]
    exact ⟨waited, htimeout⟩
  · rw [if_neg hholds] at hpause
    cases hpause
    refine ⟨_, hpress, ?_⟩
    rw [if_neg hholds]

namespace Ready

variable {s s' : Session} {room : Nat}

theorem satisfies_after (h : s.Ready) {c : Call} {o : Onset} (ho : s.onset? c = some o) (n : Nat) :
    (o.agenda.after n).run.session.Satisfies fun _ _ => True :=
  Mode.invariant_true.stable.after (Mode.invariant_true.stable.onset? h.satisfies ho)
    (fun _ _ _ _ hn => Mode.invariant_true.give hn fun _ _ => trivial) n

theorem balanced_of_onset? (h : s.Ready) {c : Call} {o : Onset} (ho : s.onset? c = some o) :
    o.session.typeahead.Balanced := by
  cases c with
  | key k =>
    obtain ⟨_, -, rfl⟩ := Option.map_eq_some_iff.mp ho
    exact balanced_arrive h.balanced k 0
  | timeout =>
    obtain ⟨name, -, rfl⟩ := Option.map_eq_some_iff.mp ho
    exact h.balanced.flush (s.keyMap name)
  | mode name => cases ho

theorem call? (h : s.Ready) {c : Call} (hcall : s.call? c room = some s') : s'.Ready := by
  rcases call?_cases hcall with rfl | ⟨o, n, ho, rfl⟩ | ⟨name, -, rfl⟩
  · exact h
  · exact ⟨h.satisfies_after ho n,
      ((Agenda.orderly_of_onset (orderly_of_onset? h.output ho)).after n).output,
      Agenda.after_of_perform (a := o.agenda) (I := fun r => r.session.typeahead.Balanced)
        Run.balanced_perform (h.balanced_of_onset? ho) n⟩
  · have hinput : (s.changeMode ⟨name, []⟩).typeahead = s.typeahead :=
      congrArg Prod.fst (s.input_changeMode ⟨name, []⟩)
    exact ⟨Mode.invariant_true.changeMode h.satisfies name, hinput ▸ h.output,
      hinput ▸ h.balanced⟩

/-- **After calls** all this is true again. -/
theorem calls? : ∀ {cs : List Call} {s : Session}, s.Ready → s.calls? cs room = some s' → s'.Ready
  | [], _, h, hcalls => by
    cases hcalls
    exact h
  | _ :: _, _, h, hcalls => by
    obtain ⟨s₁, hcall, hrest⟩ := Option.bind_eq_some_iff.mp hcalls
    exact calls? (h.call? hcall) hrest

theorem pressAll? (h : s.Ready) {ks : List Key} {used : List Bool}
    (hpress : s.pressAll? ks room = some (s', used)) : s'.Ready :=
  h.calls? (calls?_of_pressAll? hpress)

theorem timeout? (h : s.Ready) {waited : Bool} (htimeout : s.timeout? room = some (s', waited)) :
    s'.Ready := by
  have hcall : s.call? .timeout room = some s' := by rw [Session.call?, htimeout]; rfl
  exact h.call? hcall

theorem burst? (h : s.Ready) {settles : Bool} {ks : List Key} {used : List Bool}
    (hburst : s.burst? settles ks = some (s', used)) : s'.Ready := by
  obtain ⟨s₁, hpress, hpause⟩ := burst?_cases hburst
  split at hpause
  · obtain ⟨waited, htimeout⟩ := hpause
    exact (h.pressAll? hpress).timeout? htimeout
  · exact hpause ▸ h.pressAll? hpress

theorem typeAll? {settles : Bool} : ∀ {bs : List String} {s : Session}, s.Ready →
    Program.typeAll? settles s bs = some (.ok s') → s'.Ready
  | [], _, h, htyped => by
    cases htyped
    exact h
  | written :: bs, s, h, htyped => by
    unfold Program.typeAll? at htyped
    split at htyped
    · cases htyped
    · obtain ⟨⟨s₁, used⟩, hburst, hrest⟩ := Option.bind_eq_some_iff.mp htyped
      exact typeAll? (h.burst? hburst) hrest

theorem typeahead_eq_nil_iff (h : s.Ready) : s.typeahead = {} ↔ s.typeahead.held = [] := by
  refine ⟨fun heq => by rw [heq], fun hheld => ?_⟩
  have hmap := h.balanced.mp hheld
  have hout := h.output
  generalize s.typeahead = t at hheld hmap hout ⊢
  obtain ⟨held, map, output⟩ := t
  obtain rfl : held = [] := hheld
  obtain rfl : map = none := hmap
  obtain rfl : output = [] := hout
  rfl

end Ready

theorem ready_configured {e : Editor} (he : e.Served) (c : Config) : (configured e c).Ready where
  satisfies := satisfies_configured_of he c fun _ => trivial
  output := rfl
  balanced := iff_of_true rfl rfl

/-- The pause after keys `ks` ends with a recursive stroke that is held
back. -/
def HoldsAfter (s : Session) (ks : List Key) : Prop :=
  ∃ s₁ used name n, s.pressAll? ks = some (s₁, used) ∧ s₁.typeahead.map = some name ∧
    ((s₁.lapse name).agenda.after n).HoldsLast

variable {s s' : Session}

theorem exists_end_of_timeout? {name : MapName} (hname : s.typeahead.map = some name)
    {waited : Bool} {room : Nat} (h : s.timeout? room = some (s', waited)) :
    ∃ n, ((s.lapse name).agenda.after n).tasks = [] ∧
      ((s.lapse name).agenda.after n).run.session = s' := by
  unfold Session.timeout? at h
  simp only [hname] at h
  obtain ⟨x, hx, heq⟩ := Option.map_eq_some_iff.mp h
  cases heq
  exact exists_end_of_complete? hx

namespace Ready

/-- **After a pause** nothing is typed ahead unless its work ends with a
recursive stroke that is held back. -/
theorem typeahead_timeout?_iff (h : s.Ready) {name : MapName}
    (hname : s.typeahead.map = some name) {waited : Bool} {room : Nat}
    (htimeout : s.timeout? room = some (s', waited)) :
    s'.typeahead = {} ↔ ¬ ∃ n, ((s.lapse name).agenda.after n).HoldsLast := by
  obtain ⟨n, hend, rfl⟩ := exists_end_of_timeout? hname htimeout
  have hholds := Agenda.holds_iff (Agenda.orderly_of_onset (orderly_lapse (s := s) name))
    (.of_eq_false rfl) (fun _ => held_lapse s name) hend
  rw [(h.timeout? htimeout).typeahead_eq_nil_iff, ← hholds, not_not]

/-- Nothing is typed ahead after a pause if throughout its work the key maps
close. -/
theorem typeahead_timeout?_of_closes (h : s.Ready) {name : MapName}
    (hname : s.typeahead.map = some name) {waited : Bool} {room : Nat}
    (htimeout : s.timeout? room = some (s', waited)) {E : List Key}
    (hmaps : ∀ n, ((s.lapse name).agenda.after n).run.session.Closes E) :
    s'.typeahead = {} := by
  obtain ⟨n, hend, rfl⟩ := exists_end_of_timeout? hname htimeout
  have honset : s.onset? .timeout = some (s.lapse name) := by rw [onset?, hname, Option.map_some]
  have hclosing : (s.lapse name).Closing E := closing_lapse h.output (hmaps 0) name
  have hagenda : (s.lapse name).agenda.Closing E := .of_onset hclosing rfl
  have hmode : ∀ n, ((s.lapse name).agenda.after n).run.session.currentMode? ≠ none := by
    intro n
    obtain ⟨m, hat, -⟩ := (h.satisfies_after honset n).at_mode
    rw [hat.current]
    exact Option.some_ne_none m
  have hafter := hagenda.after (Agenda.orderly_of_onset (orderly_lapse name)) (.of_eq_false rfl)
    hmode hmaps n
  exact (h.timeout? htimeout).typeahead_eq_nil_iff.mpr (hafter.done hend)

end Ready

/-- **Keys wait after a burst**, with the pause that settles them, if and only
if that pause ends with a recursive stroke that is held back. None do if there
are keys `E` that close all key maps throughout the pause: each recursive
right-hand side ends with one of them, and no left-hand side goes on behind
one. -/
theorem waits_after_burst_iff {text : Text} {c : Config} (hc : c.input.timeout = true)
    {bs : List String} {s s' : Session} {ks : List Key} {used : List Bool}
    (hbs : Program.typeAll? c.input.timeout (configured { text } c) bs = some (.ok s))
    (hburst : s.burst? c.input.timeout ks = some (s', used)) :
    (s'.typeahead = {} ↔ ¬ s.HoldsAfter ks) ∧
      ∀ E, (∀ s₁ us name n, s.pressAll? ks = some (s₁, us) → s₁.typeahead.map = some name →
        ((s₁.lapse name).agenda.after n).run.session.Closes E) → s'.typeahead = {} := by
  have hs : s.Ready := (ready_configured ⟨rfl, rfl⟩ c).typeAll? hbs
  obtain ⟨s₁, hpress, hpause⟩ := burst?_cases hburst
  have hs₁ := hs.pressAll? hpress
  rw [hc, Bool.and_true] at hpause
  by_cases hholds : s₁.typeahead.isHolding = true
  · rw [if_pos hholds] at hpause
    obtain ⟨waited, htimeout⟩ := hpause
    have hmap : s₁.typeahead.map ≠ none := by
      intro hnone
      rw [Typeahead.isHolding, hs₁.balanced.mpr hnone] at hholds
      cases hholds
    obtain ⟨name, hname⟩ := Option.ne_none_iff_exists'.mp hmap
    refine ⟨?_, fun E hmaps => hs₁.typeahead_timeout?_of_closes hname htimeout fun n =>
      hmaps s₁ used name n hpress hname⟩
    rw [hs₁.typeahead_timeout?_iff hname htimeout]
    refine not_congr ⟨?_, ?_⟩
    · rintro ⟨n, hn⟩
      exact ⟨s₁, used, name, n, hpress, hname, hn⟩
    · rintro ⟨s₂, used', name', n, hpress', hname', hn⟩
      rw [hpress] at hpress'
      cases hpress'
      rw [hname] at hname'
      cases hname'
      exact ⟨n, hn⟩
  · -- nothing waits when the pause begins, so there is nothing to do
    rw [if_neg hholds] at hpause
    subst hpause
    have hheld : s'.typeahead.held = [] := by simpa [Typeahead.isHolding] using hholds
    have hnil : s'.typeahead = {} := hs₁.typeahead_eq_nil_iff.mpr hheld
    refine ⟨iff_of_true hnil ?_, fun _ _ => hnil⟩
    rintro ⟨s₂, used', name, n, hpress', hname, -⟩
    rw [hpress] at hpress'
    cases hpress'
    rw [hnil] at hname
    cases hname

/-- `Q` stands for `x`, and begins a longer left-hand side. So does `x`, if it
is to. -/
def promoting (further : Bool) : Config where
  mappings := [⟨"n", "Q", "x", true⟩, ⟨"n", "QQ", "l", false⟩] ++
    if further then [⟨"n", "xy", "l", false⟩] else []

/-- Text `abc` under that configuration. -/
def promoted (further : Bool) : Session :=
  configured { text := ['a', 'b', 'c'] } (promoting further)

/-- The pause after `Q` deletes a character, if no left-hand side begins with
`x`, and nothing waits then. -/
theorem waits_after_burst_promoting :
    ∃ s' used, (promoted false).burst? true [.char 'Q'] = some (s', used) ∧
      s'.typeahead = {} ∧ s'.editor.text = ['b', 'c'] := by
  have hview : ((promoted false).burst? true [.char 'Q']).map (·.1.editor.text) =
      some ['b', 'c'] := by decide +kernel
  obtain ⟨⟨s', used⟩, hburst, htext⟩ := Option.map_eq_some_iff.mp hview
  have hbegun : Program.typeAll? true (promoted false) [] = some (.ok (promoted false)) := rfl
  refine ⟨s', used, hburst, ?_, htext⟩
  refine (waits_after_burst_iff (c := promoting false) rfl hbegun hburst).2 [.char 'x'] ?_
  -- the work is done after two tasks, and the key maps are of that kind up to then
  let pause (s₁ : Session) (name : MapName) (n : Nat) := (s₁.lapse name).agenda.after n
  have hmaps : ∀ n < 3, (((promoted false).pressAll? [.char 'Q']).all fun x =>
      x.1.typeahead.map.all fun name =>
        decide ((pause x.1 name n).run.session.Closes [.char 'x'])) = true := by decide +kernel
  have hdone : (((promoted false).pressAll? [.char 'Q']).all fun x =>
      x.1.typeahead.map.all fun name => decide ((pause x.1 name 2).tasks = [])) = true := by
    decide +kernel
  intro s₁ used₁ name n hpress hname
  simp only [hpress, hname, Option.all_some, decide_eq_true_eq] at hmaps hdone
  rcases Nat.lt_or_ge n 3 with hlt | hge
  · exact hmaps n hlt
  · obtain ⟨d, rfl⟩ := Nat.exists_eq_add_of_le (Nat.le_of_succ_le hge)
    rw [Agenda.after_add, Agenda.after_of_tasks_eq_nil hdone]
    exact hmaps 2 (by decide)

/-- **Keys may wait after a burst**: `x` is held back in the place of `Q`, and
no character has been deleted. -/
theorem not_settled_after_burst :
    (promoting true).input.timeout = true ∧
      ∃ s', Program.typeAll? true (promoted true) ["Q"] = some (.ok s') ∧
        s'.typeahead.held = [.char 'x'] ∧ s'.editor.text = ['a', 'b', 'c'] := by
  have hview : ((Program.typeAll? true (promoted true) ["Q"]).bind Except.toOption).map
        (fun s => (s.typeahead.held, s.editor.text)) =
      some ([.char 'x'], ['a', 'b', 'c']) := by decide +kernel
  obtain ⟨s', hs', hheld⟩ := Option.map_eq_some_iff.mp hview
  obtain ⟨x, hx, hok⟩ := Option.bind_eq_some_iff.mp hs'
  cases x with
  | error err => cases hok
  | ok s =>
    cases hok
    exact ⟨rfl, _, hx, (Prod.mk.inj hheld).1, (Prod.mk.inj hheld).2⟩

end Session
end Keywise
