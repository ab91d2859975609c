/-
# Mappings of single keys

Where every left-hand side is a single key, no keys are ever held back, and
what a key leads to can be said by recursion (`Trail.expand`): a key without a
mapping is given to the current mode, and one with a mapping stands for the
keys of its right-hand side, one after the other, which are mapped in turn or
given as they are. Each key is looked up at the time it comes up, in the map
of the mode that is current then. A session that works with strokes in a
queue comes to the same (`Session.expands_of_singleKeys`).

Nothing may be held back when the key is typed. Keys that were held back for
a mapping that is gone by then come out in front of it
(`Session.not_expands_of_leftover`).

Key definitions: `Session.SingleKeys`, `Session.mapping?`, `Trail.expand`,
`Agenda.Takes`, `Session.Expands`.
Key theorems: `Agenda.Takes.append`, `Agenda.arrives_expand`,
`Session.expands_of_singleKeys`.
-/
import Keywise.Proofs.Session.Given
import Keywise.Proofs.Session.Typing

namespace Keywise

/-! ### Maps of single keys -/

/-- Every left-hand side is a single key. -/
def KeyMap.SingleKeys (m : KeyMap) : Prop := ∀ p ∈ m.entries, p.1.length = 1

instance (m : KeyMap) : Decidable m.SingleKeys :=
  inferInstanceAs (Decidable (∀ p ∈ m.entries, p.1.length = 1))

namespace KeyMap

variable {m : KeyMap}

theorem SingleKeys.not_mayGrow (h : m.SingleKeys) (k : Key) : m.mayGrow [k] = false := by
  rw [Bool.eq_false_iff]
  intro hgrow
  obtain ⟨p, hp, hlt⟩ := List.any_eq_true.mp hgrow
  rw [Bool.and_eq_true, decide_eq_true_eq, h p hp] at hlt
  exact Nat.lt_irrefl 1 hlt.2

end KeyMap

namespace Session

/-- Every left-hand side in every key map is a single key. -/
def SingleKeys (s : Session) : Prop := ∀ m ∈ s.editor.keyMaps, m.SingleKeys

instance (s : Session) : Decidable s.SingleKeys :=
  inferInstanceAs (Decidable (∀ m ∈ s.editor.keyMaps, m.SingleKeys))

theorem SingleKeys.keyMap {s : Session} (h : s.SingleKeys) (name : MapName) :
    (s.keyMap name).SingleKeys := by
  unfold Session.keyMap
  cases hfind : s.editor.keyMaps.find? name with
  | none => exact fun _ hp => nomatch hp
  | some m => exact h m (List.mem_of_find?_eq_some hfind)

/-- What a key is mapped to now: there is a current mode, keys go through a
map before they reach it, and the map has a mapping for the key. -/
def mapping? (s : Session) (k : Key) : Option Expansion :=
  (s.currentMode?.bind Mode.keyMap?).bind fun name => (s.keyMap name).get? [k]

/-! ### A key arrives -/

section

variable {s : Session} {k : Key} {depth : Nat}

theorem arrive_of_currentMode?_eq_none (hdepth : depth ≤ s.maxDepth)
    (hmode : s.currentMode? = none) : s.arrive k depth = { session := s, tasks := [] } := by
  unfold arrive
  rw [if_neg (Nat.not_lt.mpr hdepth), hmode]

theorem arrive_of_mapping?_eq_none (hs : s.SingleKeys) (h : s.typeahead = {})
    (hdepth : depth ≤ s.maxDepth) (hmode : s.currentMode? ≠ none) (hk : s.mapping? k = none) :
    s.arrive k depth = { session := s, tasks := [.give k] } := by
  obtain ⟨mode, hcur⟩ := Option.ne_none_iff_exists'.mp hmode
  cases hmap : mode.keyMap? with
  | none => exact arrive_of_keyMap?_eq_none hdepth h hcur hmap
  | some name =>
    have huses : s.Uses (s.keyMap name) := ⟨mode, name, hcur, hmap, rfl⟩
    have hget : (s.keyMap name).get? [k] = none := by
      simpa only [mapping?, hcur, Option.bind_some, hmap] using hk
    have hnothing := (KeyMap.matching_singleton_eq_nothing_iff _ k).mpr
      ⟨(hs.keyMap name).not_mayGrow k, hget⟩
    exact huses.arrive_of_nothing hdepth h hnothing

theorem arrive_of_mapping?_eq_some (hs : s.SingleKeys) (h : s.typeahead = {})
    (hdepth : depth ≤ s.maxDepth) {e : Expansion} (hk : s.mapping? k = some e) :
    s.arrive k depth =
      { session := s, tasks := e.keys.map fun k => .stroke ⟨k, e.recursive⟩ depth } := by
  obtain ⟨name, hname, hget⟩ := Option.bind_eq_some_iff.mp hk
  obtain ⟨mode, hcur, hmap⟩ := Option.bind_eq_some_iff.mp hname
  have huses : s.Uses (s.keyMap name) := ⟨mode, name, hcur, hmap, rfl⟩
  have hmatch : ¬ ([] = ([] : List Key) ∧ (s.keyMap name).matching [k] = .nothing) := by
    rintro ⟨-, hnothing⟩
    rw [((KeyMap.matching_singleton_eq_nothing_iff _ k).mp hnothing).2] at hget
    cases hget
  have hsettle := Typeahead.settle_singleton ((hs.keyMap name).not_mayGrow k)
  rw [KeyMap.translation_singleton, hget] at hsettle
  have hholds : s.Holds (s.keyMap name) [] := h
  have hsame : { s with typeahead := Typeahead.holding (s.keyMap name) [] } = s :=
    withTypeahead_nil h
  have hstrokes : e.strokes.map (Task.stroke · depth) =
      e.keys.map fun k => .stroke ⟨k, e.recursive⟩ depth := by
    rw [Expansion.strokes, List.map_map]
    rfl
  rw [huses.arrive_of_holds hdepth hholds (Or.inl rfl) hmatch, List.nil_append, hsettle, hsame,
    hstrokes]

end
end Session

/-! ### Expansion -/

/-- How far the expansion of a key has come. -/
structure Trail where
  session : Session
  /-- The keys given to modes so far. -/
  given : List Key := []
  /-- Whether mappings have led too deep. -/
  stopped : Bool := false

namespace Trail

/-- A key is given to the current mode. -/
def deliver (x : Trail) (k : Key) : Trail :=
  { x with session := (x.session.give k).1, given := x.given ++ [k] }

/-- Mappings have led too deep. -/
def stop (x : Trail) : Trail := { x with session := x.session.abort, stopped := true }

/-- A key is expanded, so many levels deep, of which `limit` are allowed. -/
def expand (limit : Nat) (x : Trail) (k : Key) (depth : Nat) : Trail :=
  if x.stopped then x
  else if limit < depth then x.stop
  else if x.session.currentMode?.isNone then x
  else match x.session.mapping? k with
    | none => x.deliver k
    | some e =>
      if e.recursive then e.keys.foldl (fun x k => expand limit x k (depth + 1)) x
      else e.keys.foldl deliver x
  termination_by limit + 1 - depth

theorem expand_of_stopped {x : Trail} (h : x.stopped = true) (limit : Nat) (k : Key)
    (depth : Nat) : x.expand limit k depth = x := by
  rw [expand, if_pos h]

/-- The error is shown if mappings have led too deep. -/
def ShowsError (x : Trail) : Prop :=
  x.stopped = true → x.session.editor.screen.error = some "E223: recursive mapping"

theorem stopped_foldl_deliver (ks : List Key) :
    ∀ x : Trail, (ks.foldl deliver x).stopped = x.stopped := by
  induction ks with
  | nil => exact fun _ => rfl
  | cons k ks ih => exact fun x => ih (x.deliver k)

theorem showsError_expand (limit : Nat) (x : Trail) (k : Key) (depth : Nat) :
    x.ShowsError → (x.expand limit k depth).ShowsError := by
  fun_induction expand limit x k depth with
  | case1 x k depth _ => exact id
  | case2 x k depth _ _ => exact fun _ _ => rfl
  | case3 x k depth _ _ _ => exact id
  | case4 x k depth hstopped _ _ _ => exact fun _ h => absurd h hstopped
  | case5 x k depth _ _ _ e _ _ ih =>
    intro h
    exact List.foldlRecOn e.keys _ h fun x hx k _ => ih x k hx
  | case6 x k depth hstopped _ _ e _ _ =>
    intro _ h
    rw [stopped_foldl_deliver] at h
    exact absurd h hstopped

end Trail

/-- The run is where the expansion is, and nothing is held back. -/
structure Run.Follows (r : Run) (limit : Nat) (x : Trail) : Prop where
  session : r.session = x.session
  aborted : r.aborted = x.stopped
  typeahead : x.session.typeahead = {}
  maxDepth : x.session.maxDepth = limit

namespace Agenda

/-- Every left-hand side is a single key, until all tasks are done. -/
def SingleKeys (a : Agenda) : Prop := ∀ n, (a.after n).run.session.SingleKeys

theorem SingleKeys.after {a : Agenda} (h : a.SingleKeys) (n : Nat) : (a.after n).SingleKeys := by
  intro m
  rw [← after_add]
  exact h (n + m)

/-- The tasks take the expansion from `x` to `x'`, whatever tasks there are
behind them, and nothing is held back meanwhile. -/
def Takes (limit : Nat) (ts : List Task) (x x' : Trail) : Prop :=
  ∀ (r : Run) (rest : List Task), r.Follows limit x → SingleKeys ⟨r, ts ++ rest⟩ →
    ∃ n r', (⟨r, ts ++ rest⟩ : Agenda).after n = ⟨r', rest⟩ ∧ r'.Follows limit x' ∧
      x'.given = x.given ++ (⟨r, ts ++ rest⟩ : Agenda).given n ∧
      ∀ m ≤ n, ((⟨r, ts ++ rest⟩ : Agenda).after m).run.session.typeahead = {}

section

variable {limit : Nat} {x y z : Trail}

theorem takes_nil (x : Trail) : Takes limit [] x x := by
  intro r rest hr _
  refine ⟨0, r, rfl, hr, (List.append_nil _).symm, fun m hm => ?_⟩
  obtain rfl := Nat.le_zero.mp hm
  rw [← hr.typeahead, ← hr.session]
  rfl

theorem Takes.append {ts us : List Task} (h : Takes limit ts x y) (h' : Takes limit us y z) :
    Takes limit (ts ++ us) x z := by
  intro r rest hr hsingle
  rw [List.append_assoc] at hsingle ⊢
  obtain ⟨n, r₁, hafter, hr₁, hgiven, htyped⟩ := h r (us ++ rest) hr hsingle
  have hsingle₁ := hsingle.after n
  rw [hafter] at hsingle₁
  obtain ⟨n', r₂, hafter', hr₂, hgiven', htyped'⟩ := h' r₁ rest hr₁ hsingle₁
  refine ⟨n + n', r₂, ?_, hr₂, ?_, fun m hm => ?_⟩
  · rw [after_add, hafter, hafter']
  · rw [given_add, hafter, hgiven', hgiven, List.append_assoc]
  · rcases Nat.le_total m n with hle | hle
    · exact htyped m hle
    · obtain ⟨j, rfl⟩ := Nat.exists_eq_add_of_le hle
      rw [after_add, hafter]
      exact htyped' j (Nat.le_of_add_le_add_left hm)

theorem takes_map {f : Key → Task} {g : Trail → Key → Trail}
    (h : ∀ x k, Takes limit [f k] x (g x k)) (ks : List Key) :
    ∀ x, Takes limit (ks.map f) x (ks.foldl g x) := by
  induction ks with
  | nil => exact takes_nil
  | cons k ks ih => exact fun x => (h x k).append (ih (g x k))

/-- A task is as good as the tasks it leads to, if no keys are held back
then. -/
theorem takes_of_perform {t : Task}
    (h : ∀ r : Run, r.Follows limit x → r.session.SingleKeys → ∃ y,
      (r.perform t).1.Follows limit y ∧ y.given = x.given ++ gives ⟨r, [t]⟩ ∧
        Takes limit (r.perform t).2 y z) :
    Takes limit [t] x z := by
  intro r rest hr hsingle
  obtain ⟨y, hy, hgives, htakes⟩ := h r hr (hsingle 0)
  obtain ⟨n, r', hafter, hr', hgiven, htyped⟩ := htakes _ rest hy (hsingle.after 1)
  have hfirst : ([t] ++ rest : List Task) = t :: rest := rfl
  have hsame : gives ⟨r, t :: rest⟩ = gives ⟨r, [t]⟩ := by cases t <;> rfl
  refine ⟨n + 1, r', hafter, hr', ?_, fun m hm => ?_⟩
  · rw [hfirst, given_succ, hsame, ← List.append_assoc, ← hgives]
    exact hgiven
  · cases m with
    | zero =>
      rw [← hr.typeahead, ← hr.session]
      rfl
    | succ m => exact htyped m (Nat.le_of_succ_le_succ hm)

theorem takes_give (x : Trail) (k : Key) : Takes limit [.give k] x (x.deliver k) := by
  refine takes_of_perform fun r hr _ => ⟨x.deliver k, ⟨?_, hr.aborted, ?_, ?_⟩, rfl, takes_nil _⟩
  · show (r.session.give k).1 = (x.session.give k).1
    rw [hr.session]
  · exact (x.session.typeahead_give k).trans hr.typeahead
  · exact (x.session.maxDepth_give k).trans hr.maxDepth

/-- Strokes are dropped once mappings have led too deep. -/
theorem takes_of_stopped (h : x.stopped = true) (st : Stroke) (depth : Nat) :
    Takes limit [.stroke st depth] x x := by
  refine takes_of_perform fun r hr _ => ⟨x, ?_, (List.append_nil _).symm, ?_⟩
  · rw [Run.perform_of_aborted (hr.aborted.trans h)]
    exact hr
  · rw [Run.perform_of_aborted (hr.aborted.trans h)]
    exact takes_nil x

theorem takes_of_not_recursive (h : x.stopped = false) (k : Key) (depth : Nat) :
    Takes limit [.stroke ⟨k, false⟩ depth] x (x.deliver k) := by
  refine takes_of_perform fun r hr _ => ⟨x, ?_, (List.append_nil _).symm, ?_⟩
  all_goals
    have hheld : r.session.typeahead.held = [] := by rw [hr.session, hr.typeahead]
    rw [Run.perform_of_not_recursive (hr.aborted.trans h) rfl, Session.pass_of_held_eq_nil hheld]
  · exact ⟨hr.session, h.symm, hr.typeahead, hr.maxDepth⟩
  · exact takes_give x k

theorem takes_of_all_not_recursive (ks : List Key) (depth : Nat) :
    ∀ x : Trail, x.stopped = false →
      Takes limit (ks.map fun k => .stroke ⟨k, false⟩ depth) x (ks.foldl Trail.deliver x) := by
  induction ks with
  | nil => exact fun x _ => takes_nil x
  | cons k ks ih => exact fun x h => (takes_of_not_recursive h k depth).append (ih _ h)

/-! ### The queue and the recursion -/

/-- The run after a key has arrived. -/
def arrived (r : Run) (o : Session.Onset) : Run :=
  { r with session := o.session, aborted := o.aborted }

/-- A key that arrives at a level takes the expansion from `x` to `z`: what it
does at once takes it to some `y`, and its tasks take it on from there. -/
def Arrives (limit : Nat) (x : Trail) (k : Key) (depth : Nat) (z : Trail) : Prop :=
  ∀ r : Run, r.Follows limit x → r.session.SingleKeys → x.stopped = false →
    ∃ y, (arrived r (r.session.arrive k depth)).Follows limit y ∧ y.given = x.given ∧
      Takes limit (r.session.arrive k depth).tasks y z

variable {k : Key} {depth : Nat}

theorem arrives_of_lt (h : limit < depth) : Arrives limit x k depth x.stop := by
  intro r hr _ _
  have hlt : r.session.maxDepth < depth := by
    rw [hr.session, hr.maxDepth]
    exact h
  rw [Session.arrive_of_lt hlt, hr.session]
  exact ⟨x.stop, ⟨rfl, rfl, rfl, hr.maxDepth⟩, rfl, takes_nil _⟩

theorem arrives_of_eq {ts : List Task}
    (h : x.session.SingleKeys → x.session.typeahead = {} → x.session.maxDepth = limit →
      x.session.arrive k depth = { session := x.session, tasks := ts })
    (htakes : Takes limit ts x z) : Arrives limit x k depth z := by
  intro r hr hsingle hx
  rw [hr.session] at hsingle ⊢
  rw [h hsingle hr.typeahead hr.maxDepth]
  exact ⟨x, ⟨rfl, hx.symm, hr.typeahead, hr.maxDepth⟩, rfl, htakes⟩

/-- A stroke to be mapped is a key that arrives one level deeper. -/
theorem takes_of_arrives (h : Arrives limit x k (depth + 1) z) (hz : x.stopped = true → z = x) :
    Takes limit [.stroke ⟨k, true⟩ depth] x z := by
  by_cases hx : x.stopped = true
  · rw [hz hx]
    exact takes_of_stopped hx _ _
  · rw [Bool.not_eq_true] at hx
    refine takes_of_perform fun r hr hsingle => ?_
    obtain ⟨y, hy, hgiven, htakes⟩ := h r hr hsingle hx
    rw [Run.perform_of_recursive (hr.aborted.trans hx) rfl]
    exact ⟨y, hy, hgiven.trans (List.append_nil _).symm, htakes⟩

/-- **A key that arrives comes to its expansion.** -/
theorem arrives_expand (x : Trail) (k : Key) (depth : Nat) :
    Arrives limit x k depth (x.expand limit k depth) := by
  fun_induction Trail.expand limit x k depth with
  | case1 x k depth hstopped =>
    intro r _ _ hx
    rw [hx] at hstopped
    cases hstopped
  | case2 x k depth _ hdepth => exact arrives_of_lt hdepth
  | case3 x k depth _ hdepth hmode =>
    refine arrives_of_eq (fun _ _ hmax => ?_) (takes_nil x)
    rw [← hmax, Nat.not_lt] at hdepth
    exact Session.arrive_of_currentMode?_eq_none hdepth (Option.isNone_iff_eq_none.mp hmode)
  | case4 x k depth _ hdepth hmode hk =>
    refine arrives_of_eq (fun hsingle htyped hmax => ?_) (takes_give x k)
    rw [← hmax, Nat.not_lt] at hdepth
    rw [Option.isNone_iff_eq_none] at hmode
    exact Session.arrive_of_mapping?_eq_none hsingle htyped hdepth hmode hk
  | case5 x k depth _ hdepth _ e hk hrec ih =>
    have hkeys : Takes limit (e.keys.map fun k => .stroke ⟨k, true⟩ depth) x
        (e.keys.foldl (fun x k => x.expand limit k (depth + 1)) x) :=
      takes_map (fun x k => takes_of_arrives (ih x k) fun h => Trail.expand_of_stopped h _ k _)
        e.keys x
    refine arrives_of_eq (fun hsingle htyped hmax => ?_) hkeys
    rw [← hmax, Nat.not_lt] at hdepth
    rw [Session.arrive_of_mapping?_eq_some hsingle htyped hdepth hk, hrec]
  | case6 x k depth hstopped hdepth _ e hk hrec =>
    rw [Bool.not_eq_true] at hstopped hrec
    refine arrives_of_eq (fun hsingle htyped hmax => ?_)
      (takes_of_all_not_recursive e.keys depth x hstopped)
    rw [← hmax, Nat.not_lt] at hdepth
    rw [Session.arrive_of_mapping?_eq_some hsingle htyped hdepth hk, hrec]

end
end Agenda

namespace Session

/-! ### Calls -/

/-- What is left of a session when a key has been expanded, from the level
above all mappings on. -/
def expansion (s : Session) (k : Key) : Trail := Trail.expand s.maxDepth { session := s } k 0

/-- The work on a key comes to what `x` says, with nothing held back at any
time. -/
structure Expands (s : Session) (k : Key) (x : Trail) : Prop where
  typeahead : ∀ n, ((s.arrive k 0).agenda.after n).run.session.typeahead = {}
  ends : ∃ n, ((s.arrive k 0).agenda.after n).tasks = [] ∧
    ((s.arrive k 0).agenda.after n).run.session = x.session ∧
    ((s.arrive k 0).agenda.after n).run.aborted = x.stopped ∧
    ∀ m, n ≤ m → (s.arrive k 0).agenda.given m = x.given
  error : x.stopped = true → x.session.editor.screen.error = some "E223: recursive mapping"
  result : ∃ room used, s.press? k room = some (x.session, used)
  unique : ∀ room s' used, s.press? k room = some (s', used) → s' = x.session

/-- **A key comes to its expansion** if every left-hand side is a single key
and nothing is held back as it is typed: the same keys are given to the modes,
in the same order, and nothing is ever held back. -/
theorem expands_of_singleKeys {s : Session} (h : s.typeahead = {}) {k : Key}
    (hsingle : (s.arrive k 0).agenda.SingleKeys) : s.Expands k (s.expansion k) := by
  have hr : Run.Follows { session := s } s.maxDepth { session := s } := ⟨rfl, rfl, h, rfl⟩
  have hs : s.SingleKeys := by
    have hkept : (s.arrive k 0).session.untyped.editor = s.untyped.editor :=
      congrArg Session.editor (untyped_arrive (Nat.zero_le _)).1
    have hmaps : (s.arrive k 0).session.editor.keyMaps = s.editor.keyMaps :=
      congrArg Editor.keyMaps hkept
    intro m hm
    rw [← hmaps] at hm
    exact hsingle 0 m hm
  obtain ⟨y, hy, hstart, htakes⟩ := Agenda.arrives_expand { session := s } k 0 _ hr hs rfl
  obtain ⟨n, r', hafter, hr', hgiven, htyped⟩ :=
    htakes _ [] hy (by rw [List.append_nil]; exact hsingle)
  rw [List.append_nil] at hafter hgiven htyped
  rw [hstart, List.nil_append] at hgiven
  have hends : (s.arrive k 0).agenda.after n = ⟨r', []⟩ := hafter
  have htasks : ((s.arrive k 0).agenda.after n).tasks = [] := by rw [hends]
  have hsession : r'.session = (s.expansion k).session := hr'.session
  obtain ⟨hresult, hunique⟩ := press?_of_after hends
  rw [hsession] at hresult hunique
  refine ⟨fun m => ?_, ⟨n, htasks, ?_, ?_, fun m hm => ?_⟩, ?_, hresult, hunique⟩
  · rcases Nat.le_total m n with hle | hle
    · exact htyped m hle
    · rw [(Agenda.after_of_done htasks hle).1]
      exact htyped n (Nat.le_refl n)
  · rw [hends, hsession]
  · rw [hends]
    exact hr'.aborted
  · rw [(Agenda.after_of_done htasks hm).2]
    exact hgiven.symm
  · exact Trail.showsError_expand _ _ _ _ nofun

/-- Work that ends has single keys throughout if it does until it ends. -/
theorem singleKeys_of_done {a : Agenda} (n : Nat) (h : (a.after n).tasks = [])
    (hn : ∀ m < n + 1, (a.after m).run.session.SingleKeys) : a.SingleKeys := by
  intro m
  rcases Nat.le_total m n with hle | hle
  · exact hn m (Nat.lt_succ_of_le hle)
  · rw [(Agenda.after_of_done h hle).1]
    exact hn n (Nat.lt_succ_self n)

/-- A session in which `Q` stands for `i` and then for `Q` again, which Insert
mode maps to `z`. -/
def entering : Session :=
  standard
    { text := ['a', 'b']
      keyMaps := (KeyMaps.standard.add .normal [.char 'Q'] ⟨[.char 'i', .char 'Q'], true⟩).add
        .insert [.char 'Q'] ⟨[.char 'z'], false⟩ }

/-- The second `Q` is looked up in the map of Insert mode. -/
theorem expands_of_entering :
    entering.typeahead = {} ∧ (entering.arrive (.char 'Q') 0).agenda.SingleKeys ∧
      entering.Expands (.char 'Q') (entering.expansion (.char 'Q')) ∧
      (entering.expansion (.char 'Q')).given = [.char 'i', .char 'z'] ∧
      (entering.expansion (.char 'Q')).session.editor.text = ['z', 'a', 'b'] := by
  have hnone : entering.typeahead = {} := rfl
  have hsingle : (entering.arrive (.char 'Q') 0).agenda.SingleKeys :=
    singleKeys_of_done 6 (by decide +kernel) (by decide +kernel)
  refine ⟨hnone, hsingle, expands_of_singleKeys hnone hsingle, ?_, ?_⟩
  · decide +kernel
  · decide +kernel

/-- A session in which `xq` stands for `l`, and `Q` for `x`. -/
def waiting : Session :=
  standard
    { text := ['a', 'b', 'c']
      keyMaps := (KeyMaps.standard.add .normal [.char 'x', .char 'q'] ⟨[.char 'l'], false⟩).add
        .normal [.char 'Q'] ⟨[.char 'x'], false⟩ }

/-- A session whose Normal mode has lost the mapping of `xq`. -/
def forget (s : Session) : Session :=
  { s with editor := { s.editor with
      keyMaps := s.editor.keyMaps.modify .normal (·.remove [.char 'x', .char 'q']) } }

/-- Here `x` is held back when the mapping is removed. Then every left-hand
side is a single key, but with `l` the mode is given `x` too. -/
theorem not_expands_of_leftover :
    ∃ s used, waiting.press? (.char 'x') = some (s, used) ∧
      s.forget.typeahead.held = [.char 'x'] ∧
      (s.forget.arrive (.char 'l') 0).agenda.SingleKeys ∧
      (s.forget.arrive (.char 'l') 0).agenda.given 4 = [.char 'x', .char 'l'] ∧
      (s.forget.expansion (.char 'l')).given = [.char 'l'] ∧
      ¬ s.forget.Expands (.char 'l') (s.forget.expansion (.char 'l')) := by
  let s : Session := { waiting with typeahead := { held := [.char 'x'], map := some .normal } }
  have hpress : waiting.press? (.char 'x') = some (s, true) := by
    show complete? (waiting.arrive (.char 'x') 0) stackRoom = some (s, true)
    have harrive : waiting.arrive (.char 'x') 0 = { session := s, tasks := [] } := by cbv
    rw [harrive]
    rfl
  have hdone : ((s.forget.arrive (.char 'l') 0).agenda.after 4).tasks = [] := by decide +kernel
  have hgiven : (s.forget.arrive (.char 'l') 0).agenda.given 4 = [.char 'x', .char 'l'] := by
    decide +kernel
  have hexpansion : (s.forget.expansion (.char 'l')).given = [.char 'l'] := by decide +kernel
  refine ⟨s, true, hpress, rfl, singleKeys_of_done 4 hdone (by decide +kernel), hgiven,
    hexpansion, fun h => ?_⟩
  obtain ⟨n, -, -, -, hn⟩ := h.ends
  -- the keys given are the same from the end of the work on
  have hlong := hn (max n 4) (Nat.le_max_left n 4)
  rw [(Agenda.after_of_done hdone (Nat.le_max_right n 4)).2, hgiven, hexpansion] at hlong
  cases hlong

end Session
end Keywise
