/-
# No key typed ahead is lost

Keys held back are settled, released or ended, and the map in use may be
another one each time, so what is held back need not begin a left-hand side
of the map at hand. Still nothing is lost, doubled or put out of order. An
action takes segments off the front of the keys held back, with the key that
it accepts behind them, and queues what the segments stand for
(`Typeahead.Consumes`). A segment is one key that passes as it is, or a whole
left-hand side of the map of that very action.

So at any time the keys accepted so far are the segments of all actions so
far, followed by the keys held back, and the strokes queued so far are what
the segments stand for (`Typeahead.Ledger.accounts_run`).

Key definitions: `Typeahead.Segment`, `Typeahead.Consumes`,
`Typeahead.Action`, `Typeahead.Ledger`.
Key theorems: `Typeahead.exists_consumes_settleOn`,
`Typeahead.exists_consumes_press`, `Typeahead.exists_consumes_literal`,
`Typeahead.Ledger.Accounts.next`, `Typeahead.Ledger.accounts_run`.
-/
import Mathlib.Data.List.Forall2
import Mathlib.Data.List.Induction
import Keywise.Proofs.Typeahead.Translation

namespace Keywise
namespace Typeahead

/-! ### Segments -/

/-- Keys that are taken together, and the strokes that are queued for them. -/
structure Segment where
  keys : List Key
  strokes : List Stroke
  deriving DecidableEq, Repr

namespace Segment

/-- One key that passes as it is. -/
def single (k : Key) : Segment := ⟨[k], [.literal k]⟩

/-- What may be taken together under the map `m`. -/
inductive Of (m : KeyMap) : Segment → Prop
  | single (k : Key) : Of m (single k)
  | mapped {lhs : List Key} {e : Expansion} : m.get? lhs = some e → Of m ⟨lhs, e.strokes⟩

/-- The keys of segments one after the other. -/
def allKeys (segs : List Segment) : List Key := segs.flatMap (·.keys)

/-- What segments one after the other stand for. -/
def allStrokes (segs : List Segment) : List Stroke := segs.flatMap (·.strokes)

theorem allKeys_append (segs segs' : List Segment) :
    allKeys (segs ++ segs') = allKeys segs ++ allKeys segs' :=
  List.flatMap_append

theorem allStrokes_append (segs segs' : List Segment) :
    allStrokes (segs ++ segs') = allStrokes segs ++ allStrokes segs' :=
  List.flatMap_append

theorem allKeys_map_single (ks : List Key) : allKeys (ks.map single) = ks := by
  induction ks with
  | nil => rfl
  | cons k ks ih => exact congrArg (k :: ·) ih

theorem allStrokes_map_single (ks : List Key) :
    allStrokes (ks.map single) = ks.map .literal := by
  induction ks with
  | nil => rfl
  | cons k ks ih => exact congrArg (Stroke.literal k :: ·) ih

end Segment

open Segment (allKeys allStrokes)

/-- Under the map `m`, keys `ks` are accepted behind those held back, and the
segments `segs` are taken off the front of them all and queued. -/
structure Consumes (m : KeyMap) (t : Typeahead) (ks : List Key) (segs : List Segment)
    (t' : Typeahead) : Prop where
  of : ∀ seg ∈ segs, seg.Of m
  held : t.held ++ ks = allKeys segs ++ t'.held
  output : t'.output = t.output ++ allStrokes segs

/-- Keys are held back if and only if it is known for which map. -/
def Balanced (t : Typeahead) : Prop := t.held = [] ↔ t.map = none

variable {m : KeyMap} {t t₁ t₂ : Typeahead}

theorem Consumes.trans {ks ks' : List Key} {segs segs' : List Segment}
    (h : Consumes m t ks segs t₁) (h' : Consumes m t₁ ks' segs' t₂) :
    Consumes m t (ks ++ ks') (segs ++ segs') t₂ where
  of := List.forall_mem_append.mpr ⟨h.of, h'.of⟩
  held := by
    calc t.held ++ (ks ++ ks') = allKeys segs ++ (t₁.held ++ ks') := by
          rw [← List.append_assoc, h.held, List.append_assoc]
      _ = allKeys (segs ++ segs') ++ t₂.held := by
          rw [h'.held, Segment.allKeys_append, List.append_assoc]
  output := by rw [h'.output, h.output, Segment.allStrokes_append, List.append_assoc]

theorem consumes_hold (m : KeyMap) (t : Typeahead) (k : Key) (name : Option MapName) :
    Consumes m t [k] [] { t with held := t.held ++ [k], map := name } :=
  ⟨nofun, rfl, (List.append_nil _).symm⟩

theorem consumes_pass (m : KeyMap) (h : t.held = []) (k : Key) :
    Consumes m t [k] [.single k] { t with output := t.output ++ [.literal k] } where
  of := List.forall_mem_singleton.mpr (.single k)
  held := by rw [h]; rfl
  output := rfl

theorem consumes_release (m : KeyMap) (t : Typeahead) :
    Consumes m t [] (t.held.map .single) t.release where
  of := List.forall_mem_map.mpr fun k _ => .single k
  held := by
    rw [Segment.allKeys_map_single]
    rfl
  output := by rw [Segment.allStrokes_map_single, release]

/-! ### Settling -/

/-- The first keys that are settled are a segment: the longest left-hand side
that begins the keys, or their first key. -/
theorem exists_segment (m : KeyMap) (force : Bool) (k : Key) (ks : List Key) :
    settle m force (k :: ks) = (k :: ks, []) ∨
      ∃ seg : Segment, seg.Of m ∧ ∃ rest, k :: ks = seg.keys ++ rest ∧
        rest.length < (k :: ks).length ∧
        settle m force (k :: ks) = ahead seg.strokes (settle m force rest) := by
  rw [settle_cons]
  split
  · exact Or.inl rfl
  · right
    cases hl : m.longest? (k :: ks) with
    | none => exact ⟨.single k, .single k, ks, rfl, Nat.lt_succ_self _, rfl⟩
    | some p =>
      obtain ⟨n, e⟩ := p
      obtain ⟨lhs, hmem, hpre, hlen, -⟩ := (m.longest?_eq_iff _ _).mp hl
      obtain ⟨hpos, -⟩ := KeyMap.longest?_bounds hl
      have hrest : (k :: ks).drop n = ks.drop (n - 1) := by
        obtain ⟨n, rfl⟩ : ∃ j, n = j + 1 := ⟨n - 1, by omega⟩
        rfl
      refine ⟨⟨lhs, e.strokes⟩, .mapped ((m.mem_entries_iff lhs e).mp hmem), ks.drop (n - 1), ?_,
        length_drop_lt k ks (n - 1), rfl⟩
      rw [← hrest, ← hlen]
      exact (List.prefix_iff_eq_append.mp hpre).symm

/-- **Settling takes segments off the front**, under any map. -/
theorem exists_segments_settle (m : KeyMap) (force : Bool) : ∀ ks : List Key,
    ∃ segs : List Segment, (∀ seg ∈ segs, seg.Of m) ∧
      ks = allKeys segs ++ (settle m force ks).1 ∧ (settle m force ks).2 = allStrokes segs
  | [] => ⟨[], nofun, by rw [settle]; rfl, by rw [settle]; rfl⟩
  | k :: ks => by
    rcases exists_segment m force k ks with hstop | ⟨seg, hseg, rest, hkeys, hlt, hsettle⟩
    · exact ⟨[], nofun, by rw [hstop]; rfl, by rw [hstop]; rfl⟩
    · obtain ⟨segs, hsegs, hrest, hout⟩ := exists_segments_settle m force rest
      refine ⟨seg :: segs, List.forall_mem_cons.mpr ⟨hseg, hsegs⟩, ?_, ?_⟩
      · rw [hsettle, hkeys]
        show seg.keys ++ rest = seg.keys ++ allKeys segs ++ (settle m force rest).1
        rw [List.append_assoc, ← hrest]
      · rw [hsettle]
        show seg.strokes ++ (settle m force rest).2 = seg.strokes ++ allStrokes segs
        rw [hout]
  termination_by ks => ks.length
  decreasing_by exact hlt

theorem exists_consumes_settleOn (m : KeyMap) (t : Typeahead) (force : Bool) :
    ∃ segs, Consumes m t [] segs (t.settleOn m force).1 := by
  obtain ⟨segs, hsegs, hkeys, hout⟩ := exists_segments_settle m force t.held
  refine ⟨segs, hsegs, ?_, ?_⟩
  · rw [settleOn_fst, List.append_nil]
    exact hkeys
  · rw [settleOn_fst, ← hout]

theorem balanced_settleOn (h : t.map ≠ none) (m : KeyMap) (force : Bool) :
    (t.settleOn m force).1.Balanced := by
  unfold Balanced
  rw [settleOn_fst]
  by_cases hnil : (settle m force t.held).1 = []
  · simp [hnil]
  · simp [hnil, h]

/-! ### Keys -/

/-- Keys that stay held back for another map come out before anything else. -/
theorem exists_consumes_leave (m : KeyMap) (h : t.Balanced) (name : MapName) :
    ∃ segs, Consumes m t [] segs (if t.strandedFrom name then t.release else t) ∧
      (if t.strandedFrom name then t.release else t).Balanced := by
  split
  · exact ⟨_, consumes_release m t, iff_of_true rfl rfl⟩
  · exact ⟨[], ⟨nofun, List.append_nil _, (List.append_nil _).symm⟩, h⟩

/-- A key that is free leaves all as it was, for there were no keys held
back. -/
theorem press_of_free (h : t.Balanced) {k : Key} (hfree : (t.press m k).2 = .free) :
    (t.press m k).1 = t := by
  unfold press at hfree ⊢
  cases hstranded : t.strandedFrom m.name with
  | true =>
    -- what is released then waits in the queue, so the key is not free
    have hmap : t.map ≠ none := by
      intro hnone
      simp [strandedFrom, hnone] at hstranded
    have hheld : t.held ≠ [] := fun hnil => hmap (h.mp hnil)
    have hqueue : t.release.output.isEmpty = false := by simp [release, hheld]
    simp only [hstranded, if_true, hqueue, Bool.and_false, Bool.false_and, Bool.false_eq_true,
      if_false] at hfree
    exact absurd hfree (settleOn_ne_free _ _ _)
  | false =>
    simp only [hstranded, Bool.false_eq_true, if_false] at hfree ⊢
    split
    · rfl
    · next hno =>
      rw [if_neg hno] at hfree
      exact absurd hfree (settleOn_ne_free _ _ _)

/-- **A key that is typed** is accepted behind those held back, unless it is
free. -/
theorem exists_consumes_press (h : t.Balanced) {k : Key} (hk : (t.press m k).2 ≠ .free) :
    ∃ segs, Consumes m t [k] segs (t.press m k).1 ∧ (t.press m k).1.Balanced := by
  obtain ⟨segs, hleave, -⟩ := exists_consumes_leave m h m.name
  unfold press at hk ⊢
  generalize (if t.strandedFrom m.name then t.release else t) = t₁ at hleave hk ⊢
  simp only at hk ⊢
  split
  · next hfree =>
    rw [if_pos hfree] at hk
    exact absurd rfl hk
  · have hhold := consumes_hold m t₁ k (some m.name)
    obtain ⟨segs', hsettle⟩ := exists_consumes_settleOn m
      { t₁ with held := t₁.held ++ [k], map := some m.name } false
    exact ⟨_, (hleave.trans hhold).trans hsettle, balanced_settleOn (Option.some_ne_none _) m false⟩

/-- **A key that is not to be mapped** ends the keys held back and follows
them, unless there are none. -/
theorem exists_consumes_literal (h : t.Balanced) {k : Key} (hk : (t.literal m k).2 ≠ .free) :
    ∃ segs, Consumes m t [k] segs (t.literal m k).1 ∧ (t.literal m k).1.Balanced := by
  unfold literal at hk ⊢
  by_cases hnil : t.held = []
  · simp [hnil] at hk
  · have hmap : t.map ≠ none := fun hnone => hnil (h.mpr hnone)
    have hends : ∃ segs, Consumes m t [] segs
        (if t.strandedFrom m.name then t.release else (t.settleOn m true).1) ∧
          (if t.strandedFrom m.name then t.release else (t.settleOn m true).1).Balanced ∧
          (if t.strandedFrom m.name then t.release else (t.settleOn m true).1).held = [] := by
      split
      · exact ⟨_, consumes_release m t, iff_of_true rfl rfl, rfl⟩
      · obtain ⟨segs, hsettle⟩ := exists_consumes_settleOn m t true
        refine ⟨segs, hsettle, balanced_settleOn hmap m true, ?_⟩
        rw [settleOn_fst, settle_force]
    obtain ⟨segs, hends, hbalanced, hheld⟩ := hends
    simp only [List.isEmpty_iff, hnil, if_false]
    exact ⟨_, hends.trans (consumes_pass m hheld k), hbalanced⟩

/-- When no more keys are to come, those held back come out. -/
theorem exists_consumes_flush (m : KeyMap) (h : t.Balanced) :
    ∃ segs, Consumes m t [] segs (t.flush m).1 ∧ (t.flush m).1.Balanced := by
  unfold flush
  by_cases hnil : t.held = []
  · simp only [List.isEmpty_iff, hnil, if_true]
    exact ⟨[], ⟨nofun, List.append_nil _, (List.append_nil _).symm⟩, h⟩
  · have hmap : t.map ≠ none := fun hnone => hnil (h.mpr hnone)
    obtain ⟨segs, hsettle⟩ := exists_consumes_settleOn m t true
    simp only [List.isEmpty_iff, hnil, if_false]
    exact ⟨segs, hsettle, balanced_settleOn hmap m true⟩

/-! ### Actions -/

/-- What can be done with the keys typed ahead, each time with a map of its
own. -/
inductive Action where
  | press (m : KeyMap) (k : Key)
  | literal (m : KeyMap) (k : Key)
  | flush (m : KeyMap)
  | take
  deriving DecidableEq, Repr

namespace Action

/-- The map that an action is done with. -/
def map? : Action → Option KeyMap
  | press m _ | literal m _ | flush m => some m
  | take => none

/-- The action may take these segments: they are segments of its own map. -/
def Takes (a : Action) (segs : List Segment) : Prop :=
  ∀ seg ∈ segs, ∃ m, a.map? = some m ∧ seg.Of m

end Action

/-- The keys typed ahead, the keys accepted so far, and the strokes taken out
of the queue so far. -/
structure Ledger where
  typeahead : Typeahead := {}
  accepted : List Key := []
  taken : List Stroke := []

namespace Ledger

/-- All strokes that have ever been queued. -/
def queued (l : Ledger) : List Stroke := l.taken ++ l.typeahead.output

/-- A key has been dealt with. It counts as accepted unless it is free. -/
def enter (l : Ledger) (k : Key) : Typeahead × KeyFate → Ledger
  | (t, .free) => { l with typeahead := t }
  | (t, _) => { l with typeahead := t, accepted := l.accepted ++ [k] }

/-- An action is done. -/
def next (l : Ledger) : Action → Ledger
  | .press m k => l.enter k (l.typeahead.press m k)
  | .literal m k => l.enter k (l.typeahead.literal m k)
  | .flush m => { l with typeahead := (l.typeahead.flush m).1 }
  | .take => { l with typeahead := l.typeahead.take.1, taken := l.taken ++ l.typeahead.take.2 }

/-- Actions are done one after the other, beginning with nothing typed
ahead. -/
def run (as : List Action) : Ledger := as.foldl next {}

/-- The keys accepted are the segments and then the keys held back, and what
has been queued is what the segments stand for. -/
structure Accounts (l : Ledger) (segs : List Segment) : Prop where
  accepted : l.accepted = allKeys segs ++ l.typeahead.held
  queued : l.queued = allStrokes segs
  balanced : l.typeahead.Balanced

theorem accounts_nil : Accounts {} [] := ⟨rfl, rfl, iff_of_true rfl rfl⟩

/-- The account goes on with what one action consumes. -/
theorem Accounts.consumes {l l' : Ledger} {segs segs' : List Segment} {m : KeyMap} {ks : List Key}
    (h : l.Accounts segs) (hconsumes : Consumes m l.typeahead ks segs' l'.typeahead)
    (haccepted : l'.accepted = l.accepted ++ ks) (htaken : l'.taken = l.taken)
    (hbalanced : l'.typeahead.Balanced) : l'.Accounts (segs ++ segs') where
  accepted := by
    rw [haccepted, h.accepted, List.append_assoc, hconsumes.held, Segment.allKeys_append,
      List.append_assoc]
  queued := by
    have hqueued := h.queued
    unfold Ledger.queued at hqueued ⊢
    rw [htaken, hconsumes.output, ← List.append_assoc, hqueued, Segment.allStrokes_append]
  balanced := hbalanced

theorem enter_of_free {l : Ledger} {k : Key} {r : Typeahead × KeyFate} (h : r.2 = .free) :
    l.enter k r = { l with typeahead := r.1 } := by
  obtain ⟨t, fate⟩ := r
  cases h
  rfl

theorem enter_of_ne_free {l : Ledger} {k : Key} {r : Typeahead × KeyFate} (h : r.2 ≠ .free) :
    l.enter k r = { l with typeahead := r.1, accepted := l.accepted ++ [k] } := by
  obtain ⟨t, fate⟩ := r
  cases fate with
  | free => exact absurd rfl h
  | held => rfl
  | settled => rfl

/-- **An action keeps the account**, and what it takes are segments of its own
map. -/
theorem Accounts.next {l : Ledger} {segs : List Segment} (h : l.Accounts segs) (a : Action) :
    ∃ segs', a.Takes segs' ∧ (l.next a).Accounts (segs ++ segs') := by
  have hnothing : ∀ {t : Typeahead}, t = l.typeahead →
      Accounts { l with typeahead := t } (segs ++ []) := by
    rintro t rfl
    rw [List.append_nil]
    exact ⟨h.accepted, h.queued, h.balanced⟩
  cases a with
  | press m k =>
    by_cases hfree : (l.typeahead.press m k).2 = .free
    · refine ⟨[], nofun, ?_⟩
      rw [Ledger.next, enter_of_free hfree]
      exact hnothing (press_of_free h.balanced hfree)
    · obtain ⟨segs', hconsumes, hbalanced⟩ := exists_consumes_press h.balanced hfree
      refine ⟨segs', fun seg hseg => ⟨m, rfl, hconsumes.of seg hseg⟩, ?_⟩
      rw [Ledger.next, enter_of_ne_free hfree]
      exact h.consumes hconsumes rfl rfl hbalanced
  | literal m k =>
    by_cases hfree : (l.typeahead.literal m k).2 = .free
    · refine ⟨[], nofun, ?_⟩
      rw [Ledger.next, enter_of_free hfree]
      refine hnothing ?_
      unfold Typeahead.literal at hfree ⊢
      split
      · rfl
      · next hheld => simp [hheld] at hfree
    · obtain ⟨segs', hconsumes, hbalanced⟩ := exists_consumes_literal h.balanced hfree
      refine ⟨segs', fun seg hseg => ⟨m, rfl, hconsumes.of seg hseg⟩, ?_⟩
      rw [Ledger.next, enter_of_ne_free hfree]
      exact h.consumes hconsumes rfl rfl hbalanced
  | flush m =>
    obtain ⟨segs', hconsumes, hbalanced⟩ := exists_consumes_flush m h.balanced
    refine ⟨segs', fun seg hseg => ⟨m, rfl, hconsumes.of seg hseg⟩, ?_⟩
    exact h.consumes hconsumes (List.append_nil _).symm rfl hbalanced
  | take =>
    refine ⟨[], nofun, ?_⟩
    rw [List.append_nil]
    refine ⟨h.accepted, ?_, h.balanced⟩
    rw [← h.queued]
    exact List.append_nil _

/-- **No key is lost, and none out of order**, whatever is done and under
whatever maps. Each action takes segments of its own map, and at any time the
keys accepted are the segments of the actions so far, in order, and the keys
held back; what has been queued is what these segments stand for. -/
theorem accounts_run (as : List Action) :
    ∃ segs : List (List Segment), List.Forall₂ Action.Takes as segs ∧
      ∀ n ≤ as.length, (run (as.take n)).Accounts (segs.take n).flatten := by
  induction as using List.reverseRecOn with
  | nil =>
    refine ⟨[], .nil, fun n _ => ?_⟩
    rw [List.take_nil, List.take_nil]
    exact accounts_nil
  | append_singleton as a ih =>
    obtain ⟨segs, htakes, hall⟩ := ih
    have hlen : as.length = segs.length := htakes.length_eq
    have hbefore : (run as).Accounts segs.flatten := by
      have hwhole := hall as.length (Nat.le_refl _)
      rwa [List.take_length, hlen, List.take_length] at hwhole
    obtain ⟨segs', htakes', hafter⟩ := hbefore.next a
    refine ⟨segs ++ [segs'], List.rel_append htakes (.cons htakes' .nil), fun n hn => ?_⟩
    by_cases hle : n ≤ as.length
    · rw [List.take_append_of_le_length hle, List.take_append_of_le_length (hlen ▸ hle)]
      exact hall n hle
    · obtain rfl : n = (as ++ [a]).length := by
        rw [List.length_append, List.length_singleton] at hn ⊢
        omega
      have hsegs : (as ++ [a]).length = (segs ++ [segs']).length := by
        rw [List.length_append, List.length_append, hlen]
        rfl
      have hrun : run (as ++ [a]) = (run as).next a := by
        rw [run, List.foldl_append]
        rfl
      rw [List.take_length, hsegs, List.take_length, List.flatten_append, hrun]
      simpa using hafter

end Ledger
end Typeahead
end Keywise
