/-
# What a key comes to in Normal and Visual mode

A key is read as part of a command, or it completes one: a motion is
followed, an operator applied, text put or replaced, text is to be typed, or
another mode is asked for. A command that fails has recorded a character
search at most. The parsers of the two modes do nothing else
(`Normal.effect_attempt`, `Visual.effect_attempt`), so what is to hold of
every key is proved of these cases.

Key definitions: `Normal.Effect`, `Normal.Counted`, `Normal.side?`,
`Visual.Effect`.
Key theorems: `Normal.effect_attempt`, `Visual.effect_attempt`.
-/
import Keywise.Mode.Visual
import Keywise.Proofs.Editor.Edited

namespace Keywise

/-! ### Counts -/

theorem Count.addDigit_ne_zero {count : Option Nat} {c : Char} {d : Nat}
    (h : Count.digit? count c = some d) (hcount : count ≠ some 0) : Count.addDigit count d ≠ 0 := by
  unfold digit? at h
  split at h
  · next hc =>
    simp only [Bool.and_eq_true, Bool.or_eq_true, bne_iff_ne] at hc
    obtain ⟨hdigit, hzero⟩ := hc
    have hd : c.toNat - '0'.toNat = d := Option.some.inj h
    unfold addDigit limit
    cases count with
    | some n =>
      have hn : n ≠ 0 := fun hn => hcount (by rw [hn])
      simp only [Option.getD_some]
      omega
    | none =>
      have hc0 : c ≠ '0' := by simpa using hzero
      have hne : c.toNat ≠ 48 := fun hn => hc0 (Char.toNat_inj.mp hn)
      have hle : 48 ≤ c.toNat := by
        rw [Char.isDigit_iff_toNat] at hdigit
        exact hdigit.1
      have h48 : '0'.toNat = 48 := rfl
      simp only [Option.getD_none]
      omega
  · cases h

theorem Count.product_ne_zero {a b : Option Nat} (ha : a ≠ some 0) (hb : b ≠ some 0) :
    Count.product a b ≠ some 0 := by
  have hpos : ∀ {a : Option Nat}, a ≠ some 0 → 0 < a.getD 1 := by
    intro a ha
    cases a with
    | none => exact Nat.one_pos
    | some n => exact Nat.pos_of_ne_zero fun hn => ha (congrArg some hn)
  have hmul : 0 < a.getD 1 * b.getD 1 := Nat.mul_pos (hpos ha) (hpos hb)
  unfold product
  split
  · exact nofun
  · intro h
    have hmin : min (a.getD 1 * b.getD 1) limit = 0 := Option.some.inj h
    unfold limit at hmin
    omega

/-! ### Normal mode -/

namespace Normal

/-- No count typed is zero. -/
def Counted (s : Normal) : Prop := s.count ≠ some 0 ∧ s.operandCount ≠ some 0

theorem counted_idle : Counted idle := ⟨Option.some_ne_none 0 |>.symm, Option.some_ne_none 0 |>.symm⟩

theorem Counted.total_ne_zero {s : Normal} (h : s.Counted) : s.total ≠ some 0 :=
  Count.product_ne_zero h.1 h.2

/-- The side on which a key puts text. -/
def side? (s : Normal) (k : Key) : Option PutSide :=
  if s.awaiting = .command ∧ s.operator = none then
    match k.char? with
    | some 'p' => some .after
    | some 'P' => some .before
    | _ => none
  else none

/-- The modes that commands ask for. -/
def asked : List ModeName := [.insert, .replace, .visual, .linewiseVisual, .command, .search]

/-- What a key comes to. -/
inductive Effect (s : Normal) (e : Editor) (k : Key) : Reply → Prop
  /-- It is read, and nothing is done yet. -/
  | reads (s' : Normal) (used : Bool) : (s.Counted → s'.Counted) → Effect s e k (s', e, .ok used)
  | follows (m : Motion) (e' : Editor) : e.follow m s.total = (e', none) →
      Effect s e k (idle, e', .ok true)
  | operates (op : Operator) (find : Option CharSearch) (r : Range) (kind : TextKind) :
      Effect s e k (idle, operate op (e.remember find) r kind s.register, .ok true)
  | puts (side : PutSide) (e' : Editor) : s.side? k = some side →
      e.put s.register (s.total.getD 1) side = .ok e' → Effect s e k (idle, e', .ok true)
  | replaces (c : Char) (e' : Editor) : s.awaiting = .replacement → k.char? = some c →
      replaceChars e c (s.total.getD 1) = (e', none) →
      Effect s e k ({ register := s.register }, e', .ok true)
  /-- Text is to be typed, perhaps on a line of its own. -/
  | types (start : Nat) (new : Text) (p : Nat) :
      Effect s e k (idle, ((e.replace start 0 new).moveTo p .column).request .insert [], .ok true)
  | asks (name : ModeName) (args : List ModeArg) : name ∈ asked → (∀ p, .anchor p ∉ args) →
      Effect s e k (idle, e.request name args, .ok true)
  | fails (s' : Normal) (find : Option CharSearch) (err : CommandError) :
      Effect s e k (s', e.remember find, .error err)

variable {s : Normal} {e : Editor} {k : Key}

theorem Effect.nothing (used : Bool) : Effect s e k (idle, e, .ok used) :=
  .reads idle used fun _ => counted_idle

theorem operateOn_cases (op : Operator) (e : Editor) (o : TextObject) (count : Option Nat)
    (register : Option Char) :
    ∃ find, (∃ r, operateOn op e o count register =
        (operate op (e.remember find) r o.kind register, none)) ∨
      ∃ err, operateOn op e o count register = (e.remember find, some err) := by
  obtain ⟨find, hfind⟩ := o.exists_remember_region e count
  refine ⟨find, ?_⟩
  unfold operateOn Editor.operate
  rcases hregion : o.region e count with ⟨e', err | r⟩
  · obtain rfl : e' = e.remember find := by rw [← hfind, hregion]
    exact Or.inr ⟨err, rfl⟩
  · obtain rfl : e' = e.remember find := by rw [← hfind, hregion]
    exact Or.inl ⟨r, rfl⟩

theorem effect_operateOn (op : Operator) (o : TextObject) :
    Effect s e k (finish (operateOn op e o s.total s.register)) := by
  obtain ⟨find, ⟨r, hr⟩ | ⟨err, herr⟩⟩ := operateOn_cases op e o s.total s.register
  · rw [hr]
    exact .operates op find r o.kind
  · rw [herr]
    exact .fails idle find err

theorem effect_runMotion (m : Motion) : Effect s e k (runMotion s e m) := by
  unfold runMotion
  split
  · rcases hfollow : e.follow m s.total with ⟨e', _ | err⟩
    · exact .follows m e' hfollow
    · rw [Editor.follow_error hfollow]
      exact .fails idle _ err
  · next op _ =>
    generalize operandMotion op e m = ms
    obtain ⟨m', stop⟩ := ms
    obtain ⟨find, hfind⟩ := (TextObject.motion m').exists_remember_region e s.total
    simp only
    rcases hregion : (TextObject.motion m').region e s.total with ⟨e', err | r⟩
    · obtain rfl : e' = e.remember find := by rw [← hfind, hregion]
      exact .fails idle find err
    · obtain rfl : e' = e.remember find := by rw [← hfind, hregion]
      exact .operates op find _ _

theorem effect_runObject (outer : Bool) (c : Char) : Effect s e k (runObject s e outer c) := by
  unfold runObject
  split
  · exact effect_operateOn _ _
  · exact .nothing false

theorem effect_runReplacement {c : Char} (hs : s.awaiting = .replacement)
    (hk : k.char? = some c) : Effect s e k (runReplacement s e c) := by
  unfold runReplacement
  rcases hreplace : replaceChars e c (s.total.getD 1) with ⟨e', _ | err⟩
  · exact .replaces c e' hs hk hreplace
  · obtain rfl : e' = e := by
      unfold replaceChars at hreplace
      split at hreplace
      · exact (Prod.mk.inj hreplace).1.symm
      · cases hreplace
    exact .fails idle none err

theorem effect_put {side : PutSide} (h : s.side? k = some side) :
    Effect s e k (finish (put e s.register (s.total.getD 1) side)) := by
  unfold put
  cases hput : e.put s.register (s.total.getD 1) side with
  | ok e' => exact .puts side e' h hput
  | error err => exact .fails idle none err

theorem effect_typeAt (p : Nat) : Effect s e k (finish (typeAt e p)) := by
  have hsame : e.replace 0 0 [] = e := by
    unfold Editor.replace
    rw [Text.splice_nil]
  have htypes : Effect s e k _ := .types 0 [] p
  rw [hsame] at htypes
  exact htypes

/-- A character that is no motion. It puts text only if it is the key for
that. -/
theorem effect_runCommand {c : Char} (hafter : c = 'p' → s.side? k = some .after)
    (hbefore : c = 'P' → s.side? k = some .before) : Effect s e k (runCommand s e c) := by
  have hask : ∀ {name args}, name ∈ asked → (∀ p, .anchor p ∉ args) →
      Effect s e k (finish (e.request name args, none)) := fun h h' => .asks _ _ h h'
  have hcut : ∀ r : Range, Effect s e k
      (finish (if r.length = 0 then e else operate .delete e r .text s.register, none)) := by
    intro r
    split
    · exact .nothing true
    · exact .operates .delete none r .text
  unfold runCommand
  simp only
  split
  · exact hcut _                                       -- x
  · exact .operates .change none _ .text               -- s
  · exact hcut _                                       -- X
  · exact effect_operateOn .delete _                   -- D
  · exact effect_operateOn .change _                   -- C
  · exact effect_put (hafter rfl)                      -- p
  · exact effect_put (hbefore rfl)                     -- P
  · exact .reads _ true fun h => ⟨h.total_ne_zero, Option.some_ne_none 0 |>.symm⟩  -- r
  · exact hask (by decide) (by simp)                   -- i
  · exact effect_typeAt _                              -- a
  · exact effect_typeAt _                              -- I
  · exact effect_typeAt _                              -- A
  · exact .types _ _ _                                 -- o
  · exact .types _ _ _                                 -- O
  · exact hask (by decide) (by simp)                   -- R
  · exact hask (by decide) (by simp)                   -- v
  · exact hask (by decide) (by simp)                   -- V
  · exact hask (by decide) (by simp)                   -- :
  · exact hask (by decide) (by simp)                   -- /
  · exact hask (by decide) (by simp)                   -- ?
  · exact .nothing false

theorem effect_readChar {c : Char} {lead : Option MotionLead} (hk : k.char? = some c)
    (hs : lead = none → s.awaiting = .command) : Effect s e k (readChar s e lead c) := by
  unfold readChar
  split
  · exact .fails idle none _
  · exact .reads _ true id
  · exact effect_runMotion _
  · split
    · exact .nothing false
    · next hno =>
      simp only [Bool.or_eq_true, not_or, Option.not_isSome_iff_eq_none] at hno
      have hidle : s.awaiting = .command ∧ s.operator = none := ⟨hs hno.2, hno.1⟩
      refine effect_runCommand ?_ ?_
      all_goals
        rintro rfl
        unfold side?
        rw [if_pos hidle, hk]
        rfl

theorem effect_readAny {c : Char} (hk : k.char? = some c) (hs : s.awaiting = .command) :
    Effect s e k (readAny s e c) := by
  unfold readAny
  split
  · split
    · exact .reads _ true id
    · split
      · next d hd =>
        refine .reads _ true fun h => ⟨fun h0 => ?_, h.2⟩
        exact Count.addDigit_ne_zero hd h.1 (Option.some.inj h0)
      · split
        · exact .reads _ true id
        · exact effect_readChar hk fun _ => hs
  · split
    · next d hd =>
      refine .reads _ true fun h => ⟨h.1, fun h0 => ?_⟩
      exact Count.addDigit_ne_zero hd h.2 (Option.some.inj h0)
    · split
      · exact effect_operateOn _ _
      · split
        · exact .reads _ true id
        · exact effect_readChar hk fun _ => hs

theorem effect_special : Effect s e k (special s e k) := by
  unfold special
  split
  · exact effect_runCommand (fun h => absurd h (by decide)) (fun h => absurd h (by decide))
  · split
    · exact effect_runMotion _
    · exact .nothing false

/-- **In Normal mode** a key comes to one of these. -/
theorem effect_attempt (s : Normal) (e : Editor) (k : Key) : Effect s e k (s.attempt e k) := by
  unfold attempt
  split
  · exact .nothing true
  · split
    · exact effect_special
    · next c hk =>
      split
      · exact .reads _ true id
      · next hs => exact effect_runReplacement hs hk
      · exact effect_runObject _ _
      · exact effect_readChar hk fun h => nomatch h
      · next hs => exact effect_readAny hk hs

end Normal

/-! ### Visual mode -/

namespace Visual

/-- What a key comes to. The kind of the selection stays. -/
inductive Effect (s : Visual) (e : Editor) : Reply → Prop
  /-- It is read, and nothing is done yet. -/
  | reads (s' : Visual) (used : Bool) : s'.kind = s.kind → Effect s e (s', e, .ok used)
  | follows (s' : Visual) (m : Motion) (e' : Editor) : s'.kind = s.kind →
      e.follow m s.count = (e', none) → Effect s e (s', s.followCursor e', .ok true)
  | operates (s' : Visual) (op : Operator) (wholeLines : Bool) : s'.kind = s.kind →
      Effect s e (s', operate e op wholeLines s.register, .ok true)
  | exchanges (s' : Visual) : s'.kind = s.kind → Effect s e (s', exchange e, .ok true)
  /-- The mode is left, to be gone on with for the other kind, or for another
  mode. -/
  | switches (s' : Visual) (kind : SelectionKind) : s'.kind = s.kind →
      Effect s e (s', s.switch e kind, .ok true)
  | leaves (s' : Visual) (name : ModeName) : s'.kind = s.kind → name ∈ [.normal, .command] →
      Effect s e (s', e.request name [], .ok true)
  | fails (s' : Visual) (find : Option CharSearch) (err : CommandError) : s'.kind = s.kind →
      Effect s e (s', e.remember find, .error err)

variable {s : Visual} {e : Editor}

/-- Whether the first key of the motion is still kept does not matter. -/
theorem effect_runMotion (lead : Option MotionLead) (m : Motion) :
    Effect s e (runMotion { s with lead } e m) := by
  unfold runMotion
  simp only
  rcases hfollow : e.follow m s.count with ⟨e', _ | err⟩
  · exact .follows _ m e' rfl hfollow
  · rw [Editor.follow_error hfollow]
    exact .fails _ _ err rfl

theorem effect_runCommand (c : Char) : Effect s e (runCommand s e c) := by
  unfold runCommand
  simp only
  split
  · exact .operates _ _ _ rfl
  · split
    · exact .exchanges _ rfl
    · exact .switches _ .characters rfl
    · exact .switches _ .lines rfl
    · exact .leaves _ .command rfl (by simp)
    · exact .reads _ false rfl

theorem effect_readChar (c : Char) : Effect s e (readChar s e c) := by
  unfold readChar
  split
  · exact .fails s none _ rfl
  · exact .reads _ true rfl
  · exact effect_runMotion none _
  · split
    · exact .reads _ false rfl
    · exact effect_runCommand c

theorem effect_readAny (c : Char) : Effect s e (readAny s e c) := by
  unfold readAny
  split
  · exact effect_readChar c
  · split
    · exact .reads _ true rfl
    · split
      · exact .reads _ true rfl
      · exact effect_readChar c

/-- **In Visual mode** a key comes to one of these. -/
theorem effect_attempt (s : Visual) (e : Editor) (k : Key) : Effect s e (s.attempt e k) := by
  unfold attempt
  split
  · exact .leaves s .normal rfl (by simp)
  · split
    · split
      · exact effect_runMotion s.lead _
      · exact .reads s false rfl
    · split
      · exact .reads _ true rfl
      · exact effect_readAny _

end Visual
end Keywise
