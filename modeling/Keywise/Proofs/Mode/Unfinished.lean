/-
# What a key leaves of a command typed in part

A key goes on with a command, or it ends it (`Normal.Extends`): a digit, a
register, an operator, the first of two keys. A key that goes on with a
command does nothing else (`Normal.Extends.handle`); after any other key
nothing of a command has been typed (`Normal.fst_handle`), whether the
command was carried out, failed, or was none.

There is one exception. Characters that are replaced end a command, but a
register that was named for it stays named, and the next command gets it
(`Normal.replaces`).

Key definitions: `Normal.Extends`, `Normal.replaces`.
Key theorems: `Normal.Extends.handle`, `Normal.outcome_attempt`,
`Normal.fst_handle`.
-/
import Keywise.Proofs.Mode.Resting

namespace Keywise
namespace Normal

/-- A key goes on with a command: what the parser keeps then. All that was
typed before is kept. -/
inductive Extends (s : Normal) (k : Key) : Normal → Prop
  | digit (c : Char) (d : Nat) : k.char? = some c → s.awaiting = .command → s.operator = none →
      Count.digit? s.count c = some d →
      Extends s k { s with count := some (Count.addDigit s.count d) }
  | registerPrefix : k.char? = some '"' → s.awaiting = .command → s.operator = none →
      Extends s k { s with awaiting := .registerName }
  | registerName (c : Char) : k.char? = some c → s.awaiting = .registerName →
      isRegisterName c = true → Extends s k { s with awaiting := .command, register := some c }
  /-- The prefix was followed by what names no register, and is ignored. -/
  | noRegister (c : Char) : k.char? = some c → s.awaiting = .registerName →
      isRegisterName c = false → Extends s k { s with awaiting := .command }
  | operator (c : Char) (op : Operator) : k.char? = some c → s.awaiting = .command →
      s.operator = none → Operator.ofChar? c = some op → Extends s k { s with operator := some op }
  | operandDigit (op : Operator) (c : Char) (d : Nat) : k.char? = some c → s.awaiting = .command →
      s.operator = some op → Count.digit? s.operandCount c = some d →
      Extends s k { s with operandCount := some (Count.addDigit s.operandCount d) }
  | object (op : Operator) (outer : Bool) : k.char? = some (if outer then 'a' else 'i') →
      s.awaiting = .command → s.operator = some op →
      Extends s k { s with awaiting := .object outer }
  | lead (c : Char) (lead : MotionLead) : k.char? = some c → s.awaiting = .command →
      MotionLead.ofChar? c = some lead → Extends s k { s with awaiting := .motion lead }
  | replacement : k.char? = some 'r' → s.awaiting = .command → s.operator = none →
      Extends s k { count := s.total, register := s.register, awaiting := .replacement }

/-- Whether the key replaces characters. -/
def replaces (s : Normal) (e : Editor) (k : Key) : Bool :=
  s.awaiting == .replacement && k.char?.isSome && e.cursor + s.total.getD 1 ≤ e.line.stop

variable {s s' : Normal} {e : Editor} {k : Key}

/-! ### Keys that go on with a command -/

theorem readMotion_of_lead {c : Char} {lead : MotionLead} (h : MotionLead.ofChar? c = some lead)
    (r : Registers) : c ≠ '"' ∧ (∀ count, Count.digit? count c = none) ∧
      Operator.ofChar? c = none ∧ c ≠ 'i' ∧ c ≠ 'a' ∧ (∀ op : Operator, c ≠ op.char) ∧
      readMotion r none c = .ok (.more lead) := by
  unfold MotionLead.ofChar? at h
  split at h
  all_goals
    first
    | obtain rfl := Option.some.inj h
      exact ⟨by decide, fun _ => rfl, rfl, by decide, by decide, by rintro ⟨⟩ <;> decide, rfl⟩
    | cases h

theorem attempt_of_char {c : Char} (hk : k.char? = some c) (hs : s.awaiting = .command) :
    s.attempt e k = readAny s e c := by
  unfold attempt
  rw [if_neg (code_ne_escape hk)]
  simp only [hk, hs]

theorem attempt_of_motion {c : Char} {m : Motion} (hk : k.char? = some c)
    (hs : s.awaiting = .command) (hop : s.operator = none) (hquote : c ≠ '"')
    (hdigit : ∀ count, Count.digit? count c = none) (hchar : Operator.ofChar? c = none)
    (hmotion : ∀ r, readMotion r none c = .ok (.motion m)) :
    s.attempt e k = finish (e.follow m s.total) := by
  rw [attempt_of_char hk hs]
  simp only [readAny, hop, if_neg hquote, hdigit, hchar, readChar, hmotion, runMotion]

/-- **A key that goes on with a command** does nothing else. -/
theorem Extends.attempt (h : Extends s k s') (e : Editor) : s.attempt e k = (s', e, .ok true) := by
  cases h with
  | digit c d hk hs hop hd =>
    have hquote : c ≠ '"' := by
      rintro rfl
      cases hd
    rw [attempt_of_char hk hs]
    simp only [readAny, hop, if_neg hquote, hd]
  | registerPrefix hk hs hop =>
    rw [attempt_of_char hk hs]
    simp only [readAny, hop, if_true]
  | registerName c hk hs hc =>
    unfold Normal.attempt
    rw [if_neg (code_ne_escape hk)]
    simp only [hk, hs, hc, if_true]
  | noRegister c hk hs hc =>
    unfold Normal.attempt
    rw [if_neg (code_ne_escape hk)]
    simp only [hk, hs, hc, Bool.false_eq_true, if_false]
  | operator c op hk hs hop hc =>
    have hquote : c ≠ '"' := by
      rintro rfl
      cases hc
    have hdigit : Count.digit? s.count c = none := by
      unfold Operator.ofChar? at hc
      split at hc
      all_goals first | rfl | cases hc
    rw [attempt_of_char hk hs]
    simp only [readAny, hop, if_neg hquote, hdigit, hc]
  | operandDigit op c d hk hs hop hd =>
    rw [attempt_of_char hk hs]
    simp only [readAny, hop, hd]
  | object op outer hk hs hop =>
    rw [attempt_of_char hk hs]
    cases outer <;> cases op <;> simp only [readAny, hop] <;> rfl
  | lead c lead hk hs hlead =>
    obtain ⟨hquote, hdigit, hop, hi, ha, hchar, hread⟩ := readMotion_of_lead hlead e.registers
    rw [attempt_of_char hk hs]
    unfold readAny
    split
    · simp only [if_neg hquote, hdigit, hop, readChar, hread]
    · simp only [hdigit, if_neg (hchar _), hi, ha, or_self, if_false, readChar, hread]
  | replacement hk hs hop =>
    rw [attempt_of_command hs hop hk (by decide) (fun _ => rfl) rfl fun _ => rfl]
    rfl

theorem Extends.handle (h : Extends s k s') (e : Editor) : s.handle e k = (s', e, true) := by
  unfold Normal.handle
  rw [h.attempt e]

/-! ### Keys that end a command -/

/-- What becomes of a command with a key: it is gone on with, or ended, or it
fails. -/
inductive Outcome (s : Normal) (e : Editor) (k : Key) : Reply → Prop
  | goesOn (s' : Normal) : Extends s k s' → Outcome s e k (s', e, .ok true)
  | ends (e' : Editor) (used : Bool) : s.replaces e k = false →
      Outcome s e k (idle, e', .ok used)
  | replaces (e' : Editor) : s.replaces e k = true →
      Outcome s e k ({ register := s.register }, e', .ok true)
  | fails (s' : Normal) (e' : Editor) (err : CommandError) : s.replaces e k = false →
      Outcome s e k (s', e', .error err)

theorem Outcome.finish (h : s.replaces e k = false) (p : Editor × Option CommandError) :
    Outcome s e k (finish p) := by
  obtain ⟨e', _ | err⟩ := p
  · exact .ends e' true h
  · exact .fails idle e' err h

theorem Outcome.runMotion (h : s.replaces e k = false) (m : Motion) :
    Outcome s e k (runMotion s e m) := by
  unfold Normal.runMotion
  split
  · exact .finish h _
  · next op _ =>
    generalize operandMotion op e m = ms
    obtain ⟨m', stop⟩ := ms
    simp only
    rcases (TextObject.motion m').region e s.total with ⟨e', err | r⟩
    · exact .finish h _
    · exact .finish h _

theorem outcome_runReplacement {c : Char} (hs : s.awaiting = .replacement)
    (hk : k.char? = some c) : Outcome s e k (runReplacement s e c) := by
  have hrep : s.replaces e k = decide (e.cursor + s.total.getD 1 ≤ e.line.stop) := by
    simp [replaces, hs, hk]
  unfold runReplacement
  by_cases hle : e.cursor + s.total.getD 1 > e.line.stop
  · have hfails : replaceChars e c (s.total.getD 1) = (e, some (.pastLineEnd "replace")) :=
      if_pos hle
    rw [hfails]
    exact .finish (by rw [hrep]; exact decide_eq_false (Nat.not_le.mpr hle)) _
  · have hdone : ∃ e', replaceChars e c (s.total.getD 1) = (e', none) := ⟨_, if_neg hle⟩
    obtain ⟨e', hdone⟩ := hdone
    rw [hdone]
    exact .replaces e' (by rw [hrep]; exact decide_eq_true (Nat.not_lt.mp hle))

theorem outcome_runObject (h : s.replaces e k = false) (outer : Bool) (c : Char) :
    Outcome s e k (runObject s e outer c) := by
  unfold runObject
  split
  · exact .finish h _
  · exact .ends e false h

/-- The key `r` goes on with a command, all others end it. -/
theorem outcome_runCommand (h : s.replaces e k = false) {c : Char}
    (hr : c = 'r' → Outcome s e k (runCommand s e 'r')) : Outcome s e k (runCommand s e c) := by
  by_cases hc : c = 'r'
  · subst hc
    exact hr rfl
  · unfold runCommand
    simp only
    split
    all_goals
      first
      | exact .finish h _
      | exact .ends e false h
      | exact absurd rfl hc

theorem lead_of_readMotion {r : Registers} {lead : Option MotionLead} {c : Char}
    {lead' : MotionLead} (h : readMotion r lead c = .ok (.more lead')) :
    lead = none ∧ MotionLead.ofChar? c = some lead' := by
  unfold readMotion at h
  split at h
  · split at h <;> cases h
  · refine ⟨rfl, ?_⟩
    split at h
    · cases h
    · cases h
    · split at h
      · next hlead =>
        cases h
        exact hlead
      · cases h

theorem outcome_readChar (h : s.replaces e k = false) {c : Char} {lead : Option MotionLead}
    (hk : k.char? = some c) (hs : lead = none → s.awaiting = .command) :
    Outcome s e k (readChar s e lead c) := by
  unfold readChar
  split
  · exact .finish h _
  · next lead' hread =>
    obtain ⟨rfl, hlead⟩ := lead_of_readMotion hread
    exact .goesOn _ (.lead c lead' hk (hs rfl) hlead)
  · exact .runMotion h _
  · split
    · exact .ends e false h
    · next hno =>
      simp only [Bool.or_eq_true, not_or, Option.not_isSome_iff_eq_none] at hno
      refine outcome_runCommand h ?_
      rintro rfl
      exact .goesOn _ (.replacement hk (hs hno.2) hno.1)

theorem outcome_readAny (h : s.replaces e k = false) {c : Char} (hk : k.char? = some c)
    (hs : s.awaiting = .command) : Outcome s e k (readAny s e c) := by
  have hread : Outcome s e k (readChar s e none c) := outcome_readChar h hk fun _ => hs
  unfold readAny
  split
  · next hop =>
    split
    · next hc => exact .goesOn _ (.registerPrefix (hc ▸ hk) hs hop)
    · split
      · next d hd => exact .goesOn _ (.digit c d hk hs hop hd)
      · split
        · next op hc => exact .goesOn _ (.operator c op hk hs hop hc)
        · exact hread
  · next op hop =>
    split
    · next d hd => exact .goesOn _ (.operandDigit op c d hk hs hop hd)
    · split
      · exact .finish h _
      · split
        · next hc =>
          rcases hc with rfl | rfl
          · exact .goesOn _ (.object op false hk hs hop)
          · exact .goesOn _ (.object op true hk hs hop)
        · exact hread

theorem outcome_special (h : s.replaces e k = false) :
    Outcome s e k (special s e k) := by
  unfold special
  split
  · exact outcome_runCommand h fun hc => absurd hc (by decide)
  · split
    · exact .runMotion h _
    · exact .ends e false h

/-- **A key** goes on with a command, or ends it, or replaces characters. -/
theorem outcome_attempt (s : Normal) (e : Editor) (k : Key) : Outcome s e k (s.attempt e k) := by
  have hother : s.awaiting ≠ .replacement → s.replaces e k = false := by
    intro hs
    simp [replaces, hs]
  have hnone : k.char? = none → s.replaces e k = false := by
    intro hk
    simp [replaces, hk]
  unfold attempt
  split
  · next hesc =>
    refine .ends e true (hnone ?_)
    unfold Key.char?
    rw [hesc]
  · split
    · next hk => exact outcome_special (hnone hk)
    · next c hk =>
      split
      · next hs =>
        by_cases hc : isRegisterName c = true
        · rw [if_pos hc]
          exact .goesOn _ (.registerName c hk hs hc)
        · rw [if_neg hc]
          exact .goesOn _ (.noRegister c hk hs (Bool.not_eq_true _ ▸ hc))
      · next hs => exact outcome_runReplacement hs hk
      · next outer hs => exact outcome_runObject (hother (by rw [hs]; exact nofun)) outer c
      · next lead hs =>
        exact outcome_readChar (hother (by rw [hs]; exact nofun)) hk fun hn => nomatch hn
      · next hs => exact outcome_readAny (hother (by rw [hs]; exact nofun)) hk hs

/-- **After a key that does not go on with a command** nothing of one has been
typed, but that a register stays named when characters are replaced. -/
theorem fst_handle (hk : ∀ s', ¬ Extends s k s') (e : Editor) :
    (s.handle e k).1 = if s.replaces e k then { register := s.register } else idle := by
  have houtcome := outcome_attempt s e k
  unfold Normal.handle
  generalize s.attempt e k = reply at houtcome
  cases houtcome with
  | goesOn s' h => exact absurd h (hk s')
  | ends e' used h => rw [h]; rfl
  | replaces e' h => rw [h]; rfl
  | fails s' e' err h => rw [h]; rfl

end Normal
end Keywise
