/-
# Registers and their history

What registers read can be told from the writes alone, however many there
were (`Registers.recalls_written`). Each write leaves something: what it was
given or, under a capital letter whose register holds something already, that
with more appended; only the black hole leaves nothing. The ring holds the
last ten things left, the newest first; the unnamed register reads the
newest, a digit the one with so many newer ones, a letter in either case what
the last write left that named it in either case, and no other name anything.

The history is followed from its beginning, one write at a time at its end
(`Registers.Agrees.write`). What a letter holds has to be known for any one
of them, since the next capital letter hands it to the ring and the unnamed
register too.

Key definitions: `RegisterWrite`, `RegisterWrite.holds`,
`RegisterWrite.payload`, `RegisterWrite.left`, `Registers.Recalls`.
Key theorems: `Registers.Agrees.write`, `Registers.recalls_written`.
-/
import Keywise.Register

namespace Keywise

/-- A write of content under a name, or under none. -/
structure RegisterWrite where
  name : Option Char
  content : Content
  deriving DecidableEq, Repr

namespace RegisterWrite

/-- Whether the write names the register of the small letter `l`, by that
letter or by the capital one. -/
def names (l : Char) (w : RegisterWrite) : Bool :=
  w.name.any fun c => c.isAlpha && c.toLower == l

/-- What the register of letter `l` holds if `ws` was left, the newest
first: the newest that names it. -/
def holds (ws : List RegisterWrite) (l : Char) : Option Content :=
  (ws.find? (names l)).map (·.content)

/-- What a write leaves if `ws` was left before, the newest first. -/
def payload (ws : List RegisterWrite) (w : RegisterWrite) : Option Content :=
  match w.name with
  | none => some w.content
  | some c =>
    if c = '_' then none
    else if c.isUpper then
      match holds ws c.toLower with
      | some old =>
        some ⟨old.text ++ w.content.text,
          if old.kind = .lines ∨ w.content.kind = .lines then .lines else .text⟩
      | none => some w.content
    else some w.content

/-- What is left after one more write. -/
def record (ws : List RegisterWrite) (w : RegisterWrite) : List RegisterWrite :=
  match payload ws w with
  | some p => ⟨w.name, p⟩ :: ws
  | none => ws

/-- What the writes of a history, the oldest first, leave: the newest first,
each with its payload in the place of what it was given. -/
def left (h : List RegisterWrite) : List RegisterWrite := h.foldl record []

end RegisterWrite

namespace Registers

open RegisterWrite

/-- The registers after a history of writes, the oldest first. -/
def written (h : List RegisterWrite) : Registers :=
  h.foldl (fun r w => r.write w.name w.content) empty

/-- What the registers read if `ws` was left, the newest first. -/
structure Recalls (ws : List RegisterWrite) (r : Registers) : Prop where
  /-- The ring holds the last ten payloads. -/
  ring : r.ring = (ws.map (·.content)).take 10
  /-- The unnamed register reads the newest payload. -/
  unnamed : r.read none = ws.head?.map (·.content)
  quote : r.read (some '"') = ws.head?.map (·.content)
  zero : r.read (some '0') = ws.head?.map (·.content)
  /-- A digit reads the payload with so many newer ones. -/
  digit : ∀ c, c.isDigit → r.read (some c) = (ws.map (·.content))[c.toNat - '0'.toNat]?
  /-- A letter reads the payload of the last write that named it. -/
  letter : ∀ c, c.isAlpha → r.read (some c) = holds ws c.toLower
  /-- Other names read nothing. -/
  other : ∀ c, c ≠ '"' → c.isDigit = false → c.isAlpha = false → r.read (some c) = none

/-! ### One more write -/

/-- What the registers hold is what was left. -/
structure Agrees (ws : List RegisterWrite) (r : Registers) : Prop where
  unnamed : r.unnamed = ws.head?.map (·.content)
  ring : r.ring = (ws.map (·.content)).take ringSize
  named : ∀ l, r.named l = holds ws l

theorem append_eq (old new : Content) : append old new =
    ⟨old.text ++ new.text, if old.kind = .lines ∨ new.kind = .lines then .lines else .text⟩ := by
  unfold append
  cases old.kind <;> cases new.kind <;> rfl

theorem Agrees.payload {ws : List RegisterWrite} {r : Registers} (h : Agrees ws r)
    (w : RegisterWrite) : r.payload w.name w.content = RegisterWrite.payload ws w := by
  unfold Registers.payload RegisterWrite.payload
  cases w.name with
  | none => rfl
  | some c =>
    simp only [h.named]
    cases holds ws c.toLower with
    | none => rfl
    | some old => simp only [append_eq]

theorem holds_cons (w : RegisterWrite) (ws : List RegisterWrite) (l : Char) :
    holds (w :: ws) l = if w.names l then some w.content else holds ws l := by
  unfold holds
  rw [List.find?_cons]
  cases w.names l <;> rfl

theorem named_write (r : Registers) (w : RegisterWrite) {p : Content}
    (hp : r.payload w.name w.content = some p) (l : Char) :
    (r.write w.name w.content).named l = if w.names l then some p else r.named l := by
  unfold write RegisterWrite.names
  rw [hp]
  cases w.name with
  | none => rfl
  | some c =>
    cases halpha : c.isAlpha with
    | false => simp [letter?, halpha]
    | true => simp [letter?, halpha, @eq_comm _ l]

/-- **One more write** leaves the registers in agreement with what was
left. -/
theorem Agrees.write {ws : List RegisterWrite} {r : Registers} (h : Agrees ws r)
    (w : RegisterWrite) : Agrees (record ws w) (r.write w.name w.content) := by
  have hpayload := h.payload w
  unfold record
  cases hp : RegisterWrite.payload ws w with
  | none =>
    rw [hp] at hpayload
    have hsame : r.write w.name w.content = r := by rw [Registers.write, hpayload]
    rw [hsame]
    exact h
  | some p =>
    rw [hp] at hpayload
    refine ⟨?_, ?_, fun l => ?_⟩
    · rw [Registers.write, hpayload]
      rfl
    · rw [Registers.write, hpayload]
      show (p :: r.ring).take ringSize = (p :: ws.map (·.content)).take ringSize
      rw [h.ring, ringSize, List.take_succ_cons, List.take_succ_cons, List.take_take]
      rfl
    · rw [named_write r w hpayload, h.named, holds_cons]
      rfl

theorem agrees_written (h : List RegisterWrite) : Agrees (left h) (written h) := by
  have hall : ∀ (h : List RegisterWrite) (ws : List RegisterWrite) (r : Registers), Agrees ws r →
      Agrees (h.foldl record ws) (h.foldl (fun r w => r.write w.name w.content) r) := by
    intro h
    induction h with
    | nil => exact fun _ _ hr => hr
    | cons w h ih => exact fun ws r hr => ih _ _ (hr.write w)
  exact hall h [] empty ⟨rfl, rfl, fun _ => rfl⟩

/-! ### What is read -/

theorem read_of_isDigit (r : Registers) {c : Char} (hc : c.isDigit) :
    r.read (some c) = r.ring[c.toNat - '0'.toNat]? := by
  have hquote : c ≠ '"' := by
    rintro rfl
    exact absurd hc (by decide)
  simp [read, hquote, hc]

theorem isDigit_eq_false_of_isAlpha {c : Char} (hc : c.isAlpha) : c.isDigit = false := by
  rw [Bool.eq_false_iff]
  intro hdigit
  have hnine : c.toNat ≤ 57 := of_decide_eq_true (Bool.and_eq_true_iff.mp hdigit).2
  have hletter : 65 ≤ c.toNat := by
    rcases Bool.or_eq_true_iff.mp hc with hupper | hlower
    · have hbounds : c.val ≥ 'A'.val ∧ c.val ≤ 'Z'.val := of_decide_eq_true hupper
      exact hbounds.1
    · have hge : 97 ≤ c.toNat := of_decide_eq_true (Bool.and_eq_true_iff.mp hlower).1
      omega
  omega

theorem read_of_isAlpha (r : Registers) {c : Char} (hc : c.isAlpha) :
    r.read (some c) = r.named c.toLower := by
  have hquote : c ≠ '"' := by
    rintro rfl
    exact absurd hc (by decide)
  simp [read, hquote, isDigit_eq_false_of_isAlpha hc, letter?, hc]

theorem digit_lt_ringSize {c : Char} (hc : c.isDigit) : c.toNat - '0'.toNat < ringSize := by
  simp only [Char.isDigit, Bool.and_eq_true, decide_eq_true_eq] at hc
  have hle : c.toNat ≤ 57 := hc.2
  show c.toNat - 48 < 10
  omega

/-- **What registers read is told by their history.** -/
theorem recalls_written (h : List RegisterWrite) : Recalls (left h) (written h) := by
  have hagrees := agrees_written h
  have hdigit : ∀ c : Char, c.isDigit →
      (written h).read (some c) = ((left h).map (·.content))[c.toNat - '0'.toNat]? := by
    intro c hc
    rw [read_of_isDigit _ hc, hagrees.ring, List.getElem?_take_of_lt (digit_lt_ringSize hc)]
  refine ⟨hagrees.ring, hagrees.unnamed, hagrees.unnamed, ?_, hdigit, ?_, ?_⟩
  · rw [hdigit '0' rfl]
    cases left h <;> rfl
  · intro c hc
    rw [read_of_isAlpha _ hc, hagrees.named]
  · intro c hquote hnodigit hnoletter
    simp [read, hquote, hnodigit, letter?, hnoletter]

/-- Small and capital letters in turn: what is appended shows in the ring and
under the unnamed register as a whole. -/
example : (written [⟨some 'a', ⟨['x'], .text⟩⟩, ⟨none, ⟨['y'], .text⟩⟩,
    ⟨some 'A', ⟨['z'], .lines⟩⟩]).ring =
      [⟨['x', 'z'], .lines⟩, ⟨['y'], .text⟩, ⟨['x'], .text⟩] := by decide

end Registers
end Keywise
