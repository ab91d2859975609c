/-
# Counts of lines

A motion down the lines adds its count to the number of its line and stops at
the last line on which the cursor may rest. But it reads the count as a signed
word, and so the counts from `Offset.half` on lead up: the largest by one line,
each smaller one by a line more (`Text.lineDown`). On either side of that count
a larger one leads no further up (`Text.lineDown_le`), and from it on a motion
aims at the sum only where up and down are the same, which is where there is
one line to rest on, or behind the last of them
(`Text.lineDown_eq_iff`).

Key definitions: `Offset.half`, `Text.lineDown`.
Key theorems: `LineMotion.lineAway_signed`, `LineMotion.aims_down`.
-/
import Keywise.Motion.Line
import Keywise.Proofs.Text.Contents

namespace Keywise
namespace Offset

/-- The number of words that are read as no negative number. -/
def half : Nat := 0x8000000000000000

theorem signed_of_half_le {n : Nat} (h : half ≤ n) (hmax : n ≤ max) :
    signed n = n - (modulus : Int) := by
  unfold half at h
  unfold max at hmax
  have hmod : (n : Int) % ((modulus : Nat) : Int) = n := by
    unfold modulus
    omega
  unfold signed
  rw [Int.bmod_def, hmod]
  unfold modulus
  split <;> omega

end Offset

namespace Text

/-- The number of the line that `k` lines down from line `i` lead to. -/
def lineDown (t : Text) (i k : Nat) : Nat :=
  min (if k < Offset.half then i + k else i - (Offset.modulus - k)) t.lastLine

/-- The end of the text may be on a line behind those on which the cursor
rests, but there is one such line only. -/
theorem number_lineAt_le (t : Text) (p : Nat) : (t.lineAt p).number ≤ t.lastLine + 1 := by
  obtain ⟨pre, l, post, h⟩ := t.exists_holds p
  have hcount := lineCount_eq h.lines
  have hnumber : (t.lineAt p).number = pre.length := by
    rw [h.lineAt]
    rfl
  unfold lastLine
  split <;> omega

/-- **A larger count leads no further up** unless the sign it is read with
changes. -/
theorem lineDown_le (t : Text) (i : Nat) {k k' : Nat} (hle : k ≤ k')
    (hsign : k' < Offset.half ∨ Offset.half ≤ k) : t.lineDown i k ≤ t.lineDown i k' := by
  unfold lineDown
  split <;> split <;> omega

/-- From half of the words on, no count leads down. -/
theorem lineDown_le_self (t : Text) (i : Nat) {k : Nat} (hk : Offset.half ≤ k) :
    t.lineDown i k ≤ i := by
  unfold lineDown
  rw [if_neg (Nat.not_lt.mpr hk)]
  omega

/-- **Where the sum is aimed at**, or the last line if it is behind that. -/
theorem lineDown_eq_iff {t : Text} {i k : Nat} (hi : i ≤ t.lastLine + 1) (hmax : k ≤ Offset.max) :
    t.lineDown i k = min (i + k) t.lastLine ↔
      k < Offset.half ∨ t.lastLine = 0 ∨ (k = Offset.max ∧ i = t.lastLine + 1) := by
  unfold lineDown
  by_cases hk : k < Offset.half
  · simp [hk]
  · rw [if_neg hk]
    unfold Offset.half at hk
    unfold Offset.max at hmax ⊢
    unfold Offset.modulus
    rw [or_iff_right (by unfold Offset.half; exact hk)]
    omega

end Text

namespace LineMotion

variable {t : Text}

/-- **The line that a count leads down to.** -/
theorem lineAway_signed (hlen : t.length ≤ Offset.max) {k : Nat} (hmax : k ≤ Offset.max) (p : Nat) :
    lineAway t (t.lineAt p) (Offset.signed k) = t.line (t.lineDown (t.lineAt p).number k) := by
  have hlast := Nat.le_trans t.lastLine_le_length hlen
  have hnumber := t.number_lineAt_le p
  have hshift : min (Offset.shift (t.lineAt p).number (Offset.signed k)) t.lastLine =
      t.lineDown (t.lineAt p).number k := by
    unfold Text.lineDown Offset.shift
    by_cases hk : k < Offset.half
    · rw [if_pos hk, Offset.signed_of_lt hk]
      omega
    · rw [if_neg hk, Offset.signed_of_half_le (Nat.not_lt.mp hk) hmax]
      unfold Offset.max at hlast hmax ⊢
      unfold Offset.modulus
      omega
  rw [lineAway, hshift]

/-- Where the motions that count lines lead by the lines they count to. The
motion is a variable, lest machine words be computed with to see which one it
is. -/
theorem destination_of_lineAway {m : LineMotion} {p : Nat} {count : Option Nat} {below last : Line}
    (hbelow : lineAway t (t.lineAt p) (Offset.signed (countOf count)) = below)
    (hlast : lineAway t (t.lineAt p) (Offset.signed (countOf count - 1)) = last)
    (sticky : Option Sticky) :
    (m = down → m.destination t sticky count p =
        Sticky.onLine sticky (p - (t.lineAt p).start) below) ∧
      (m = lineEnd → m.destination t sticky count p = last.last) ∧
      (m = currentLines → m.destination t sticky count p = last.start) := by
  unfold destination
  simp only [hbelow, hlast]
  refine ⟨fun hm => ?_, fun hm => ?_, fun hm => ?_⟩ <;> rw [hm]

/-- **Without a count**, the end of the line itself. -/
theorem destination_lineEnd_none (hlen : t.length ≤ Offset.max) {p : Nat}
    (hnumber : (t.lineAt p).number ≤ t.lastLine) (sticky : Option Sticky) :
    lineEnd.destination t sticky none p = (t.lineAt p).last := by
  have hdown : t.lineDown (t.lineAt p).number 0 = (t.lineAt p).number := by
    unfold Text.lineDown
    rw [if_pos (by decide), Nat.add_zero, Nat.min_eq_left hnumber]
  have haway : lineAway t (t.lineAt p) (Offset.signed (countOf none - 1)) = t.lineAt p := by
    have hnone : countOf none - 1 = 0 := rfl
    rw [hnone, lineAway_signed hlen (Nat.zero_le _), hdown]
    exact t.line_number_lineAt p
  exact (destination_of_lineAway rfl haway sticky).2.1 rfl

/-- **Counts of lines.** A motion down the lines with a count, and one to the
end or over the whole of the lines counted, aims at a line of its own or one
below it for all counts that are read as positive, and at the sum of both
numbers or the last line; a larger one of these counts leads no further up.
With any other count it aims at its own line or one above it, and so at the sum
only where there is one line, or from behind the last line with the largest
count. -/
theorem aims_down (t : Text) (hlen : t.length ≤ Offset.max) (p : Nat) {n : Nat} (hn : 1 ≤ n)
    (hmax : n ≤ Offset.max) :
    let l := t.lineAt p
    (∀ sticky, down.destination t sticky (some n) p =
        Sticky.onLine sticky (p - l.start) (t.line (t.lineDown l.number n))) ∧
      (∀ sticky, lineEnd.destination t sticky (some n) p =
        (t.line (t.lineDown l.number (n - 1))).last) ∧
      (∀ sticky, currentLines.destination t sticky (some n) p =
        (t.line (t.lineDown l.number (n - 1))).start) ∧
      (t.lineDown l.number n = min (l.number + n) t.lastLine ↔
        n < Offset.half ∨ t.lastLine = 0 ∨ (n = Offset.max ∧ l.number = t.lastLine + 1)) ∧
      (t.lineDown l.number (n - 1) = min (l.number + n - 1) t.lastLine ↔
        n ≤ Offset.half ∨ t.lastLine = 0) ∧
      (∀ n', n ≤ n' → n' < Offset.half →
        t.lineDown l.number n ≤ t.lineDown l.number n' ∧
          t.lineDown l.number (n - 1) ≤ t.lineDown l.number (n' - 1)) ∧
      (Offset.half ≤ n → t.lineDown l.number n ≤ l.number) := by
  intro l
  have hnumber : l.number ≤ t.lastLine + 1 := t.number_lineAt_le p
  have hless : n - 1 ≤ Offset.max := Nat.le_trans (Nat.sub_le _ _) hmax
  have hbelow : lineAway t l (Offset.signed (countOf (some n))) =
      t.line (t.lineDown l.number n) := by
    rw [countOf_some hn]
    exact lineAway_signed hlen hmax p
  have hlast : lineAway t l (Offset.signed (countOf (some n) - 1)) =
      t.line (t.lineDown l.number (n - 1)) := by
    rw [countOf_some hn]
    exact lineAway_signed hlen hless p
  have hleads := fun m sticky => destination_of_lineAway (m := m) hbelow hlast sticky
  have hsum : l.number + n - 1 = l.number + (n - 1) := Nat.add_sub_assoc hn _
  refine ⟨fun sticky => (hleads _ sticky).1 rfl, fun sticky => (hleads _ sticky).2.1 rfl,
    fun sticky => (hleads _ sticky).2.2 rfl, Text.lineDown_eq_iff hnumber hmax, ?_,
    fun n' hle hhalf => ⟨t.lineDown_le _ hle (.inl hhalf), ?_⟩, t.lineDown_le_self _⟩
  · rw [hsum, Text.lineDown_eq_iff hnumber hless]
    unfold Offset.half
    unfold Offset.max at hmax ⊢
    omega
  · exact t.lineDown_le _ (Nat.sub_le_sub_right hle 1)
      (.inl (Nat.lt_of_le_of_lt (Nat.sub_le _ _) hhalf))

/-- The largest count that leads down, from the second of three lines. -/
theorem aims_down_from_second :
    let t : Text := ['a', '\n', 'b', '\n', 'c']
    t.length ≤ Offset.max ∧ down.destination t none (some 0x7FFFFFFFFFFFFFFF) 2 = 4 := by
  intro t
  have hlen : t.length ≤ Offset.max := by decide
  obtain ⟨hdown, -, -, hsum, -⟩ :=
    aims_down t hlen 2 (n := 0x7FFFFFFFFFFFFFFF) (by decide) (by decide)
  have hline := hsum.mpr (.inl (by decide))
  have hthird : min ((t.lineAt 2).number + 0x7FFFFFFFFFFFFFFF) t.lastLine = 2 := by decide
  refine ⟨hlen, ?_⟩
  rw [hdown, hline, hthird]
  decide

/-- **The next count leads up**, from there to the first line and not to the
last. So does, for the motions that count the line itself, the one after it. -/
theorem not_aims_down_at_half :
    let t : Text := ['a', '\n', 'b', '\n', 'c']
    let l := t.lineAt 2
    down.destination t none (some Offset.half) 2 = 0 ∧
      Sticky.onLine none (2 - l.start) (t.line (min (l.number + Offset.half) t.lastLine)) = 4 ∧
      lineEnd.destination t none (some (Offset.half + 1)) 2 = 0 ∧
      currentLines.destination t none (some (Offset.half + 1)) 2 = 0 ∧
      (t.line (min (l.number + (Offset.half + 1) - 1) t.lastLine)).start = 4 := by
  decide

end LineMotion
end Keywise
