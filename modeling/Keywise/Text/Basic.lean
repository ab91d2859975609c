/-
# Texts, their lines and their slices

A text is the list of its characters, and an offset counts characters. A line
ends after a line feed, a carriage return, the two together (one break), a
vertical tab, a form feed, the next-line character or one of the two Unicode
separators; what follows the last break is a line too, possibly an empty one.

Every operation takes any offset or line number: those past the end are read
as the end.

Key definitions: `Text.lines`, `Text.line`, `Text.lineAt`, `Text.nextStart`,
`Text.slice`, `Text.splice`.
Key theorems: `Text.flatten_lines`, `Text.start_lineAt_le_nextStart`,
`Text.splice_slice`.
-/
namespace Keywise

/-- A text: its characters, in order. -/
abbrev Text := List Char

namespace Text

/-- The carriage return and the characters that end a line on their own. -/
def isBreak (c : Char) : Bool :=
  c == '\n' || c == '\r' || c == '\x0b' || c == '\x0c' ||
    c == '\u0085' || c == '\u2028' || c == '\u2029'

/-- Puts a character in front of the first line. -/
def consFirst (c : Char) : List Text → List Text
  | [] => [[c]]
  | l :: ls => (c :: l) :: ls

/-- The lines of a text, each with the break that ends it. Only the last one
has none. -/
def lines : Text → List Text
  | [] => [[]]
  | '\r' :: '\n' :: t => ['\r', '\n'] :: lines t
  | c :: t => if isBreak c then [c] :: lines t else consFirst c (lines t)

/-- The number of lines, one more than the number of breaks. -/
def lineCount (t : Text) : Nat := (lines t).length

/-- How many characters of a line are its content: all but a line feed, a
carriage return or both at its end. Another kind of break is content. -/
def contentLength (l : Text) : Nat :=
  match l.reverse with
  | '\n' :: '\r' :: r => r.length
  | '\n' :: r => r.length
  | '\r' :: r => r.length
  | r => r.length

theorem consFirst_ne_nil (c : Char) : ∀ ls : List Text, consFirst c ls ≠ []
  | [] => by simp [consFirst]
  | _ :: _ => by simp [consFirst]

theorem flatten_consFirst (c : Char) : ∀ ls : List Text, (consFirst c ls).flatten = c :: ls.flatten
  | [] => rfl
  | _ :: _ => rfl

theorem lines_ne_nil (t : Text) : lines t ≠ [] := by
  fun_cases lines t <;> simp [consFirst_ne_nil]

/-- The lines, one after the other, are the text. -/
theorem flatten_lines (t : Text) : (lines t).flatten = t := by
  fun_induction lines t with
  | case1 => rfl
  | case2 t ih => simp [ih]
  | case3 c t _ _ ih => simp [ih]
  | case4 c t _ _ ih => simp [flatten_consFirst, ih]

end Text

/-- Where a line is: its number, the offset of its first character and the
number of characters of its content. -/
structure Line where
  number : Nat
  start : Nat
  length : Nat
  deriving DecidableEq, Repr

namespace Line

/-- The offset just past the content, where the break stands if there is one. -/
def stop (l : Line) : Nat := l.start + l.length

/-- The offset of the last character of the content, or of the line's start
if the line is empty. -/
def last (l : Line) : Nat := if l.length = 0 then l.start else l.stop - 1

theorem start_le_stop (l : Line) : l.start ≤ l.stop := Nat.le_add_right ..

theorem start_le_last (l : Line) : l.start ≤ l.last := by
  unfold last stop; split <;> omega

theorem last_le_stop (l : Line) : l.last ≤ l.stop := by
  unfold last stop; split <;> omega

end Line

namespace Text

/-- Steps over lines, the first of which has the given number and start, to
the `n`-th of them or the last. -/
def lineFrom (number start : Nat) : List Text → Nat → Line
  | [], _ => ⟨number, start, 0⟩
  | [l], _ => ⟨number, start, contentLength l⟩
  | l :: _ :: _, 0 => ⟨number, start, contentLength l⟩
  | l :: l' :: ls, n + 1 => lineFrom (number + 1) (start + l.length) (l' :: ls) n

/-- Steps over lines, the first of which has the given number and start, to
the one that holds the `o`-th character from there, or the last. -/
def lineAtFrom (number start : Nat) : List Text → Nat → Line
  | [], _ => ⟨number, start, 0⟩
  | [l], _ => ⟨number, start, contentLength l⟩
  | l :: l' :: ls, o =>
    if o < l.length then ⟨number, start, contentLength l⟩
    else lineAtFrom (number + 1) (start + l.length) (l' :: ls) (o - l.length)

/-- Line `n`, or the last line if there are fewer. -/
def line (t : Text) (n : Nat) : Line := lineFrom 0 0 (lines t) n

/-- The line that holds offset `o`. The end of the text is on the last line. -/
def lineAt (t : Text) (o : Nat) : Line := lineAtFrom 0 0 (lines t) o

/-- Where the line after line `n` starts: the end of the text if there is
none. -/
def nextStart (t : Text) (n : Nat) : Nat :=
  if n + 1 < lineCount t then (line t (n + 1)).start else t.length

theorem le_lineAtFrom (n s : Nat) (ls : List Text) (o : Nat) :
    n ≤ (lineAtFrom n s ls o).number ∧ s ≤ (lineAtFrom n s ls o).start := by
  fun_induction lineAtFrom n s ls o with
  | case1 | case2 | case3 => exact ⟨Nat.le_refl _, Nat.le_refl _⟩
  | case4 n s l l' ls o hpast ih =>
    exact ⟨Nat.le_of_succ_le ih.1, Nat.le_trans (Nat.le_add_right s _) ih.2⟩

theorem lineAtFrom_le (n s : Nat) (ls : List Text) {o o' : Nat} (h : o ≤ o') :
    (lineAtFrom n s ls o).number ≤ (lineAtFrom n s ls o').number ∧
      (lineAtFrom n s ls o).start ≤ (lineAtFrom n s ls o').start := by
  fun_induction lineAtFrom n s ls o generalizing o' with
  | case1 | case2 => exact ⟨Nat.le_refl _, Nat.le_refl _⟩
  | case3 n s l l' ls o hin => exact le_lineAtFrom n s (l :: l' :: ls) o'
  | case4 n s l l' ls o hpast ih =>
    rw [lineAtFrom, if_neg fun hin => hpast (Nat.lt_of_le_of_lt h hin)]
    exact ih (Nat.sub_le_sub_right h _)

theorem start_lineFrom_zero (n s : Nat) : ∀ ls : List Text, (lineFrom n s ls 0).start = s
  | [] | [_] | _ :: _ :: _ => rfl

/-- A line starts before the one behind it, or before the end of the text. -/
theorem start_lineAtFrom_le (n s : Nat) (ls : List Text) (o : Nat) :
    (lineAtFrom n s ls o).start ≤ if (lineAtFrom n s ls o).number - n + 1 < ls.length then
      (lineFrom n s ls ((lineAtFrom n s ls o).number - n + 1)).start
    else s + ls.flatten.length := by
  fun_induction lineAtFrom n s ls o with
  | case1 | case2 => simp
  | case3 n s l l' ls o hin => simp [lineFrom, start_lineFrom_zero]
  | case4 n s l l' ls o hpast ih =>
    have hnumber := (le_lineAtFrom (n + 1) (s + l.length) (l' :: ls) (o - l.length)).1
    generalize lineAtFrom (n + 1) (s + l.length) (l' :: ls) (o - l.length) = m at ih hnumber ⊢
    rw [show m.number - n + 1 = m.number - (n + 1) + 1 + 1 by omega, lineFrom]
    simpa [Nat.add_assoc] using ih

/-- **From a line on** to the end of one that is no earlier there is no way back. -/
theorem start_lineAt_le_nextStart (t : Text) {o o' : Nat} (h : o ≤ o') :
    (t.lineAt o).start ≤ t.nextStart (t.lineAt o').number := by
  have hnext := start_lineAtFrom_le 0 0 t.lines o'
  rw [Nat.zero_add, t.flatten_lines] at hnext
  calc (t.lineAt o).start ≤ (t.lineAt o').start := (lineAtFrom_le 0 0 t.lines h).2
    _ ≤ t.nextStart (t.lineAt o').number := hnext

/-- The `len` characters from offset `start`, or as many as there are. -/
def slice (t : Text) (start len : Nat) : Text := (t.drop start).take len

/-- The text with the `len` characters from offset `start` replaced by `new`. -/
def splice (t : Text) (start len : Nat) (new : Text) : Text :=
  t.take start ++ new ++ t.drop (start + len)

/-- Putting a slice back where it was changes nothing. -/
theorem splice_slice (t : Text) (start len : Nat) :
    splice t start len (slice t start len) = t := by
  simp [splice, slice, List.append_assoc, ← List.drop_drop, List.take_append_drop]

theorem splice_nil (t : Text) (start : Nat) : splice t start 0 [] = t := by
  simp [splice]

/-- The characters of line `l`, its break left out. -/
def content (t : Text) (l : Line) : Text := slice t l.start l.length

end Text
end Keywise
