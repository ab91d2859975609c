/-
# Line endings of files

In a file that has a carriage return before some line feed, such pairs are
taken for single line feeds. When its text is written back, every line feed
becomes a pair again.

Key definitions: `FileText.ofContents`, `FileText.contents`.
Key theorems: `Endings.join_split`.
-/
import Keywise.Text.Basic

namespace Keywise
namespace Endings

/-- Whether a carriage return stands before some line feed. -/
def hasPair : List Char → Bool
  | [] => false
  | '\r' :: '\n' :: _ => true
  | _ :: s => hasPair s

/-- Makes single line feeds of the pairs. -/
def join : List Char → List Char
  | [] => []
  | '\r' :: '\n' :: s => '\n' :: join s
  | c :: s => c :: join s

/-- Makes pairs of the line feeds. -/
def split : List Char → List Char
  | [] => []
  | c :: s => if c = '\n' then '\r' :: '\n' :: split s else c :: split s

/-- The lines of a file, without their line feeds or pairs. Nothing follows
the last one. -/
def lines : List Char → List (List Char)
  | [] => []
  | '\r' :: '\n' :: s => [] :: lines s
  | c :: s => if c = '\n' then [] :: lines s else Text.consFirst c (lines s)

/-- No text becomes one that begins with a line feed. -/
theorem head?_split_ne (s : List Char) : (split s).head? ≠ some '\n' := by
  cases s with
  | nil => simp [split]
  | cons c s => by_cases h : c = '\n' <;> simp [split, h]

theorem join_cons {c : Char} {s : List Char} (h : s.head? ≠ some '\n') :
    join (c :: s) = c :: join s := by
  cases s with
  | nil => simp [join]
  | cons d s =>
    have hd : d ≠ '\n' := by simpa using h
    exact join.eq_3 c (d :: s) fun t _ ht => hd (List.cons.inj ht).1

/-- What is written back is read again as the same text. -/
theorem join_split : ∀ s : List Char, join (split s) = s
  | [] => rfl
  | c :: s => by
    by_cases h : c = '\n'
    · simp [split, h, join, join_split s]
    · simp only [split, h, if_false]
      rw [join_cons (head?_split_ne s), join_split s]

end Endings

/-- The text of a file, and whether its line feeds are to be pairs. -/
structure FileText where
  text : Text
  paired : Bool
  deriving DecidableEq, Repr

namespace FileText

/-- The text of a file with these contents. -/
def ofContents (raw : List Char) : FileText :=
  if Endings.hasPair raw then ⟨Endings.join raw, true⟩ else ⟨raw, false⟩

/-- The contents of a file that a text is written to in place of `f`. -/
def contents (f : FileText) (t : Text) : List Char := if f.paired then Endings.split t else t

end FileText
end Keywise
