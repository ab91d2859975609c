/-
# Word motions

A character is white space, a word character (a letter, a number or the
underscore) or punctuation. A word is a run of characters of one class that
is not white space; for big words all that is not white space is one class.
An empty line counts as a word when stepping to the start of one.

All steps are recursions on the distance left to the end of the text, or to
its start.

Key definitions: `CharClass.of`, `Words.forward`, `Words.backward`,
`Words.wordEnd`, `Words.runStart`, `Words.runEnd`, `WordStep.destination`.
-/
import Keywise.Text.Basic
import Keywise.Motion.Step
import Keywise.Unicode.Alphanumeric
import Keywise.Unicode.Blank

namespace Keywise

/-- What kind of run a character belongs to. -/
inductive CharClass where
  | whitespace
  | word
  | punctuation
  deriving DecidableEq, Repr

namespace CharClass

/-- Whether `c` is a word character: a letter, a number or the underscore. -/
def isWordChar (c : Char) : Bool := Unicode.isAlphanumeric c || c == '_'

/-- The class of `c`. For big words there is no punctuation. -/
def of (big : Bool) (c : Char) : CharClass :=
  if Unicode.isWhitespace c then whitespace
  else if big || isWordChar c then word
  else punctuation

end CharClass

namespace Words

variable (big : Bool) (t : Text)

/-- The character at offset `p`. Past the end there are line feeds. -/
def charAt (p : Nat) : Char := t.getD p '\n'

/-- The class of the character at offset `p`. -/
def classAt (p : Nat) : CharClass := CharClass.of big (charAt t p)

/-- From `p`, the first offset within `n` whose character is not of class
`c`, or the end of the distance. -/
def skipClass (c : CharClass) (p : Nat) : Nat → Nat
  | 0 => p
  | n + 1 => if classAt big t p = c then skipClass c (p + 1) n else p

/-- From `p`, the first offset within `n` that is not white space or starts
an empty line, the line feed before it having been passed. -/
def skipBlank (p : Nat) : Nat → Nat
  | 0 => p
  | n + 1 =>
    if classAt big t p = .whitespace then
      if charAt t p = '\n' ∧ 0 < n ∧ charAt t (p + 1) = '\n' then p + 1
      else skipBlank (p + 1) n
    else p

/-- The start of the next word, or the end of the text. -/
def forward (p : Nat) : Nat :=
  if p ≥ t.length then t.length
  else
    let q :=
      if classAt big t p = .whitespace then p
      else skipClass big t (classAt big t p) p (t.length - p)
    skipBlank big t q (t.length - q)

/-- From `p` back over white space, to a character that is none, to an empty
line, or to the start of the text. -/
def backBlank : Nat → Nat
  | 0 => 0
  | p + 1 =>
    if classAt big t (p + 1) = .whitespace then
      if charAt t (p + 1) = '\n' ∧ charAt t p = '\n' then p + 1 else backBlank p
    else p + 1

/-- From `p` back to the first character of those of class `c`. -/
def backClass (c : CharClass) : Nat → Nat
  | 0 => 0
  | p + 1 => if classAt big t p = c then backClass c p else p + 1

/-- The start of the word that `p` is past the first character of, or of the
word before. -/
def backward (p : Nat) : Nat :=
  if p = 0 then 0
  else
    let q := backBlank big t (min p t.length - 1)
    if classAt big t q = .whitespace then q else backClass big t (classAt big t q) q

/-- From `p`, the last offset reached by steps onto characters of class `c`,
at most `n` of them. -/
def lastOfClass (c : CharClass) (p : Nat) : Nat → Nat
  | 0 => p
  | n + 1 => if classAt big t (p + 1) = c then lastOfClass c (p + 1) n else p

/-- The end of the word that `p` is before the last character of, or of the
next one, or the last character of the text. -/
def wordEnd (p : Nat) : Nat :=
  if t.length = 0 then 0
  else
    let q := skipClass big t .whitespace (p + 1) (t.length - (p + 1))
    if q ≥ t.length then t.length - 1
    else lastOfClass big t (classAt big t q) q (t.length - 1 - q)

/-- Whether two characters are of one run: of one class, and no line feed. -/
def sameRun (a b : Char) : Bool :=
  a != '\n' && b != '\n' && CharClass.of big a == CharClass.of big b

/-- From `p` back to the first character of its run. -/
def runStartFrom : Nat → Nat
  | 0 => 0
  | p + 1 => if sameRun big (charAt t p) (charAt t (p + 1)) then runStartFrom p else p + 1

/-- The start of the run that holds `p`. -/
def runStart (p : Nat) : Nat := runStartFrom big t (min p (t.length - 1))

/-- From `p` on to the last character of its run, at most `n` away. -/
def runEndFrom (p : Nat) : Nat → Nat
  | 0 => p
  | n + 1 => if sameRun big (charAt t p) (charAt t (p + 1)) then runEndFrom (p + 1) n else p

/-- The end of the run that holds `p`. -/
def runEnd (p : Nat) : Nat := runEndFrom big t p (t.length - 1 - p)

/-- From a run's last character `p` through `n` more runs, or to the end of
the text. -/
def runEndAfter (p : Nat) : Nat → Nat
  | 0 => p
  | n + 1 => if p + 1 ≥ t.length then p else runEndAfter (runEnd big t (p + 1)) n

end Words

/-- The steps over words and over runs. -/
inductive WordStep where
  | forward
  | backward
  | wordEnd
  | runStart
  | runEnd
  deriving DecidableEq, Repr

namespace WordStep

/-- One step from `p`. -/
def once (s : WordStep) (big : Bool) (t : Text) (p : Nat) : Nat :=
  match s with
  | forward => Words.forward big t p
  | backward => Words.backward big t p
  | wordEnd => Words.wordEnd big t p
  | runStart => Words.runStart big t p
  | runEnd => Words.runEnd big t p

/-- Where `n` steps lead. To the start of a run there is one step only, and
to the end of one each further step takes the run that follows. -/
def destination (s : WordStep) (big : Bool) (t : Text) (n p : Nat) : Nat :=
  match s with
  | runStart => Words.runStart big t p
  | runEnd => Words.runEndAfter big t (Words.runEnd big t p) (n - 1)
  | s => repeated (s.once big t) n p

/-- The name of the step. -/
def name (s : WordStep) (big : Bool) : String :=
  match s, big with
  | forward, false => "w"
  | forward, true => "W"
  | backward, false => "b"
  | backward, true => "B"
  | wordEnd, false => "e"
  | wordEnd, true => "E"
  | runStart, _ => "word-start"
  | runEnd, _ => "word-end"

end WordStep
end Keywise
