/-
# Escapes in patterns

A backslash escapes a character, or gives a character by its code, or names a
set or a place. A set is named by a letter, or by a property of its members.

Key definitions: `Escape`, `Escape.read?`.
-/
import Keywise.Pattern.Flags
import Keywise.Pattern.Property

namespace Keywise

/-- What a backslash and the characters after it stand for. -/
inductive Escape where
  | char (c : Char)
  | set (s : CharSet)
  | place (p : Place)
  deriving DecidableEq, Repr

namespace Escape

/-- The value of a hexadecimal digit. -/
def hexDigit? (c : Char) : Option Nat :=
  if c.isDigit then some (c.toNat - '0'.toNat)
  else if 'a' ≤ c ∧ c ≤ 'f' then some (c.toNat - 'a'.toNat + 10)
  else if 'A' ≤ c ∧ c ≤ 'F' then some (c.toNat - 'A'.toNat + 10)
  else none

/-- The character whose code the hexadecimal digits are. -/
def hexChar? (digits : List Char) : Option Char := do
  guard (!digits.isEmpty)
  let n ← digits.foldl (fun acc c => do
    let a ← acc
    let d ← hexDigit? c
    return 16 * a + d) (some 0)
  if n.isValidChar then some (Char.ofNat n) else none

/-- The next `n` characters, without what is to be skipped between them. -/
def take? (f : PatternFlags) : Nat → List Char → Option (List Char × List Char)
  | 0, s => some ([], s)
  | _ + 1, [] => none
  | n + 1, c :: s => (take? f n (f.skip s)).map fun (cs, rest) => (c :: cs, rest)

/-- A character by its code: so many digits, or any number in braces. Two
digits give a byte, which is a character by itself in ASCII only. -/
def readHex? (f : PatternFlags) (size : Nat) (s : List Char) : Option (Escape × List Char) :=
  match f.skip s with
  | '{' :: s =>
    match f.span (· != '}') false s with
    | (digits, _ :: rest) => (hexChar? digits).map fun c => (char c, rest)
    | (_, []) => none
  | s => do
    let (digits, rest) ← take? f size s
    let c ← hexChar? digits
    if f.ascii ∧ size = 2 ∧ 0x7F < c.toNat then none else return (char c, rest)

/-- Punctuation that may be escaped whether it needs to be or not. -/
def isEscapable (c : Char) : Bool :=
  c.toNat < 128 && !c.isAlphanum && c != '<' && c != '>'

/-- The edge of words with the name given. -/
def edge? (name : String) : Option WordEdge :=
  match name with
  | "start" => some .wordStart
  | "end" => some .wordEnd
  | "start-half" => some .halfStart
  | "end-half" => some .halfEnd
  | _ => none

/-- A word boundary, which braces may narrow to one side. Braces that begin
with neither a letter nor a hyphen are left: they hold bounds. -/
def readBoundary? (f : PatternFlags) (s : List Char) : Option (Escape × List Char) :=
  match s with
  | '{' :: inner =>
    match f.span (fun c => c.isAlpha || c == '-') false inner with
    | (_, []) => none
    | ([], _) => some (place (.word .boundary f.ascii), s)
    | (name, c :: rest) =>
      if c = '}' then
        (edge? (String.ofList name)).map fun e => (place (.word e f.ascii), rest)
      else none
  | _ => some (place (.word .boundary f.ascii), s)

/-- The characters with a property, or all others: the property has one letter,
or its name stands in braces. Characters beyond ASCII have to be allowed. -/
def readProperty? (f : PatternFlags) (negated : Bool) (s : List Char) :
    Option (Escape × List Char) := do
  guard (!f.ascii)
  let (name, rest) ← match f.skip s with
    | [] | '\\' :: _ => none
    | '{' :: s =>
      match f.span (· != '}') false s with
      | (name, _ :: rest) => some (name, rest)
      | (_, []) => none
    | c :: rest => some ([c], rest)
  let a ← CharSet.ofProperty? name
  let a ← f.settle? negated a
  return (set a, rest)

/-- Decimal digits of ASCII. -/
def asciiDigit : CharSet := .range 0x30 0x39

/-- White space of ASCII. -/
def asciiBlank : CharSet := .ofRanges [(0x09, 0x0D), (0x20, 0x20)]

/-- Word characters of ASCII. -/
def asciiWord : CharSet := .ofRanges [(0x30, 0x39), (0x41, 0x5A), (0x5F, 0x5F), (0x61, 0x7A)]

/-- The set of a letter, with members of ASCII only or of all scripts. The
capital letter stands for all other characters. -/
def letterSet? (f : PatternFlags) : Char → Option CharSet
  | 'd' => some (if f.ascii then asciiDigit else .digit)
  | 's' => some (if f.ascii then asciiBlank else .blank)
  | 'w' => some (if f.ascii then asciiWord else .word)
  | 'D' => f.negate? .digit
  | 'S' => f.negate? .blank
  | 'W' => f.negate? .word
  | _ => none

/-- The control character of a letter. -/
def control? : Char → Option Char
  | 'a' => some '\x07'
  | 'f' => some '\x0c'
  | 't' => some '\t'
  | 'n' => some '\n'
  | 'r' => some '\r'
  | 'v' => some '\x0b'
  | _ => none

/-- The place of a letter or an angle bracket. -/
def place? (f : PatternFlags) : Char → Option Place
  | 'A' => some .textStart
  | 'z' => some .textEnd
  | 'B' => some (.word .noBoundary f.ascii)
  | '<' => some (.word .wordStart f.ascii)
  | '>' => some (.word .wordEnd f.ascii)
  | _ => none

/-- Reads what follows a backslash. -/
def read? (f : PatternFlags) : List Char → Option (Escape × List Char)
  | [] => none
  | 'x' :: s => readHex? f 2 s
  | 'u' :: s => readHex? f 4 s
  | 'U' :: s => readHex? f 8 s
  | 'b' :: s => readBoundary? f s
  | 'p' :: s => readProperty? f false s
  | 'P' :: s => readProperty? f true s
  | c :: s =>
    if isEscapable c then some (char c, s)
    else
      (((control? c).map char).or (((letterSet? f c).map set).or ((place? f c).map place))).map
        fun e => (e, s)

end Escape
end Keywise
