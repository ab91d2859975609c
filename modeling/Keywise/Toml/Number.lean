/-
# TOML numbers

Digits may be grouped by underscores, each between two digits. Integers are
decimal, hexadecimal, octal or binary and take at most 128 bits; other numbers
are decimal, and none rounds to infinity.

Key definitions: `Toml.Number.integer?`, `Toml.Number.isFloat`.
-/
import Keywise.Toml.Quoted

namespace Keywise
namespace Toml
namespace Number

/-- The digits without the underscores between them. The flag tells whether a
digit comes before. -/
def ungroup (isDigit : Char → Bool) : Bool → List Char → Option (List Char)
  | after, [] => if after then some [] else none
  | after, '_' :: s => if after then ungroup isDigit false s else none
  | _, c :: s => if isDigit c then (ungroup isDigit true s).map (c :: ·) else none

/-- Whether `c` is a digit in a base. -/
def isDigitIn (base : Nat) (c : Char) : Bool := (Quoted.hexDigit? c).any (· < base)

/-- The number that digits write in a base. -/
def valueIn (base : Nat) (digits : List Char) : Nat :=
  digits.foldl (fun a c => base * a + (Quoted.hexDigit? c).getD 0) 0

/-- The number that grouped digits write in a base. -/
def grouped? (base : Nat) (s : List Char) : Option Nat :=
  (ungroup (isDigitIn base) false s).map (valueIn base)

/-- Whether the digits begin with a zero that more follow. -/
def hasLeadingZero : List Char → Bool
  | '0' :: _ :: _ => true
  | _ => false

/-- Decimal digits, of which the first is no zero unless it is the only one. -/
def whole? (s : List Char) : Option (List Char) :=
  if hasLeadingZero s then none else ungroup (isDigitIn 10) false s

/-- The sign in front of a number, if there is one, and the rest. -/
def unsign : List Char → Bool × List Char
  | '-' :: s => (true, s)
  | '+' :: s => (false, s)
  | s => (false, s)

/-- The integer that a word writes, of any size. -/
def anyInteger? : List Char → Option Int
  | '0' :: 'x' :: s => (grouped? 16 s).map Int.ofNat
  | '0' :: 'o' :: s => (grouped? 8 s).map Int.ofNat
  | '0' :: 'b' :: s => (grouped? 2 s).map Int.ofNat
  | s =>
    let (negative, s) := unsign s
    (whole? s).map fun digits =>
      if negative then -(valueIn 10 digits : Int) else (valueIn 10 digits : Int)

/-- The integer that a word writes, if it takes at most 128 bits. -/
def integer? (s : List Char) : Option Int :=
  (anyInteger? s).filter fun n => -(Nat.pow 2 127 : Int) ≤ n && n < (Nat.pow 2 128 : Int)

/-- The least number that rounds to infinity in double precision. -/
def infinity : Nat := (Nat.pow 2 54 - 1) * Nat.pow 2 970

/-- Whether the number that digits and a power of ten write is finite. -/
def isFinite (digits : List Char) (exponent : Int) : Bool :=
  let n := valueIn 10 digits
  if n = 0 ∨ exponent + digits.length < 0 then true
  else if exponent > 400 then false
  else n * Nat.pow 10 exponent.toNat < infinity * Nat.pow 10 (-exponent).toNat

/-- The power of ten that ends a number, if nothing or one is written. -/
def exponent? : List Char → Option Int
  | [] => some 0
  | c :: s =>
    if c = 'e' ∨ c = 'E' then
      let (negative, s) := unsign s
      (grouped? 10 s).map fun n => if negative then -(n : Int) else (n : Int)
    else none

/-- A digit or an underscore. -/
def isGroupChar (c : Char) : Bool := c.isDigit || c == '_'

/-- Whether a word without a sign writes a number with a fraction, an exponent
or both. -/
def isUnsignedFloat (s : List Char) : Bool :=
  if s = ['i', 'n', 'f'] ∨ s = ['n', 'a', 'n'] then true
  else match whole? (s.takeWhile isGroupChar), s.dropWhile isGroupChar with
    | some digits, '.' :: s =>
      match ungroup (isDigitIn 10) false (s.takeWhile isGroupChar),
          exponent? (s.dropWhile isGroupChar) with
      | some fraction, some e => isFinite (digits ++ fraction) (e - fraction.length)
      | _, _ => false
    | some digits, c :: s =>
      match exponent? (c :: s) with
      | some e => isFinite digits e
      | none => false
    | _, _ => false

/-- Whether a word writes such a number. -/
def isFloat (s : List Char) : Bool := isUnsignedFloat (unsign s).2

end Number
end Toml
end Keywise
