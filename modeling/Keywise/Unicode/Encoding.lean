/-
# UTF-8

A code point is written in one to four bytes. The code points of a range are
those whose bytes lie, one by one, in the ranges of one of several sequences.

Key definitions: `Unicode.encode`, `Unicode.byteRanges`.
Key theorems: `Unicode.encode_length`.
-/
namespace Keywise
namespace Unicode

/-- The bytes of a code point. -/
def encode (n : Nat) : List Nat :=
  if n < 0x80 then [n]
  else if n < 0x800 then [0xC0 + n / 64, 0x80 + n % 64]
  else if n < 0x10000 then [0xE0 + n / 4096, 0x80 + n / 64 % 64, 0x80 + n % 64]
  else [0xF0 + n / 262144, 0x80 + n / 4096 % 64, 0x80 + n / 64 % 64, 0x80 + n % 64]

/-- How many bytes a code point has. -/
def byteLength (n : Nat) : Nat :=
  if n < 0x80 then 1 else if n < 0x800 then 2 else if n < 0x10000 then 3 else 4

theorem encode_length (n : Nat) : (encode n).length = byteLength n := by
  unfold encode byteLength; grind

/-- A range of bytes, both ends included. -/
abbrev ByteRange := Nat × Nat

/-- Sequences for the code points from `first` to `last`, which have the same
number of bytes: `more` of them follow the first one, to which `lead` is added.
Where the first byte differs between the ends, the code points below and above
the full blocks in between have sequences of their own. -/
def splitBytes : Nat → Nat → Nat → Nat → List (List ByteRange)
  | 0, lead, first, last => [[(lead + first, lead + last)]]
  | more + 1, lead, first, last =>
    let block := 64 ^ (more + 1)
    let lo := first / block
    let hi := last / block
    let under (n first last : Nat) : List (List ByteRange) :=
      (splitBytes more 0x80 first last).map ((lead + n, lead + n) :: ·)
    if lo = hi then under lo (first % block) (last % block)
    else
      let below := if first % block = 0 then [] else under lo (first % block) (block - 1)
      let above := if last % block = block - 1 then [] else under hi 0 (last % block)
      let lo := if first % block = 0 then lo else lo + 1
      let hi := if last % block = block - 1 then hi + 1 else hi
      let full := if lo < hi then
        [(lead + lo, lead + (hi - 1)) :: List.replicate (more + 1) (0x80, 0xBF)] else []
      below ++ full ++ above

/-- The code points with one, two, three and four bytes, without the
surrogates, with the number of bytes after the first one and what is added to
that one. -/
def byteLengths : List (Nat × Nat × Nat × Nat) := [
  (0, 0x7F, 0, 0), (0x80, 0x7FF, 1, 0xC0), (0x800, 0xD7FF, 2, 0xE0), (0xE000, 0xFFFF, 2, 0xE0),
  (0x10000, 0x10FFFF, 3, 0xF0)]

/-- Sequences of byte ranges for the code points from `first` to `last`, in
ascending order. -/
def byteRanges (first last : Nat) : List (List ByteRange) :=
  byteLengths.flatMap fun (lo, hi, more, lead) =>
    if max lo first ≤ min hi last then splitBytes more lead (max lo first) (min hi last) else []

end Unicode
end Keywise
