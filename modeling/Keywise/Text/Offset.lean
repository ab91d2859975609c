/-
# Offsets in a machine word

Offsets and counts are 64-bit words. A signed step from an offset stops at
either end of that interval. A count that is read as a signed number, and a
signed number that is negated, wrap around in 64 bits.

Key definitions: `Offset.shift`, `Offset.signed`, `Offset.negate`.
Key theorems: `Offset.shift_of_mem`, `Offset.signed_of_lt`,
`Offset.negate_of_lt`.
-/
namespace Keywise
namespace Offset

/-- The largest offset. -/
def max : Nat := 0xFFFFFFFFFFFFFFFF

/-- The offset `delta` away from `o`, kept between zero and the largest one. -/
def shift (o : Nat) (delta : Int) : Nat := min ((o : Int) + delta).toNat max

/-- The number of 64-bit words. -/
def modulus : Nat := 0x10000000000000000

/-- The 64-bit word of `n` read as a signed number. -/
def signed (n : Nat) : Int := Int.bmod n modulus

/-- The signed number with the other sign; the least one stays as it is. -/
def negate (i : Int) : Int := Int.bmod (-i) modulus

theorem shift_of_mem {o : Nat} {delta : Int} (h : (o : Int) + delta ≤ max) :
    shift o delta = ((o : Int) + delta).toNat := by
  unfold shift; omega

theorem bmod_modulus_of_mem {i : Int} (h : -0x8000000000000000 ≤ i) (h' : i < 0x8000000000000000) :
    Int.bmod i modulus = i := by
  unfold modulus
  rw [Int.bmod_def]
  split <;> omega

/-- A count below half of the modulus is read as itself. -/
theorem signed_of_lt {n : Nat} (h : n < 0x8000000000000000) : signed n = n :=
  bmod_modulus_of_mem (by omega) (by omega)

theorem negate_of_lt {n : Nat} (h : n < 0x8000000000000000) : negate n = -(n : Int) :=
  bmod_modulus_of_mem (by omega) (by omega)

example : negate (signed 0x8000000000000000) = signed 0x8000000000000000 := by decide

end Offset
end Keywise
