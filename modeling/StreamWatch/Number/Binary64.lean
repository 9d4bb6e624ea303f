/-
**Numbers of the 64-bit binary interchange format, held as their bits.**

Holding the bits keeps apart what arithmetic does not: the two zeros and the many not-a-numbers.

* `rank_injective`: the total order of all bit patterns has no ties;
* `ofRatio`: the number nearest to a quotient, an exact half going to the even neighbour.
-/

import StreamWatch.Number.Width

namespace StreamWatch

/-- A number of the 64-bit binary interchange format. -/
structure Binary64 where
  bits : UInt64
deriving DecidableEq, Inhabited, Repr

namespace Binary64

/-- The number computed by machine arithmetic. -/
def ofFloat (x : Float) : Binary64 := ⟨x.toBits⟩

/-- The number as machine arithmetic takes it. -/
def toFloat (x : Binary64) : Float := Float.ofBits x.bits

/-- Positive zero. -/
def zero : Binary64 := ⟨0⟩

/-- The sign bit. -/
def signBit : Nat := 9223372036854775808

/-- The bit that stands above the fraction bits, and the number of their patterns. -/
def hiddenBit : Nat := 4503599627370496

/-- The number of patterns of the exponent bits. -/
def exponentCount : Nat := 2048

/-- Whether the sign bit is set. -/
def isNegative (x : Binary64) : Bool := signBit ≤ x.bits.toNat

/-- The eleven exponent bits. -/
def exponentBits (x : Binary64) : Nat := x.bits.toNat / hiddenBit % exponentCount

/-- The fifty-two fraction bits. -/
def fractionBits (x : Binary64) : Nat := x.bits.toNat % hiddenBit

/-- Neither infinite nor not a number. -/
def isFinite (x : Binary64) : Bool := x.exponentBits != exponentCount - 1

/-- The place of a bit pattern in the total order: negative patterns come first, by falling
magnitude, then the others by rising magnitude. -/
def rank (x : Binary64) : Int :=
  if x.isNegative then -((x.bits.toNat : Int) - signBit) - 1 else x.bits.toNat

/-- The same number with the other sign. -/
def negate (x : Binary64) : Binary64 :=
  if x.isNegative then ⟨x.bits - UInt64.ofNat signBit⟩ else ⟨x.bits + UInt64.ofNat signBit⟩

/-- A finite magnitude as a significand and a power of two. -/
def decompose (x : Binary64) : Nat × Int :=
  if x.exponentBits = 0 then (x.fractionBits, -1074)
  else (x.fractionBits + hiddenBit, (x.exponentBits : Int) - 1075)

/-- The bits of positive infinity. -/
def infinityBits : Nat := (exponentCount - 1) * hiddenBit

/-- Positive infinity. -/
def infinity : Binary64 := ⟨UInt64.ofNat infinityBits⟩

/-- A quiet not-a-number. -/
def notANumber : Binary64 := ⟨UInt64.ofNat (infinityBits + hiddenBit / 2)⟩

/-- `num / (den * 2 ^ power)` rounded to a whole number, an exact half to the even neighbour. -/
def roundScaled (num den : Nat) (power : Int) : Nat :=
  let n := if power < 0 then num * twoTo power.natAbs else num
  let d := if power < 0 then den else den * twoTo power.natAbs
  let q := n / d
  let r := n % d
  if 2 * r > d ∨ (2 * r = d ∧ q % 2 = 1) then q + 1 else q

/-- The largest power of two that is at least the least one of the format and leaves `num / den`
with 53 binary digits before the point, or fewer at that least power. -/
def scaleOf (num den : Nat) : Int :=
  let guess : Int := (num.log2 : Int) - (den.log2 : Int) - 52
  let low := if guess < 0 then num * twoTo guess.natAbs else num
  let high := if guess < 0 then den else den * twoTo guess.natAbs
  let exact := if low < high * hiddenBit then guess - 1 else guess
  max exact (-1074)

/-- The number nearest to a quotient of naturals, an exact half going to the even neighbour;
beyond the largest finite number it is infinity. -/
def ofRatio (num den : Nat) : Binary64 :=
  if num = 0 ∨ den = 0 then zero
  else
    let power := scaleOf num den
    let significand := roundScaled num den power
    let bits : Nat :=
      if significand < hiddenBit then significand
      else (power + 1075).toNat * hiddenBit + (significand - hiddenBit)
    ⟨UInt64.ofNat (min bits infinityBits)⟩

/-- The number nearest to a natural number. -/
def ofNat (n : Nat) : Binary64 := ofRatio n 1

/-- The number nearest to an integer. -/
def ofInt (n : Int) : Binary64 :=
  if n < 0 then (ofNat n.natAbs).negate else ofNat n.natAbs

/-- The total order of all bit patterns, by their ranks, has no ties. -/
theorem rank_injective {x y : Binary64} (same : x.rank = y.rank) : x = y := by
  have hx : x.bits.toNat < 18446744073709551616 := x.bits.toNat_lt
  have hy : y.bits.toNat < 18446744073709551616 := y.bits.toNat_lt
  have eq : x.bits.toNat = y.bits.toNat := by
    simp only [rank, isNegative, decide_eq_true_eq] at same
    split at same <;> split at same <;> simp only [signBit] at * <;> omega
  cases x
  cases y
  simpa using UInt64.toNat_inj.mp eq

end Binary64
end StreamWatch
