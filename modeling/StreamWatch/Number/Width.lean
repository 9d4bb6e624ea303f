/-
**Numbers of a fixed width, and powers.**

A width of 64 or 32 bits is said by its bound, one more than its largest number.

* `wordBound_eq`, `halfBound_eq`: the bounds are the powers of two that their widths say.
-/

namespace StreamWatch

/-- A power of two. -/
def twoTo (n : Nat) : Nat := Nat.pow 2 n

/-- A power of ten. -/
def tenTo (n : Nat) : Nat := Nat.pow 10 n

namespace Number

/-- One more than the largest number of 64 bits. -/
def wordBound : Nat := 18446744073709551616

/-- One more than the largest number of 64 bits with a sign. -/
def signedBound : Nat := 9223372036854775808

/-- One more than the largest number of 32 bits. -/
def halfBound : Nat := 4294967296

/-- One more than the largest number of 32 bits with a sign. -/
def signedHalfBound : Nat := 2147483648

/-- Whether an integer is one of 64 bits with a sign. -/
def isSigned (n : Int) : Bool := -signedBound ≤ n && n < signedBound

/-- Whether an integer is one of 32 bits with a sign. -/
def isSignedHalf (n : Int) : Bool := -signedHalfBound ≤ n && n < signedHalfBound

theorem wordBound_eq : wordBound = twoTo 64 := rfl

theorem signedBound_eq : signedBound = twoTo 63 := rfl

theorem halfBound_eq : halfBound = twoTo 32 := rfl

theorem signedHalfBound_eq : signedHalfBound = twoTo 31 := rfl

end Number
end StreamWatch
