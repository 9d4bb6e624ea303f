/-
**Lengths of time.**

A length of time is a number of seconds of 64 bits and a part of a second in nanoseconds.

Lengths are compared by their nanoseconds.

* `toNanos_injective`: a length is determined by its nanoseconds.
-/

import StreamWatch.Number.Width

namespace StreamWatch

/-- The nanoseconds of a second. -/
def nanosPerSecond : Nat := 1000000000

/-- A length of time. -/
structure Duration where
  seconds : UInt64
  nanos : Fin 1000000000
deriving DecidableEq, Repr

namespace Duration

/-- No time at all. -/
def zero : Duration := ⟨0, 0⟩

instance : Inhabited Duration := ⟨zero⟩

/-- Whole seconds. -/
def ofSeconds (n : Nat) : Duration := ⟨UInt64.ofNat n, 0⟩

/-- Whole milliseconds. -/
def ofMillis (n : Nat) : Duration := ⟨UInt64.ofNat (n / 1000), Fin.ofNat _ (n % 1000 * 1000000)⟩

/-- The length in nanoseconds. -/
def toNanos (d : Duration) : Nat := d.seconds.toNat * nanosPerSecond + d.nanos

/-- The length of a number of nanoseconds, when its seconds fit 64 bits. -/
def ofNanos? (n : Nat) : Option Duration :=
  if n / nanosPerSecond < Number.wordBound then
    some ⟨UInt64.ofNat (n / nanosPerSecond), ⟨n % nanosPerSecond, Nat.mod_lt _ (by decide)⟩⟩
  else none

/-- Whether there is no time at all. -/
def isZero (d : Duration) : Bool := d.toNanos == 0

instance : LT Duration := ⟨fun a b => a.toNanos < b.toNanos⟩

instance : LE Duration := ⟨fun a b => a.toNanos ≤ b.toNanos⟩

instance (a b : Duration) : Decidable (a < b) := inferInstanceAs (Decidable (a.toNanos < b.toNanos))

instance (a b : Duration) : Decidable (a ≤ b) := inferInstanceAs (Decidable (a.toNanos ≤ b.toNanos))

/-- A length is determined by its nanoseconds. -/
theorem toNanos_injective {a b : Duration} (same : a.toNanos = b.toNanos) : a = b := by
  obtain ⟨s, n⟩ := a
  obtain ⟨t, m⟩ := b
  have hn := n.isLt
  have hm := m.isLt
  simp only [toNanos, nanosPerSecond] at same
  have seconds : s.toNat = t.toNat := by omega
  have nanos : n = m := Fin.ext (by omega)
  rw [UInt64.toNat_inj.mp seconds, nanos]

end Duration
end StreamWatch
