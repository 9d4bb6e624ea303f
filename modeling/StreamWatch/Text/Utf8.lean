/-
**Reading text from bytes that may not be well formed.**

Each maximal part of a byte sequence that begins a character but does not finish it is read as one
replacement character U+FFFD, and so is each byte that begins none.

* `decodeLossy_ascii`: bytes below 128 are read as the characters with their numbers;
* `decodeLossy_append`: what stands on both sides of such a byte is read apart.
-/

namespace StreamWatch.Text

/-- What stands in for bytes that form no character. -/
def replacementCharacter : Char := '\uFFFD'

/-- The number of continuation bytes a first byte asks for, the bits it carries, and the range
its first continuation byte has to be in. -/
structure LeadByte where
  continuation : Nat
  bits : Nat
  low : Nat
  high : Nat

/-- How a sequence that starts with this byte has to go on, when a sequence may start with it. -/
def leadByte? (byte : UInt8) : Option LeadByte :=
  let b := byte.toNat
  if b < 0x80 then some ⟨0, b, 0, 0⟩
  else if 0xC2 ≤ b && b ≤ 0xDF then some ⟨1, b - 0xC0, 0x80, 0xBF⟩
  else if b == 0xE0 then some ⟨2, 0, 0xA0, 0xBF⟩
  else if b == 0xED then some ⟨2, 0xD, 0x80, 0x9F⟩
  else if 0xE1 ≤ b && b ≤ 0xEF then some ⟨2, b - 0xE0, 0x80, 0xBF⟩
  else if b == 0xF0 then some ⟨3, 0, 0x90, 0xBF⟩
  else if b == 0xF4 then some ⟨3, 4, 0x80, 0x8F⟩
  else if 0xF1 ≤ b && b ≤ 0xF3 then some ⟨3, b - 0xF0, 0x80, 0xBF⟩
  else none

/-- Takes continuation bytes while they fit. Answers the bits gathered, whether all were there,
and the bytes left; the range given is that of the next byte, later ones only continue. -/
def takeContinuation : (wanted low high bits : Nat) → List UInt8 → Nat × Bool × List UInt8
  | 0, _, _, bits, bytes => (bits, true, bytes)
  | _ + 1, _, _, bits, [] => (bits, false, [])
  | wanted + 1, low, high, bits, byte :: rest =>
    if low ≤ byte.toNat && byte.toNat ≤ high then
      takeContinuation wanted 0x80 0xBF (bits * 64 + (byte.toNat - 0x80)) rest
    else (bits, false, byte :: rest)

/-- Continuation bytes are only ever taken from the front. -/
theorem takeContinuation_length (wanted low high bits : Nat) (bytes : List UInt8) :
    (takeContinuation wanted low high bits bytes).2.2.length ≤ bytes.length := by
  induction wanted generalizing low high bits bytes with
  | zero => simp [takeContinuation]
  | succ wanted ih =>
    cases bytes with
    | nil => simp [takeContinuation]
    | cons byte rest =>
      rw [takeContinuation]
      split
      · exact Nat.le_succ_of_le (ih _ _ _ _)
      · simp

/-- The characters of a byte sequence, with U+FFFD for what forms none. -/
def decodeLossy : List UInt8 → List Char
  | [] => []
  | byte :: rest =>
    match leadByte? byte with
    | none => replacementCharacter :: decodeLossy rest
    | some lead =>
      let taken := takeContinuation lead.continuation lead.low lead.high lead.bits rest
      (if taken.2.1 then Char.ofNat taken.1 else replacementCharacter) :: decodeLossy taken.2.2
termination_by bytes => bytes.length
decreasing_by
  · simp
  · exact Nat.lt_succ_of_le (takeContinuation_length ..)

/-- Bytes below 128 are read as the characters with their numbers. -/
theorem decodeLossy_ascii (byte : UInt8) (rest : List UInt8) (small : byte.toNat < 0x80) :
    decodeLossy (byte :: rest) = Char.ofNat byte.toNat :: decodeLossy rest := by
  rw [decodeLossy]
  simp [leadByte?, small, takeContinuation]

/-- No continuation byte is below 128. -/
theorem le_low_of_leadByte? {byte : UInt8} {lead : LeadByte} (found : leadByte? byte = some lead) :
    lead.continuation = 0 ∨ 0x80 ≤ lead.low := by
  grind [leadByte?]

/-- A byte that cannot continue a character is left where it is. -/
theorem takeContinuation_append {byte : UInt8} (small : byte.toNat < 0x80) {wanted low : Nat}
    (above : wanted = 0 ∨ 0x80 ≤ low) (high bits : Nat) (front back : List UInt8) :
    takeContinuation wanted low high bits (front ++ byte :: back) =
      ((takeContinuation wanted low high bits front).1, (takeContinuation wanted low high bits front).2.1,
        (takeContinuation wanted low high bits front).2.2 ++ byte :: back) := by
  induction wanted generalizing low high bits front with
  | zero => rfl
  | succ wanted ih =>
    have least : 0x80 ≤ low := above.resolve_left nofun
    cases front with
    | nil =>
      have outside : ¬ (decide (low ≤ byte.toNat) && decide (byte.toNat ≤ high)) = true := by simp; omega
      simp only [List.nil_append, takeContinuation, if_neg outside]
    | cons first rest =>
      rw [List.cons_append, takeContinuation, takeContinuation]
      split
      · exact ih (.inr (Nat.le_refl _)) ..
      · rfl

/-- **A byte below 128 is read as its character wherever it stands**, and what is on both sides of it is read apart. -/
theorem decodeLossy_append {byte : UInt8} (small : byte.toNat < 0x80) (front back : List UInt8) :
    decodeLossy (front ++ byte :: back) = decodeLossy front ++ Char.ofNat byte.toNat :: decodeLossy back := by
  induction front using decodeLossy.induct with
  | case1 => rw [decodeLossy, List.nil_append, decodeLossy_ascii byte back small]; rfl
  | case2 first rest none ih =>
    rw [List.cons_append, decodeLossy, decodeLossy]
    simp only [none, ih, List.cons_append]
  | case3 first rest lead found taken ih =>
    have seam := takeContinuation_append small (le_low_of_leadByte? found) lead.high lead.bits rest back
    rw [List.cons_append, decodeLossy, decodeLossy]
    simp only [found, seam, List.cons_append]
    exact congrArg _ ih

end StreamWatch.Text
