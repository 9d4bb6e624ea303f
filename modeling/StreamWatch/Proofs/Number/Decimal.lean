/-
**A natural number written in decimal is read as that number.**

* `digitsValueFrom?_of_digits`: a text of digits has a value, whatever was read before it;
* `le_of_digitsValueFrom?`: which is no less than what was read before;
* `digitsValue?_toString`: the written form of a number has that number as its value;
* `word?_eq_some_iff`: the texts that are read as a number of 64 bits are its numerals, and no others.
-/

import StreamWatch.Number.Decimal

namespace StreamWatch.Number

theorem digitValue?_of_isDigit {c : Char} (digit : c.isDigit = true) :
    digitValue? c = some (c.toNat - '0'.toNat) := by
  simp only [Char.isDigit, Bool.and_eq_true, decide_eq_true_eq] at digit
  exact if_pos digit

/-- A text of digits has a value, whatever was read before it. -/
theorem digitsValueFrom?_of_digits {text : List Char} (digits : ∀ c ∈ text, c.isDigit = true) (value : Nat) :
    digitsValueFrom? value text = some (Nat.ofDigitChars 10 text value) := by
  induction text generalizing value with
  | nil => rfl
  | cons c rest ih =>
    rw [digitsValueFrom?, digitValue?_of_isDigit (digits c List.mem_cons_self), Nat.ofDigitChars_cons,
      Nat.mul_comm 10 value]
    exact ih (fun d member => digits d (List.mem_cons_of_mem c member)) _

/-- More digits make no number less. -/
theorem le_of_digitsValueFrom? {text : List Char} {value result : Nat}
    (read : digitsValueFrom? value text = some result) : value ≤ result := by
  induction text generalizing value with
  | nil => exact Nat.le_of_eq (Option.some.inj read)
  | cons c rest ih =>
    rw [digitsValueFrom?] at read
    split at read
    · have := ih read
      omega
    · cases read

/-- **The written form of a number has that number as its value.** -/
theorem digitsValue?_toString (n : Nat) : digitsValue? (toString n).toList = some n := by
  have digits : ∀ c ∈ Nat.toDigits 10 n, c.isDigit = true := fun c member =>
    Nat.isDigit_of_mem_toDigits (by decide) (by decide) member
  have value : digitsValueFrom? 0 (Nat.toDigits 10 n) = some n := by
    rw [digitsValueFrom?_of_digits digits, Nat.ofDigitChars_ten_toDigits]
  rw [Nat.toString_eq_ofList_toDigits, String.toList_ofList]
  cases written : Nat.toDigits 10 n with
  | nil => exact absurd written Nat.toDigits_ne_nil
  | cons c rest =>
    rw [written] at value
    exact value

/-! ### Numerals -/

/-- Whether a text is a number in decimal: one or more of the ten digits, with that number as their value. -/
structure IsDecimal (text : List Char) (n : Nat) : Prop where
  nonempty : text ≠ []
  digits : ∀ c ∈ text, c.isDigit = true
  value : Nat.ofDigitChars 10 text 0 = n

/-- Whether a text is a numeral of a number: the number in decimal, after a plus sign or none. -/
def IsNumeral (text : List Char) (n : UInt64) : Prop :=
  ∃ digits, IsDecimal digits n.toNat ∧ (text = digits ∨ text = '+' :: digits)

theorem isDigit_of_digitValue? {c : Char} {d : Nat} (read : digitValue? c = some d) : c.isDigit = true := by
  unfold digitValue? at read
  split at read
  · next digit =>
    simp only [Char.isDigit, Bool.and_eq_true, decide_eq_true_eq]
    exact digit
  · cases read

/-- What has a value is digits all through. -/
theorem digits_of_digitsValueFrom? {text : List Char} {value result : Nat}
    (read : digitsValueFrom? value text = some result) : ∀ c ∈ text, c.isDigit = true := by
  induction text generalizing value with
  | nil => exact List.forall_mem_nil _
  | cons c rest ih =>
    rw [digitsValueFrom?] at read
    split at read
    · next d digit => exact List.forall_mem_cons.mpr ⟨isDigit_of_digitValue? digit, ih read⟩
    · cases read

/-- **The texts with a value** are the numbers in decimal. -/
theorem digitsValue?_eq_some_iff {text : List Char} {n : Nat} : digitsValue? text = some n ↔ IsDecimal text n := by
  cases text with
  | nil => exact ⟨nofun, fun decimal => absurd rfl decimal.nonempty⟩
  | cons c rest =>
    show digitsValueFrom? 0 (c :: rest) = some n ↔ _
    constructor
    · intro read
      have digits := digits_of_digitsValueFrom? read
      rw [digitsValueFrom?_of_digits digits] at read
      exact ⟨List.cons_ne_nil c rest, digits, Option.some.inj read⟩
    · intro decimal
      rw [digitsValueFrom?_of_digits decimal.digits, decimal.value]

/-- A number in decimal does not begin with a sign. -/
theorem IsDecimal.ne_sign {rest : List Char} {n : Nat} (decimal : IsDecimal ('+' :: rest) n) : False :=
  absurd (decimal.digits '+' List.mem_cons_self) (by decide)

theorem natural?_eq_some_iff {bound n : Nat} {text : List Char} :
    natural? bound text = some n ↔ (∃ digits, IsDecimal digits n ∧ (text = digits ∨ text = '+' :: digits)) ∧ n < bound := by
  unfold natural?
  dsimp only
  split
  · next rest =>
    rw [Option.filter_eq_some_iff, decide_eq_true_eq, digitsValue?_eq_some_iff]
    refine and_congr_left fun _ => ?_
    constructor
    · exact fun decimal => ⟨rest, decimal, .inr rfl⟩
    · rintro ⟨digits, decimal, rfl | same⟩
      · exact decimal.ne_sign.elim
      · exact (List.cons.inj same).2 ▸ decimal
  · next unsigned =>
    rw [Option.filter_eq_some_iff, decide_eq_true_eq, digitsValue?_eq_some_iff]
    refine and_congr_left fun _ => ?_
    constructor
    · exact fun decimal => ⟨text, decimal, .inl rfl⟩
    · rintro ⟨digits, decimal, rfl | same⟩
      · exact decimal
      · exact absurd same (unsigned digits)

/-- **The texts that are read as a number of 64 bits** are its numerals. -/
theorem word?_eq_some_iff {text : List Char} {n : UInt64} : word? text = some n ↔ IsNumeral text n := by
  rw [word?, Option.map_eq_some_iff]
  constructor
  · rintro ⟨value, read, rfl⟩
    obtain ⟨written, small⟩ := natural?_eq_some_iff.mp read
    rwa [IsNumeral, UInt64.toNat_ofNat_of_lt' small]
  · exact fun written => ⟨n.toNat, natural?_eq_some_iff.mpr ⟨written, n.toNat_lt⟩, UInt64.ofNat_toNat⟩

/-- The written form of a number is a numeral of it. -/
theorem isNumeral_toString (n : UInt64) : IsNumeral (toString n.toNat).toList n :=
  ⟨_, digitsValue?_eq_some_iff.mp (digitsValue?_toString n.toNat), .inl rfl⟩

/-- A numeral is not empty, and made of digits and a sign. -/
theorem IsNumeral.mem {text : List Char} {n : UInt64} (numeral : IsNumeral text n) :
    ∀ c ∈ text, c.isDigit = true ∨ c = '+' := by
  obtain ⟨digits, decimal, rfl | rfl⟩ := numeral
  · exact fun c among => .inl (decimal.digits c among)
  · rintro c among
    rcases List.mem_cons.mp among with rfl | later
    · exact .inr rfl
    · exact .inl (decimal.digits c later)

end StreamWatch.Number
