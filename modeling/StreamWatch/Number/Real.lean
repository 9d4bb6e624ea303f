/-
**Real numbers written in decimal, and the shortest way to write one.**

Reading rounds the written value once, to the nearest number of the format. Writing takes the fewest
digits that are read back as the same number and, of those, the digits nearest to it.
-/

import StreamWatch.Number.Binary64
import StreamWatch.Number.Decimal

namespace StreamWatch.Number

/-- The number nearest to `significand * 10 ^ power`. -/
def nearestScaled (significand : Nat) (power : Int) : Binary64 :=
  if significand = 0 then Binary64.zero
  else
    let digits := (toString significand).length
    if (digits : Int) + power > 400 then Binary64.infinity
    else if (digits : Int) + power < -400 then Binary64.zero
    else if power < 0 then Binary64.ofRatio significand (tenTo power.natAbs)
    else Binary64.ofNat (significand * tenTo power.natAbs)

/-- A text as lower-case ASCII, other characters unchanged. -/
def lowered (text : List Char) : List Char := text.map Char.toLower

/-- The exponent part of a written number; a text without one has exponent zero. -/
def exponent? : List Char → Option Int
  | [] => some 0
  | c :: rest =>
    if c = 'e' ∨ c = 'E' then
      match rest with
      | '-' :: digits => (digitsValue? digits).map fun n => -(n : Int)
      | '+' :: digits => (digitsValue? digits).map Int.ofNat
      | digits => (digitsValue? digits).map Int.ofNat
    else none

/-- A magnitude: digits with an optional point among them and an optional exponent, or one of the
words for infinity and for not a number. -/
def magnitude? (text : List Char) : Option Binary64 :=
  let word := String.ofList (lowered text)
  if word = "inf" ∨ word = "infinity" then some Binary64.infinity
  else if word = "nan" then some Binary64.notANumber
  else
    let whole := text.takeWhile isDigit
    let rest := text.dropWhile isDigit
    let (fraction, rest) := match rest with
      | '.' :: tail => (tail.takeWhile isDigit, tail.dropWhile isDigit)
      | _ => ([], rest)
    match digitsValue? (whole ++ fraction), exponent? rest with
    | some significand, some power => some (nearestScaled significand (power - fraction.length))
    | _, _ => none

/-- A real number with at most one sign before it. -/
def real? (text : List Char) : Option Binary64 :=
  match text with
  | '-' :: rest => (magnitude? rest).map Binary64.negate
  | '+' :: rest => magnitude? rest
  | _ => magnitude? text

/-- Decimal digits and the power of ten that scales them. -/
structure Scaled where
  digits : Nat
  power : Int
deriving DecidableEq, Repr

/-- Compares `a * 2 ^ p` with `b * 10 ^ q`. -/
def compareScaled (a : Nat) (p : Int) (b : Nat) (q : Int) : Ordering :=
  let left := a * twoTo p.toNat * tenTo (-q).toNat
  let right := b * tenTo q.toNat * twoTo (-p).toNat
  compare left right

/-- The least power of ten above `a * 2 ^ p`, looked for upwards from a start. -/
def decimalWidth (a : Nat) (p : Int) : (steps : Nat) → (start : Int) → Int
  | 0, start => start
  | steps + 1, start =>
    if compareScaled a p 1 start == .lt then start else decimalWidth a p steps (start + 1)

/-- The quotient `a * 2 ^ p / 10 ^ q` without its fraction. -/
def quotientScaled (a : Nat) (p : Int) (q : Int) : Nat :=
  (a * twoTo p.toNat * tenTo (-q).toNat) / (tenTo q.toNat * twoTo (-p).toNat)

/-- The interval of reals that are read back as a number: its ends and the number itself, all as
multiples of one power of two, and whether the ends belong to it. -/
structure Neighbourhood where
  low : Nat
  centre : Nat
  high : Nat
  power : Int
  closed : Bool

/-- The interval of reals read back as a finite number other than zero. -/
def neighbourhood (x : Binary64) : Neighbourhood :=
  let (m, q) := x.decompose
  let narrow := m = Binary64.hiddenBit ∧ 1 < x.exponentBits
  ⟨4 * m - (if narrow then 1 else 2), 4 * m, 4 * m + 2, q - 2, m % 2 == 0⟩

/-- Whether `digits * 10 ^ power` lies in the interval. -/
def Neighbourhood.holds (n : Neighbourhood) (digits : Nat) (power : Int) : Bool :=
  let low := compareScaled n.low n.power digits power
  let high := compareScaled n.high n.power digits power
  (low == .lt || (n.closed && low == .eq)) && (high == .gt || (n.closed && high == .eq))

/-- Of two neighbours on a decimal grid the one nearer to the centre; the even one if neither is. -/
def Neighbourhood.nearer (n : Neighbourhood) (digits : Nat) (power : Int) : Nat :=
  match compareScaled (2 * n.centre) n.power (2 * digits + 1) power with
  | .lt => digits
  | .gt => digits + 1
  | .eq => if digits % 2 = 0 then digits else digits + 1

/-- Tries grids of one more digit each until one of the number's neighbours is in the interval. -/
def shortestFrom (n : Neighbourhood) (width : Int) : (tries : Nat) → (count : Nat) → Scaled
  | 0, count => ⟨quotientScaled n.centre n.power (width - count), width - count⟩
  | tries + 1, count =>
    let power := width - count
    let below := quotientScaled n.centre n.power power
    match n.holds below power, n.holds (below + 1) power with
    | true, true => ⟨n.nearer below power, power⟩
    | true, false => ⟨below, power⟩
    | false, true => ⟨below + 1, power⟩
    | false, false => shortestFrom n width tries (count + 1)

/-- Moves zeros at the end of the digits into the power. -/
def Scaled.normal : (steps : Nat) → Scaled → Scaled
  | 0, s => s
  | steps + 1, s =>
    if s.digits ≠ 0 ∧ s.digits % 10 = 0 then Scaled.normal steps ⟨s.digits / 10, s.power + 1⟩ else s

/-- The fewest digits that are read back as the magnitude of a finite number. -/
def shortest (x : Binary64) : Scaled :=
  let n := neighbourhood x
  if n.centre = 0 then ⟨0, 0⟩
  else
    let start := ((n.centre.log2 : Int) + n.power) * 30103 / 100000 - 1
    let width := decimalWidth n.centre n.power 6 start
    (shortestFrom n width 17 1).normal 20

/-- A finite number written with the fewest digits: positionally while its point stands within
sixteen digits from the front or five zeros before them, else with an exponent. -/
def shortestText (x : Binary64) : String :=
  let s := shortest x
  let digits := (toString s.digits).toList
  let count : Int := digits.length
  let point := count + s.power
  let body : List Char :=
    if s.digits = 0 then ['0', '.', '0']
    else if 0 ≤ s.power ∧ point ≤ 16 then
      digits ++ List.replicate s.power.toNat '0' ++ ['.', '0']
    else if 0 < point ∧ point ≤ 16 then
      digits.take point.toNat ++ '.' :: digits.drop point.toNat
    else if -5 < point ∧ point ≤ 0 then
      '0' :: '.' :: (List.replicate (-point).toNat '0' ++ digits)
    else
      let mantissa := match digits with
        | [d] => [d]
        | d :: more => d :: '.' :: more
        | [] => []
      mantissa ++ 'e' :: (toString (point - 1)).toList
  String.ofList (if x.isNegative then '-' :: body else body)

end StreamWatch.Number
