import SubsetMatch.Decimal.Binary64

/-!
# Shortest decimal digits

The fewest digits that read back as a given double, nearest to it among those, and their layout:
positional from 1e-5 up to, not including, 1e16, scientific elsewhere.

Results:
* `digitsOf_ne_nil`, `digitsOf_isDigit`: a natural number is written with at least one digit and
  with digits only.
-/

namespace SubsetMatch.Decimal

/-- The decimal digits of a natural number, most significant first. -/
def digitsOf (n : Nat) : List Char :=
  Nat.toDigits 10 n

theorem digitsOf_ne_nil (n : Nat) : digitsOf n ≠ [] :=
  Nat.toDigits_ne_nil

theorem digitsOf_isDigit {n : Nat} {c : Char} (h : c ∈ digitsOf n) : c.isDigit :=
  Nat.isDigit_of_mem_toDigits (by decide) (by decide) h

/-- A positive number `digits · 10^exponent`. -/
structure Scientific where
  digits : Nat
  exponent : Int
deriving DecidableEq, Repr

/-- The numbers that round to a double, as an interval of multiples of a common unit `1 / den`.
Both ends belong to it exactly when the mantissa is even. -/
structure RoundingInterval where
  low : Nat
  value : Nat
  high : Nat
  den : Nat
  closed : Bool
deriving Repr

namespace RoundingInterval

/-- The rounding interval of a positive double. The neighbour below a power of two is half as far
as the one above. -/
def ofBinary64 (x : Binary64) : RoundingInterval :=
  let (num, den) := x.magnitude
  let unit := if 0 ≤ x.exponent then twoTo x.exponent.toNat else 1
  let narrow := x.mantissa == twoTo 52 && x.exponent != Binary64.minExponent
  { low := 4 * num - (if narrow then unit else 2 * unit)
    value := 4 * num
    high := 4 * num + 2 * unit
    den := 4 * den
    closed := x.mantissa % 2 == 0 }

/-- Whether `n · 10^exponent` lies in the interval. -/
def contains (r : RoundingInterval) (n : Nat) (exponent : Int) : Bool :=
  let num := if 0 ≤ exponent then n * tenTo exponent.toNat * r.den else n * r.den
  let scale := if 0 ≤ exponent then 1 else tenTo (-exponent).toNat
  if r.closed then r.low * scale ≤ num && num ≤ r.high * scale
  else r.low * scale < num && num < r.high * scale

/-- The value divided by `10^exponent`, as a quotient of natural numbers. -/
def scaled (r : RoundingInterval) (exponent : Int) : Nat × Nat :=
  if 0 ≤ exponent then (r.value, r.den * tenTo exponent.toNat)
  else (r.value * tenTo (-exponent).toNat, r.den)

/-- The point nearest to the value on the grid of multiples of `10^exponent`, if it or its
neighbour reads back. -/
def onGrid (r : RoundingInterval) (exponent : Int) : Option Nat :=
  let (num, den) := r.scaled exponent
  let below := num / den
  let best := Binary64.nearest num den
  let other := if best == below then below + 1 else below
  if r.contains best exponent then some best
  else if r.contains other exponent then some other
  else none

/-- The first grid, from `10^exponent` downwards, that holds a number reading back. -/
def search (r : RoundingInterval) : Nat → Int → Scientific
  | 0, exponent => ⟨(r.onGrid exponent).getD 0, exponent⟩
  | fuel + 1, exponent =>
    match r.onGrid exponent with
    | some n => if n == 0 then r.search fuel (exponent - 1) else ⟨n, exponent⟩
    | none => r.search fuel (exponent - 1)

end RoundingInterval

/-- An upper bound of the decimal exponent of `num / den`. -/
def decimalExponentBound (num den : Nat) : Int :=
  Int.ofNat (digitsOf num).length - Int.ofNat (digitsOf den).length + 1

/-- Zeros at the end of the digits moved into the exponent. -/
def Scientific.normalize (s : Scientific) : Scientific :=
  let ds := (digitsOf s.digits).reverse
  let zeros := (ds.takeWhile (· == '0')).length
  ⟨s.digits / tenTo zeros, s.exponent + zeros⟩

/-- The fewest digits that read back as a positive double. -/
def shortest (x : Binary64) : Scientific :=
  let r := RoundingInterval.ofBinary64 x
  (r.search 20 (decimalExponentBound r.value r.den)).normalize

/-- `d.ddde±x`, with no point after a single digit. -/
def scientificText (digits : List Char) (exponent : Int) : List Char :=
  let fraction := digits.drop 1
  digits.take 1 ++ (if fraction.isEmpty then [] else '.' :: fraction) ++
    ['e', if exponent < 0 then '-' else '+'] ++ digitsOf exponent.natAbs

/-- The layout of `digits · 10^exponent`. -/
def Scientific.text (s : Scientific) : List Char :=
  let digits := digitsOf s.digits
  let point : Int := digits.length + s.exponent
  if 0 ≤ s.exponent && point ≤ 16 then
    digits ++ List.replicate s.exponent.toNat '0' ++ ['.', '0']
  else if 0 < point && point ≤ 16 then
    digits.take point.toNat ++ '.' :: digits.drop point.toNat
  else if -5 < point && point ≤ 0 then
    ['0', '.'] ++ List.replicate (-point).toNat '0' ++ digits
  else scientificText digits (point - 1)

/-- The text of a double. -/
def layout (x : Binary64) : List Char :=
  let body := if x.isZero then ['0', '.', '0'] else (shortest x).text
  if x.negative then '-' :: body else body

end SubsetMatch.Decimal
