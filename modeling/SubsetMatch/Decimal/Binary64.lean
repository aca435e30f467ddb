import SubsetMatch.Decimal.Power

/-!
# Binary floating point, exactly

A finite double is a sign, a mantissa below 2^53 and an exponent of two, at least -1074. All
arithmetic is on natural numbers and rounds once, to nearest, ties to even, so every comparison
is a comparison of integers.

Results:
* `same_refl`, `same_comm`: numeric equality is reflexive and symmetric; both zeros are equal.
* `less_irrefl`: no double is less than itself.
-/

namespace SubsetMatch.Decimal

/-- The number `± mantissa · 2^exponent`. -/
structure Binary64 where
  negative : Bool
  mantissa : Nat
  exponent : Int
deriving DecidableEq, Repr

namespace Binary64

/-- The least exponent: the distance of two subnormal numbers. -/
def minExponent : Int := -1074

/-- The exponent of the largest finite number. -/
def maxExponent : Int := 971

/-- Zero, with its sign. -/
def zero (negative : Bool) : Binary64 :=
  ⟨negative, 0, minExponent⟩

/-- The integer nearest to `num / den`, the even one of two. -/
def nearest (num den : Nat) : Nat :=
  let floor := num / den
  let rest := 2 * (num % den)
  if den < rest || (rest == den && floor % 2 == 1) then floor + 1 else floor

/-- The integer nearest to `num / den · 2^(-exponent)`. -/
def nearestScaled (num den : Nat) (exponent : Int) : Nat :=
  if 0 ≤ exponent then nearest num (den * twoTo exponent.toNat)
  else nearest (num * twoTo (-exponent).toNat) den

/-- Whether `num / den` is at least `2^53 · 2^exponent`. -/
def isWide (num den : Nat) (exponent : Int) : Bool :=
  if 0 ≤ exponent + 53 then den * twoTo (exponent + 53).toNat ≤ num
  else den ≤ num * twoTo (-(exponent + 53)).toNat

/-- The exponent at which `num / den` has a mantissa of at most 53 bits. -/
def exponentFor (num den : Nat) : Int :=
  let wanted := Int.ofNat num.log2 - Int.ofNat den.log2 - 53
  let guess := if wanted < minExponent then minExponent else wanted
  if isWide num den guess then guess + 1 else guess

/-- The double nearest to `num / den`; `none` past the largest finite one. -/
def ofRatio (negative : Bool) (num den : Nat) : Option Binary64 :=
  if num == 0 then some (zero negative)
  else
    let exponent := exponentFor num den
    let mantissa := nearestScaled num den exponent
    let rounded : Binary64 :=
      if mantissa == twoTo 53 then ⟨negative, twoTo 52, exponent + 1⟩ else ⟨negative, mantissa, exponent⟩
    if maxExponent < rounded.exponent then none else some rounded

/-- The double nearest to an integer; integers stay far below the largest finite one. -/
def ofInt (n : Int) : Binary64 :=
  (ofRatio (n < 0) n.natAbs 1).getD (zero false)

/-- The magnitude as a quotient of natural numbers. -/
def magnitude (x : Binary64) : Nat × Nat :=
  if 0 ≤ x.exponent then (x.mantissa * twoTo x.exponent.toNat, 1)
  else (x.mantissa, twoTo (-x.exponent).toNat)

/-- The rounded product. -/
def mul (x y : Binary64) : Option Binary64 :=
  let (a, b) := x.magnitude
  let (c, d) := y.magnitude
  ofRatio (x.negative != y.negative) (a * c) (b * d)

/-- The rounded quotient, for a divisor other than zero. -/
def div (x y : Binary64) : Option Binary64 :=
  let (a, b) := x.magnitude
  let (c, d) := y.magnitude
  ofRatio (x.negative != y.negative) (a * d) (b * c)

/-- The number with the other sign. -/
def neg (x : Binary64) : Binary64 :=
  { x with negative := !x.negative }

/-- Zero of either sign. -/
def isZero (x : Binary64) : Bool :=
  x.mantissa == 0

/-- The number as a multiple of the least positive double. -/
def units (x : Binary64) : Int :=
  let n : Int := Int.ofNat (x.mantissa * twoTo (x.exponent - minExponent).toNat)
  if x.negative then -n else n

/-- Numeric equality. -/
def same (x y : Binary64) : Bool :=
  x.units == y.units

/-- Numeric order. -/
def less (x y : Binary64) : Bool :=
  x.units < y.units

/-- The integer nearest to the magnitude, halves going up. -/
def roundHalfUp (x : Binary64) : Nat :=
  let (a, b) := x.magnitude
  (2 * a + b) / (2 * b)

@[simp] theorem same_refl (x : Binary64) : x.same x = true := by
  simp [same]

theorem same_comm (x y : Binary64) : x.same y = y.same x := by
  exact BEq.comm

@[simp] theorem less_irrefl (x : Binary64) : x.less x = false := by
  simp [less]

end Binary64

end SubsetMatch.Decimal
