import SubsetMatch.Decimal.Binary64

/-!
# Decimal numerals

Reading of numerals in running text: unsigned integers, signed integers and numbers with a point
or an exponent, each with an optional sign. A number is rounded to the nearest double.

Results:
* `readNat?_eq_some_iff`: a text is read as a natural number exactly when it is a nonempty run of
  ASCII digits, and then it is read as their value.
-/

namespace SubsetMatch.Decimal

/-- The value of one digit. -/
def digitValue (c : Char) : Nat :=
  c.toNat - '0'.toNat

/-- The value of a hexadecimal digit. -/
def hexValue? (c : Char) : Option Nat :=
  if c.isDigit then some (digitValue c)
  else if 'a' ≤ c && c ≤ 'f' then some (c.toNat - 'a'.toNat + 10)
  else if 'A' ≤ c && c ≤ 'F' then some (c.toNat - 'A'.toNat + 10)
  else none

/-- The value of a run of digits after digits worth `n`. -/
def valueFrom (n : Nat) (ds : List Char) : Nat :=
  ds.foldl (fun n c => 10 * n + digitValue c) n

/-- The value of a run of digits. -/
def valueOf (ds : List Char) : Nat :=
  valueFrom 0 ds

/-- At least one ASCII digit and nothing else. -/
def isDigits (cs : List Char) : Bool :=
  !cs.isEmpty && cs.all Char.isDigit

/-- An unsigned integer without sign. -/
def readNat? (cs : List Char) : Option Nat :=
  if isDigits cs then some (valueOf cs) else none

theorem readNat?_eq_some_iff {cs : List Char} {n : Nat} :
    readNat? cs = some n ↔ isDigits cs ∧ valueOf cs = n := by
  simp [readNat?]

/-- The text without one leading plus sign. -/
def dropPlus : List Char → List Char
  | '+' :: cs => cs
  | cs => cs

/-- The greatest position or length: 64 bits. -/
def sizeLimit : Nat := twoTo 64

/-- A length: an optional plus sign, digits, below 2^64. -/
def readSize? (cs : List Char) : Option Nat :=
  (readNat? (dropPlus cs)).filter (· < sizeLimit)

/-- The sign of a numeral, `true` for minus, and the text after it. -/
def splitSign : List Char → Bool × List Char
  | '-' :: cs => (true, cs)
  | '+' :: cs => (false, cs)
  | cs => (false, cs)

/-- A signed integer of 128 bits. -/
def readInt128? (cs : List Char) : Option Int :=
  let (negative, digits) := splitSign cs
  (readNat? digits).bind fun n =>
    if negative then if n ≤ twoTo 127 then some (-(n : Int)) else none
    else if n < twoTo 127 then some n else none

/-- A decimal mantissa and exponent: the number `mantissa · 10^exponent`. -/
structure Parts where
  mantissa : Nat
  exponent : Int

/-- Digits, an optional point with digits on at least one side, an optional exponent. -/
def readParts? (cs : List Char) : Option Parts :=
  let whole := cs.takeWhile Char.isDigit
  let rest := cs.dropWhile Char.isDigit
  let (fraction, rest) :=
    match rest with
    | '.' :: rest => (rest.takeWhile Char.isDigit, rest.dropWhile Char.isDigit)
    | rest => ([], rest)
  if whole.isEmpty && fraction.isEmpty then none
  else
    let mantissa := valueOf (whole ++ fraction)
    let shift : Int := -(fraction.length : Int)
    match rest with
    | [] => some ⟨mantissa, shift⟩
    | c :: rest =>
      if c == 'e' || c == 'E' then
        let (negative, digits) := splitSign rest
        (readNat? digits).map fun e => ⟨mantissa, if negative then shift - e else shift + e⟩
      else none

/-- The double nearest to `mantissa · 10^exponent`; exponents beyond the reach of any double are
decided without computing the power. -/
def Parts.toBinary64? (negative : Bool) (p : Parts) : Option Binary64 :=
  let size : Int := (Nat.log2 p.mantissa : Int) / 3 + 1
  if p.mantissa == 0 then some (Binary64.zero negative)
  else if 400 < p.exponent then none
  else if p.exponent + size < -400 then some (Binary64.zero negative)
  else if 0 ≤ p.exponent then
    Binary64.ofRatio negative (p.mantissa * tenTo p.exponent.toNat) 1
  else Binary64.ofRatio negative p.mantissa (tenTo (-p.exponent).toNat)

/-- A finite number with an optional sign, rounded to the nearest double. -/
def readBinary64? (cs : List Char) : Option Binary64 :=
  let (negative, body) := splitSign cs
  (readParts? body).bind (Parts.toBinary64? negative)

end SubsetMatch.Decimal
