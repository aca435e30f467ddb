import SubsetMatch.Decimal.Numeral
import SubsetMatch.Json.Fault
import SubsetMatch.Json.Value

/-!
# Numbers in document texts

An integer that fits 64 bits, signed or unsigned, stays an integer. Everything else becomes a
double: as many leading digits as fit an unsigned 64-bit significand are kept, integer digits
after them only count as powers of ten, fraction digits after them are dropped, and the rounded
significand is scaled by one rounded power of ten of at most 308 at a time. Negative zero is a
double.

Results:
* `number_rest_le`: reading a number never adds text.
-/

namespace SubsetMatch.Json

open Decimal

/-- What a reader returns: a result and the text after it, or a fault. -/
abbrev Reading (α : Type) := Except Fault (α × List Char)

/-- The greatest significand. -/
def maxSignificand : Nat := twoTo 64 - 1

/-- Digits appended to a significand for as long as it stays within 64 bits. -/
def absorb (significand : Nat) : List Char → Nat × List Char
  | [] => (significand, [])
  | c :: cs =>
    if c.isDigit && 10 * significand + digitValue c ≤ maxSignificand then
      absorb (10 * significand + digitValue c) cs
    else (significand, c :: cs)

theorem absorb_rest_le (significand : Nat) (cs : List Char) :
    (absorb significand cs).2.length ≤ cs.length := by
  induction cs generalizing significand with
  | nil => simp [absorb]
  | cons c cs ih =>
    rw [absorb]
    split
    · have := ih (10 * significand + digitValue c)
      simp only [List.length_cons]
      omega
    · simp

/-- A rounded power of ten. -/
def powerOfTen (n : Nat) : Binary64 :=
  (Binary64.ofRatio false (tenTo n) 1).getD (.zero false)

/-- The largest power of ten that is a finite double. -/
def maxPower : Nat := 308

/-- `x · 10^exponent`, rounded after every step; `none` when it overflows. -/
def scale (x : Binary64) (exponent : Int) : Option Binary64 :=
  if 0 ≤ exponent then
    if exponent ≤ maxPower then x.mul (powerOfTen exponent.toNat)
    else if x.isZero then some x
    else none
  else if -maxPower ≤ exponent then x.div (powerOfTen (-exponent).toNat)
  else if x.isZero then some x
  else (x.div (powerOfTen maxPower)).bind fun y => scale y (exponent + maxPower)
termination_by (-exponent).toNat
decreasing_by simp only [maxPower] at *; omega

/-- A significand and a power of ten as a double. -/
def scaled (negative : Bool) (significand : Nat) (exponent : Int) (rest : List Char) :
    Reading Number :=
  match scale (.ofInt significand) exponent with
  | some x => .ok (.double (if negative then x.neg else x), rest)
  | none => .error ⟨.numberOutOfRange, rest, 0⟩

/-- The greatest exponent that is counted. -/
def maxExponent : Nat := twoTo 31 - 1

/-- The digits of an exponent after those worth `n`: their value, or the text behind the digit at
which it grew too large. -/
def exponentDigits (n : Nat) : List Char → Except (List Char) (Nat × List Char)
  | [] => .ok (n, [])
  | c :: cs =>
    if c.isDigit then
      if maxExponent < 10 * n + digitValue c then .error cs
      else exponentDigits (10 * n + digitValue c) cs
    else .ok (n, c :: cs)

/-- The text behind the mark of an exponent. -/
def exponentPart (negative : Bool) (significand : Nat) (shift : Int) (cs : List Char) :
    Reading Number :=
  let (below, cs) := splitSign cs
  match cs with
  | [] => .error ⟨.eofValue, [], 0⟩
  | c :: _ =>
    if c.isDigit then
      match exponentDigits 0 cs with
      | .ok (n, rest) => scaled negative significand (if below then shift - n else shift + n) rest
      | .error rest =>
        if significand != 0 && !below then .error ⟨.numberOutOfRange, rest, 0⟩
        else .ok (.double (.zero negative), rest.dropWhile Char.isDigit)
    else .error ⟨.invalidNumber, cs, 1⟩

/-- The mark of an exponent. -/
def isExponentMark (c : Char) : Bool :=
  c == 'e' || c == 'E'

/-- What may follow the digits of a number that is known to be a double. -/
def afterDigits (negative : Bool) (significand : Nat) (shift : Int) (cs : List Char) :
    Reading Number :=
  match cs with
  | c :: rest =>
    if isExponentMark c then exponentPart negative significand shift rest
    else scaled negative significand shift cs
  | [] => scaled negative significand shift []

/-- The text behind the point. At least one digit must follow. -/
def fractionPart (negative : Bool) (significand : Nat) (shift : Int) (cs : List Char) :
    Reading Number :=
  let (significand', rest) := absorb significand cs
  let taken := cs.length - rest.length
  let dropped := rest.takeWhile Char.isDigit
  if taken == 0 && dropped.isEmpty then
    .error ⟨if rest.isEmpty then .eofValue else .invalidNumber, rest, 1⟩
  else afterDigits negative significand' (shift - taken) (rest.drop dropped.length)

/-- The number whose integer digits are `significand` followed by `dropped` more. -/
def afterInteger (negative : Bool) (significand dropped : Nat) (cs : List Char) : Reading Number :=
  match cs with
  | '.' :: rest => fractionPart negative significand dropped rest
  | _ =>
    if dropped != 0 || (cs.head?.any isExponentMark) then
      afterDigits negative significand dropped cs
    else if !negative then .ok (.integer significand, cs)
    else if significand == 0 then .ok (.double (.zero true), cs)
    else if significand ≤ twoTo 63 then .ok (.integer (-significand), cs)
    else .ok (.double (Binary64.ofInt significand).neg, cs)

/-- The number that starts with the digits of a text. -/
def wholePart (negative : Bool) (cs : List Char) : Reading Number :=
  let (significand, rest) := absorb 0 cs
  let dropped := rest.takeWhile Char.isDigit
  afterInteger negative significand dropped.length (rest.drop dropped.length)

/-- A number without its sign. -/
def unsignedNumber (negative : Bool) (cs : List Char) : Reading Number :=
  match cs with
  | [] => .error ⟨.eofValue, [], 0⟩
  | '0' :: rest =>
    if rest.head?.any Char.isDigit then .error ⟨.invalidNumber, rest, 1⟩
    else afterInteger negative 0 0 rest
  | c :: _ =>
    if c.isDigit then wholePart negative cs else .error ⟨.invalidNumber, cs, 1⟩

/-- A number. -/
def number (cs : List Char) : Reading Number :=
  match cs with
  | '-' :: rest => unsignedNumber true rest
  | _ => unsignedNumber false cs

/-! ## Reading a number never adds text -/

theorem scaled_rest {negative : Bool} {significand : Nat} {exponent : Int} {cs rest : List Char}
    {n : Number} (h : scaled negative significand exponent cs = .ok (n, rest)) : rest = cs := by
  unfold scaled at h
  split at h
  · simp only [Except.ok.injEq, Prod.mk.injEq] at h
    exact h.2.symm
  · simp at h

theorem length_dropWhile_le (p : Char → Bool) (cs : List Char) :
    (cs.dropWhile p).length ≤ cs.length := by
  induction cs with
  | nil => simp
  | cons c cs ih =>
    rw [List.dropWhile_cons]
    split
    · simp only [List.length_cons]
      omega
    · simp

theorem splitSign_rest_le (cs : List Char) : (splitSign cs).2.length ≤ cs.length := by
  unfold splitSign
  split <;> simp

theorem exponentDigits_rest_le (n : Nat) (cs : List Char) :
    (∀ m rest, exponentDigits n cs = .ok (m, rest) → rest.length ≤ cs.length) ∧
      (∀ rest, exponentDigits n cs = .error rest → rest.length ≤ cs.length) := by
  induction cs generalizing n with
  | nil => simp [exponentDigits]
  | cons c cs ih =>
    rw [exponentDigits]
    split
    · split
      · simp
      · have := ih (10 * n + digitValue c)
        refine ⟨fun m rest h => ?_, fun rest h => ?_⟩
        · have := this.1 m rest h
          simp only [List.length_cons]
          omega
        · have := this.2 rest h
          simp only [List.length_cons]
          omega
    · simp

theorem exponentPart_rest_le {negative : Bool} {significand : Nat} {shift : Int}
    {cs rest : List Char} {n : Number}
    (h : exponentPart negative significand shift cs = .ok (n, rest)) :
    rest.length ≤ cs.length := by
  unfold exponentPart at h
  have hs := splitSign_rest_le cs
  generalize splitSign cs = p at h hs
  obtain ⟨below, body⟩ := p
  simp only at h hs
  split at h
  · simp at h
  · split at h
    · split at h
      · rename_i m r hd
        have := (exponentDigits_rest_le 0 _).1 _ _ hd
        have := scaled_rest h
        subst this
        omega
      · rename_i r hd
        have := (exponentDigits_rest_le 0 _).2 _ hd
        split at h
        · simp at h
        · simp only [Except.ok.injEq, Prod.mk.injEq] at h
          obtain ⟨_, rfl⟩ := h
          have := length_dropWhile_le Char.isDigit r
          omega
    · simp at h

theorem afterDigits_rest_le {negative : Bool} {significand : Nat} {shift : Int}
    {cs rest : List Char} {n : Number}
    (h : afterDigits negative significand shift cs = .ok (n, rest)) :
    rest.length ≤ cs.length := by
  unfold afterDigits at h
  split at h
  · split at h
    · have := exponentPart_rest_le h
      simp only [List.length_cons]
      omega
    · exact Nat.le_of_eq (congrArg List.length (scaled_rest h))
  · exact Nat.le_of_eq (congrArg List.length (scaled_rest h))

theorem fractionPart_rest_le {negative : Bool} {significand : Nat} {shift : Int}
    {cs rest : List Char} {n : Number}
    (h : fractionPart negative significand shift cs = .ok (n, rest)) :
    rest.length ≤ cs.length := by
  unfold fractionPart at h
  have ha := absorb_rest_le significand cs
  generalize absorb significand cs = p at h ha
  obtain ⟨significand', r⟩ := p
  simp only at h ha
  split at h
  · simp at h
  · have := afterDigits_rest_le h
    simp only [List.length_drop] at this
    omega

theorem afterInteger_rest_le {negative : Bool} {significand dropped : Nat} {cs rest : List Char}
    {n : Number} (h : afterInteger negative significand dropped cs = .ok (n, rest)) :
    rest.length ≤ cs.length := by
  unfold afterInteger at h
  split at h
  · have := fractionPart_rest_le h
    simp only [List.length_cons]
    omega
  · split at h
    · exact afterDigits_rest_le h
    · repeat' split at h
      all_goals
        simp only [Except.ok.injEq, Prod.mk.injEq] at h
        obtain ⟨_, rfl⟩ := h
        exact Nat.le_refl _

theorem wholePart_rest_le {negative : Bool} {cs rest : List Char} {n : Number}
    (h : wholePart negative cs = .ok (n, rest)) : rest.length ≤ cs.length := by
  unfold wholePart at h
  have ha := absorb_rest_le 0 cs
  generalize absorb 0 cs = p at h ha
  obtain ⟨significand, r⟩ := p
  simp only at h ha
  have := afterInteger_rest_le h
  simp only [List.length_drop] at this
  omega

theorem unsignedNumber_rest_le {negative : Bool} {cs rest : List Char} {n : Number}
    (h : unsignedNumber negative cs = .ok (n, rest)) : rest.length ≤ cs.length := by
  unfold unsignedNumber at h
  split at h
  · simp at h
  · split at h
    · simp at h
    · have := afterInteger_rest_le h
      simp only [List.length_cons]
      omega
  · split at h
    · exact wholePart_rest_le h
    · simp at h

theorem number_rest_le {cs rest : List Char} {n : Number} (h : number cs = .ok (n, rest)) :
    rest.length ≤ cs.length := by
  unfold number at h
  split at h
  · have := unsignedNumber_rest_le h
    simp only [List.length_cons]
    omega
  · exact unsignedNumber_rest_le h

end SubsetMatch.Json
