import SubsetMatch.Decimal.Numeral
import SubsetMatch.Decimal.Shortest
import SubsetMatch.Text.Blank

/-!
# Numerals

A written number reads back, as a number, as a length, and as an integer. An integer has many
spellings: it may have a sign of either kind, or none if it is not negative, and any zeros in front
of its digits. All of them are read as that integer if it has at most 128 bits, and nothing else is.

Results:
* `readNat?_digitsOf`, `readSize?_digitsOf`: written numbers read back.
* `readInt128?_eq_some_iff`: a text is read as an integer iff it spells it and it has 128 bits.
* `SpellsPadded.trim`: what spells an integer between blanks spells it when trimmed.
-/

namespace SubsetMatch.Decimal

open Text

/-! ## Written numbers -/

theorem isBlank_of_isDigit {c : Char} (h : c.isDigit = true) : isBlank c = false := by
  have hrange : 48 ≤ c.toNat ∧ c.toNat ≤ 57 := by
    simpa [Char.isDigit, UInt32.le_iff_toNat_le] using h
  simp [isBlank, UInt32.le_iff_toNat_le, ← UInt32.toNat_inj]
  omega

theorem isDigits_digitsOf (n : Nat) : isDigits (digitsOf n) = true := by
  simp only [isDigits, Bool.and_eq_true, Bool.not_eq_true', List.isEmpty_eq_false_iff]
  exact ⟨digitsOf_ne_nil n, List.all_eq_true.mpr fun _ hc => digitsOf_isDigit hc⟩

theorem valueOf_digitsOf (n : Nat) : valueOf (digitsOf n) = n :=
  Nat.ofDigitChars_toDigits (by decide) (by decide)

/-- **A written number reads back.** -/
theorem readNat?_digitsOf (n : Nat) : readNat? (digitsOf n) = some n :=
  readNat?_eq_some_iff.mpr ⟨isDigits_digitsOf n, valueOf_digitsOf n⟩

theorem ne_of_mem_digitsOf {n : Nat} {c d : Char} (hc : c ∈ digitsOf n) (hd : d.isDigit = false) :
    c ≠ d := by
  rintro rfl
  rw [digitsOf_isDigit hc] at hd
  exact absurd hd (by simp)

/-- **A written length reads back**, if it has at most 64 bits. -/
theorem readSize?_digitsOf {n : Nat} (h : n < sizeLimit) : readSize? (digitsOf n) = some n := by
  have hplus : dropPlus (digitsOf n) = digitsOf n := by
    unfold dropPlus
    split
    · rename_i cs hcs
      have hmem : '+' ∈ digitsOf n := by
        rw [hcs]
        exact List.mem_cons_self
      exact absurd rfl (ne_of_mem_digitsOf hmem (by decide))
    · rfl
  rw [readSize?, hplus, readNat?_digitsOf]
  simpa using h

/-! ## Spelled integers -/

/-- The spellings of an integer: digits, zeros in front allowed, behind a sign or not. -/
inductive Spells : List Char → Int → Prop
  | bare {digits : List Char} (h : isDigits digits = true) : Spells digits (valueOf digits)
  | plus {digits : List Char} (h : isDigits digits = true) :
      Spells ('+' :: digits) (valueOf digits)
  | minus {digits : List Char} (h : isDigits digits = true) :
      Spells ('-' :: digits) (-(valueOf digits))

/-- The integers of a signed word of 128 bits. -/
def IsWide (n : Int) : Prop :=
  -(twoTo 127) ≤ n ∧ n < twoTo 127

instance (n : Int) : Decidable (IsWide n) :=
  inferInstanceAs (Decidable (_ ∧ _))

variable {cs digits : List Char} {n : Int}

theorem isDigit_of_mem (h : isDigits digits = true) {c : Char} (hc : c ∈ digits) :
    c.isDigit = true := by
  rw [isDigits, Bool.and_eq_true] at h
  exact List.all_eq_true.mp h.2 c hc

/-- Digits start with no sign. -/
theorem splitSign_of_digits (h : isDigits digits = true) : splitSign digits = (false, digits) := by
  unfold splitSign
  split
  · exact absurd (isDigit_of_mem h List.mem_cons_self) (by decide)
  · exact absurd (isDigit_of_mem h List.mem_cons_self) (by decide)
  · rfl

/-- Behind its sign, an integer is read from digits that stand for its magnitude. -/
theorem readInt128?_of_sign {negative : Bool} (hsign : splitSign cs = (negative, digits)) :
    readInt128? cs = some n ↔ isDigits digits = true ∧
      n = (if negative then -(valueOf digits : Int) else valueOf digits) ∧ IsWide n := by
  have hpos := twoTo_pos 127
  simp only [readInt128?, hsign, Option.bind_eq_some_iff, readNat?_eq_some_iff, IsWide]
  cases negative with
  | false => grind
  | true => grind

/-- **A text is read as an integer iff it spells it** and the integer has at most 128 bits. -/
theorem readInt128?_eq_some_iff : readInt128? cs = some n ↔ Spells cs n ∧ IsWide n := by
  constructor
  · intro h
    fun_cases splitSign cs with
    | case1 digits =>
      obtain ⟨hdigits, rfl, hwide⟩ := (readInt128?_of_sign rfl).mp h
      exact ⟨.minus hdigits, hwide⟩
    | case2 digits =>
      obtain ⟨hdigits, rfl, hwide⟩ := (readInt128?_of_sign rfl).mp h
      exact ⟨.plus hdigits, hwide⟩
    | case3 _ hminus hplus =>
      obtain ⟨hdigits, rfl, hwide⟩ := (readInt128?_of_sign (splitSign.eq_3 cs hminus hplus)).mp h
      exact ⟨.bare hdigits, hwide⟩
  · rintro ⟨hspells, hwide⟩
    cases hspells with
    | bare h => exact (readInt128?_of_sign (splitSign_of_digits h)).mpr ⟨h, rfl, hwide⟩
    | plus h => exact (readInt128?_of_sign rfl).mpr ⟨h, rfl, hwide⟩
    | minus h => exact (readInt128?_of_sign rfl).mpr ⟨h, rfl, hwide⟩

/-! ## Spelled between blanks -/

/-- A spelling of an integer, with blanks on either side or without. -/
def SpellsPadded (cs : List Char) (n : Int) : Prop :=
  ∃ before numeral after, cs = before ++ (numeral ++ after) ∧ allBlank before = true ∧
    allBlank after = true ∧ Spells numeral n

/-- A spelling has a digit, and no other characters than digits and signs. -/
theorem Spells.characters (h : Spells cs n) :
    cs ≠ [] ∧ ∀ c ∈ cs, c.isDigit = true ∨ c = '+' ∨ c = '-' := by
  have hne : ∀ {digits : List Char}, isDigits digits = true → digits ≠ [] := by
    rintro _ hdigits rfl
    cases hdigits
  cases h with
  | bare h => exact ⟨hne h, fun c hc => .inl (isDigit_of_mem h hc)⟩
  | plus h =>
    refine ⟨by simp, fun c hc => ?_⟩
    rcases List.mem_cons.mp hc with rfl | hc
    · exact .inr (.inl rfl)
    · exact .inl (isDigit_of_mem h hc)
  | minus h =>
    refine ⟨by simp, fun c hc => ?_⟩
    rcases List.mem_cons.mp hc with rfl | hc
    · exact .inr (.inr rfl)
    · exact .inl (isDigit_of_mem h hc)

theorem Spells.not_isBlank (h : Spells cs n) {c : Char} (hc : c ∈ cs) : isBlank c = false := by
  rcases h.characters.2 c hc with hdigit | rfl | rfl
  · exact isBlank_of_isDigit hdigit
  · decide
  · decide

/-- **What spells an integer between blanks spells it when trimmed.** -/
theorem SpellsPadded.trim (h : SpellsPadded cs n) : Spells (trim cs) n := by
  obtain ⟨before, numeral, after, rfl, hbefore, hafter, hnumeral⟩ := h
  have hends : Text.trim numeral = numeral :=
    trim_of_ends (fun c hc => hnumeral.not_isBlank (List.mem_of_head? hc))
      fun c hc => hnumeral.not_isBlank (List.mem_of_getLast? hc)
  rwa [trim_padded hbefore hafter, hends]

theorem Spells.padded (h : Spells cs n) : SpellsPadded cs n :=
  ⟨[], cs, [], by simp, rfl, rfl, h⟩

end SubsetMatch.Decimal
