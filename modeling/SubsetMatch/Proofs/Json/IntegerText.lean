import SubsetMatch.Json.Read
import SubsetMatch.Json.Render
import SubsetMatch.Proofs.Decimal.Numeral

/-!
# Written integers read back

A document keeps an integer as an integer if a word of 64 bits holds it, signed or unsigned. The
digits of such an integer are all taken into its significand, so its text is read as the integer
itself, and never as the double next to it.

Results:
* `absorb_digits`: digits that stand for no more than a word holds are all taken.
* `read_integerText`: the text of an integer of 64 bits is read as that integer.
* `isWord_of_read`, `isWord_iff_read`: no document is an integer of any other size.
-/

namespace SubsetMatch.Json

open Decimal

/-- The integers of a word of 64 bits, signed or unsigned. -/
def IsWord (n : Int) : Prop :=
  -(twoTo 63) ≤ n ∧ n < twoTo 64

instance (n : Int) : Decidable (IsWord n) :=
  inferInstanceAs (Decidable (_ ∧ _))

/-- A significand is an unsigned word, and a signed word has half of its magnitudes. -/
theorem word_limits :
    maxSignificand + 1 = twoTo 64 ∧ twoTo 64 = 2 * twoTo 63 ∧ 0 < twoTo 63 :=
  ⟨rfl, rfl, twoTo_pos 63⟩

variable {cs : List Char}

theorem le_valueFrom (n : Nat) (cs : List Char) : n ≤ valueFrom n cs := by
  induction cs generalizing n with
  | nil => exact Nat.le_refl n
  | cons c cs ih =>
    have hrest := ih (10 * n + digitValue c)
    change n ≤ valueFrom (10 * n + digitValue c) cs
    omega

/-- **Digits are all taken** into a significand that is large enough for them. -/
theorem absorb_digits {n : Nat} (hdigits : ∀ c ∈ cs, c.isDigit = true)
    (hfits : valueFrom n cs ≤ maxSignificand) : absorb n cs = (valueFrom n cs, []) := by
  induction cs generalizing n with
  | nil => rfl
  | cons c cs ih =>
    obtain ⟨hc, hrest⟩ := List.forall_mem_cons.mp hdigits
    have hfits' : valueFrom (10 * n + digitValue c) cs ≤ maxSignificand := hfits
    have hstep : 10 * n + digitValue c ≤ maxSignificand :=
      Nat.le_trans (le_valueFrom _ cs) hfits'
    rw [absorb, if_pos (by simp [hc, hstep])]
    exact ih hrest hfits'

/-! ## Unsigned integers -/

/-- The digits of a positive number do not start with a zero: by recursion on the digits in front of
the last one. -/
theorem head?_digitsOf {n : Nat} (h : 0 < n) : (digitsOf n).head? ≠ some '0' := by
  induction n using Nat.strongRecOn with
  | ind n ih =>
    by_cases hsmall : n < 10
    · have hdigit : ∀ d : Fin 10, 0 < d.val → d.val.digitChar ≠ '0' := by decide
      rw [digitsOf, Nat.toDigits_of_lt_base hsmall]
      simpa using hdigit ⟨n, hsmall⟩ h
    · have hfront := ih (n / 10) (by omega) (by omega)
      obtain ⟨c, cs, hcs⟩ := List.exists_cons_of_ne_nil (digitsOf_ne_nil (n / 10))
      rw [digitsOf, Nat.toDigits_of_base_le (by decide) (by omega), ← digitsOf, hcs]
      rwa [hcs] at hfront

/-- The digits of a number that fits a significand are read as its integer digits, all of them. -/
theorem unsignedNumber_digitsOf {n : Nat} (h : n ≤ maxSignificand) (negative : Bool) :
    unsignedNumber negative (digitsOf n) = afterInteger negative n 0 [] := by
  rcases Nat.eq_zero_or_pos n with rfl | hpos
  · rfl
  · have hvalue : valueFrom 0 (digitsOf n) = n := valueOf_digitsOf n
    have habsorb := absorb_digits (n := 0) (fun _ hc => digitsOf_isDigit hc) (hvalue.symm ▸ h)
    have hwhole : wholePart negative (digitsOf n) = afterInteger negative n 0 [] := by
      simp [wholePart, habsorb, hvalue]
    obtain ⟨c, cs, hcs⟩ := List.exists_cons_of_ne_nil (digitsOf_ne_nil n)
    have hc : c.isDigit = true := digitsOf_isDigit (n := n) (hcs ▸ List.mem_cons_self)
    have hzero : c ≠ '0' := by
      rintro rfl
      exact head?_digitsOf hpos (by rw [hcs]; rfl)
    rw [← hwhole, hcs, unsignedNumber.eq_3 _ _ _ fun h => hzero h, if_pos hc]

/-! ## Integers -/

theorem integerText_ofNat (n : Nat) : integerText n = digitsOf n := rfl

theorem integerText_neg {n : Nat} (h : 0 < n) : integerText (-n) = '-' :: digitsOf n := by
  rw [integerText, if_pos (by omega), Int.natAbs_neg, Int.natAbs_natCast]

/-- The text of an integer starts with a minus sign or a digit. -/
theorem integerText_cons (n : Int) :
    ∃ c cs, integerText n = c :: cs ∧ (c = '-' ∨ c.isDigit = true) := by
  obtain ⟨c, cs, hcs⟩ := List.exists_cons_of_ne_nil (digitsOf_ne_nil n.natAbs)
  unfold integerText
  split
  · exact ⟨_, _, rfl, .inl rfl⟩
  · exact ⟨c, cs, hcs, .inr (digitsOf_isDigit (n := n.natAbs) (hcs ▸ List.mem_cons_self))⟩

/-- The text of an integer of 64 bits is a number, and an integer. -/
theorem number_integerText {n : Int} (h : IsWord n) :
    number (integerText n) = .ok (.integer n, []) := by
  obtain ⟨hmax, hhalf, -⟩ := word_limits
  unfold IsWord at h
  obtain ⟨m, rfl | rfl⟩ := n.eq_nat_or_neg
  · obtain ⟨c, cs, hcs⟩ := List.exists_cons_of_ne_nil (digitsOf_ne_nil m)
    have hc : c ≠ '-' := ne_of_mem_digitsOf (hcs ▸ List.mem_cons_self) (by decide)
    have hnumber : number (digitsOf m) = unsignedNumber false (digitsOf m) := by
      rw [hcs, number.eq_2 _ fun _ heq => hc (List.cons.inj heq).1]
    rw [integerText_ofNat, hnumber, unsignedNumber_digitsOf (by omega)]
    rfl
  · rcases Nat.eq_zero_or_pos m with rfl | hpos
    · rfl
    · rw [integerText_neg hpos, number, unsignedNumber_digitsOf (by omega)]
      have hne : m ≠ 0 := by omega
      have hle : m ≤ twoTo 63 := by omega
      simp [afterInteger, hne, hle]

/-- A text that starts with a minus sign or a digit is read as a number. -/
theorem valueWith_number (inner : Option (List Char → Reading Value)) {c : Char}
    (hc : c = '-' ∨ c.isDigit = true) :
    valueWith inner (c :: cs) = (number (c :: cs)).map .number := by
  have hne : ∀ d : Char, d ≠ '-' → d.isDigit = false → c ≠ d := by
    rintro d hminus hdigit rfl
    rcases hc with rfl | hc
    · exact hminus rfl
    · rw [hdigit] at hc
      cases hc
  have hspace : isSpace c = false := by
    simp [isSpace, hne ' ' (by decide) rfl, hne '\n' (by decide) rfl, hne '\t' (by decide) rfl,
      hne '\r' (by decide) rfl]
  have hskip : skip (c :: cs) = c :: cs := by
    rw [skip, List.dropWhile_cons, hspace]
    rfl
  have hstart : (c == '-' || c.isDigit) = true := by simpa using hc
  rw [valueWith, hskip]
  simp only
  split
  case h_7 => rw [if_pos hstart]
  all_goals exact absurd rfl (hne _ (by decide) rfl)

/-- **The text of an integer of 64 bits is read as that integer.** -/
theorem read_integerText {n : Int} (h : IsWord n) :
    read (integerText n) = .ok (.number (.integer n)) := by
  have htree : readTree (integerText n) = .ok (.number (.integer n)) := by
    obtain ⟨c, cs, hcs, hc⟩ := integerText_cons n
    have hvalue : value maxLevels (integerText n) = .ok (.number (.integer n), []) := by
      rw [maxLevels, value, hcs, valueWith_number _ hc, ← hcs, number_integerText h]
      rfl
    rw [readTree, hvalue]
    rfl
  rw [read, htree]
  rfl

/-! ## No other integers -/

section Words

variable {negative : Bool} {significand : Nat} {rest : List Char} {n : Number}

theorem isDouble_of_scaled {exponent : Int}
    (h : scaled negative significand exponent cs = .ok (n, rest)) : n.isDouble = true := by
  unfold scaled at h
  split at h
  · cases h
    rfl
  · cases h

theorem isDouble_of_exponentPart {shift : Int}
    (h : exponentPart negative significand shift cs = .ok (n, rest)) : n.isDouble = true := by
  unfold exponentPart at h
  obtain ⟨below, body⟩ := splitSign cs
  simp only at h
  split at h
  · cases h
  · split at h
    · split at h
      · exact isDouble_of_scaled h
      · split at h
        · cases h
        · cases h
          rfl
    · cases h

theorem isDouble_of_afterDigits {shift : Int}
    (h : afterDigits negative significand shift cs = .ok (n, rest)) : n.isDouble = true := by
  unfold afterDigits at h
  split at h
  · split at h
    · exact isDouble_of_exponentPart h
    · exact isDouble_of_scaled h
  · exact isDouble_of_scaled h

theorem isDouble_of_fractionPart {shift : Int}
    (h : fractionPart negative significand shift cs = .ok (n, rest)) : n.isDouble = true := by
  unfold fractionPart at h
  obtain ⟨significand', body⟩ := absorb significand cs
  simp only at h
  split at h
  · cases h
  · exact isDouble_of_afterDigits h

/-- A point or an exponent makes a double, and so do digits beyond a word and too great a negative
number. -/
theorem isWord_of_afterInteger {dropped : Nat} {i : Int} (hfits : significand ≤ maxSignificand)
    (h : afterInteger negative significand dropped cs = .ok (.integer i, rest)) : IsWord i := by
  obtain ⟨hmax, hhalf, hpos⟩ := word_limits
  unfold afterInteger at h
  split at h
  · cases isDouble_of_fractionPart h
  · split at h
    · cases isDouble_of_afterDigits h
    · repeat' split at h
      all_goals cases h
      · exact ⟨by omega, by omega⟩
      · exact ⟨by omega, by omega⟩

theorem absorb_le {m : Nat} (h : m ≤ maxSignificand) (cs : List Char) :
    (absorb m cs).1 ≤ maxSignificand := by
  induction cs generalizing m with
  | nil => exact h
  | cons c cs ih =>
    rw [absorb]
    split
    · rename_i hstep
      simp only [Bool.and_eq_true, decide_eq_true_eq] at hstep
      exact ih hstep.2
    · exact h

theorem isWord_of_wholePart {i : Int} (h : wholePart negative cs = .ok (.integer i, rest)) :
    IsWord i := by
  have hfits := absorb_le (Nat.zero_le maxSignificand) cs
  unfold wholePart at h
  generalize absorb 0 cs = p at h hfits
  exact isWord_of_afterInteger hfits h

theorem isWord_of_number {i : Int} (h : number cs = .ok (.integer i, rest)) : IsWord i := by
  have hunsigned : ∀ negative cs, unsignedNumber negative cs = .ok (.integer i, rest) →
      IsWord i := by
    intro negative cs h
    unfold unsignedNumber at h
    split at h
    · cases h
    · split at h
      · cases h
      · exact isWord_of_afterInteger (Nat.zero_le maxSignificand) h
    · split at h
      · exact isWord_of_wholePart h
      · cases h
  unfold number at h
  split at h
  · exact hunsigned _ _ h
  · exact hunsigned _ _ h

end Words

/-- A value that is a number is what the reader of numbers answers. -/
theorem number_of_valueWith {inner : Option (List Char → Reading Value)} {rest : List Char}
    {n : Number} (h : valueWith inner cs = .ok (.number n, rest)) :
    ∃ text, number text = .ok (n, rest) := by
  unfold valueWith at h
  split at h
  · cases h
  · split at h
    · cases (word_shorter h).1
    · cases (word_shorter h).1
    · cases (word_shorter h).1
    · obtain ⟨_, -, hv⟩ := map_eq_ok_iff.mp h
      cases hv
    · split at h
      · cases h
      · obtain ⟨_, -, hv⟩ := map_eq_ok_iff.mp h
        cases hv
    · split at h
      · cases h
      · obtain ⟨_, -, hv⟩ := map_eq_ok_iff.mp h
        cases hv
    · split at h
      · obtain ⟨m, hm, hv⟩ := map_eq_ok_iff.mp h
        cases hv
        exact ⟨_, hm⟩
      · cases h

/-- **A document that is an integer is one of 64 bits.** -/
theorem isWord_of_read {i : Int} (h : read cs = .ok (.number (.integer i))) : IsWord i := by
  unfold read at h
  cases htree : readTree cs with
  | error e =>
    rw [htree] at h
    cases h
  | ok v =>
    have hv : v = .number (.integer i) := by
      rw [htree] at h
      cases v <;> simp_all [Except.map, Value.settle]
    subst hv
    unfold readTree at htree
    split at htree
    · cases htree
    · rename_i hvalue
      split at htree
      · cases htree
        rw [maxLevels, value] at hvalue
        obtain ⟨text, htext⟩ := number_of_valueWith hvalue
        exact isWord_of_number htext
      · cases htree

/-- **The integers of documents are those of 64 bits**, each written in decimal. -/
theorem isWord_iff_read {i : Int} :
    IsWord i ↔ read (integerText i) = .ok (.number (.integer i)) :=
  ⟨read_integerText, isWord_of_read⟩

end SubsetMatch.Json
