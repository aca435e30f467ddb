import SubsetMatch.Json.Render
import SubsetMatch.Json.StringText

/-!
# Written strings read back

A written string is read back up to its closing quote, whatever stands behind it: no character is
written as a quote alone, and every escape stands for the character that it was written for. So a
written string tells where it ends, and what it is.

Results:
* `escapeChar_cases`: a character is written as itself or as an escape that reads back.
* `stringBody_escape`: the text between the quotes reads back.
* `quoted_append_eq_iff`: texts that start with written strings are equal only if the strings are.
-/

namespace SubsetMatch.Json

/-- The digits of a control character are worth its code. -/
theorem hexValues?_control {n : Nat} (h : n < 32) :
    hexValues? ['0', '0', hexDigit (n / 16), hexDigit n] = some n := by
  have hall : ∀ m : Fin 32,
      hexValues? ['0', '0', hexDigit (m.val / 16), hexDigit m.val] = some m.val := by decide
  exact hall ⟨n, h⟩

/-- A control character reads back from its code. -/
theorem escaped_control {c : Char} (h : c.val < 32) (rest : List Char) :
    escaped ('u' :: '0' :: '0' :: hexDigit (c.toNat / 16) :: hexDigit c.toNat :: rest) =
      .ok (c, rest) := by
  have hlt : c.toNat < 32 := h
  have hhex : hexEscape ('0' :: '0' :: hexDigit (c.toNat / 16) :: hexDigit c.toNat :: rest) =
      .ok (c.toNat, rest) := by
    rw [hexEscape, hexValues?_control hlt]
  have hlow : ¬ 0xDC00 ≤ c.toNat := by omega
  have hhigh : ¬ 0xD800 ≤ c.toNat := by omega
  rw [escaped]
  simp only [unicodeEscape, hhex]
  simp [hlow, hhigh]

/-- The characters that are escaped by one letter. -/
def shortlyEscaped : List Char :=
  ['"', '\\', Char.ofNat 8, '\t', '\n', Char.ofNat 12, '\r']

/-- **A character is written as itself or as an escape that reads back.** -/
theorem escapeChar_cases (c : Char) :
    (∃ body, escapeChar c = '\\' :: body ∧ ∀ rest, escaped (body ++ rest) = .ok (c, rest)) ∨
    escapeChar c = [c] ∧ c ≠ '"' ∧ c ≠ '\\' ∧ ¬ c.val < 32 := by
  by_cases hshort : c ∈ shortlyEscaped
  · left
    simp only [shortlyEscaped, List.mem_cons, List.not_mem_nil, or_false] at hshort
    rcases hshort with rfl | rfl | rfl | rfl | rfl | rfl | rfl <;> exact ⟨_, rfl, fun _ => rfl⟩
  · simp only [shortlyEscaped, List.mem_cons, List.not_mem_nil, or_false, not_or] at hshort
    obtain ⟨hquote, hslash, hback, htab, hline, hpage, hreturn⟩ := hshort
    have hback : c.val ≠ 8 := fun he => hback (Char.ext he)
    have hpage : c.val ≠ 12 := fun he => hpage (Char.ext he)
    by_cases hcontrol : c.val < 32
    · have hescape : escapeChar c =
          ['\\', 'u', '0', '0', hexDigit (c.toNat / 16), hexDigit c.toNat] := by
        simp [escapeChar, hquote, hslash, hback, htab, hline, hpage, hreturn, hcontrol]
      exact .inl ⟨_, hescape, escaped_control hcontrol⟩
    · have hescape : escapeChar c = [c] := by
        simp [escapeChar, hquote, hslash, hback, htab, hline, hpage, hreturn, hcontrol]
      exact .inr ⟨hescape, hquote, hslash, hcontrol⟩

theorem stringBody_of_escaped {rest rest' : List Char} {c : Char}
    (h : escaped rest = .ok (c, rest')) :
    stringBody ('\\' :: rest) = Except.map (fun (s, r) => (c :: s, r)) (stringBody rest') := by
  rw [stringBody]
  simp only [Char.reduceBEq, Bool.false_eq_true, if_false, if_true]
  split
  · rename_i f hf
    rw [h] at hf
    cases hf
  · rename_i d r hd
    rw [h] at hd
    cases hd
    rfl

theorem stringBody_of_plain {rest : List Char} {c : Char} (hquote : c ≠ '"') (hslash : c ≠ '\\')
    (hcontrol : ¬ c.val < 32) :
    stringBody (c :: rest) = Except.map (fun (s, r) => (c :: s, r)) (stringBody rest) := by
  rw [stringBody]
  simp [hquote, hslash, hcontrol]

/-- **The text between the quotes reads back**, and the reader stops behind the closing one. -/
theorem stringBody_escape (cs rest : List Char) :
    stringBody (cs.flatMap escapeChar ++ '"' :: rest) = .ok (cs, rest) := by
  induction cs with
  | nil =>
    rw [List.flatMap_nil, List.nil_append, stringBody]
    rfl
  | cons c cs ih =>
    rw [List.flatMap_cons, List.append_assoc]
    rcases escapeChar_cases c with ⟨body, hc, hbody⟩ | ⟨hc, hquote, hslash, hcontrol⟩
    · rw [hc, List.cons_append, stringBody_of_escaped (hbody _), ih]
      rfl
    · rw [hc, List.singleton_append, stringBody_of_plain hquote hslash hcontrol, ih]
      rfl

/-- A text that starts with a written string tells the string and what stands behind it. -/
theorem quoted_append_eq_iff {a b x y : List Char} :
    quoted a ++ x = quoted b ++ y ↔ a = b ∧ x = y := by
  constructor
  · intro h
    simp only [quoted, List.cons_append, List.append_assoc, List.nil_append, List.cons.injEq,
      true_and] at h
    have hread := stringBody_escape a x
    rw [h, stringBody_escape b y] at hread
    cases hread
    exact ⟨rfl, rfl⟩
  · rintro ⟨rfl, rfl⟩
    rfl

end SubsetMatch.Json
