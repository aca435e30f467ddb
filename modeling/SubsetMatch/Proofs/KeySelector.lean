import SubsetMatch.KeySelector
import SubsetMatch.Proofs.Decimal.Numeral

/-!
# Keys with brackets

A base followed by empty brackets addresses the list under the base, and followed by a position in
brackets one of its elements. The base is anything but empty; it may have brackets of its own, since
the last ones count.

Results:
* `eq_of_ofKey_eq_plain`: a plain selector is that of its own key.
* `ofKey_listKey`, `ofKey_elementKey`: keys written for a list and for an element address them.
* `ofKey_eq_wholeList_iff`, `ofKey_eq_element_iff`: and no others do.
* `key_syntax_exact`: what a key addresses, said by its text.
-/

namespace SubsetMatch

namespace KeySelector

/-- The key of the whole list under a base. -/
def listKey (base : String) : String :=
  base ++ "[]"

/-- The key of one element of the list under a base. -/
def elementKey (base : String) (position : Nat) : String :=
  base ++ "[" ++ toString position ++ "]"

/-- What stands between brackets never makes a key plain. -/
theorem ofParts_ne_plain (base inner : List Char) (key : String) :
    ofParts base inner ≠ some (.plain key) := by
  unfold ofParts
  split
  · simp
  · split
    · simp
    · intro h
      obtain ⟨n, -, hn⟩ := Option.map_eq_some_iff.mp h
      cases hn

/-- **A plain selector is that of its own key.** -/
theorem eq_of_ofKey_eq_plain {key name : String} (h : ofKey key = .plain name) : name = key := by
  unfold ofKey at h
  split at h
  · rename_i rest _
    cases hb : bracketed? rest.reverse with
    | none =>
      rw [hb] at h
      cases h
      rfl
    | some s =>
      rw [hb, Option.getD_some] at h
      subst h
      obtain ⟨⟨base, inner⟩, -, hparts⟩ := Option.bind_eq_some_iff.mp hb
      exact absurd hparts (ofParts_ne_plain base inner name)
  · cases h
    rfl

/-- The last brackets of a key count, whatever stands in front of them. -/
theorem ofKey_brackets {key : String} {base inner : List Char} {s : KeySelector}
    (hkey : key.toList = base ++ '[' :: (inner ++ [']'])) (hinner : '[' ∉ inner)
    (hparts : ofParts base inner = some s) : ofKey key = s := by
  have hreverse : key.toList.reverse = ']' :: (base ++ '[' :: inner).reverse := by
    rw [hkey, ← List.cons_append, ← List.append_assoc, List.reverse_concat]
  have hcut : Text.cutLast '[' (base ++ '[' :: inner) = some (base, inner) :=
    Text.cutLast_eq_some_iff.mpr ⟨rfl, hinner⟩
  rw [ofKey, hreverse]
  simp only [List.reverse_reverse]
  rw [bracketed?, hcut, Option.bind_some]
  simp only [hparts, Option.getD_some]

/-- **The key of a list addresses it.** -/
theorem ofKey_listKey {base : String} (h : base ≠ "") : ofKey (listKey base) = .wholeList base := by
  have hparts : ofParts base.toList [] = some (.wholeList base) := by
    simp [ofParts, h]
  exact ofKey_brackets (by simp [listKey]) (by simp) hparts

/-! ## The syntax of keys -/

section Syntax

open Decimal

variable {key base : String} {b inner : List Char} {position : Nat}

theorem ofParts_eq_wholeList_iff :
    ofParts b inner = some (.wholeList base) ↔ b ≠ [] ∧ inner = [] ∧ String.ofList b = base := by
  unfold ofParts
  cases b with
  | nil => simp
  | cons c b =>
    cases inner with
    | nil => simp
    | cons d inner => simp

theorem ofParts_eq_element_iff :
    ofParts b inner = some (.element base position) ↔
      b ≠ [] ∧ isDigits inner = true ∧ valueOf inner = position ∧ position < sizeLimit ∧
        String.ofList b = base := by
  unfold ofParts
  cases b with
  | nil => simp
  | cons c b =>
    cases inner with
    | nil => simp [isDigits]
    | cons d inner =>
      simp only [List.isEmpty_cons, Bool.false_eq_true, if_false, Option.map_eq_some_iff,
        Option.filter_eq_some_iff, readNat?_eq_some_iff, decide_eq_true_eq, element.injEq, ne_eq,
        reduceCtorEq, not_false_eq_true, true_and]
      constructor
      · rintro ⟨n, ⟨⟨hdigits, hvalue⟩, hn⟩, hbase, rfl⟩
        exact ⟨hdigits, hvalue, hn, hbase⟩
      · rintro ⟨hdigits, hvalue, hn, hbase⟩
        exact ⟨position, ⟨⟨hdigits, hvalue⟩, hn⟩, hbase, rfl⟩

/-- A key that is not plain ends in brackets, and what it addresses is told by the last ones. -/
theorem exists_parts_of_ofKey {s : KeySelector} (h : ofKey key = s)
    (hs : ∀ name, s ≠ .plain name) :
    ∃ b inner, key.toList = b ++ '[' :: (inner ++ [']']) ∧ ofParts b inner = some s := by
  unfold ofKey at h
  split at h
  · rename_i rest hreverse
    cases hb : bracketed? rest.reverse with
    | none =>
      rw [hb] at h
      exact absurd h.symm (hs key)
    | some t =>
      rw [hb, Option.getD_some] at h
      subst h
      obtain ⟨⟨b, inner⟩, hcut, hparts⟩ := Option.bind_eq_some_iff.mp hb
      obtain ⟨hrest, -⟩ := Text.cutLast_eq_some_iff.mp hcut
      refine ⟨b, inner, ?_, hparts⟩
      rw [← List.reverse_reverse key.toList, hreverse, List.reverse_cons, hrest, List.append_assoc,
        List.cons_append]
  · exact absurd h.symm (hs key)

/-- A base and empty brackets. -/
def IsListKey (key base : String) : Prop :=
  base ≠ "" ∧ key = base ++ "[]"

/-- A base and, in brackets, digits that stand for a position of at most 64 bits. -/
def IsElementKey (key base : String) (position : Nat) : Prop :=
  base ≠ "" ∧ ∃ digits : String, isDigits digits.toList = true ∧
    valueOf digits.toList = position ∧ position < sizeLimit ∧ key = base ++ "[" ++ digits ++ "]"

/-- **A key addresses a whole list iff it is a base and empty brackets.** -/
theorem ofKey_eq_wholeList_iff : ofKey key = .wholeList base ↔ IsListKey key base := by
  constructor
  · intro h
    obtain ⟨b, inner, hkey, hparts⟩ := exists_parts_of_ofKey h fun _ => by simp
    obtain ⟨hb, rfl, rfl⟩ := ofParts_eq_wholeList_iff.mp hparts
    refine ⟨by simpa using hb, String.toList_inj.mp ?_⟩
    rw [hkey, String.toList_append, String.toList_ofList]
    rfl
  · rintro ⟨hbase, rfl⟩
    exact ofKey_listKey hbase

/-- **A key addresses an element iff it is a base and a position in brackets.** -/
theorem ofKey_eq_element_iff :
    ofKey key = .element base position ↔ IsElementKey key base position := by
  constructor
  · intro h
    obtain ⟨b, inner, hkey, hparts⟩ := exists_parts_of_ofKey h fun _ => by simp
    obtain ⟨hb, hdigits, hvalue, hlimit, rfl⟩ := ofParts_eq_element_iff.mp hparts
    refine ⟨by simpa using hb, String.ofList inner, ?_, ?_, hlimit, String.toList_inj.mp ?_⟩
    · rwa [String.toList_ofList]
    · rwa [String.toList_ofList]
    · rw [hkey]
      simp
  · rintro ⟨hbase, digits, hdigits, hvalue, hlimit, rfl⟩
    have hparts : ofParts base.toList digits.toList = some (.element base position) :=
      ofParts_eq_element_iff.mpr
        ⟨by simpa using hbase, hdigits, hvalue, hlimit, String.ofList_toList⟩
    refine ofKey_brackets (by simp) (fun hbracket => ?_) hparts
    simp only [isDigits, Bool.and_eq_true, List.all_eq_true] at hdigits
    exact absurd (hdigits.2 '[' hbracket) (by decide)

/-- **The key of an element addresses it.** -/
theorem ofKey_elementKey (h : base ≠ "") (hp : position < sizeLimit) :
    ofKey (elementKey base position) = .element base position := by
  have hdigits : (toString position).toList = digitsOf position := by
    simp [digitsOf]
  refine ofKey_eq_element_iff.mpr ⟨h, toString position, ?_, ?_, hp, rfl⟩
  · rw [hdigits]
    exact isDigits_digitsOf position
  · rw [hdigits]
    exact valueOf_digitsOf position

/-- **Keys are told by their last brackets alone.** A key addresses the whole list under a base iff
it is the base, which is not empty, and empty brackets. It addresses an element iff it is the base
and, in brackets, one or more digits of a number below `2 ^ 64`, leading zeros allowed. In every
other case it is plain and stands for itself. In particular the key that is written for a position
addresses it, whatever the base is like. -/
theorem key_syntax_exact (key : String) :
    (∀ base, ofKey key = .wholeList base ↔ IsListKey key base) ∧
    (∀ base position, ofKey key = .element base position ↔ IsElementKey key base position) ∧
    (∀ name, ofKey key = .plain name ↔ name = key ∧ (∀ base, ¬ IsListKey key base) ∧
      ∀ base position, ¬ IsElementKey key base position) ∧
    ∀ base position, base ≠ "" → position < sizeLimit →
      ofKey (base ++ "[" ++ toString position ++ "]") = .element base position := by
  refine ⟨fun _ => ofKey_eq_wholeList_iff, fun _ _ => ofKey_eq_element_iff, fun name => ?_,
    fun _ _ hbase hposition => ofKey_elementKey hbase hposition⟩
  constructor
  · intro h
    refine ⟨eq_of_ofKey_eq_plain h, fun base hlist => ?_, fun base position helement => ?_⟩
    · rw [ofKey_eq_wholeList_iff.mpr hlist] at h
      cases h
    · rw [ofKey_eq_element_iff.mpr helement] at h
      cases h
  · rintro ⟨rfl, hlist, helement⟩
    cases hs : ofKey name with
    | plain other => rw [eq_of_ofKey_eq_plain hs]
    | wholeList base => exact absurd (ofKey_eq_wholeList_iff.mp hs) (hlist base)
    | element base position => exact absurd (ofKey_eq_element_iff.mp hs) (helement base position)

/-- The base has brackets of its own, and the digits a zero in front; the greatest position is one,
and the next number is none. -/
theorem key_syntax_exact_brackets :
    IsElementKey "a[b][007]" "a[b]" 7 ∧ ofKey "a[b][007]" = .element "a[b]" 7 ∧
      ofKey "[][18446744073709551615]" = .element "[]" 18446744073709551615 ∧
      ∀ base, ¬ IsListKey "[][18446744073709551616]" base := by
  have helement : IsElementKey "a[b][007]" "a[b]" 7 :=
    ⟨by decide, "007", by decide, by decide, by decide, by decide⟩
  have hplain : ofKey "[][18446744073709551616]" = .plain "[][18446744073709551616]" := by rfl
  refine ⟨helement, ((key_syntax_exact _).2.1 _ _).mpr helement, ?_, ?_⟩
  · exact (key_syntax_exact "").2.2.2 "[]" 18446744073709551615 (by decide) (by decide)
  · exact (((key_syntax_exact _).2.2.1 _).mp hplain).2.1

end Syntax

end KeySelector

end SubsetMatch
