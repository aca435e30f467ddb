import SubsetMatch.Proofs.Directive.Parse

/-!
# Escapes in quoted literals

What a quoted literal stands for, read from left to right. A backslash always takes the next
character with it, so a text fits between two quotes iff every backslash has one to take and no
quote of that kind is left over. The backslash is dropped in front of the quote that opened the
literal and in front of another backslash. In front of anything else it is text, and that includes
the other quote, which needs no escape there.

A reading that drops the backslash in front of either quote would stand for something else exactly
where a literal escapes the other quote.

Results:
* `literal_of_fits`: a text that fits between two quotes is a literal of the grammar.
* `dropEscapes_eq_iff`: when the two readings agree.
* `quoted_argument_reads`: a quoted argument is read with the escapes of its own quote.
* `other_quote_keeps_backslash`: a backslash in front of the other quote is kept.
-/

namespace SubsetMatch.Directive

open Text

/-- Whether a text fits between two quotes: every backslash takes a character with it, and no other
character is the quote. -/
def fits (quote : Char) : List Char → Bool
  | [] => true
  | ['\\'] => false
  | '\\' :: _ :: rest => fits quote rest
  | c :: rest => c != quote && fits quote rest

/-- A text without the backslashes in front of what may be escaped. -/
def dropEscapes (escapable : Char → Bool) : List Char → List Char
  | '\\' :: c :: rest =>
    if escapable c then c :: dropEscapes escapable rest
    else '\\' :: c :: dropEscapes escapable rest
  | c :: rest => c :: dropEscapes escapable rest
  | [] => []

/-- What may be escaped in a literal: its own quote and the backslash. -/
def isOwnEscape (quote c : Char) : Bool :=
  c == quote || c == '\\'

/-- What may be escaped if every literal could escape either quote. -/
def isAnyEscape (c : Char) : Bool :=
  c == '"' || c == '\'' || c == '\\'

/-- Whether a backslash takes the other quote with it. -/
def escapesOther (quote : Char) : List Char → Bool
  | '\\' :: c :: rest => (isAnyEscape c && !isOwnEscape quote c) || escapesOther quote rest
  | _ :: rest => escapesOther quote rest
  | [] => false

variable {quote : Char}

/-- **A text that fits between two quotes is a literal**, and stands for the text without the
backslashes in front of its own escapes. -/
theorem literal_of_fits {body : List Char} (h : fits quote body = true) :
    Literal quote body (dropEscapes (isOwnEscape quote) body) := by
  fun_induction fits quote body with
  | case1 => exact .nil
  | case2 => cases h
  | case3 c rest ih =>
    have hone : Literal quote ([] ++ ['\\', c]) ([] ++ unescape quote c) := Literal.nil.escape
    have hall := hone.append (ih h)
    by_cases hc : c = quote ∨ c = '\\'
    · simpa [dropEscapes, isOwnEscape, unescape, hc] using hall
    · simpa [dropEscapes, isOwnEscape, unescape, hc] using hall
  | case4 c rest hlast hslash ih =>
    simp only [Bool.and_eq_true, bne_iff_ne] at h
    have hc : c ≠ '\\' := by
      rintro rfl
      cases rest with
      | nil => exact hlast rfl rfl
      | cons d rest => exact hslash d rest rfl rfl
    have hone : Literal quote ([] ++ [c]) ([] ++ [c]) := Literal.nil.char h.1 hc
    simpa [dropEscapes, hc] using hone.append (ih h.2)

theorem isAnyEscape_of_isOwnEscape (hquote : IsQuote quote) {c : Char}
    (h : isOwnEscape quote c = true) : isAnyEscape c = true := by
  simp only [isOwnEscape, isAnyEscape, Bool.or_eq_true, beq_iff_eq] at h ⊢
  rcases h with rfl | rfl
  · exact .inl hquote
  · exact .inr rfl

theorem dropEscapes_cons {escapable : Char → Bool} {c : Char} {rest : List Char}
    (h : ∀ d rest', c = '\\' → rest = d :: rest' → False) :
    dropEscapes escapable (c :: rest) = c :: dropEscapes escapable rest := by
  rw [dropEscapes]
  exact h

/-- **The two readings agree iff the other quote is nowhere escaped.** -/
theorem dropEscapes_eq_iff (hquote : IsQuote quote) (body : List Char) :
    dropEscapes (isOwnEscape quote) body = dropEscapes isAnyEscape body ↔
      escapesOther quote body = false := by
  fun_induction escapesOther quote body with
  | case1 c rest ih =>
    cases hown : isOwnEscape quote c with
    | true => simp [dropEscapes, hown, isAnyEscape_of_isOwnEscape hquote hown, ih]
    | false =>
      cases hany : isAnyEscape c with
      | false => simp [dropEscapes, hown, hany, ih]
      | true =>
        -- one reading keeps the backslash and the other goes on with the quote
        have hne : '\\' ≠ c := by
          rintro rfl
          simp [isOwnEscape] at hown
        simp [dropEscapes, hown, hany, hne]
  | case2 c rest hslash ih =>
    rw [dropEscapes_cons hslash, dropEscapes_cons hslash, List.cons.injEq, ih]
    simp
  | case3 => simp [dropEscapes]

/-- A directive with a quoted argument and no other. -/
def quotedCall (name : String) (quote : Char) (body : String) : String :=
  "@" ++ name ++ "(" ++ String.singleton quote ++ body ++ String.singleton quote ++ ")"

theorem toList_quotedCall (name body : String) (quote : Char) :
    (quotedCall name quote body).toList =
      marker :: (name.toList ++ '(' :: (quote :: (body.toList ++ [quote]) ++ [')'])) := by
  simp [quotedCall, marker]

/-- **A quoted argument is read with the escapes of its own quote**, for both quotes: the directive
has one argument, the text between the quotes without the backslashes in front of that quote and of
backslashes. Taking out the backslashes in front of the other quote as well would give the same
argument iff none of them is there. -/
theorem quoted_argument_reads {name : String} (hname : IsName name.toList) (hquote : IsQuote quote)
    {body : String} (hbody : fits quote body.toList = true) :
    parse (quotedCall name quote body) =
        .ok (some ⟨name, [String.ofList (dropEscapes (isOwnEscape quote) body.toList)]⟩) ∧
      (dropEscapes (isOwnEscape quote) body.toList = dropEscapes isAnyEscape body.toList ↔
        escapesOther quote body.toList = false) := by
  refine ⟨?_, dropEscapes_eq_iff hquote body.toList⟩
  have hseg : Segment ([] ++ quote :: (body.toList ++ quote :: []))
      (dropEscapes (isOwnEscape quote) body.toList) :=
    .quoted rfl hquote (literal_of_fits hbody) rfl
  have hblank : ¬ allBlank (quote :: (body.toList ++ [quote])) :=
    @not_allBlank_of_quote quote hquote [] _
  refine parse_eq_some_iff.mpr ⟨_, _, hname, toList_quotedCall name body quote, .single hseg, ?_⟩
  rw [argumentsOf, if_neg hblank]
  rfl

/-- Two backslashes are one, the quote of the literal is escaped and a letter is not. -/
theorem quoted_argument_reads_runs :
    IsName "f".toList ∧ IsQuote '"' ∧ fits '"' "a\\\\\\\"\\d".toList = true ∧
      parse (quotedCall "f" '"' "a\\\\\\\"\\d") = .ok (some ⟨"f", ["a\\\"\\d"]⟩) := by
  have hname : IsName "f".toList := ⟨'f', [], rfl, by decide, by simp⟩
  have hbody : fits '"' "a\\\\\\\"\\d".toList = true := by rfl
  exact ⟨hname, .inl rfl, hbody, (quoted_argument_reads hname (.inl rfl) hbody).1⟩

/-- **A backslash in front of the other quote is kept**: in double quotes, an escaped apostrophe
keeps it, although the reading with all escapes has none. -/
theorem other_quote_keeps_backslash :
    fits '"' "it\\'s".toList = true ∧ quotedCall "f" '"' "it\\'s" = "@f(\"it\\'s\")" ∧
      parse "@f(\"it\\'s\")" = .ok (some ⟨"f", ["it\\'s"]⟩) ∧
      dropEscapes isAnyEscape "it\\'s".toList = "it's".toList ∧
      parse "@f(\"it\\'s\")" ≠
        .ok (some ⟨"f", [String.ofList (dropEscapes isAnyEscape "it\\'s".toList)]⟩) := by
  have hread : parse "@f(\"it\\'s\")" = .ok (some ⟨"f", ["it\\'s"]⟩) := by rfl
  have hall : dropEscapes isAnyEscape "it\\'s".toList = "it's".toList := by rfl
  refine ⟨by rfl, by rfl, hread, hall, ?_⟩
  rw [hread, hall]
  simp

end SubsetMatch.Directive
