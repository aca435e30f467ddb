import SubsetMatch.Proofs.Comparator.Outcome
import SubsetMatch.Proofs.Directive.Parse
import SubsetMatch.Proofs.Json.IntegerText
import SubsetMatch.Standard

/-!
# The order of integers

Three needles ask how an integer of a document compares with another one: the other integer itself
asks for the same, and it asks for a greater or a smaller one when it is the bound of a directive.
The first compares words of 64 bits, the two others integers of 128 bits that are read from a text,
and behind each of them stands a comparison of doubles that would take close integers for the same.
No integer ever gets there. So exactly one of the three needles is satisfied, whatever words hold
the integers and however the bound is spelt.

Results:
* `parse_writesInteger`: an argument that spells an integer is read with nothing but blanks added.
* `ofText?_of_spells`, `StandsFor.ofValue?_eq`: what spells an integer is taken for that integer.
* `compare_bound`: a bound is held iff the integers are in its order.
* `integers_compare_exactly`: the three needles, and bounds of 128 bits for strings.
-/

namespace SubsetMatch

open Text Decimal

/-! ## Arguments that spell an integer -/

namespace Directive

/-- The argument of a directive that spells an integer, bare or between quotes, and with blanks
anywhere around it. -/
inductive WritesInteger : List Char → Int → Prop
  | bare {arg : List Char} {n : Int} (h : SpellsPadded arg n) : WritesInteger arg n
  | quoted {before body after : List Char} {quote : Char} {n : Int} (hbefore : allBlank before)
      (hquote : IsQuote quote) (h : SpellsPadded body n) (hafter : allBlank after) :
      WritesInteger (before ++ quote :: (body ++ quote :: after)) n

/-- The characters of a spelled integer and the blanks around it. -/
def isNumeric (c : Char) : Bool :=
  isBlank c || c.isDigit || c == '+' || c == '-'

variable {cs : List Char} {n : Int}

theorem isNumeric_of_spellsPadded (h : SpellsPadded cs n) : ∀ c ∈ cs, isNumeric c = true := by
  obtain ⟨before, numeral, after, rfl, hbefore, hafter, hnumeral⟩ := h
  intro c hc
  simp only [isNumeric, Bool.or_eq_true, beq_iff_eq]
  rcases List.mem_append.mp hc with hc | hc
  · exact .inl (.inl (.inl (List.all_eq_true.mp hbefore c hc)))
  · rcases List.mem_append.mp hc with hc | hc
    · rcases hnumeral.characters.2 c hc with hdigit | hplus | hminus
      · exact .inl (.inl (.inr hdigit))
      · exact .inl (.inr hplus)
      · exact .inr hminus
    · exact .inl (.inl (.inl (List.all_eq_true.mp hafter c hc)))

theorem ne_of_isNumeric {c d : Char} (hc : isNumeric c = true) (hd : isNumeric d = false) :
    c ≠ d := by
  rintro rfl
  rw [hd] at hc
  cases hc

theorem not_isQuote_of_isNumeric {c : Char} (h : isNumeric c = true) : ¬ IsQuote c := by
  rintro (rfl | rfl)
  · exact absurd h (by decide)
  · exact absurd h (by decide)

theorem not_isBracket_of_isNumeric {c : Char} (h : isNumeric c = true) : ¬ IsBracket c := by
  rintro ⟨p, hp, hc⟩
  simp only [brackets, List.mem_cons, List.not_mem_nil, or_false] at hp
  rcases hp with rfl | rfl | rfl <;> rcases hc with rfl | rfl <;> exact absurd h (by decide)

/-- A text without backslashes and quotes of its kind is a literal that stands for itself. -/
theorem literal_of_plain {quote : Char} (h : ∀ c ∈ cs, c ≠ quote ∧ c ≠ '\\') :
    Literal quote cs cs := by
  induction cs with
  | nil => exact .nil
  | cons c cs ih =>
    obtain ⟨⟨hquote, hslash⟩, hrest⟩ := List.forall_mem_cons.mp h
    have hone : Literal quote ([] ++ [c]) ([] ++ [c]) := Literal.nil.char hquote hslash
    exact hone.append (ih hrest)

/-- An argument that spells an integer is a segment whose text spells it when trimmed. -/
theorem segment_of_writesInteger (h : WritesInteger cs n) :
    ¬ allBlank cs ∧ ∃ arg, Segment cs arg ∧ Spells (trim arg) n := by
  cases h with
  | bare h =>
    have hnumeric := isNumeric_of_spellsPadded h
    have hnested : Nested false cs :=
      nested_of_no_bracket (fun c hc => not_isBracket_of_isNumeric (hnumeric c hc))
        fun c hc => ne_of_isNumeric (hnumeric c hc) (by decide)
    have hunquoted : Unquoted cs := fun c hc =>
      not_isQuote_of_isNumeric (hnumeric c (List.mem_of_find?_eq_some hc))
    refine ⟨fun hblank => ?_, _, .bare hnested hunquoted, h.trim.padded.trim⟩
    exact h.trim.characters.1 (trim_eq_nil_iff.mpr hblank)
  | @quoted before body after quote _ hbefore hquote h hafter =>
    have hnumeric := isNumeric_of_spellsPadded h
    have hliteral : Literal quote body body := literal_of_plain fun c hc =>
      ⟨fun heq => not_isQuote_of_isNumeric (hnumeric c hc) (heq ▸ hquote),
        ne_of_isNumeric (hnumeric c hc) (by decide)⟩
    exact ⟨not_allBlank_of_quote hquote, _, .quoted hbefore hquote hliteral hafter, h.trim⟩

/-- A directive as it is written with one argument. -/
def callText (name arg : String) : String :=
  "@" ++ name ++ "(" ++ arg ++ ")"

/-- **An argument that spells an integer** is the only one, and spells it when trimmed. -/
theorem parse_writesInteger {name arg : String} (hname : IsName name.toList)
    (h : WritesInteger arg.toList n) :
    ∃ a : String, parse (callText name arg) = .ok (some ⟨name, [a]⟩) ∧
      Spells (trim a.toList) n := by
  obtain ⟨hblank, a, hsegment, hspells⟩ := segment_of_writesInteger h
  have htext : (callText name arg).toList =
      marker :: (name.toList ++ '(' :: (arg.toList ++ [')'])) := by
    simp [callText, marker]
  refine ⟨String.ofList a, parse_eq_some_iff.mpr ?_, by rwa [String.toList_ofList]⟩
  refine ⟨_, _, hname, htext, .single hsegment, ?_⟩
  rw [argumentsOf, if_neg hblank]
  rfl

end Directive

/-! ## Operands -/

/-- The documents that stand for an integer: the integer itself, and the strings that spell it, if
it has at most 128 bits. -/
inductive StandsFor : Value → Int → Prop
  | integer (n : Int) : StandsFor (.number (.integer n)) n
  | string {s : String} {n : Int} (h : SpellsPadded s.toList n) (hwide : IsWide n) :
      StandsFor (.string s) n

/-- **What spells an integer is taken for it**, not for the double next to it. -/
theorem ofText?_of_spells {cs : List Char} {n : Int} (h : Spells (trim cs) n) (hwide : IsWide n) :
    Operand.ofText? cs = some (.integer n) := by
  have hread : readInt128? (trim cs) = some n := readInt128?_eq_some_iff.mpr ⟨h, hwide⟩
  simp only [Operand.ofText?, hread]

theorem StandsFor.ofValue?_eq {v : Value} {n : Int} (h : StandsFor v n) :
    Operand.ofValue? v = some (.integer n) := by
  cases h with
  | integer => simp [Operand.ofValue?]
  | string h hwide => exact ofText?_of_spells h.trim hwide

variable {E : Primitives} {c : Comparator} {v : Value} {a b : Int}

/-- The bound is trimmed twice, and the second time nothing is left to trim. -/
theorem Direction.evaluate_eq_ok_iff {direction : Direction} {matcher arg : String}
    (hbound : Spells (trim arg.toList) b) (hwide : IsWide b) (hv : StandsFor v a) :
    direction.evaluate matcher [arg] v = .ok () ↔
      direction.holds (.integer a) (.integer b) = true := by
  have htext : Operand.ofText? (trimmed arg).toList = some (.integer b) := by
    rw [trimmed, String.toList_ofList]
    exact ofText?_of_spells hbound.padded.trim hwide
  simp only [evaluate, oneArgument, htext, check, hv.ofValue?_eq]
  cases direction.holds (.integer a) (.integer b) with
  | false => simp
  | true => simp

/-- **A bound is held iff the integers are in its order.** -/
theorem compare_bound {name arg : String} {direction : Direction}
    (hname : Directive.IsName name.toList)
    (hresolve : c.functions.resolve name = .ok (.numeric direction))
    (harg : Directive.WritesInteger arg.toList b) (hwide : IsWide b) (hv : StandsFor v a) :
    c.compare E (.string (Directive.callText name arg)) v = .ok () ↔
      direction.holds (.integer a) (.integer b) = true := by
  obtain ⟨text, hparse, hspells⟩ := Directive.parse_writesInteger hname harg
  change Visit.outcome E c ⟨_, v, .root⟩ = .ok () ↔ _
  rw [outcome_directive_eq_ok_iff hparse hresolve, Matcher.evaluate]
  exact Direction.evaluate_eq_ok_iff hspells hwide hv

/-! ## The three needles -/

theorem isWide_of_isWord (h : Json.IsWord b) : IsWide b := by
  have hsigned : twoTo 63 ≤ twoTo 127 := by decide
  have hunsigned : twoTo 64 ≤ twoTo 127 := by decide
  unfold Json.IsWord at h
  unfold IsWide
  omega

theorem compare_greater {arg : String} (harg : Directive.WritesInteger arg.toList b)
    (hwide : IsWide b) (hv : StandsFor v a) :
    Comparator.withDefaults.compare E (.string (Directive.callText "gt" arg)) v = .ok () ↔
      b < a := by
  have hname : Directive.IsName "gt".toList := ⟨'g', ['t'], rfl, rfl, List.all_eq_true.mp rfl⟩
  rw [compare_bound hname rfl harg hwide hv]
  exact decide_eq_true_iff

theorem compare_less {arg : String} (harg : Directive.WritesInteger arg.toList b)
    (hwide : IsWide b) (hv : StandsFor v a) :
    Comparator.withDefaults.compare E (.string (Directive.callText "lt" arg)) v = .ok () ↔
      a < b := by
  have hname : Directive.IsName "lt".toList := ⟨'l', ['t'], rfl, rfl, List.all_eq_true.mp rfl⟩
  rw [compare_bound hname rfl harg hwide hv]
  exact decide_eq_true_iff

theorem compare_same :
    c.compare E (.number (.integer b)) (.number (.integer a)) = .ok () ↔ a = b := by
  rw [Comparator.compare, Comparator.node, Comparator.leaf, Value.sameScalar, Number.same_integer]
  by_cases h : b = a
  · simp [h]
  · simp [h, Ne.symm h]

/-- The needle that asks how an integer compares with `b`: `b` itself, or a bound that spells it. -/
def orderNeedle (b : Int) (arg : String) : Ordering → Value
  | .eq => .number (.integer b)
  | .gt => .string (Directive.callText "gt" arg)
  | .lt => .string (Directive.callText "lt" arg)

/-- **Integers are compared exactly.** The integers of documents are those of a signed or unsigned
word of 64 bits. Exactly one of three needles is satisfied by such an integer: the other integer,
the directive that asks for a greater one and the directive that asks for a smaller one, and it is
the one that the order of the two integers tells, however the bound is spelt. The directives keep to
the order of integers of up to 128 bits, in bounds and in strings that spell one. -/
theorem integers_compare_exactly (E : Primitives) :
    (∀ n, Json.IsWord n ↔ Json.read (Json.integerText n) = .ok (.number (.integer n))) ∧
    (∀ a b, Json.IsWord a → Json.IsWord b → ∀ arg, Directive.WritesInteger arg.toList b →
      ∀ o, Comparator.withDefaults.compare E (orderNeedle b arg o) (.number (.integer a)) = .ok () ↔
        compare a b = o) ∧
    ∀ v a b, StandsFor v a → IsWide b → ∀ arg, Directive.WritesInteger arg.toList b →
      (Comparator.withDefaults.compare E (.string (Directive.callText "gt" arg)) v = .ok () ↔
        b < a) ∧
      (Comparator.withDefaults.compare E (.string (Directive.callText "lt" arg)) v = .ok () ↔
        a < b) := by
  refine ⟨fun n => Json.isWord_iff_read, fun a b _ hb arg harg o => ?_,
    fun v a b hv hwide arg harg => ⟨compare_greater harg hwide hv, compare_less harg hwide hv⟩⟩
  have hwide := isWide_of_isWord hb
  cases o with
  | eq => exact compare_same.trans Int.compare_eq_eq.symm
  | gt => exact (compare_greater harg hwide (.integer a)).trans Int.compare_eq_gt.symm
  | lt => exact (compare_less harg hwide (.integer a)).trans Int.compare_eq_lt.symm

/-- The least integer that needs an unsigned word is greater than the one before it, which the same
double is next to, and the two ends of 128 bits are in order. -/
theorem integers_compare_exactly_limits :
    let a := 9223372036854775808
    let b := 9223372036854775807
    let arg := " ' +09223372036854775807' "
    let low := "-170141183460469231731687303715884105728"
    let high := "170141183460469231731687303715884105727"
    let compareWith := fun needle => Comparator.withDefaults.compare (.standard 0) needle
    Json.IsWord a ∧ Json.IsWord b ∧ Directive.WritesInteger arg.toList b ∧
      compareWith (orderNeedle b arg .gt) (.number (.integer a)) = .ok () ∧
      compareWith (orderNeedle b arg .eq) (.number (.integer a)) ≠ .ok () ∧
      compareWith (orderNeedle b arg .lt) (.number (.integer a)) ≠ .ok () ∧
      StandsFor (.string low) (-170141183460469231731687303715884105728) ∧
      IsWide 170141183460469231731687303715884105727 ∧
      Directive.WritesInteger high.toList 170141183460469231731687303715884105727 ∧
      compareWith (.string (Directive.callText "lt" high)) (.string low) = .ok () := by
  intro a b arg low high compareWith
  have ha : Json.IsWord a := by decide
  have hb : Json.IsWord b := by decide
  have hnumeral : Spells "+09223372036854775807".toList b :=
    (readInt128?_eq_some_iff.mp (by decide +kernel)).1
  have htext : arg.toList =
      [' '] ++ '\'' :: (([' '] ++ ("+09223372036854775807".toList ++ [])) ++ '\'' :: [' ']) := by
    decide +kernel
  have harg : Directive.WritesInteger arg.toList b :=
    htext ▸ .quoted rfl (.inr rfl) ⟨[' '], _, [], rfl, rfl, rfl, hnumeral⟩ rfl
  have hlowest : Spells low.toList (-170141183460469231731687303715884105728) :=
    (readInt128?_eq_some_iff.mp (by decide +kernel)).1
  have hlow : StandsFor (.string low) (-170141183460469231731687303715884105728) :=
    .string hlowest.padded (by decide)
  have hhighest : Spells high.toList 170141183460469231731687303715884105727 :=
    (readInt128?_eq_some_iff.mp (by decide +kernel)).1
  have hhigh : Directive.WritesInteger high.toList 170141183460469231731687303715884105727 :=
    .bare hhighest.padded
  have hwide : IsWide 170141183460469231731687303715884105727 := by decide
  obtain ⟨-, hwords, hstrings⟩ := integers_compare_exactly (.standard 0)
  have horder := hwords a b ha hb arg harg
  refine ⟨ha, hb, harg, (horder .gt).mpr (by decide), ?_, ?_, hlow, hwide, hhigh,
    (hstrings _ _ _ hlow hwide high hhigh).2.mpr (by decide)⟩
  · exact fun h => absurd ((horder .eq).mp h) (by decide)
  · exact fun h => absurd ((horder .lt).mp h) (by decide)

end SubsetMatch
