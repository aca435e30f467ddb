import SubsetMatch.Proofs.Comparator.Agreement
import SubsetMatch.Proofs.Directive.RoundTrip
import SubsetMatch.Proofs.KeySelector
import SubsetMatch.Standard

/-!
# Lists spelled out

A needle that holds a list under a key can be spelled out: a length directive for the whole list,
and one key with a position for each element. The two needles are walked in quite different ways,
one as a list, the other by reading keys, looking the list up again for each of them and evaluating
a directive. They have the same result all the same, as long as the haystack has no member that is
itself named like one of the keys with brackets.

Results:
* `parse_lengthText`: the length directive is read with the length for its argument.
* `node_lengthText`: it succeeds on lists of that length, and fails on others by a mismatch.
* `members_elementMembers`: the keys with positions are walked over like the elements of the list.
* `list_needle_spelled_out`: both needles have the same result.
-/

namespace SubsetMatch

/-! ## The length directive -/

namespace Directive

theorem isStructural_of_isDigit {c : Char} (h : c.isDigit = true) : isStructural c = false := by
  cases hs : isStructural c with
  | false => rfl
  | true =>
    simp only [isStructural, Bool.or_eq_true, beq_iff_eq] at hs
    rcases hs with (((((rfl | rfl) | rfl) | rfl) | rfl) | rfl) | rfl <;> exact absurd h (by decide)

/-- A number is written without quotes. -/
theorem needsQuoting_of_digits {arg : List Char} (hne : arg ≠ [])
    (h : ∀ c ∈ arg, c.isDigit = true) : needsQuoting arg = false := by
  have htrim : Text.trim arg = arg :=
    Text.trim_of_ends (fun c hc => Decimal.isBlank_of_isDigit (h c (List.mem_of_head? hc)))
      fun c hc => Decimal.isBlank_of_isDigit (h c (List.mem_of_getLast? hc))
  have hhead : arg.head? ≠ some '\'' := fun hc =>
    absurd (h _ (List.mem_of_head? hc)) (by decide)
  have hquote : '"' ∉ arg := fun hc => absurd (h _ hc) (by decide)
  have hstructural : arg.any isStructural = false :=
    List.any_eq_false.mpr fun c hc => by simp [isStructural_of_isDigit (h c hc)]
  simp [needsQuoting, hne, htrim, hhead, hquote, hstructural]

/-- The directive that asks for a list of a length. -/
def lengthText (n : Nat) : String :=
  "@arrayLength(" ++ toString n ++ ")"

/-- **The length directive** is read with the length for its argument. -/
theorem parse_lengthText (n : Nat) :
    parse (lengthText n) = .ok (some ⟨"arrayLength", [toString n]⟩) := by
  have hbare : needsQuoting (Nat.toDigits 10 n) = false :=
    needsQuoting_of_digits (Decimal.digitsOf_ne_nil n) fun _ hc => Decimal.digitsOf_isDigit hc
  have htext : lengthText n = render ⟨"arrayLength", [toString n]⟩ := by
    apply String.toList_injective
    simp [lengthText, render, renderArguments, renderArgument, hbare, marker]
  have hname : IsName "arrayLength".toList :=
    ⟨'a', ['r', 'r', 'a', 'y', 'L', 'e', 'n', 'g', 't', 'h'], rfl, rfl, List.all_eq_true.mp rfl⟩
  rw [htext]
  exact parse_render hname

end Directive

namespace Comparator

variable {E : Primitives} {c : Comparator}

/-- `arrayLength` is the matcher of exact lengths. -/
def HasLength (c : Comparator) : Prop :=
  c.functions.get? "arrayLength" = some (.length .exact)

/-- On a list, the length directive answers what its length does. -/
theorem node_lengthText (hc : c.HasLength) {n : Nat} (hn : n < Decimal.sizeLimit)
    (actual : List Value) (path : KeyPath) :
    c.node E (.string (Directive.lengthText n)) (.array actual) path =
      if n = actual.length then .ok ()
      else .error ⟨path, .assertion ⟨"arrayLength", [toString n]⟩
        (.length .exact n actual.length)⟩ := by
  have hresolve : c.functions.resolve "arrayLength" = .ok (.length .exact) := by
    rw [Registry.resolve, hc]
  have hread : Decimal.readSize? (toString n).toList = some n := by
    rw [Nat.toString_eq_repr, Nat.toList_repr]
    exact Decimal.readSize?_digitsOf hn
  rw [node_string, Directive.parse_lengthText]
  simp only [hresolve, Matcher.evaluate, LengthBound.evaluate, Call.args, oneArgument, hread,
    LengthBound.check, LengthBound.holds]
  by_cases h : n = actual.length
  · simp [h]
  · simp [h, Ne.symm h]

end Comparator

/-! ## Keys that are not in the haystack -/

section Address

variable {actual : Members} {key : String} {path : KeyPath} {items : List Value}

/-- The key of a list finds what is stored under its base. -/
theorem address_listKey (hne : key ≠ "")
    (hfree : Value.get? actual (KeySelector.listKey key) = none) :
    address actual (KeySelector.listKey key) path =
      match listAt actual key path with
      | .error f => .error f
      | .ok items => .ok ⟨.array items, path.key key⟩ := by
  rw [address, hfree, KeySelector.ofKey_listKey hne]
  rfl

/-- The key of an element finds it in the list under its base. -/
theorem address_elementKey (hne : key ≠ "") {position : Nat}
    (hposition : position < Decimal.sizeLimit)
    (hfree : Value.get? actual (KeySelector.elementKey key position) = none)
    (hlist : listAt actual key path = .ok items) {item : Value}
    (hitem : items[position]? = some item) :
    address actual (KeySelector.elementKey key position) path =
      .ok ⟨item, (path.key key).index position⟩ := by
  rw [address, hfree, KeySelector.ofKey_elementKey hne hposition]
  simp only [addressList, hlist, hitem]

end Address

/-! ## Lists spelled out -/

/-- Elements from a position on, each under the key of its position. -/
def elementMembers (key : String) (needles : List Value) (start : Nat) : Members :=
  (needles.zipIdx start).map fun e => (KeySelector.elementKey key e.2, e.1)

/-- A list under a key spelled out: its length, then its elements. -/
def spelledOut (key : String) (needles : List Value) : Members :=
  (KeySelector.listKey key, .string (Directive.lengthText needles.length)) ::
    elementMembers key needles 0

theorem elementMembers_cons (key : String) (needle : Value) (needles : List Value) (start : Nat) :
    elementMembers key (needle :: needles) start =
      (KeySelector.elementKey key start, needle) :: elementMembers key needles (start + 1) := by
  rw [elementMembers, List.zipIdx_cons, List.map_cons, elementMembers]

namespace Comparator

variable {E : Primitives} {c : Comparator}

/-- **The keys with positions are walked over like the elements of the list**: by induction on the
elements, the ones before the position being dropped from the list. -/
theorem members_elementMembers {key : String} (hne : key ≠ "") {actual : Members} {path : KeyPath}
    {items : List Value} (hlist : listAt actual key path = .ok items)
    (hsize : items.length ≤ Decimal.sizeLimit) {needles : List Value} {start : Nat}
    (hlength : start + needles.length = items.length)
    (hfree : ∀ m ∈ elementMembers key needles start, Value.get? actual m.1 = none) :
    c.members E (elementMembers key needles start) actual path =
      c.items E needles (items.drop start) start (path.key key) := by
  induction needles generalizing start with
  | nil =>
    rw [elementMembers, List.zipIdx_nil, List.map_nil, members_nil]
    simp [Comparator.items]
  | cons needle needles ih =>
    rw [List.length_cons] at hlength
    have hstart : start < items.length := by omega
    have hlength' : start + 1 + needles.length = items.length := by omega
    rw [elementMembers_cons] at hfree ⊢
    obtain ⟨hfirst, hrest⟩ := List.forall_mem_cons.mp hfree
    have haddress := address_elementKey hne (Nat.lt_of_lt_of_le hstart hsize) hfirst hlist
      (List.getElem?_eq_getElem hstart)
    rw [members_cons, haddress, List.drop_eq_getElem_cons hstart, items_cons]
    simp only [ih hlength' hrest]

variable (E c) in
/-- A list needle against the list that is stored under a key. -/
def underKey (key : String) (needles : List Value) (actual : Members) (path : KeyPath) : Outcome :=
  match listAt actual key path with
  | .error f => .error f
  | .ok items => c.node E (.array needles) (.array items) (path.key key)

/-- A list needle under a plain key asks for the list under that key. -/
theorem members_list {key : String} (hkey : KeySelector.ofKey key = .plain key)
    (needles : List Value) (actual : Members) (path : KeyPath) :
    Outcome.Agrees (c.members E [(key, .array needles)] actual path)
      (underKey E c key needles actual path) := by
  rw [members_cons, address_plain hkey, underKey, listAt]
  cases Value.get? actual key with
  | none => exact .error rfl rfl
  | some v =>
    simp only [members_nil]
    cases v with
    | array items =>
      simp only
      cases c.node E (.array needles) (.array items) (path.key key) with
      | error f => exact .error rfl rfl
      | ok u => exact .ok
    | _ =>
      rw [node_array]
      exact .error rfl rfl

/-- A list spelled out asks for the list under its key. -/
theorem members_spelledOut (hc : c.HasLength) {key : String} (hne : key ≠ "")
    {needles : List Value} (hsize : needles.length < Decimal.sizeLimit) {actual : Members}
    (hfree : ∀ m ∈ spelledOut key needles, Value.get? actual m.1 = none) (path : KeyPath) :
    Outcome.Agrees (underKey E c key needles actual path)
      (c.members E (spelledOut key needles) actual path) := by
  obtain ⟨hfirst, hrest⟩ := List.forall_mem_cons.mp hfree
  rw [underKey, spelledOut, members_cons, address_listKey hne hfirst]
  cases hlist : listAt actual key path with
  | error f => exact .error rfl rfl
  | ok items =>
    simp only [node_lengthText hc hsize, node_array]
    by_cases hlength : needles.length = items.length
    · rw [if_pos hlength, if_pos hlength]
      simp only
      rw [members_elementMembers hne hlist (by omega) (by omega) hrest, List.drop_zero]
      exact .refl _
    · rw [if_neg hlength, if_neg hlength]
      exact .error rfl rfl

end Comparator

/-- **A list needle is its length and its elements.** Under a plain key, a needle that holds a list
has the same result as one that asks for the length of the list and for each element by its
position, whatever the elements are, if `arrayLength` is the matcher of exact lengths and the
haystack has no member named like the keys with brackets. The number of elements fits in 64 bits, as
that of every list does. -/
theorem list_needle_spelled_out (E : Primitives) (c : Comparator) (hc : c.HasLength) {key : String}
    (hne : key ≠ "") (hkey : KeySelector.ofKey key = .plain key) (needles : List Value)
    (hsize : needles.length < Decimal.sizeLimit) (haystack : Value)
    (hfree : ∀ actual, haystack = .object actual →
      ∀ m ∈ spelledOut key needles, Value.get? actual m.1 = none) :
    Outcome.Agrees (c.compare E (.object [(key, .array needles)]) haystack)
      (c.compare E (.object (spelledOut key needles)) haystack) := by
  unfold Comparator.compare
  rw [Comparator.node_object, Comparator.node_object]
  cases haystack with
  | object actual =>
    exact (Comparator.members_list hkey needles actual .root).trans
      (Comparator.members_spelledOut hc hne hsize (hfree actual rfl) .root)
  | _ => exact .error rfl rfl

/-- The second element fails, and both needles report it there. -/
theorem list_needle_spelled_out_second :
    let needles : List Value := [.string "@variableType(integer)", .null]
    let haystack : Value := .object [("a", .array [.number (.integer 2), .bool true])]
    spelledOut "a" needles = [("a[]", .string "@arrayLength(2)"),
        ("a[0]", .string "@variableType(integer)"), ("a[1]", .null)] ∧
      Comparator.withDefaults.HasLength ∧ KeySelector.ofKey "a" = .plain "a" ∧
      Comparator.withDefaults.compare (.standard 0) (.object [("a", .array needles)]) haystack =
        .error ⟨⟨[.key "a", .index 1]⟩, .value .null (.bool true)⟩ ∧
      ∃ g, Comparator.withDefaults.compare (.standard 0) (.object (spelledOut "a" needles))
          haystack = .error g ∧ g.kind = .mismatch ∧ g.path.render = "$.a[1]" := by
  intro needles haystack
  have hspelled : spelledOut "a" needles = [("a[]", .string "@arrayLength(2)"),
      ("a[0]", .string "@variableType(integer)"), ("a[1]", .null)] := by
    have hkeys : KeySelector.listKey "a" = "a[]" ∧ KeySelector.elementKey "a" 0 = "a[0]" ∧
      KeySelector.elementKey "a" 1 = "a[1]" := by decide
    have hlength : Directive.lengthText 2 = "@arrayLength(2)" := by decide
    simp only [spelledOut, needles, elementMembers_cons, hkeys]
    rw [List.length_cons, List.length_singleton, hlength]
    rfl
  have hc : Comparator.withDefaults.HasLength := rfl
  have hkey : KeySelector.ofKey "a" = .plain "a" := rfl
  have hfree : ∀ actual, haystack = .object actual →
      ∀ m ∈ spelledOut "a" needles, Value.get? actual m.1 = none := by
    intro actual hactual
    obtain rfl : _ = actual := Value.object.inj hactual
    rw [hspelled]
    decide
  have hfirst : ∀ path, Comparator.withDefaults.node (.standard 0)
      (.string "@variableType(integer)") (.number (.integer 2)) path = .ok () := fun path => by
    have hparse : Directive.parse "@variableType(integer)" =
      .ok (some ⟨"variableType", ["integer"]⟩) := rfl
    have hresolve : Comparator.withDefaults.functions.resolve "variableType" = .ok .typeName := rfl
    rw [Comparator.node_string, hparse]
    simp only [hresolve]
    rfl
  have hsecond : ∀ path, Comparator.withDefaults.node (.standard 0) .null (.bool true) path =
      .error ⟨path, .value .null (.bool true)⟩ := fun path =>
    Comparator.node_leaf _ _ (by decide) (by decide) (by decide) _ _
  have hlist : Comparator.withDefaults.compare (.standard 0) (.object [("a", .array needles)])
      haystack = .error ⟨⟨[.key "a", .index 1]⟩, .value .null (.bool true)⟩ := by
    have haddress : address [("a", .array [.number (.integer 2), .bool true])] "a" .root =
      .ok ⟨.array [.number (.integer 2), .bool true], KeyPath.root.key "a"⟩ := rfl
    rw [Comparator.compare, Comparator.node_object]
    simp only [haystack, needles, Comparator.members_cons, haddress, Comparator.node_array,
      Comparator.items_cons, hfirst, hsecond]
    rfl
  have hsize : needles.length < Decimal.sizeLimit := by decide +kernel
  have hagrees := list_needle_spelled_out (.standard 0) _ hc (by decide) hkey needles
    hsize haystack hfree
  obtain ⟨g, hg, hkind, hpath⟩ := hagrees.exists_error hlist
  exact ⟨hspelled, hc, hkey, hlist, g, hg, hkind, by rw [hpath]; rfl⟩

end SubsetMatch
