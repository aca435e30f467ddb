import SubsetMatch.Proofs.Comparator.Context
import SubsetMatch.Proofs.Json.Inclusion

/-!
# Matching as a partial order

A literal document asks for nothing but itself: its strings are no directives, its keys do not
address lists by brackets, and its numbers are integers, which are equal to nothing but themselves.
Between literal documents the comparison decides inclusion, and inclusion is a partial order up to
the order of members. With brackets or doubles it would be none: `a[0]` asks for an element where no
such member is, and an integer is equal to the double nearest to it, as its neighbours are.

Results:
* `node_eq_ok_iff_subset`: a literal needle matches a literal haystack iff it is included in it.
* `subset_partial_order`: matching is reflexive, transitive and antisymmetric up to the order of
  members.
-/

namespace SubsetMatch

namespace Value

/-- A plain document in which no key has brackets and no number is a double. -/
structure IsLiteral (v : Value) : Prop extends v.IsPlain where
  plainKeys : ∀ key ∈ v.keys, KeySelector.ofKey key = .plain key
  integers : ∀ n, number n ∈ v.parts → ∃ i, n = .integer i

variable {v w : Value} {items : List Value} {members : Members}

/-- The elements of a literal list are literal. -/
theorem IsLiteral.element (h : (array items).IsLiteral) (hv : v ∈ items) : v.IsLiteral where
  toIsPlain := h.toIsPlain.element hv
  plainKeys key hkey := h.plainKeys key (keys_element_subset hv hkey)
  integers n hn := h.integers n (mem_parts_array.mpr (.inr ⟨v, hv, hn⟩))

/-- The members of a literal object are literal. -/
theorem IsLiteral.member (h : (object members).IsLiteral) {m : String × Value} (hm : m ∈ members) :
    m.2.IsLiteral where
  toIsPlain := h.toIsPlain.member hm
  plainKeys key hkey := h.plainKeys key (keys_member_subset hm hkey)
  integers n hn := h.integers n (mem_parts_object.mpr (.inr ⟨m, hm, hn⟩))

/-- Literal leaves that are equal are the same. -/
theorem subset_of_sameScalar (hv : v.IsLiteral) (hw : w.IsLiteral) (h : v.sameScalar w = true) :
    v.Subset w := by
  cases v with
  | null => cases w <;> first | exact .null | cases h
  | bool a =>
    cases w with
    | bool b =>
      obtain rfl : a = b := by simpa [sameScalar] using h
      exact .bool a
    | _ => cases h
  | number a =>
    cases w with
    | number b =>
      obtain ⟨i, rfl⟩ := hv.integers a (mem_parts_self _)
      obtain ⟨j, rfl⟩ := hw.integers b (mem_parts_self _)
      obtain rfl : i = j := by simpa [sameScalar] using h
      exact .number _
    | _ => cases h
  | string a =>
    cases w with
    | string b =>
      obtain rfl : a = b := by simpa using h
      exact .string a
    | _ => cases h
  | array items => cases h
  | object members => cases h

end Value

namespace Comparator

variable {E : Primitives} {c : Comparator} {v w : Value} {path : KeyPath}

theorem leaf_eq_ok_iff : leaf v w path = .ok () ↔ v.sameScalar w = true := by
  unfold leaf
  split <;> simp_all

/-- What a plain key addresses is a member under that key. -/
theorem mem_of_address {actual : Members} {key : String} {t : Target}
    (hkey : KeySelector.ofKey key = .plain key) (h : address actual key path = .ok t) :
    (key, t.value) ∈ actual := by
  rw [address_plain hkey] at h
  split at h
  · rename_i hget
    cases h
    exact Entries.mem_of_find? hget
  · cases h

/-- **A literal needle matches a literal haystack iff it is included in it**, by induction on the
needle. -/
theorem node_eq_ok_iff_subset (hv : v.IsLiteral) (hw : w.IsLiteral) :
    c.node E v w path = .ok () ↔ v.Subset w := by
  induction v using Value.inductionOn generalizing w path with
  | string s =>
    rw [node_string, Directive.parse_eq_none_iff.mpr hv.string]
    refine ⟨fun h => Value.subset_of_sameScalar hv hw (leaf_eq_ok_iff.mp h), ?_⟩
    rintro ⟨⟩
    exact leaf_self (by simp) path
  | array items ih =>
    constructor
    · intro h
      obtain ⟨actual, rfl, hlength, hall⟩ := outcome_array_eq_ok_iff.mp h
      refine Value.Subset.array_iff.mpr ⟨hlength, fun i a b ha hb => ?_⟩
      have hmem := List.mem_of_getElem? ha
      exact (ih a hmem (hv.element hmem) (hw.element (List.mem_of_getElem? hb))).mp
        (hall i a b ha hb)
    · intro h
      cases h with
      | @array _ others hitems =>
        obtain ⟨hlength, hall⟩ := forall₂_iff_getElem?.mp hitems
        refine outcome_array_eq_ok_iff.mpr ⟨others, rfl, hlength, fun i a b ha hb => ?_⟩
        have hmem := List.mem_of_getElem? ha
        exact (ih a hmem (hv.element hmem) (hw.element (List.mem_of_getElem? hb))).mpr
          (hall i a b ha hb)
  | object members ih =>
    constructor
    · intro h
      obtain ⟨actual, rfl, hall⟩ := outcome_object_eq_ok_iff.mp h
      refine Value.Subset.object_iff.mpr fun m hm => ?_
      obtain ⟨t, ht, hnode⟩ := hall m hm
      have hmem := mem_of_address (hv.plainKeys _ (Value.mem_keys_of_mem hm)) ht
      exact ⟨t.value, hmem, (ih m hm (hv.member hm) (hw.member hmem)).mp hnode⟩
    · intro h
      cases h with
      | @object _ _ others hfound hothers =>
        refine outcome_object_eq_ok_iff.mpr ⟨others, rfl, fun m hm => ?_⟩
        obtain ⟨x, hx, hsubset⟩ := Value.Subset.object_iff.mp (.object hfound hothers) m hm
        exact ⟨_, address_of_mem hw.nodup hx path,
          (ih m hm (hv.member hm) (hw.member hx)).mpr hsubset⟩
  | _ =>
    rw [node]
    refine ⟨fun h => Value.subset_of_sameScalar hv hw (leaf_eq_ok_iff.mp h), ?_⟩
    rintro ⟨⟩
    exact leaf_self (by simp [Value.sameScalar]) path

end Comparator

/-- **Matching is a partial order** on literal documents, whatever is registered: a document matches
itself, what it matches matches whatever that matches in turn, and documents that match each other
are equal up to the order of members at every depth. -/
theorem subset_partial_order (E : Primitives) (c : Comparator) {a b d : Value} (ha : a.IsLiteral)
    (hb : b.IsLiteral) (hd : d.IsLiteral) :
    c.compare E a a = .ok () ∧
      (c.compare E a b = .ok () → c.compare E b d = .ok () → c.compare E a d = .ok ()) ∧
      (c.compare E a b = .ok () → c.compare E b a = .ok () → a.Reorders b) := by
  unfold Comparator.compare
  simp only [Comparator.node_eq_ok_iff_subset, ha, hb, hd]
  exact ⟨.refl a, .trans, Value.Subset.antisymm ha.keysOnce hb.keysOnce⟩

/-- Among doubles equality is not transitive: two integers are equal to the double that is nearest
to both. -/
example :
    let same := fun a b => Value.sameScalar (.number a) (.number b)
    same (.integer 9007199254740993) (.double (.ofInt 9007199254740992)) = true ∧
      same (.double (.ofInt 9007199254740992)) (.integer 9007199254740992) = true ∧
      same (.integer 9007199254740993) (.integer 9007199254740992) = false := by
  decide +kernel

/-- A document with a further member, once in front and once behind. -/
theorem subset_partial_order_points :
    let a : Value := .object [("x", .number (.integer 1))]
    let b : Value := .object [("y", .array [.null, .string "t"]), ("x", .number (.integer 1))]
    let d : Value := .object [("x", .number (.integer 1)), ("y", .array [.null, .string "t"])]
    let result := Comparator.empty.compare (.standard 0)
    a.IsLiteral ∧ b.IsLiteral ∧ d.IsLiteral ∧ result a a = .ok () ∧ result a b = .ok () ∧
      result b d = .ok () ∧ result a d = .ok () ∧ result d b = .ok () ∧ b.Reorders d := by
  intro a b d result
  have ha : a.IsLiteral := by
    refine ⟨⟨?_, fun s hs => ?_⟩, by decide, fun n hn => ?_⟩
    · unfold Value.KeysOnce
      decide
    · simp [a, Value.parts, Value.partsOfMembers] at hs
    · exact ⟨1, by simpa [a, Value.parts, Value.partsOfMembers] using hn⟩
  have hb : b.IsLiteral := by
    refine ⟨⟨?_, fun s hs => ?_⟩, by decide, fun n hn => ?_⟩
    · unfold Value.KeysOnce
      decide
    · obtain rfl : s = "t" := by
        simpa [b, Value.parts, Value.partsOfMembers, Value.partsOfItems] using hs
      rfl
    · exact ⟨1, by simpa [b, Value.parts, Value.partsOfMembers, Value.partsOfItems] using hn⟩
  have hd : d.IsLiteral := by
    refine ⟨⟨?_, fun s hs => ?_⟩, by decide, fun n hn => ?_⟩
    · unfold Value.KeysOnce
      decide
    · obtain rfl : s = "t" := by
        simpa [d, Value.parts, Value.partsOfMembers, Value.partsOfItems] using hs
      rfl
    · exact ⟨1, by simpa [d, Value.parts, Value.partsOfMembers, Value.partsOfItems] using hn⟩
  have hab : Comparator.empty.compare (.standard 0) a b = .ok () := by cbv
  have hbd : Comparator.empty.compare (.standard 0) b d = .ok () := by cbv
  have hdb : Comparator.empty.compare (.standard 0) d b = .ok () := by cbv
  obtain ⟨hself, htrans, -⟩ := subset_partial_order (.standard 0) .empty ha hb hd
  exact ⟨ha, hb, hd, hself, hab, hbd, htrans hab hbd, hdb,
    (subset_partial_order (.standard 0) .empty hb hd ha).2.2 hbd hdb⟩

end SubsetMatch
