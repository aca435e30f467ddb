import Mathlib.Logic.ExistsUnique
import SubsetMatch.Proofs.Comparator.FailurePlace
import SubsetMatch.Proofs.Json.StringText

/-!
# Written paths

A written path tells its segments. Each of them begins with a dot or an opening bracket, and its
form shows what it is: a plain key goes on up to the next dot or bracket, which no plain key holds;
a quoted key ends at the quote that closes it; and a position ends at the first character that is no
digit. So the first segment of a path, and what stands behind it, are known from the text.

Results:
* `Segment.text_append_eq`: the first segment is known, whatever other segments follow.
* `KeyPath.text_injective`: so are all of them.
* `written_path_identifies`: two paths are never written alike, and the path in a report is that of
  one node.
-/

namespace SubsetMatch

/-- A run of characters of a class ends at the first character outside of it. -/
theorem Text.run_append_eq {p : Char → Bool} {a b x y : List Char} (ha : ∀ c ∈ a, p c = true)
    (hb : ∀ c ∈ b, p c = true) (hx : ∀ c, x.head? = some c → p c = false)
    (hy : ∀ c, y.head? = some c → p c = false) (h : a ++ x = b ++ y) : a = b ∧ x = y := by
  have hrun : ∀ {a x : List Char}, (∀ c ∈ a, p c = true) →
      (∀ c, x.head? = some c → p c = false) → (a ++ x).takeWhile p = a := by
    intro a x ha hx
    rw [List.takeWhile_append_of_pos ha]
    cases x with
    | nil => rw [List.takeWhile_nil, List.append_nil]
    | cons c x => rw [List.takeWhile_cons, hx c rfl, if_neg Bool.false_ne_true, List.append_nil]
  have hab : a = b := by
    rw [← hrun ha hx, h, hrun hb hy]
  subst hab
  exact ⟨rfl, List.append_cancel_left h⟩

/-- A character of a plain key, the first one aside. -/
def isKeyRest (c : Char) : Bool :=
  c.isAlphanum || c == '_' || c == '-'

theorem isKeyRest_of_isPlainKey {cs : List Char} (h : isPlainKey cs = true) :
    ∀ c ∈ cs, isKeyRest c = true := by
  cases cs with
  | nil => simp
  | cons c cs =>
    simp only [isPlainKey, Bool.and_eq_true, List.all_eq_true] at h
    obtain ⟨hfirst, hrest⟩ := h
    intro d hd
    rcases List.mem_cons.mp hd with rfl | hd
    · simp only [isKeyRest, Char.isAlphanum]
      revert hfirst
      cases d.isAlpha <;> simp +contextual
    · exact hrest d hd

/-- Nothing, or a text that begins with a dot or an opening bracket. -/
def StartsSegment (cs : List Char) : Prop :=
  ∀ c, cs.head? = some c → c = '.' ∨ c = '['

namespace Segment

/-- **The three forms of a written segment.** -/
theorem text_cases (s : Segment) :
    (∃ name, s = key name ∧ isPlainKey name.toList = true ∧ s.text = '.' :: name.toList) ∨
    (∃ name, s = key name ∧ s.text = '[' :: (Json.quoted name.toList ++ [']'])) ∨
    ∃ position, s = index position ∧ s.text = '[' :: (Decimal.digitsOf position ++ [']']) := by
  cases s with
  | index position => exact .inr (.inr ⟨position, rfl, rfl⟩)
  | key name =>
    cases h : isPlainKey name.toList with
    | true => exact .inl ⟨name, rfl, h, by simp [text, h]⟩
    | false => exact .inr (.inl ⟨name, rfl, by simp [text, h]⟩)

theorem text_ne_nil (s : Segment) : s.text ≠ [] := by
  rcases s.text_cases with ⟨_, -, -, hs⟩ | ⟨_, -, hs⟩ | ⟨_, -, hs⟩ <;> rw [hs] <;>
    exact List.cons_ne_nil _ _

/-- A quote is no digit, so a quoted key is no position. -/
theorem quoted_append_ne {cs x y : List Char} {position : Nat} :
    Json.quoted cs ++ x ≠ Decimal.digitsOf position ++ y := by
  intro h
  obtain ⟨d, ds, hds⟩ := List.exists_cons_of_ne_nil (Decimal.digitsOf_ne_nil position)
  have hd : d ∈ Decimal.digitsOf position := by
    rw [hds]
    exact List.mem_cons_self
  rw [hds, Json.quoted, List.cons_append, List.cons_append, List.cons.injEq] at h
  exact Decimal.ne_of_mem_digitsOf hd (by decide) h.1.symm

theorem digitsOf_append_eq {m n : Nat} {x y : List Char}
    (h : Decimal.digitsOf m ++ ']' :: x = Decimal.digitsOf n ++ ']' :: y) : m = n ∧ x = y := by
  have hclose : ∀ {x : List Char} (c : Char), (']' :: x).head? = some c → c.isDigit = false := by
    rintro x c ⟨⟩
    decide
  obtain ⟨hdigits, htail⟩ := Text.run_append_eq (fun _ hc => Decimal.digitsOf_isDigit hc)
    (fun _ hc => Decimal.digitsOf_isDigit hc) hclose hclose h
  rw [List.cons.injEq] at htail
  rw [← Decimal.valueOf_digitsOf m, hdigits, Decimal.valueOf_digitsOf]
  exact ⟨rfl, htail.2⟩

/-- **The first segment is known from the text**, and so is what stands behind it. -/
theorem text_append_eq {s t : Segment} {x y : List Char} (hx : StartsSegment x)
    (hy : StartsSegment y) (h : s.text ++ x = t.text ++ y) : s = t ∧ x = y := by
  have hends : ∀ {x : List Char}, StartsSegment x → ∀ c, x.head? = some c → isKeyRest c = false := by
    intro x hx c hc
    rcases hx c hc with rfl | rfl <;> decide
  rcases s.text_cases with ⟨a, rfl, ha, hs⟩ | ⟨a, rfl, hs⟩ | ⟨m, rfl, hs⟩ <;>
    rcases t.text_cases with ⟨b, rfl, hb, ht⟩ | ⟨b, rfl, ht⟩ | ⟨n, rfl, ht⟩ <;>
    rw [hs, ht] at h <;>
    simp only [List.cons_append, List.append_assoc, List.nil_append, List.cons.injEq, true_and,
      Char.reduceEq, false_and] at h
  -- two plain keys, two quoted keys, a quoted key and a position, two positions
  · obtain ⟨hab, hxy⟩ := Text.run_append_eq (isKeyRest_of_isPlainKey ha)
      (isKeyRest_of_isPlainKey hb) (hends hx) (hends hy) h
    rw [String.toList_inj.mp hab]
    exact ⟨rfl, hxy⟩
  · obtain ⟨hab, htail⟩ := Json.quoted_append_eq_iff.mp h
    rw [String.toList_inj.mp hab]
    exact ⟨rfl, (List.cons.inj htail).2⟩
  · exact absurd h quoted_append_ne
  · exact absurd h.symm quoted_append_ne
  · obtain ⟨hmn, hxy⟩ := digitsOf_append_eq h
    rw [hmn]
    exact ⟨rfl, hxy⟩

end Segment

namespace KeyPath

theorem startsSegment_flatMap (segments : List Segment) :
    StartsSegment (segments.flatMap Segment.text) := by
  intro c hc
  cases segments with
  | nil => cases hc
  | cons s segments =>
    rw [List.flatMap_cons] at hc
    rcases s.text_cases with ⟨_, -, -, hs⟩ | ⟨_, -, hs⟩ | ⟨_, -, hs⟩ <;> rw [hs] at hc <;> cases hc
    · exact .inl rfl
    · exact .inr rfl
    · exact .inr rfl

/-- **The segments of a path are known from its text.** By induction on the segments of one. -/
theorem text_injective {p q : KeyPath} (h : p.text = q.text) : p = q := by
  suffices hsegments : ∀ segments segments' : List Segment,
      segments.flatMap Segment.text = segments'.flatMap Segment.text → segments = segments' by
    obtain ⟨segments⟩ := p
    obtain ⟨segments'⟩ := q
    rw [hsegments segments segments' (List.cons.inj h).2]
  intro segments
  induction segments with
  | nil =>
    intro segments' h
    cases segments' with
    | nil => rfl
    | cons t segments' =>
      rw [List.flatMap_nil, List.flatMap_cons, eq_comm, List.append_eq_nil_iff] at h
      exact absurd h.1 t.text_ne_nil
  | cons s segments ih =>
    intro segments' h
    cases segments' with
    | nil =>
      rw [List.flatMap_nil, List.flatMap_cons, List.append_eq_nil_iff] at h
      exact absurd h.1 s.text_ne_nil
    | cons t segments' =>
      rw [List.flatMap_cons, List.flatMap_cons] at h
      obtain ⟨hst, hrest⟩ := Segment.text_append_eq (startsSegment_flatMap segments)
        (startsSegment_flatMap segments') h
      rw [hst, ih segments' hrest]

theorem render_injective {p q : KeyPath} (h : p.render = q.render) : p = q :=
  text_injective (String.ofList_inj.mp h)

end KeyPath

/-- **A written path identifies a place.** Paths that are written alike are the same list of
segments, whatever characters the keys have; and of all paths only one is written as the path in the
report of a failed comparison and leads to a node of the haystack. -/
theorem written_path_identifies :
    (∀ p q : KeyPath, p.render = q.render → p = q) ∧
    ∀ (E : Primitives) (c : Comparator) (needle haystack : Value) (r : Report),
      c.report E needle haystack = .error r →
        ∃! p : KeyPath, p.render = r.path ∧ ∃ node, haystack.at? p = some node := by
  refine ⟨fun p q h => KeyPath.render_injective h, fun E c needle haystack r h => ?_⟩
  unfold Comparator.report at h
  split at h
  · rename_i f hf
    cases h
    obtain ⟨node, hnode, -⟩ : f.Names c haystack := names_of_outcome rfl hf
    exact ⟨f.path, ⟨rfl, node, hnode⟩, fun q hq => KeyPath.render_injective hq.1⟩
  · cases h

/-- A dot in a key is told from the dot in front of one, also in the report of a comparison. -/
theorem written_path_identifies_dotted :
    let needle : Value := .object [("a.b", .bool true)]
    let haystack : Value := .object [("a.b", .bool false)]
    let p : KeyPath := KeyPath.root.key "a.b"
    p.render ≠ ((KeyPath.root.key "a").key "b").render ∧
      ∃ r, Comparator.withDefaults.report (.standard 0) needle haystack = .error r ∧
        r.path = "$[\"a.b\"]" ∧
          ∃! q : KeyPath, q.render = r.path ∧ ∃ node, haystack.at? q = some node := by
  intro needle haystack p
  let f : Failure := ⟨p, .value (.bool true) (.bool false)⟩
  have hcompare : Comparator.withDefaults.compare (.standard 0) needle haystack = .error f := by
    have haddress : address [("a.b", .bool false)] "a.b" .root = .ok ⟨.bool false, p⟩ := rfl
    have hleaf : Comparator.withDefaults.node (.standard 0) (.bool true) (.bool false) p =
        .error f := by
      rw [Comparator.node]
      rfl
    rw [Comparator.compare, Comparator.node_object]
    simp only [haystack, Comparator.members_cons, haddress, hleaf]
  have hreport : Comparator.withDefaults.report (.standard 0) needle haystack =
      .error ((Report.ofFailure f).withDocuments needle haystack) := by
    rw [Comparator.report, hcompare]
  refine ⟨fun h => ?_, _, hreport, by rfl, written_path_identifies.2 _ _ _ _ _ hreport⟩
  exact absurd (written_path_identifies.1 _ _ h) (by decide)

end SubsetMatch
