import SubsetMatch.Proofs.Comparator.Agreement
import SubsetMatch.Proofs.Json.Growth
import SubsetMatch.Proofs.RelatedLists
import SubsetMatch.Standard

/-!
# Less needle, more haystack

A comparison that succeeds goes on to succeed when members are deleted from the needle and further
members are inserted into the haystack. The keys of the insertions must be new in two ways. They
must not be those of the object, which would then hold another value. And they must not be keys of
the needle: a needle key that has found its list by its brackets would find the inserted member
instead, since a literal key goes first.

Results:
* `address_extends`: a key of the needle addresses in the larger haystack what it did, grown.
* `subset_monotone`: the success of a comparison is monotone.
-/

namespace SubsetMatch

open Value

/-- A document that has grown is like the one before. -/
theorem Value.Grows.alike {allowed : List String → String → Prop} {v w : Value}
    (h : Grows allowed v w) : Alike v w := by
  cases h with
  | array h => exact .array h.length_eq
  | object h => exact .object _ _
  | _ => exact .same _

/-! ## Looking for members -/

section Address

variable {taken : List String} {actual grown : Members}

/-- A key of the object or of the needle finds the same member, grown, or none in both. -/
theorem get?_extends (h : Extends taken (.object actual) (.object grown)) {key : String}
    (hkey : key ∈ actual.map Prod.fst ∨ key ∈ taken) :
    Option.Rel (Extends taken) (Value.get? actual key) (Value.get? grown key) := by
  cases h with
  | object h =>
    refine h.get? ?_
    rintro ⟨hown, htaken⟩
    exact hkey.elim hown htaken

theorem get?_extends_some (h : Extends taken (.object actual) (.object grown)) {key : String}
    {v : Value} (hget : Value.get? actual key = some v) :
    ∃ w, Value.get? grown key = some w ∧ Extends taken v w := by
  have hown : key ∈ actual.map Prod.fst := List.mem_map_of_mem (Entries.mem_of_find? hget)
  have hrel := get?_extends h (.inl hown)
  rw [hget] at hrel
  generalize Value.get? grown key = found at hrel
  cases hrel with
  | some hvw => exact ⟨_, rfl, hvw⟩

theorem get?_extends_none (h : Extends taken (.object actual) (.object grown)) {key : String}
    (hkey : key ∈ taken) (hget : Value.get? actual key = none) : Value.get? grown key = none := by
  have hrel := get?_extends h (.inr hkey)
  rw [hget] at hrel
  generalize Value.get? grown key = found at hrel
  cases hrel
  rfl

/-- A list under a base is found again, with its elements grown. -/
theorem listAt_extends (h : Extends taken (.object actual) (.object grown)) {base : String}
    {path : KeyPath} {items : List Value} (hlist : listAt actual base path = .ok items) :
    ∃ others, listAt grown base path = .ok others ∧ List.Forall₂ (Extends taken) items others := by
  unfold listAt at hlist
  split at hlist
  · cases hlist
  · rename_i hget
    cases hlist
    obtain ⟨w, hw, hextends⟩ := get?_extends_some h hget
    cases hextends with
    | array hitems => exact ⟨_, by rw [listAt, hw], hitems⟩
  · cases hlist

/-- What brackets address is addressed again, grown. -/
theorem addressList_extends (h : Extends taken (.object actual) (.object grown)) {path : KeyPath}
    {s : KeySelector} {t : Target} (ht : addressList actual path s = .ok t) :
    ∃ w, addressList grown path s = .ok ⟨w, t.path⟩ ∧ Extends taken t.value w := by
  cases s with
  | plain key => cases ht
  | wholeList base =>
    rw [addressList] at ht ⊢
    split at ht
    · cases ht
    · rename_i items hlist
      cases ht
      obtain ⟨others, hothers, hitems⟩ := listAt_extends h hlist
      exact ⟨.array others, by rw [hothers], .array hitems⟩
  | element base position =>
    rw [addressList] at ht ⊢
    split at ht
    · cases ht
    · rename_i items hlist
      obtain ⟨others, hothers, hitems⟩ := listAt_extends h hlist
      split at ht
      · cases ht
      · rename_i item hitem
        cases ht
        obtain ⟨other, hother, hextends⟩ := exists_getElem?_of_forall₂ hitems hitem
        exact ⟨other, by simp only [hothers, hother], hextends⟩

/-- **A key of the needle addresses what it did**, grown, at the same place. -/
theorem address_extends (h : Extends taken (.object actual) (.object grown)) {key : String}
    (hkey : key ∈ taken) {path : KeyPath} {t : Target} (ht : address actual key path = .ok t) :
    ∃ w, address grown key path = .ok ⟨w, t.path⟩ ∧ Extends taken t.value w := by
  unfold address at ht ⊢
  cases hget : Value.get? actual key with
  | some v =>
    obtain ⟨w, hw, hextends⟩ := get?_extends_some h hget
    rw [hget] at ht
    cases ht
    exact ⟨w, by rw [hw], hextends⟩
  | none =>
    -- a literal key that is missing stays missing, so the brackets decide as before
    rw [hget] at ht
    rw [get?_extends_none h hkey hget]
    exact addressList_extends h ht

end Address

/-! ## The walk -/

namespace Comparator

variable {E : Primitives} {c : Comparator}

/-- **The walk is monotone**, by induction on the needle: each of its parts that is left has been
compared before, with what has grown into the part that it is compared with now. -/
theorem node_monotone (hb : c.IsBuiltIn) {taken : List String}
    {needle pruned haystack grown : Value} {path : KeyPath} (hprunes : Prunes needle pruned)
    (hkeys : needle.keys ⊆ taken) (hextends : Extends taken haystack grown)
    (hok : c.node E needle haystack path = .ok ()) :
    c.node E pruned grown path = .ok () := by
  induction needle using Value.inductionOn generalizing pruned haystack grown path with
  | string text =>
    cases hprunes
    exact (string_agree hb hextends.alike text path).ok_iff.mp hok
  | array items ih =>
    cases hprunes with
    | array hitems =>
      obtain ⟨actual, rfl, hlength, hall⟩ := outcome_array_eq_ok_iff.mp hok
      cases hextends with
      | array hactual =>
        have hlengths := hitems.length_eq.trans (hlength.trans hactual.length_eq)
        refine outcome_array_eq_ok_iff.mpr ⟨_, rfl, hlengths, fun i n x hn hx => ?_⟩
        obtain ⟨needle, hneedle, hprunes⟩ := exists_getElem?_of_forall₂ hitems hn
        obtain ⟨v, hv, hextends⟩ := exists_getElem?_of_forall₂ hactual.flip hx
        have hmem := List.mem_of_getElem? hneedle
        exact ih needle hmem hprunes (fun key hkey => hkeys (keys_element_subset hmem hkey))
          hextends (hall i needle v hneedle hv)
  | object members ih =>
    cases hprunes with
    | object hmembers =>
      obtain ⟨actual, rfl, hall⟩ := outcome_object_eq_ok_iff.mp hok
      cases hextends with
      | object hactual =>
        refine outcome_object_eq_ok_iff.mpr ⟨_, rfl, fun m hm => ?_⟩
        -- what is left of the needle's member has been found before, as the whole member
        obtain ⟨needle, hneedle, hprunes⟩ := hmembers.exists_mem hm
        obtain ⟨t, ht, hnode⟩ := hall _ hneedle
        obtain ⟨w, hw, hextends⟩ :=
          address_extends (.object hactual) (hkeys (mem_keys_of_mem hneedle)) ht
        exact ⟨_, hw, ih _ hneedle hprunes
          (fun key hkey => hkeys (keys_member_subset hneedle hkey)) hextends hnode⟩
  | _ =>
    cases hprunes
    rw [node] at hok ⊢
    exact (leaf_agree hextends.alike _ path).ok_iff.mp hok

end Comparator

/-- **Comparisons are monotone.** A needle that a haystack satisfies is still satisfied when members
are deleted from it, and when the haystack gets further members under keys that are neither in their
object nor in the needle. -/
theorem subset_monotone (E : Primitives) (c : Comparator) (hb : c.IsBuiltIn)
    {needle pruned haystack grown : Value} (hprunes : Prunes needle pruned)
    (hextends : Extends needle.keys haystack grown) (hok : c.compare E needle haystack = .ok ()) :
    c.compare E pruned grown = .ok () :=
  c.node_monotone hb hprunes (fun _ hkey => hkey) hextends hok

/-- A key of the needle may not be inserted: it would be found before the list. -/
example : Comparator.withDefaults.compare (.standard 0) (.object [("a[0]", .string "x")])
    (.object [("a", .array [.string "x"]), ("a[0]", .string "y")]) =
      .error ⟨⟨[.key "a[0]"]⟩, .value (.string "x") (.string "y")⟩ := by cbv

/-- A needle that asks for a list and for its first element keeps half of one of its two members. -/
theorem subset_monotone_list :
    let needle : Value := .object [("users[]", .string "@arrayLength(1)"),
      ("users[0]", .object [("name", .string "@variableType(string)"), ("role", .string "admin")])]
    let pruned : Value := .object
      [("users[0]", .object [("name", .string "@variableType(string)")])]
    let haystack : Value := .object
      [("users", .array [.object [("name", .string "a"), ("role", .string "admin")]])]
    let grown : Value := .object [("total", .bool true),
      ("users", .array [.object [("name", .string "a"), ("id", .null), ("role", .string "admin")]])]
    Comparator.withDefaults.IsBuiltIn ∧ Prunes needle pruned ∧
      Extends needle.keys haystack grown ∧
      Comparator.withDefaults.compare (.standard 0) needle haystack = .ok () ∧
      Comparator.withDefaults.compare (.standard 0) pruned grown = .ok () := by
  intro needle pruned haystack grown
  have hb := Comparator.isBuiltIn_withDefaults
  have hprunes : Prunes needle pruned :=
    .object (.insert trivial _ (.keep _
      (.object (.keep _ (.string _) (.insert trivial _ (.nil _)))) (.nil _)))
  have hextends : Extends needle.keys haystack grown :=
    .object (.insert (by decide) _ (.keep _
      (.array (.cons (.object (.keep _ (.string _) (.insert (by decide) _ (.keep _ (.string _)
        (.nil _))))) .nil)) (.nil _)))
  have hlength : ∀ v path, Comparator.withDefaults.node (.standard 0) (.string "@arrayLength(1)")
      (.array [v]) path = .ok () := by
    intro v path
    rw [Comparator.node_string]
    rfl
  have htype : ∀ s path, Comparator.withDefaults.node (.standard 0)
      (.string "@variableType(string)") (.string s) path = .ok () := by
    intro s path
    rw [Comparator.node_string]
    rfl
  have hrole : ∀ path, Comparator.withDefaults.node (.standard 0) (.string "admin")
      (.string "admin") path = .ok () := by
    intro path
    rw [Comparator.node_string]
    rfl
  have hok : Comparator.withDefaults.compare (.standard 0) needle haystack = .ok () := by
    refine outcome_object_eq_ok_iff.mpr ⟨_, rfl, List.forall_mem_cons.mpr ⟨⟨_, rfl, hlength _ _⟩,
      List.forall_mem_cons.mpr ⟨⟨_, rfl, ?_⟩, by simp⟩⟩⟩
    exact outcome_object_eq_ok_iff.mpr ⟨_, rfl, List.forall_mem_cons.mpr ⟨⟨_, rfl, htype _ _⟩,
      List.forall_mem_cons.mpr ⟨⟨_, rfl, hrole _⟩, by simp⟩⟩⟩
  exact ⟨hb, hprunes, hextends, hok, subset_monotone (.standard 0) _ hb hprunes hextends hok⟩

end SubsetMatch
