import Mathlib.Data.List.Nodup
import SubsetMatch.Proofs.Json.Reordering

/-!
# Documents that include others

A document includes another one if its objects have all the members of the other's, and maybe more.
Lists are included element by element, and leaves only in themselves.

Results:
* `Subset.array_iff`, `Subset.object_iff`: inclusion, by the shape of the document.
* `Subset.refl`, `Subset.trans`, `Subset.antisymm`: inclusion is a partial order on documents up to
  the order of members, if no object has a key twice.
-/

namespace SubsetMatch.Value

/-- The first document is included in the second: each of its members is, at whatever depth, in one
found there under the same key. -/
inductive Subset : Value → Value → Prop
  | null : Subset null null
  | bool (b : Bool) : Subset (bool b) (bool b)
  | number (n : Number) : Subset (number n) (number n)
  | string (s : String) : Subset (string s) (string s)
  | array {items others : List Value} (h : List.Forall₂ Subset items others) :
      Subset (array items) (array others)
  | object {members found others : Members} (h : List.Forall₂ (SameKey Subset) members found)
      (hfound : found ⊆ others) : Subset (object members) (object others)

/-- A key that is in an object once has one value. -/
theorem eq_of_mem {members : Members} (hkeys : (members.map Prod.fst).Nodup) {key : String}
    {v w : Value} (hv : (key, v) ∈ members) (hw : (key, w) ∈ members) : v = w :=
  congrArg Prod.snd (List.inj_on_of_nodup_map hkeys hv hw rfl)

namespace Subset

variable {items others : List Value} {members found : Members}

theorem array_iff :
    Subset (.array items) (.array others) ↔ items.length = others.length ∧
      ∀ (i : Nat) v w, items[i]? = some v → others[i]? = some w → Subset v w := by
  rw [← forall₂_iff_getElem?]
  refine ⟨fun h => ?_, .array⟩
  cases h with
  | array h => exact h

theorem object_iff :
    Subset (.object members) (.object found) ↔
      ∀ m ∈ members, ∃ w, (m.1, w) ∈ found ∧ Subset m.2 w := by
  constructor
  · intro h m hm
    cases h with
    | object h hfound =>
      obtain ⟨_, hn, ⟨key, hw⟩⟩ := exists_mem_of_forall₂ h hm
      exact ⟨_, hfound hn, hw⟩
  · intro h
    have hall : ∀ m ∈ members, ∃ n ∈ found, SameKey Subset m n := by
      intro m hm
      obtain ⟨w, hw, hsubset⟩ := h m hm
      exact ⟨_, hw, .mk m.1 hsubset⟩
    obtain ⟨those, hthose, hrelated⟩ := exists_forall₂ hall
    exact .object hrelated hthose

theorem refl (v : Value) : Subset v v := by
  induction v using inductionOn with
  | null => exact .null
  | bool b => exact .bool b
  | number n => exact .number n
  | string s => exact .string s
  | array items ih => exact .array (List.forall₂_same.mpr ih)
  | object members ih => exact object_iff.mpr fun m hm => ⟨m.2, hm, ih m hm⟩

theorem trans {u v w : Value} (huv : Subset u v) (hvw : Subset v w) : Subset u w := by
  induction u using inductionOn generalizing v w with
  | array items ih =>
    cases huv with
    | array hitems =>
      cases hvw with
      | array hothers =>
        refine .array (forall₂_iff_getElem?.mpr
          ⟨hitems.length_eq.trans hothers.length_eq, fun i a b ha hb => ?_⟩)
        obtain ⟨x, hx, hax⟩ := exists_getElem?_of_forall₂ hitems ha
        exact ih a (List.mem_of_getElem? ha) hax ((forall₂_iff_getElem?.mp hothers).2 i x b hx hb)
  | object members ih =>
    cases huv with
    | object hmembers hfound =>
      have huv := Subset.object hmembers hfound
      cases hvw with
      | object hothers hfound' =>
        have hvw := Subset.object hothers hfound'
        refine object_iff.mpr fun m hm => ?_
        obtain ⟨x, hx, hmx⟩ := object_iff.mp huv m hm
        obtain ⟨y, hy, hxy⟩ := object_iff.mp hvw _ hx
        exact ⟨y, hy, ih m hm hmx hxy⟩
  | _ =>
    cases huv
    exact hvw

/-- **Documents that include each other** differ in the order of members only. -/
theorem antisymm {v w : Value} (hv : v.KeysOnce) (hw : w.KeysOnce) (hvw : Subset v w)
    (hwv : Subset w v) : Reorders v w := by
  induction v using inductionOn generalizing w with
  | null =>
    cases hvw
    exact .null
  | bool b =>
    cases hvw
    exact .bool b
  | number n =>
    cases hvw
    exact .number n
  | string s =>
    cases hvw
    exact .string s
  | array items ih =>
    cases hvw with
    | @array _ others hitems =>
      obtain ⟨hlength, hall⟩ := forall₂_iff_getElem?.mp hitems
      refine .array (forall₂_iff_getElem?.mpr ⟨hlength, fun i a b ha hb => ?_⟩)
      have hmem := List.mem_of_getElem? ha
      have hmem' := List.mem_of_getElem? hb
      exact ih a hmem (keysOnce_array.mp hv a hmem) (keysOnce_array.mp hw b hmem')
        (hall i a b ha hb) ((array_iff.mp hwv).2 i b a hb ha)
  | object members ih =>
    cases hvw with
    | @object _ _ others hmembers hfound =>
      have hvw := Subset.object hmembers hfound
      obtain ⟨hkeys, honce⟩ := keysOnce_object.mp hv
      obtain ⟨hkeys', honce'⟩ := keysOnce_object.mp hw
      have hall : ∀ m ∈ members, ∃ n ∈ others, SameKey Reorders m n := by
        rintro ⟨key, a⟩ ha
        obtain ⟨b, hb, hab⟩ := object_iff.mp hvw _ ha
        obtain ⟨a', ha', hba⟩ := object_iff.mp hwv _ hb
        -- what includes the member in turn is the member itself
        obtain rfl := eq_of_mem hkeys ha ha'
        exact ⟨_, hb, .mk key (ih _ ha (honce _ ha) (honce' _ hb) hab hba)⟩
      obtain ⟨changed, hchanged, hrelated⟩ := exists_forall₂ hall
      have hnodup : (changed.map Prod.fst).Nodup := keys_eq_of_forall₂ hrelated ▸ hkeys
      refine .object hrelated ((List.perm_ext_iff_of_nodup hnodup.of_map hkeys'.of_map).mpr
        fun n => ⟨fun hn => hchanged hn, fun hn => ?_⟩)
      obtain ⟨a, ha, -⟩ := object_iff.mp hwv n hn
      obtain ⟨_, hn', ⟨key, -⟩⟩ := exists_mem_of_forall₂ hrelated ha
      rwa [List.inj_on_of_nodup_map hkeys' hn (hchanged hn') rfl]

end Subset

end SubsetMatch.Value
