import SubsetMatch.Proofs.Json.Document
import SubsetMatch.Proofs.RelatedLists

/-!
# Documents with their members in another order

The members of any objects of a document may be listed in another order, at any depth; lists keep
theirs. Such documents have the same members under the same keys, and where no key occurs twice a
key finds the same member in both.

Results:
* `Reorders.of_perm`: reordering the members of an object reorders it.
* `Reorders.exists_mem`, `Reorders.exists_mem_of_mem`: every member of one object is one of the
  other, reordered.
* `Reorders.keys_perm`: both objects have the same keys, in some order.
* `Reorders.get?_some`, `Reorders.get?_none`: a key finds the same member, reordered, or none in
  both.
-/

namespace SubsetMatch.Value

/-- Members under one key whose values are related. -/
inductive SameKey (related : Value → Value → Prop) : String × Value → String × Value → Prop
  | mk (key : String) {v w : Value} (h : related v w) : SameKey related (key, v) (key, w)

/-- The second document is the first with the members of its objects in another order. Each member
changes into one under its own key, and what the members have changed into is listed anew. -/
inductive Reorders : Value → Value → Prop
  | null : Reorders null null
  | bool (b : Bool) : Reorders (bool b) (bool b)
  | number (n : Number) : Reorders (number n) (number n)
  | string (s : String) : Reorders (string s) (string s)
  | array {items others : List Value} (h : List.Forall₂ Reorders items others) :
      Reorders (array items) (array others)
  | object {members changed others : Members}
      (h : List.Forall₂ (SameKey Reorders) members changed)
      (hperm : changed.Perm others) : Reorders (object members) (object others)

theorem keys_eq_of_forall₂ {related : Value → Value → Prop} {members others : Members}
    (h : List.Forall₂ (SameKey related) members others) :
    members.map Prod.fst = others.map Prod.fst := by
  induction h with
  | nil => rfl
  | cons hmn h ih =>
    cases hmn
    rw [List.map_cons, List.map_cons, ih]

namespace Reorders

variable {members others : Members}

theorem refl (v : Value) : Reorders v v := by
  induction v using inductionOn with
  | null => exact .null
  | bool b => exact .bool b
  | number n => exact .number n
  | string s => exact .string s
  | array items ih => exact .array (List.forall₂_same.mpr ih)
  | object members ih =>
    exact .object (List.forall₂_same.mpr fun m hm => .mk m.1 (ih m hm)) (.refl _)

/-- An object with the same members in another order. -/
theorem of_perm (h : members.Perm others) : Reorders (.object members) (.object others) :=
  .object (List.forall₂_same.mpr fun m _ => .mk m.1 (refl m.2)) h

/-- **Every member of an object** is one of the reordered object, under its key. -/
theorem exists_mem (h : Reorders (.object members) (.object others)) {m : String × Value}
    (hm : m ∈ members) : ∃ w, (m.1, w) ∈ others ∧ Reorders m.2 w := by
  cases h with
  | object h hperm =>
    obtain ⟨_, hn, ⟨key, hw⟩⟩ := exists_mem_of_forall₂ h hm
    exact ⟨_, hperm.mem_iff.mp hn, hw⟩

/-- **Every member of a reordered object** was one of the object, under its key. -/
theorem exists_mem_of_mem (h : Reorders (.object members) (.object others)) {n : String × Value}
    (hn : n ∈ others) : ∃ v, (n.1, v) ∈ members ∧ Reorders v n.2 := by
  cases h with
  | object h hperm =>
    obtain ⟨_, hm, ⟨key, hv⟩⟩ := exists_mem_of_forall₂ h.flip (hperm.mem_iff.mpr hn)
    exact ⟨_, hm, hv⟩

/-- Reordering leaves an object its keys. -/
theorem keys_perm (h : Reorders (.object members) (.object others)) :
    (members.map Prod.fst).Perm (others.map Prod.fst) := by
  cases h with
  | object h hperm =>
    rw [keys_eq_of_forall₂ h]
    exact hperm.map _

/-- **A key that finds a member** finds it in the reordered object, reordered. -/
theorem get?_some (h : Reorders (.object members) (.object others))
    (hkeys : (members.map Prod.fst).Nodup) {key : String} {v : Value}
    (hget : Value.get? members key = some v) :
    ∃ w, Value.get? others key = some w ∧ Reorders v w := by
  obtain ⟨w, hw, hreorders⟩ := h.exists_mem (Entries.mem_of_find? hget)
  exact ⟨w, Entries.find?_of_mem (h.keys_perm.nodup_iff.mp hkeys) hw, hreorders⟩

/-- A key that finds nothing finds nothing in the reordered object. -/
theorem get?_none (h : Reorders (.object members) (.object others)) {key : String}
    (hget : Value.get? members key = none) : Value.get? others key = none := by
  refine Entries.find?_eq_none_iff.mpr fun n hn heq => ?_
  obtain ⟨v, hv, -⟩ := h.exists_mem_of_mem hn
  exact Entries.find?_eq_none_iff.mp hget _ hv heq

end Reorders

end SubsetMatch.Value
