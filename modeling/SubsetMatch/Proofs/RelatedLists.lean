import Mathlib.Data.List.Forall2

/-!
# Lists related element by element

Results:
* `forall₂_iff_getElem?`: lists are related if they are as long and related at every position.
* `exists_getElem?_of_forall₂`, `exists_mem_of_forall₂`: an element has one related to it.
* `exists_forall₂`: elements related to those of a list make a list.
-/

namespace SubsetMatch

variable {α β : Type} {R : α → β → Prop} {l : List α} {l' : List β} {a : α}

/-- Lists are related element by element iff they are as long and related at every position. -/
theorem forall₂_iff_getElem? :
    List.Forall₂ R l l' ↔ l.length = l'.length ∧
      ∀ (i : Nat) a b, l[i]? = some a → l'[i]? = some b → R a b := by
  constructor
  · intro h
    refine ⟨h.length_eq, fun i a b ha hb => ?_⟩
    obtain ⟨hi, rfl⟩ := List.getElem?_eq_some_iff.mp ha
    obtain ⟨hi', rfl⟩ := List.getElem?_eq_some_iff.mp hb
    exact h.get hi hi'
  · rintro ⟨hlength, h⟩
    exact List.forall₂_of_length_eq_of_get hlength fun i hi hi' =>
      h i _ _ (List.getElem?_eq_getElem hi) (List.getElem?_eq_getElem hi')

/-- Lists that are related element by element are so at every position. -/
theorem exists_getElem?_of_forall₂ {i : Nat} (h : List.Forall₂ R l l') (ha : l[i]? = some a) :
    ∃ b, l'[i]? = some b ∧ R a b := by
  obtain ⟨hlength, hall⟩ := forall₂_iff_getElem?.mp h
  obtain ⟨hi, -⟩ := List.getElem?_eq_some_iff.mp ha
  have hb := List.getElem?_eq_getElem (hlength ▸ hi)
  exact ⟨_, hb, hall i a _ ha hb⟩

/-- Every element has one in the other list that it is related to. -/
theorem exists_mem_of_forall₂ (h : List.Forall₂ R l l') (ha : a ∈ l) : ∃ b ∈ l', R a b := by
  obtain ⟨i, hi⟩ := List.mem_iff_getElem?.mp ha
  obtain ⟨b, hb, hab⟩ := exists_getElem?_of_forall₂ h hi
  exact ⟨b, List.mem_of_getElem? hb, hab⟩

/-- What is found for each element makes a list. -/
theorem exists_forall₂ {s : List β} (h : ∀ a ∈ l, ∃ b ∈ s, R a b) :
    ∃ l' ⊆ s, List.Forall₂ R l l' := by
  induction l with
  | nil => exact ⟨[], List.nil_subset _, .nil⟩
  | cons a l ih =>
    obtain ⟨⟨b, hb, hab⟩, hrest⟩ := List.forall_mem_cons.mp h
    obtain ⟨l', hl', hrelated⟩ := ih hrest
    exact ⟨b :: l', List.cons_subset.mpr ⟨hb, hl'⟩, .cons hab hrelated⟩

end SubsetMatch
