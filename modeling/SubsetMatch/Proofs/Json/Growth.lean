import Mathlib.Data.List.Forall2
import SubsetMatch.Proofs.Json.Document

/-!
# Documents with more members

A document grows by members inserted into its objects, at any depth and in any places, while lists
keep their elements. Read backwards, growing is deleting members. Keys that may not be inserted are
looked up alike before and after.

Results:
* `GrowsMembers.exists_mem`: every member of the smaller object is one of the larger, grown.
* `GrowsMembers.get?`: a key that may not be inserted finds the same member, grown, or none in both.
* `Grows.refl`: a document grows out of itself.
-/

namespace SubsetMatch.Value

/-- Members with others inserted between them, and with values that have themselves changed. Which
keys may be inserted depends on the object's own keys. -/
inductive GrowsMembers (changed : Value → Value → Prop) (allowed : List String → String → Prop) :
    List String → Members → Members → Prop
  | nil (own : List String) : GrowsMembers changed allowed own [] []
  | keep (key : String) {own : List String} {v w : Value} {members grown : Members}
      (hv : changed v w) (h : GrowsMembers changed allowed own members grown) :
      GrowsMembers changed allowed own ((key, v) :: members) ((key, w) :: grown)
  | insert {own : List String} {key : String} (hkey : allowed own key) (v : Value)
      {members grown : Members} (h : GrowsMembers changed allowed own members grown) :
      GrowsMembers changed allowed own members ((key, v) :: grown)

/-- A document with members inserted into its objects. -/
inductive Grows (allowed : List String → String → Prop) : Value → Value → Prop
  | null : Grows allowed null null
  | bool (b : Bool) : Grows allowed (bool b) (bool b)
  | number (n : Number) : Grows allowed (number n) (number n)
  | string (s : String) : Grows allowed (string s) (string s)
  | array {items grown : List Value} (h : List.Forall₂ (Grows allowed) items grown) :
      Grows allowed (array items) (array grown)
  | object {members grown : Members}
      (h : GrowsMembers (Grows allowed) allowed (members.map Prod.fst) members grown) :
      Grows allowed (object members) (object grown)

/-- Some members of the first document, at any depth, are missing in the second. -/
def Prunes (v w : Value) : Prop :=
  Grows (fun _ _ => True) w v

/-- The second document has further members, at any depth, under keys that are neither in their
object nor among those given. -/
def Extends (taken : List String) : Value → Value → Prop :=
  Grows fun own key => key ∉ own ∧ key ∉ taken

variable {changed : Value → Value → Prop} {allowed : List String → String → Prop}
  {own : List String} {members grown : Members}

/-- **Every member of the smaller object is one of the larger**, grown. -/
theorem GrowsMembers.exists_mem (h : GrowsMembers changed allowed own members grown)
    {m : String × Value} (hm : m ∈ members) : ∃ w, (m.1, w) ∈ grown ∧ changed m.2 w := by
  induction h with
  | nil => simp at hm
  | keep key hv h ih =>
    rcases List.mem_cons.mp hm with rfl | hm
    · exact ⟨_, List.mem_cons_self, hv⟩
    · obtain ⟨w, hw, hchanged⟩ := ih hm
      exact ⟨w, List.mem_cons_of_mem _ hw, hchanged⟩
  | insert hkey v h ih =>
    obtain ⟨w, hw, hchanged⟩ := ih hm
    exact ⟨w, List.mem_cons_of_mem _ hw, hchanged⟩

/-- **A key that may not be inserted** finds the same member, grown, or none in both. -/
theorem GrowsMembers.get? (h : GrowsMembers changed allowed own members grown) {key : String}
    (hkey : ¬ allowed own key) :
    Option.Rel changed (Value.get? members key) (Value.get? grown key) := by
  induction h with
  | nil => exact .none
  | keep k hv h ih =>
    simp only [Value.get?, Entries.find?_cons]
    by_cases hk : k = key
    · rw [if_pos hk, if_pos hk]
      exact .some hv
    · rw [if_neg hk, if_neg hk]
      exact ih hkey
  | @insert own k hk v members grown h ih =>
    -- the key that was inserted is allowed, so it is not the one looked for
    have hne : k ≠ key := fun heq => hkey (heq ▸ hk)
    simp only [Value.get?, Entries.find?_cons, if_neg hne]
    exact ih hkey

/-- A document grows out of itself. -/
theorem Grows.refl (v : Value) : Grows allowed v v := by
  induction v using inductionOn with
  | null => exact .null
  | bool b => exact .bool b
  | number n => exact .number n
  | string s => exact .string s
  | array items ih => exact .array (List.forall₂_same.mpr ih)
  | object members ih =>
    refine .object ?_
    generalize members.map Prod.fst = own
    induction members with
    | nil => exact .nil own
    | cons m members ihm =>
      obtain ⟨hm, hrest⟩ := List.forall_mem_cons.mp ih
      exact .keep m.1 hm (ihm hrest)

end SubsetMatch.Value
