import SubsetMatch.Unicode.Name

/-!
# Names of classes in any case

A class is looked up under a name from which case, separators and a leading `is` have been taken
away. So the case in which a name is written makes no difference to what is found.

Results:
* `looseName_congr`: names that differ in case only are compared alike.
* `classNamed?_congr`, `classValued?_congr`: they stand for the same class.
-/

namespace SubsetMatch.Unicode

/-- Two names that differ in the case of letters only. -/
def SameUpToCase (a b : List Char) : Prop :=
  a.map Char.toLower = b.map Char.toLower

variable {a b : List Char}

/-- Below 128 this is a matter of looking, and no other character has a lower case here. -/
theorem looseChar?_toLower (c : Char) : looseChar? c.toLower = looseChar? c := by
  by_cases h : c.toNat < 128
  · have hall : ∀ n : Fin 128, looseChar? (Char.ofNat n).toLower = looseChar? (Char.ofNat n) := by
      decide
    simpa using hall ⟨c.toNat, h⟩
  · have hupper : ¬ (c.val ≥ 'A'.val ∧ c.val ≤ 'Z'.val) := by
      rintro ⟨-, hle⟩
      have hle' : c.toNat ≤ 90 := hle
      omega
    have hsame : c.toLower = c := dif_neg hupper
    rw [hsame]

theorem filterMap_looseChar?_congr (h : SameUpToCase a b) :
    a.filterMap looseChar? = b.filterMap looseChar? := by
  have hlower : ∀ cs : List Char,
      cs.filterMap looseChar? = (cs.map Char.toLower).filterMap looseChar? := fun cs => by
    simp only [List.filterMap_map, Function.comp_def, looseChar?_toLower]
  rw [hlower a, hlower b, show a.map Char.toLower = b.map Char.toLower from h]

theorem splitIs_congr (h : SameUpToCase a b) :
    (splitIs a).1 = (splitIs b).1 ∧ SameUpToCase (splitIs a).2 (splitIs b).2 := by
  match a, b, h with
  | [], [], _ => exact ⟨rfl, rfl⟩
  | [_], [_], h => exact ⟨rfl, h⟩
  | [_], _ :: _ :: _, h | _ :: _ :: _, [_], h => simp [SameUpToCase] at h
  | x :: y :: cs, z :: w :: ds, h =>
    obtain ⟨hx, hy, hrest⟩ : x.toLower = z.toLower ∧ y.toLower = w.toLower ∧
        cs.map Char.toLower = ds.map Char.toLower := by
      simpa [SameUpToCase] using h
    rw [splitIs, splitIs, hx, hy]
    split
    · exact ⟨rfl, hrest⟩
    · exact ⟨rfl, h⟩

/-- **Names that differ in case only are compared alike.** -/
theorem looseName_congr (h : SameUpToCase a b) : looseName a = looseName b := by
  obtain ⟨hstripped, hrest⟩ := splitIs_congr h
  simp only [looseName, hstripped, filterMap_looseChar?_congr hrest]

example : looseName "IS_Upper".toList = looseName "upper".toList := by decide

/-- **The case of a name makes no difference** to the class that it stands for. -/
theorem classNamed?_congr (h : SameUpToCase a b) : classNamed? a = classNamed? b := by
  rw [classNamed?, classNamed?, looseName_congr h]

theorem classValued?_congr {p q : List Char} (hproperty : SameUpToCase p q)
    (hvalue : SameUpToCase a b) : classValued? p a = classValued? q b := by
  rw [classValued?, classValued?, looseName_congr hproperty, looseName_congr hvalue]

end SubsetMatch.Unicode
