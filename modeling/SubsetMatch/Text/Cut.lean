/-!
# Cutting a text at a mark

Results:
* `cutLast_eq_some_iff`: a cut at the last mark is the one split whose second part is free of it.
* `cutLast_eq_none_iff`: only a text without the mark cannot be cut.
-/

namespace SubsetMatch.Text

/-- What stands before and behind the last occurrence of a mark. -/
def cutLast (mark : Char) : List Char → Option (List Char × List Char)
  | [] => none
  | c :: cs =>
    match cutLast mark cs with
    | some (before, after) => some (c :: before, after)
    | none => if c = mark then some ([], cs) else none

theorem cutLast_eq_none_iff {mark : Char} {cs : List Char} :
    cutLast mark cs = none ↔ mark ∉ cs := by
  induction cs with
  | nil => simp [cutLast]
  | cons c cs ih =>
    rw [cutLast]
    cases h : cutLast mark cs with
    | some p =>
      have : ¬ mark ∉ cs := fun hn => by rw [ih.2 hn] at h; simp at h
      simp only [reduceCtorEq, List.mem_cons, not_or, false_iff, not_and]
      exact fun _ => this
    | none =>
      have := ih.1 h
      by_cases hc : c = mark
      · simp [hc]
      · simp [hc, this, Ne.symm hc]

theorem cutLast_eq_some_iff {mark : Char} {cs before after : List Char} :
    cutLast mark cs = some (before, after) ↔ cs = before ++ mark :: after ∧ mark ∉ after := by
  induction cs generalizing before with
  | nil => simp [cutLast]
  | cons c cs ih =>
    rw [cutLast]
    cases h : cutLast mark cs with
    | some p =>
      obtain ⟨b, a⟩ := p
      simp only [Option.some.injEq, Prod.mk.injEq]
      constructor
      · rintro ⟨rfl, rfl⟩
        obtain ⟨rfl, hn⟩ := ih.1 h
        exact ⟨rfl, hn⟩
      · rintro ⟨he, hn⟩
        cases before with
        | nil =>
          simp only [List.nil_append, List.cons.injEq] at he
          obtain ⟨_, rfl⟩ := he
          rw [cutLast_eq_none_iff.2 hn] at h
          simp at h
        | cons d before =>
          simp only [List.cons_append, List.cons.injEq] at he
          obtain ⟨rfl, rfl⟩ := he
          have := ih.2 ⟨rfl, hn⟩
          rw [h] at this
          simp only [Option.some.injEq, Prod.mk.injEq] at this
          exact ⟨by rw [this.1], this.2⟩
    | none =>
      have hn := cutLast_eq_none_iff.1 h
      constructor
      · intro hc
        by_cases heq : c = mark
        · simp only [heq, if_true, Option.some.injEq, Prod.mk.injEq] at hc
          obtain ⟨rfl, rfl⟩ := hc
          exact ⟨by rw [heq]; rfl, hn⟩
        · simp [heq] at hc
      · rintro ⟨he, _⟩
        cases before with
        | nil =>
          simp only [List.nil_append, List.cons.injEq] at he
          obtain ⟨rfl, rfl⟩ := he
          simp
        | cons d before =>
          simp only [List.cons_append, List.cons.injEq] at he
          obtain ⟨_, rfl⟩ := he
          simp at hn

/-- The part behind the last mark, and the part before it, are shorter than the whole. -/
theorem length_cutLast {mark : Char} {cs before after : List Char}
    (h : cutLast mark cs = some (before, after)) : before.length + after.length < cs.length := by
  obtain ⟨rfl, _⟩ := cutLast_eq_some_iff.1 h
  simp only [List.length_append, List.length_cons]
  omega

end SubsetMatch.Text
