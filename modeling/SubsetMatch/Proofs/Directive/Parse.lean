import SubsetMatch.Proofs.Directive.Scanner

/-!
# Reading directives is exact

A text is no directive, a directive of the grammar, or an error, and which of the three is said by
the grammar alone: the text must start with the marker, a name and an opening parenthesis, and what
follows must be a body of segments with the closing parenthesis as the last character.

Results:
* `shape?_eq_some_iff`: the name and the rest behind it are found exactly as the grammar has them.
* `parse_eq_some_iff`: reading answers a directive iff the text writes it.
* `parse_accepts_grammar`: the three answers, each with its texts, and the one segmentation behind
  the arguments.
-/

namespace SubsetMatch.Directive

open Text

theorem isNameRest_of_isNameStart {c : Char} (h : isNameStart c = true) : isNameRest c = true := by
  simp only [isNameStart, isNameRest, Bool.or_eq_true, Char.isAlphanum] at h ⊢
  exact h.imp .inl id

theorem IsName.all_isNameRest {name : List Char} (h : IsName name) :
    ∀ c ∈ name, isNameRest c = true := by
  obtain ⟨c, rest, rfl, hc, hrest⟩ := h
  intro d hd
  rcases List.mem_cons.mp hd with rfl | hd
  · exact isNameRest_of_isNameStart hc
  · exact hrest d hd

/-- A name ends at the first character that continues none. -/
theorem takeWhile_name {name : List Char} (h : ∀ c ∈ name, isNameRest c = true)
    (rest : List Char) :
    (name ++ '(' :: rest).takeWhile isNameRest = name ∧
      (name ++ '(' :: rest).dropWhile isNameRest = '(' :: rest := by
  have hparen : isNameRest '(' = false := by decide
  rw [List.takeWhile_append_of_pos h, List.dropWhile_append_of_pos h, List.takeWhile_cons,
    List.dropWhile_cons, hparen]
  simp

theorem shape?_eq_some_iff {cs name rest : List Char} :
    shape? cs = some (name, rest) ↔ IsName name ∧ cs = marker :: (name ++ '(' :: rest) := by
  constructor
  · intro h
    unfold shape? at h
    split at h
    · rename_i m tail
      split at h
      · rename_i hm
        simp only [Bool.and_eq_true, beq_iff_eq] at hm
        obtain ⟨rfl, hstart⟩ := hm
        split at h
        · rename_i body hbody
          simp only [Option.some.injEq, Prod.mk.injEq] at h
          obtain ⟨rfl, rfl⟩ := h
          have htail : tail = tail.takeWhile isNameRest ++ '(' :: body := by
            rw [← hbody, List.takeWhile_append_dropWhile]
          refine ⟨?_, congrArg (marker :: ·) htail⟩
          cases tail with
          | nil => simp at hstart
          | cons c tail =>
            have hc : isNameStart c = true := by simpa using hstart
            rw [List.takeWhile_cons, if_pos (isNameRest_of_isNameStart hc)]
            exact ⟨c, _, rfl, hc, fun d hd => List.all_eq_true.mp List.all_takeWhile d hd⟩
        · simp at h
      · simp at h
    · simp at h
  · rintro ⟨hname, rfl⟩
    obtain ⟨htake, hdrop⟩ := takeWhile_name hname.all_isNameRest rest
    obtain ⟨c, tail, rfl, hc, -⟩ := hname
    unfold shape?
    simp only [List.cons_append] at htake hdrop ⊢
    rw [if_pos (by simp [hc]), hdrop]
    simp [htake]

theorem isShaped_iff {text : String} : isShaped text = true ↔ Starts text := by
  unfold isShaped Starts
  rw [Option.isSome_iff_exists]
  constructor
  · rintro ⟨⟨name, rest⟩, h⟩
    exact ⟨name, rest, shape?_eq_some_iff.mp h⟩
  · rintro ⟨name, rest, h⟩
    exact ⟨(name, rest), shape?_eq_some_iff.mpr h⟩

/-- **Reading answers a directive iff the text writes it.** -/
theorem parse_eq_some_iff {text : String} {d : Directive} :
    parse text = .ok (some d) ↔ Writes text d := by
  unfold parse Writes
  constructor
  · intro h
    split at h
    · simp at h
    · rename_i name rest hshape
      split at h
      · simp at h
      · rename_i args hargs
        cases h
        obtain ⟨hname, htext⟩ := shape?_eq_some_iff.mp hshape
        obtain ⟨body, pieces, rfl, hseg, rfl⟩ := scanArguments_eq_ok_iff.mp hargs
        rw [String.toList_ofList]
        exact ⟨body, pieces, hname, htext, hseg, rfl⟩
  · rintro ⟨body, pieces, hname, htext, hseg, hargs⟩
    have hshape : shape? text.toList = some (d.name.toList, body ++ [')']) :=
      shape?_eq_some_iff.mpr ⟨hname, htext⟩
    have hscan : scanArguments (opening d.name.toList) (body ++ [')']) = .ok d.args :=
      scanArguments_eq_ok_iff.mpr ⟨body, pieces, rfl, hseg, hargs⟩
    rw [hshape]
    simp only
    rw [hscan]
    simp only
    rw [String.ofList_toList]

/-- **Reading accepts exactly the grammar.** A text that does not start like a directive is none, a
text of the grammar is its directive, and every other text is an error. The segments of a body are
determined, so the arguments are one for each segment, in order. -/
theorem parse_accepts_grammar (text : String) :
    (parse text = .ok none ↔ ¬ Starts text) ∧
    (∀ d, parse text = .ok (some d) ↔ Writes text d) ∧
    ((∃ e, parse text = .error e) ↔ Starts text ∧ ¬ ∃ d, Writes text d) ∧
    (∀ body pieces pieces', Segmentation body pieces → Segmentation body pieces' →
      pieces = pieces') := by
  have hnone : parse text = .ok none ↔ ¬ Starts text := by
    rw [parse_eq_none_iff, ← isShaped_iff, Bool.not_eq_true]
  refine ⟨hnone, fun d => parse_eq_some_iff, ?_, fun _ _ _ h h' => h.unique h'⟩
  constructor
  · rintro ⟨e, he⟩
    refine ⟨?_, fun ⟨d, hd⟩ => ?_⟩
    · refine Classical.byContradiction fun hs => ?_
      rw [hnone.mpr hs] at he
      exact absurd he (by simp)
    · rw [parse_eq_some_iff.mpr hd] at he
      exact absurd he (by simp)
  · rintro ⟨hs, hw⟩
    cases hp : parse text with
    | error e => exact ⟨e, rfl⟩
    | ok r =>
      cases r with
      | none => exact absurd hs (hnone.mp hp)
      | some d => exact absurd ⟨d, parse_eq_some_iff.mp hp⟩ hw

example : parse "@f( 'a,b' , [c, d])" = .ok (some ⟨"f", ["a,b", "[c, d]"]⟩) := by rfl

end SubsetMatch.Directive
