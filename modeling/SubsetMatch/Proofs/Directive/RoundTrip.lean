import SubsetMatch.Proofs.Directive.Parse

/-!
# Written directives read back

Writing a directive quotes an argument exactly when the bare text would not be one segment that
reads as the argument: when it is empty, has blanks at its ends, opens with a quote, or holds a
double quote, a comma or a bracket. Every written argument is then a segment of the grammar
(`segment_renderArgument`), whatever characters it is made of, and the arguments together are the
segmentation of a body.

Results:
* `writes_render`: a directive with a name is written by its own text.
* `render_reads_back`: reading undoes writing; so no two directives are written alike, and what was
  read and written again reads as before.
-/

namespace SubsetMatch.Directive

open Text

/-! ## Quoted arguments -/

theorem literal_escapeChar (c : Char) : Literal '"' (escapeChar c) [c] := by
  unfold escapeChar
  split
  · rename_i h
    rw [beq_iff_eq.mp h]
    exact Literal.nil.escape
  · rename_i hs
    split
    · rename_i h
      rw [beq_iff_eq.mp h]
      exact Literal.nil.escape
    · rename_i hq
      exact Literal.nil.char (by simpa using hq) (by simpa using hs)

theorem literal_escape (arg : List Char) : Literal '"' (arg.flatMap escapeChar) arg := by
  induction arg with
  | nil => exact .nil
  | cons c arg ih => exact (literal_escapeChar c).append ih

/-! ## Bare arguments -/

theorem length_trim_le (cs : List Char) : (trim cs).length ≤ cs.length := by
  have hfront : (cs.dropWhile isBlank).length ≤ cs.length :=
    (List.dropWhile_sublist isBlank).length_le
  have hback : ((cs.dropWhile isBlank).reverse.dropWhile isBlank).length ≤
      (cs.dropWhile isBlank).reverse.length := (List.dropWhile_sublist isBlank).length_le
  rw [List.length_reverse] at hback
  rw [trim, trimEnd, List.length_reverse]
  exact Nat.le_trans hback hfront

/-- What is its own trimming starts with no blank. -/
theorem isBlank_head_of_trim {c : Char} {cs : List Char} (h : trim (c :: cs) = c :: cs) :
    isBlank c = false := by
  cases hc : isBlank c with
  | false => rfl
  | true =>
    have hle := length_trim_le cs
    rw [← trim_blank_cons hc, h, List.length_cons] at hle
    omega

/-- What an argument that is written bare is like. -/
theorem bare_facts {arg : List Char} (h : needsQuoting arg = false) :
    arg ≠ [] ∧ trim arg = arg ∧ arg.head? ≠ some '\'' ∧ '"' ∉ arg ∧
      ∀ c ∈ arg, isStructural c = false := by
  simp only [needsQuoting, Bool.or_eq_false_iff] at h
  obtain ⟨⟨⟨⟨hne, htrim⟩, hhead⟩, hquote⟩, hstruct⟩ := h
  refine ⟨by simpa using hne, by simpa using htrim, by simpa using hhead, by simpa using hquote,
    fun c hc => ?_⟩
  simpa using List.any_eq_false.mp hstruct c hc

theorem unquoted_of_bare {arg : List Char} (h : needsQuoting arg = false) : Unquoted arg := by
  obtain ⟨-, htrim, hhead, hquote, -⟩ := bare_facts h
  cases arg with
  | nil => exact unquoted_of_blank rfl
  | cons c cs =>
    intro d hd
    rw [List.find?_cons, isBlank_head_of_trim htrim] at hd
    simp only [Bool.not_false, Option.some.injEq] at hd
    subst hd
    rintro (rfl | rfl)
    · exact hquote List.mem_cons_self
    · exact hhead rfl

theorem isStructural_of_isBracket {c : Char} (h : IsBracket c) : isStructural c = true := by
  obtain ⟨p, hp, hc⟩ := h
  simp only [brackets, List.mem_cons, List.not_mem_nil, or_false] at hp
  rcases hp with rfl | rfl | rfl <;> rcases hc with rfl | rfl <;> decide

theorem nested_of_bare {arg : List Char} (h : needsQuoting arg = false) : Nested false arg := by
  obtain ⟨-, -, -, -, hstruct⟩ := bare_facts h
  refine nested_of_no_bracket (fun c hc hb => ?_) fun c hc heq => ?_
  · have hs := isStructural_of_isBracket hb
    rw [hstruct c hc] at hs
    exact absurd hs (by simp)
  · rw [heq] at hc
    exact absurd (hstruct _ hc) (by decide)

/-! ## Arguments -/

/-- **Every written argument is a segment that reads as the argument.** -/
theorem segment_renderArgument (arg : List Char) : Segment (renderArgument arg) arg := by
  unfold renderArgument
  split
  · have hseg : Segment ([] ++ '"' :: (arg.flatMap escapeChar ++ '"' :: [])) arg :=
      .quoted rfl (.inl rfl) (literal_escape arg) rfl
    exact hseg
  · rename_i h
    have hbare : needsQuoting arg = false := by simpa using h
    have hseg := Segment.bare (nested_of_bare hbare) (unquoted_of_bare hbare)
    rwa [(bare_facts hbare).2.1] at hseg

theorem not_allBlank_renderArgument (arg : List Char) : ¬ allBlank (renderArgument arg) := by
  unfold renderArgument
  split
  · have hquote : ¬ allBlank ([] ++ '"' :: (arg.flatMap escapeChar ++ ['"'])) :=
      not_allBlank_of_quote (.inl rfl)
    exact hquote
  · rename_i h
    obtain ⟨hne, htrim, -⟩ := bare_facts (by simpa using h)
    rw [← trim_eq_nil_iff, htrim]
    exact hne

theorem renderArguments_cons (arg : String) (args : List String) :
    ∃ rest, renderArguments (arg :: args) = renderArgument arg.toList ++ rest := by
  cases args with
  | nil => exact ⟨[], (List.append_nil _).symm⟩
  | cons a args => exact ⟨_, rfl⟩

theorem segmentation_renderArguments {args : List String} (h : args ≠ []) :
    ∃ pieces, Segmentation (renderArguments args) pieces ∧ argumentsIn pieces = args := by
  induction args with
  | nil => exact absurd rfl h
  | cons arg args ih =>
    cases args with
    | nil =>
      refine ⟨[(renderArgument arg.toList, arg.toList)], .single (segment_renderArgument _), ?_⟩
      simp [argumentsIn]
    | cons arg' args =>
      obtain ⟨pieces, hseg, hargs⟩ := ih (by simp)
      obtain ⟨pieces', hseg', hargs'⟩ := hseg.blank_cons (show isBlank ' ' = true by decide)
      refine ⟨_, .cons (segment_renderArgument arg.toList) hseg', ?_⟩
      rw [argumentsIn, List.map_cons, String.ofList_toList, ← argumentsIn, hargs', hargs]

/-! ## Directives -/

theorem writes_render {d : Directive} (h : IsName d.name.toList) : Writes d.render d := by
  have htext : d.render.toList =
      marker :: (d.name.toList ++ '(' :: (renderArguments d.args ++ [')'])) := by
    rw [render, String.toList_ofList]
  by_cases hargs : d.args = []
  · rw [hargs] at htext
    exact ⟨_, _, h, htext, .single (.bare (.nil false) (unquoted_of_blank rfl)), hargs⟩
  · obtain ⟨pieces, hseg, harg⟩ := segmentation_renderArguments hargs
    refine ⟨_, pieces, h, htext, hseg, ?_⟩
    obtain ⟨arg, args, hcons⟩ := List.exists_cons_of_ne_nil hargs
    obtain ⟨rest, hrest⟩ := renderArguments_cons arg args
    have hblank : ¬ allBlank (renderArguments d.args) := by
      rw [hcons, hrest]
      exact fun hb => not_allBlank_renderArgument _ (allBlank_of_append hb)
    rw [argumentsOf, if_neg hblank, harg]

theorem parse_render {d : Directive} (h : IsName d.name.toList) : parse d.render = .ok (some d) :=
  parse_eq_some_iff.mpr (writes_render h)

/-- **Written directives read back.** Writing a directive and reading it again is the identity,
whatever its arguments are. So writing tells directives apart, and reading, writing and reading
again is reading. -/
theorem render_reads_back :
    (∀ d : Directive, IsName d.name.toList → parse d.render = .ok (some d)) ∧
    (∀ d d' : Directive, IsName d.name.toList → IsName d'.name.toList →
      d.render = d'.render → d = d') ∧
    (∀ (text : String) (d : Directive), parse text = .ok (some d) →
      parse d.render = parse text) := by
  refine ⟨fun d h => parse_render h, fun d d' h h' heq => ?_, fun text d htext => ?_⟩
  · have hd := parse_render h
    rw [heq, parse_render h'] at hd
    simpa using hd.symm
  · obtain ⟨_, _, hname, -⟩ := parse_eq_some_iff.mp htext
    rw [htext, parse_render hname]

theorem render_reads_back_quoted :
    IsName "f".toList ∧
      parse (render ⟨"f", ["plain", " a, b", "q\"\\", "'", ""]⟩) =
        .ok (some ⟨"f", ["plain", " a, b", "q\"\\", "'", ""]⟩) :=
  have h : IsName "f".toList := ⟨'f', [], rfl, by decide, by simp⟩
  ⟨h, render_reads_back.1 ⟨"f", ["plain", " a, b", "q\"\\", "'", ""]⟩ h⟩

end SubsetMatch.Directive
