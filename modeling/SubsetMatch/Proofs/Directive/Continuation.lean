import SubsetMatch.Proofs.Directive.Parse
import SubsetMatch.Proofs.Text.Utf8

/-!
# Text behind a directive

What a text that starts like a directive becomes when more is written behind it. The scanner goes
from left to right, so a fault that it meets at a character stays, whatever follows. A fault that
only the end of the text gives can be mended: the segment that has begun is completed, and the body
closed. The reason of the fault tells which of the two it is. A directive that is complete is spoilt
by any further character.

Results:
* `isIncomplete_of_scan`, `isIncomplete_of_finish`: the scanner stops for some reasons and finds the
  others at the end of the text.
* `Grouped.completed`, `Beginning.completed`: a segment that has begun is the start of a segment.
* `reason_tells_continuation`: errors that can be mended, errors that stay, and directives that no
  other directive goes on from.
-/

namespace SubsetMatch.Directive

open Text Utf8

/-- Whether more text behind the fault may mend it. -/
def Reason.isIncomplete : Reason → Bool
  | .unterminated | .unclosed _ | .missingClose => true
  | .afterQuoted | .mismatched .. | .unbalanced _ | .afterClose => false

/-! ## Faults at a character and faults at the end -/

section Faults

variable {s : Scan} {offset opening : Nat} {body cs : List Char} {f : Fault}

theorem isIncomplete_of_step {c : Char} (h : s.step offset c = .error f) :
    f.reason.isIncomplete = false := by
  unfold Scan.step Scan.stepBare Scan.closeGroup at h
  repeat' split at h
  all_goals cases h
  all_goals rfl

/-- What the scanner stops at, no further text mends. -/
theorem isIncomplete_of_scan (h : scanFrom s offset cs = .error f) :
    f.reason.isIncomplete = false := by
  induction cs generalizing s offset with
  | nil => cases h
  | cons c cs ih =>
    rw [scanFrom] at h
    split at h
    · rename_i hs
      cases h
      exact isIncomplete_of_step hs
    · exact ih h

theorem isIncomplete_of_finish (h : s.finish opening = .error f) :
    f.reason.isIncomplete = true := by
  unfold Scan.finish at h
  repeat' split at h
  all_goals cases h
  all_goals rfl

/-- **A fault comes from a character or from the end of the text**, and its reason says which. -/
theorem scanArguments_eq_error_iff :
    scanArguments opening body = .error f ↔
      scanFrom .start (opening + '('.utf8Size) body = .error f ∧ f.reason.isIncomplete = false ∨
      ∃ s, scanFrom .start (opening + '('.utf8Size) body = .ok s ∧ s.finish opening = .error f ∧
        f.reason.isIncomplete = true := by
  unfold scanArguments
  cases hs : scanFrom .start (opening + '('.utf8Size) body with
  | error g =>
    simp only [Except.error.injEq, reduceCtorEq, false_and, exists_false, or_false]
    exact ⟨fun h => ⟨h, h ▸ isIncomplete_of_scan hs⟩, And.left⟩
  | ok s =>
    simp only [reduceCtorEq, false_and, false_or, Except.ok.injEq, exists_eq_left']
    exact ⟨fun h => ⟨h, isIncomplete_of_finish h⟩, And.left⟩

/-- A fault at a character stays, whatever follows. -/
theorem scanArguments_append_of_error (h : scanArguments opening body = .error f)
    (hf : f.reason.isIncomplete = false) (rest : List Char) :
    scanArguments opening (body ++ rest) = .error f := by
  rcases scanArguments_eq_error_iff.mp h with ⟨hs, -⟩ | ⟨s, -, -, ht⟩
  · rw [scanArguments, scanFrom_append, hs]
  · rw [hf] at ht
    cases ht

/-- Behind the closing parenthesis of a directive, any character is a fault. -/
theorem scanArguments_append_of_ok {args : List String} (h : scanArguments opening body = .ok args)
    {c : Char} {rest : List Char} :
    scanArguments opening (body ++ c :: rest) =
      .error ⟨opening + '('.utf8Size + width body, .afterClose⟩ := by
  unfold scanArguments at h ⊢
  split at h
  · cases h
  · rename_i s hs
    obtain ⟨hmode, -⟩ := finish_eq_ok h
    rw [scanFrom_append_of_scan hs, scanFrom, Scan.step, hmode]

end Faults

/-! ## Segments that have begun -/

section Completed

variable {start : Nat} {groups : List Group} {seg current : List Char} {mode : Mode}

/-- Bare text with open groups is completed by their brackets, the innermost first. -/
theorem Grouped.completed (hg : Grouped start groups seg) (hq : Unquoted seg) :
    ∃ rest, Nested false (seg ++ rest) ∧ Unquoted (seg ++ rest) := by
  induction groups generalizing seg with
  | nil =>
    cases hg with
    | base hn => exact ⟨[], by simpa using hn, by simpa using hq⟩
  | cons g groups ih =>
    cases hg with
    | @group _ cs inner o c hg hi hp =>
      have hclosed : Unquoted (cs ++ o :: inner ++ [c]) := hq.snoc fun _ => (opener_facts hp).2.2.2
      rw [List.append_assoc, List.cons_append] at hclosed
      obtain ⟨rest, hn, hu⟩ := ih (hg.close hi hp) hclosed
      exact ⟨c :: rest, by simpa using hn, by simpa using hu⟩

/-- **A segment that has begun can be completed**, whatever the scanner is about to read: a literal
is closed by its quote, and a dangling backslash takes another one with it. -/
theorem Beginning.completed (h : Beginning start seg mode current groups) :
    ∃ rest arg, Segment (seg ++ rest) arg := by
  cases h with
  | bare hg hq =>
    obtain ⟨rest, hn, hu⟩ := hg.completed hq
    exact ⟨rest, _, .bare hn hu⟩
  | @quoted before body _ quote hb hq hl =>
    have hseg : Segment (before ++ quote :: (body ++ quote :: [])) current :=
      .quoted hb hq hl rfl
    exact ⟨[quote], current, by simpa using hseg⟩
  | @escape before body _ quote hb hq hl =>
    have hseg : Segment (before ++ quote :: (body ++ ['\\', '\\'] ++ quote :: []))
        (current ++ unescape quote '\\') := .quoted hb hq hl.escape rfl
    exact ⟨['\\', quote], _, by simpa using hseg⟩
  | @closedQuote before body _ after quote hb hq hl ha =>
    have hseg : Segment (before ++ quote :: (body ++ quote :: after)) current :=
      .quoted hb hq hl ha
    exact ⟨[], current, by simpa using hseg⟩

/-- What has been read of a body is the start of a body, unless that has been closed. -/
theorem Reads.completed {cs : List Char} {s : Scan} (h : Reads start cs s)
    (hm : s.mode ≠ .finished) :
    ∃ rest inner pieces, cs ++ rest = inner ++ [')'] ∧ Segmentation inner pieces := by
  cases h with
  | finished _ hmode _ => exact absurd hmode hm
  | within hp hb _ _ =>
    obtain ⟨rest, arg, hseg⟩ := hb.completed
    exact ⟨rest ++ [')'], _, _, by simp, Segmentation.snoc hp hseg⟩

end Completed

/-! ## Texts -/

section Texts

variable {text : String} {name body : List Char}

/-- A text that starts like a directive is read by its arguments. -/
theorem parse_of_shape (hname : IsName name)
    (htext : text.toList = marker :: (name ++ '(' :: body)) :
    parse text =
      match scanArguments (opening name) body with
      | .error f => .error ⟨text, f.offset, f.reason⟩
      | .ok args => .ok (some ⟨String.ofList name, args⟩) := by
  have hshape : shape? text.toList = some (name, body) := shape?_eq_some_iff.mpr ⟨hname, htext⟩
  cases hscan : scanArguments (opening name) body with
  | error f => simp only [parse, hshape, hscan]
  | ok args => simp only [parse, hshape, hscan]

theorem parse_eq_error {e : SyntaxError} (h : parse text = .error e) :
    ∃ name body f, IsName name ∧ text.toList = marker :: (name ++ '(' :: body) ∧
      scanArguments (opening name) body = .error f ∧ e = ⟨text, f.offset, f.reason⟩ := by
  unfold parse at h
  split at h
  · cases h
  · rename_i name body hshape
    obtain ⟨hname, htext⟩ := shape?_eq_some_iff.mp hshape
    split at h
    · rename_i f hf
      cases h
      exact ⟨name, body, f, hname, htext, hf, rfl⟩
    · cases h

theorem toList_append_of_shape (htext : text.toList = marker :: (name ++ '(' :: body))
    (rest : String) :
    (text ++ rest).toList = marker :: (name ++ '(' :: (body ++ rest.toList)) := by
  rw [String.toList_append, htext, List.cons_append, List.append_assoc, List.cons_append]

/-- A text with an incomplete fault is the start of a directive. -/
theorem exists_parse_append {e : SyntaxError} (h : parse text = .error e)
    (he : e.reason.isIncomplete = true) : ∃ rest d, parse (text ++ rest) = .ok (some d) := by
  obtain ⟨name, body, f, hname, htext, hf, rfl⟩ := parse_eq_error h
  rcases scanArguments_eq_error_iff.mp hf with ⟨-, hstays⟩ | ⟨s, hs, hfinish, -⟩
  · rw [he] at hstays
    cases hstays
  · have hmode : s.mode ≠ .finished := by
      intro hm
      rw [Scan.finish, hm] at hfinish
      cases hfinish
    obtain ⟨rest, inner, pieces, hrest, hseg⟩ := (reads_of_scan hs).completed hmode
    have hargs : scanArguments (opening name) (body ++ rest) = .ok (argumentsOf inner pieces) :=
      scanArguments_eq_ok_iff.mpr ⟨inner, pieces, hrest, hseg, rfl⟩
    refine ⟨String.ofList rest, ⟨String.ofList name, argumentsOf inner pieces⟩, ?_⟩
    rw [parse_of_shape hname (toList_append_of_shape htext _), String.toList_ofList, hargs]

theorem parse_append_of_error {e : SyntaxError} (h : parse text = .error e)
    (he : e.reason.isIncomplete = false) (rest : String) :
    parse (text ++ rest) = .error ⟨text ++ rest, e.offset, e.reason⟩ := by
  obtain ⟨name, body, f, hname, htext, hf, rfl⟩ := parse_eq_error h
  rw [parse_of_shape hname (toList_append_of_shape htext _), scanArguments_append_of_error hf he]

/-- A directive is spoilt by any text behind it. -/
theorem parse_append_of_ok {d : Directive} (h : parse text = .ok (some d)) {rest : String}
    (hrest : rest ≠ "") :
    parse (text ++ rest) = .error ⟨text ++ rest, text.utf8ByteSize, .afterClose⟩ := by
  obtain ⟨inner, pieces, hname, htext, hseg, hargs⟩ := parse_eq_some_iff.mp h
  have hscan : scanArguments (opening d.name.toList) (inner ++ [')']) = .ok d.args :=
    scanArguments_eq_ok_iff.mpr ⟨inner, pieces, rfl, hseg, hargs⟩
  obtain ⟨c, cs, hcs⟩ := List.exists_cons_of_ne_nil (l := rest.toList) (by simpa using hrest)
  have hsize : text.utf8ByteSize =
      opening d.name.toList + '('.utf8Size + width (inner ++ [')']) := by
    rw [← width_toList, htext, width_cons, width_append, width_cons, opening]
    omega
  rw [parse_of_shape hname (toList_append_of_shape htext _), hcs, scanArguments_append_of_ok hscan,
    hsize]

end Texts

/-- **The reason of a fault tells whether the text can go on to a directive.** An unterminated
literal, an unclosed group and a missing parenthesis are mended by some text behind them. Any other
fault stays where it is and what it is, whatever follows. Behind a directive every text is a fault,
so no directive is the start of another one. -/
theorem reason_tells_continuation (text : String) :
    (∀ e, parse text = .error e → e.reason.isIncomplete = true →
      ∃ rest d, parse (text ++ rest) = .ok (some d)) ∧
    (∀ e, parse text = .error e → e.reason.isIncomplete = false → ∀ rest,
      parse (text ++ rest) = .error ⟨text ++ rest, e.offset, e.reason⟩) ∧
    (∀ d, parse text = .ok (some d) → ∀ rest, rest ≠ "" →
      parse (text ++ rest) = .error ⟨text ++ rest, text.utf8ByteSize, .afterClose⟩) ∧
    ∀ d rest d', parse text = .ok (some d) → parse (text ++ rest) = .ok (some d') → rest = "" := by
  refine ⟨fun e h he => exists_parse_append h he,
    fun e h he rest => parse_append_of_error h he rest,
    fun d h rest hrest => parse_append_of_ok h hrest, fun d rest d' h h' => ?_⟩
  refine Decidable.byContradiction fun hrest => ?_
  rw [parse_append_of_ok h hrest] at h'
  cases h'

/-- A group of two open brackets is closed, a letter behind a literal is not mended, and a directive
with a character of two bytes ends at its sixth. -/
theorem reason_tells_continuation_samples :
    parse "@f([(a" = .error ⟨"@f([(a", 4, .unclosed ')'⟩ ∧
      (∃ rest d, parse ("@f([(a" ++ rest) = .ok (some d)) ∧
      parse "@f('a'b" = .error ⟨"@f('a'b", 6, .afterQuoted⟩ ∧
      parse ("@f('a'b" ++ "')") = .error ⟨"@f('a'b" ++ "')", 6, .afterQuoted⟩ ∧
      parse "@f(é)" = .ok (some ⟨"f", ["é"]⟩) ∧
      parse ("@f(é)" ++ ")") = .error ⟨"@f(é)" ++ ")", 6, .afterClose⟩ := by
  have hopen : parse "@f([(a" = .error ⟨"@f([(a", 4, .unclosed ')'⟩ := by rfl
  have hbehind : parse "@f('a'b" = .error ⟨"@f('a'b", 6, .afterQuoted⟩ := by rfl
  have hwhole : parse "@f(é)" = .ok (some ⟨"f", ["é"]⟩) := by rfl
  exact ⟨hopen, (reason_tells_continuation _).1 _ hopen rfl,
    hbehind, (reason_tells_continuation _).2.1 _ hbehind rfl _,
    hwhole, (reason_tells_continuation _).2.2.1 _ hwhole ")" (by decide)⟩

end SubsetMatch.Directive
