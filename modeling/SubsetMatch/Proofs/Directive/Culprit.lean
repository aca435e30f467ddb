import SubsetMatch.Proofs.Directive.Continuation

/-!
# Culprits of malformed directives

Where a text that starts like a directive goes wrong, said in the terms of the grammar. A text is
cut at its culprit, and the culprit is told from what stands in front of it: some segments, each
with its comma, and one more that has begun. `Culprit` has one form for each reason.

The scanner counts bytes, keeps the places of open quotes and brackets aside and uses them when the
text is over. `Beginning` says that these places are the right ones; so every fault of the scanner
stands at a culprit of its reason (`culprit_of_step`, `culprit_of_finish`). In the other direction
the scanner stops at every culprit (`answer_of_segmentCulprit`), so a text has one at most.

Results:
* `scan_grouped`: the scanner keeps the open groups of a bare text, each at its own byte.
* `parse_eq_error_iff`: reading fails iff there is a culprit, at its place and for its reason.
* `error_points_at_culprit`: an error points at the one culprit of its text, inside the text and
  between two characters, and shows what stands there.
-/

namespace SubsetMatch.Directive

open Text Utf8

/-! ## Culprits -/

/-- A segment that starts at byte `start`, cut at its culprit: what stands in front of it, and the
culprit with all that follows in the text. -/
inductive SegmentCulprit (start : Nat) : List Char → List Char → Reason → Prop
  /-- the quote of a literal that nothing closes; a backslash at the end takes no character -/
  | unterminated {blanks body text rest : List Char} {quote : Char} (hb : allBlank blanks)
      (hq : IsQuote quote) (hl : Literal quote body text)
      (hrest : rest = body ∨ rest = body ++ ['\\']) :
      SegmentCulprit start blanks (quote :: rest) .unterminated
  /-- the bracket of the innermost open group: behind it, up to the end, the brackets nest -/
  | unclosed {groups : List Group} {cs inner : List Char} {o c : Char}
      (hg : Grouped start groups cs) (hp : (o, c) ∈ brackets) (hi : Nested true inner)
      (hq : Unquoted (cs ++ o :: inner)) : SegmentCulprit start cs (o :: inner) (.unclosed c)
  /-- a closing bracket other than that of the innermost open group -/
  | mismatched {groups : List Group} {cs inner rest : List Char} {o expected o' found : Char}
      (hg : Grouped start groups cs) (hp : (o, expected) ∈ brackets) (hi : Nested true inner)
      (hq : Unquoted (cs ++ o :: inner)) (hf : (o', found) ∈ brackets) (hne : found ≠ expected) :
      SegmentCulprit start (cs ++ o :: inner) (found :: rest) (.mismatched found expected)
  /-- a closing bracket where no group is open -/
  | unbalanced {cs rest : List Char} {o found : Char} (hn : Nested false cs) (hq : Unquoted cs)
      (hf : (o, found) ∈ brackets) (hne : found ≠ ')') :
      SegmentCulprit start cs (found :: rest) (.unbalanced found)
  /-- the first character behind a literal that is no blank and does not separate -/
  | afterQuoted {before body text after rest : List Char} {quote c : Char} (hb : allBlank before)
      (hq : IsQuote quote) (hl : Literal quote body text) (ha : allBlank after)
      (hc : isBlank c = false) (hcomma : c ≠ ',') (hclose : c ≠ ')') :
      SegmentCulprit start (before ++ quote :: (body ++ quote :: after)) (c :: rest) .afterQuoted

/-- What stands in front of the body of a directive. -/
def lead (name : List Char) : List Char :=
  marker :: (name ++ ['('])

/-- A text that starts like a directive, cut at its culprit. -/
inductive Culprit (name : List Char) : List Char → List Char → Reason → Prop
  /-- a culprit in the segment behind some others -/
  | within {pieces : List (List Char × List Char)} {seg rest : List Char} {reason : Reason}
      (hp : ∀ p ∈ pieces, Segment p.1 p.2)
      (h : SegmentCulprit (width (lead name ++ front pieces)) seg rest reason) :
      Culprit name (lead name ++ front pieces ++ seg) rest reason
  /-- the opening parenthesis of a body that nothing closes -/
  | missingClose {body : List Char} {pieces : List (List Char × List Char)}
      (h : Segmentation body pieces) : Culprit name (marker :: name) ('(' :: body) .missingClose
  /-- the character behind the closing parenthesis -/
  | afterClose {body rest : List Char} {pieces : List (List Char × List Char)}
      (h : Segmentation body pieces) (hrest : rest ≠ []) :
      Culprit name (lead name ++ body ++ [')']) rest .afterClose

variable {name before rest seg body : List Char} {reason : Reason} {start place : Nat}
  {args : List String} {separated : Bool} {c : Char} {s : Scan} {f : Fault} {offset : Nat}

theorem SegmentCulprit.rest_ne_nil (h : SegmentCulprit start seg rest reason) : rest ≠ [] := by
  cases h <;> exact List.cons_ne_nil _ _

theorem Culprit.rest_ne_nil (h : Culprit name before rest reason) : rest ≠ [] := by
  cases h with
  | within _ h => exact h.rest_ne_nil
  | missingClose => exact List.cons_ne_nil _ _
  | afterClose _ hrest => exact hrest

/-- A text with a culprit starts like a directive. -/
theorem Culprit.exists_body (h : Culprit name before rest reason) :
    ∃ body, before ++ rest = marker :: (name ++ '(' :: body) := by
  cases h with
  | @within pieces seg _ _ _ _ => exact ⟨front pieces ++ (seg ++ rest), by simp [lead]⟩
  | @missingClose body _ _ => exact ⟨body, by simp⟩
  | @afterClose body _ _ _ _ => exact ⟨body ++ (')' :: rest), by simp [lead]⟩

theorem width_lead (name : List Char) : width (lead name) = opening name + '('.utf8Size := by
  rw [lead, width_cons, width_append, width_cons, width_nil, opening, Nat.add_assoc,
    Nat.add_zero]

/-! ## From faults to culprits -/

/-- Of the characters of bare text, only closing brackets are faults. -/
theorem stepBare_eq_error (h : s.stepBare offset c = .error f) :
    isCloser c = true ∧ (c = ')' → s.groups ≠ []) ∧ s.closeGroup offset c = .error f := by
  unfold Scan.stepBare at h
  split at h
  · cases h
  · split at h
    · cases h
    · split at h
      · cases h
      · rename_i hparen
        split at h
        · rename_i hc
          exact ⟨hc, by simpa using hparen, h⟩
        · split at h <;> cases h

/-- **A character that the scanner stops at is a culprit.** -/
theorem culprit_of_step (hb : Beginning start seg s.mode s.current s.groups)
    (h : s.step (start + width seg) c = .error f) (rest : List Char) :
    f.offset = start + width seg ∧ SegmentCulprit start seg (c :: rest) f.reason := by
  obtain ⟨mode, args, current, groups, separated⟩ := s
  simp only at hb
  unfold Scan.step at h
  cases hb with
  | bare hg hq =>
    obtain ⟨hc, hparen, hclose⟩ := stepBare_eq_error h
    obtain ⟨o', hf⟩ := isCloser_iff.mp hc
    unfold Scan.closeGroup at hclose
    cases hg with
    | base hn =>
      cases hclose
      exact ⟨rfl, .unbalanced hn hq hf fun he => hparen he rfl⟩
    | group hg hi hp =>
      simp only at hclose
      split at hclose
      · cases hclose
      · rename_i hne
        cases hclose
        exact ⟨rfl, .mismatched hg hp hi hq hf fun he => hne (by simp [he])⟩
  | quoted =>
    simp only at h
    repeat' split at h
    all_goals cases h
  | escape =>
    simp only at h
    split at h <;> cases h
  | closedQuote hb hq hl ha =>
    simp only at h
    split at h
    · cases h
    · rename_i hcomma
      split at h
      · cases h
      · rename_i hclose
        split at h
        · cases h
        · rename_i hblank
          cases h
          exact ⟨rfl, .afterQuoted hb hq hl ha (by simpa using hblank) (by simpa using hcomma)
            (by simpa using hclose)⟩

/-- **What the end of the text leaves open is a culprit**, or all of the body is segments and only
the closing parenthesis is missing. -/
theorem culprit_of_finish (hb : Beginning start seg s.mode s.current s.groups)
    (h : s.finish place = .error f) :
    (∃ before rest, seg = before ++ rest ∧ f.offset = start + width before ∧
      SegmentCulprit start before rest f.reason) ∨
    f = ⟨place, .missingClose⟩ ∧ ∃ arg, Segment seg arg := by
  obtain ⟨mode, args, current, groups, separated⟩ := s
  simp only at hb
  unfold Scan.finish at h
  cases hb with
  | bare hg hq =>
    cases hg with
    | base hn =>
      cases h
      exact .inr ⟨rfl, _, .bare hn hq⟩
    | group hg hi hp =>
      cases h
      exact .inl ⟨_, _, rfl, rfl, .unclosed hg hp hi hq⟩
  | quoted hb hq hl =>
    cases h
    exact .inl ⟨_, _, rfl, rfl, .unterminated hb hq hl (.inl rfl)⟩
  | escape hb hq hl =>
    cases h
    exact .inl ⟨_, _, rfl, rfl, .unterminated hb hq hl (.inr rfl)⟩
  | closedQuote hb hq hl ha =>
    cases h
    exact .inr ⟨rfl, _, .quoted hb hq hl ha⟩

/-- The scanner stops behind a text that it has read, at a character. -/
theorem exists_step_of_scan {cs : List Char} (h : scanFrom s offset cs = .error f) :
    ∃ read c rest t, cs = read ++ c :: rest ∧ scanFrom s offset read = .ok t ∧
      t.step (offset + width read) c = .error f := by
  induction cs generalizing s offset with
  | nil => cases h
  | cons c cs ih =>
    rw [scanFrom] at h
    split at h
    · rename_i hstep
      cases h
      exact ⟨[], c, cs, s, rfl, rfl, hstep⟩
    · rename_i t hstep
      obtain ⟨read, d, rest, u, rfl, hread, hd⟩ := ih h
      refine ⟨c :: read, d, rest, u, rfl, ?_, ?_⟩
      · rw [scanFrom_cons_of_step hstep, hread]
      · rwa [width_cons, ← Nat.add_assoc]

/-- **Every fault of a body stands at a culprit.** -/
theorem culprit_of_scanArguments (h : scanArguments (opening name) body = .error f) :
    ∃ before rest, marker :: (name ++ '(' :: body) = before ++ rest ∧
      Culprit name before rest f.reason ∧ f.offset = width before := by
  have hlead : marker :: (name ++ '(' :: body) = lead name ++ body := by simp [lead]
  rcases scanArguments_eq_error_iff.mp h with ⟨hscan, -⟩ | ⟨s, hscan, hfinish, -⟩
  · obtain ⟨read, c, rest, t, rfl, hread, hstep⟩ := exists_step_of_scan hscan
    rw [← width_lead] at hread hstep
    rw [hlead]
    cases reads_of_scan hread with
    | @within pieces seg _ hp hb _ _ =>
      rw [width_append, ← Nat.add_assoc, ← width_append] at hstep
      rw [← width_append] at hb
      obtain ⟨hoffset, hculprit⟩ := culprit_of_step hb hstep rest
      refine ⟨_, _, ?_, .within hp hculprit, ?_⟩
      · simp
      · rw [hoffset, width_append _ seg]
    | @finished pieces inner _ hseg hm _ =>
      rw [Scan.step, hm] at hstep
      cases hstep
      refine ⟨_, c :: rest, ?_, .afterClose hseg (List.cons_ne_nil _ _), ?_⟩
      · simp
      · rw [← width_append, List.append_assoc]
  · rw [← width_lead] at hscan
    cases reads_of_scan hscan with
    | @within pieces seg _ hp hb _ _ =>
      rw [← width_append] at hb
      rcases culprit_of_finish hb hfinish with ⟨before, rest, rfl, hoffset, hculprit⟩ |
        ⟨rfl, arg, hseg⟩
      · rw [hlead]
        refine ⟨_, rest, ?_, .within hp hculprit, ?_⟩
        · simp
        · rw [hoffset, width_append _ before]
      · exact ⟨marker :: name, _, rfl, .missingClose (.snoc hp hseg), rfl⟩
    | finished _ hm _ =>
      rw [Scan.finish, hm] at hfinish
      cases hfinish

/-! ## From culprits to faults -/

/-- What is answered from a state on. -/
def Scan.answer (s : Scan) (opening offset : Nat) (cs : List Char) : Except Fault (List String) :=
  match scanFrom s offset cs with
  | .error f => .error f
  | .ok t => t.finish opening

theorem answer_append {t : Scan} {cs : List Char} (h : scanFrom s offset cs = .ok t)
    (rest : List Char) :
    s.answer place offset (cs ++ rest) = t.answer place (offset + width cs) rest := by
  rw [Scan.answer, scanFrom_append_of_scan h, Scan.answer]

theorem answer_of_scan {t : Scan} {cs : List Char} (h : scanFrom s offset cs = .ok t) :
    s.answer place offset cs = t.finish place := by
  rw [Scan.answer, h]

theorem answer_of_step (h : s.step offset c = .error f) (rest : List Char) :
    s.answer place offset (c :: rest) = .error f := by
  rw [Scan.answer, scanFrom, h]

/-- **The scanner keeps the open groups of a bare text**, each with the byte that it stands at. -/
theorem scan_grouped {groups : List Group} {cs : List Char} (h : Grouped start groups cs)
    (hq : Unquoted cs) :
    scanFrom ⟨.bare, args, [], [], separated⟩ start cs =
      .ok ⟨.bare, args, cs, groups, separated⟩ := by
  induction h with
  | @base cs hn =>
    have hu : Unquoted ([] ++ cs) := hq
    exact scan_nested hn (fun _ => rfl) (fun _ => hu) start
  | @group groups cs inner o c _ hi hp ih =>
    have hopen : (Scan.mk .bare args cs groups separated).step (start + width cs) o =
        .ok ⟨.bare, args, cs ++ [o], ⟨c, start + width cs⟩ :: groups, separated⟩ :=
      stepBare_of_opener hp
    rw [scanFrom_append_of_scan (ih (unquoted_of_append hq)), scanFrom_cons_of_step hopen,
      scan_nested hi (by simp) (by simp)]
    simp

/-- A closing bracket of bare text is left to the groups, if it does not end the body. -/
theorem stepBare_of_isCloser {o : Char} (hp : (o, c) ∈ brackets) (hc : c = ')' → s.groups ≠ []) :
    s.stepBare offset c = s.closeGroup offset c := by
  obtain ⟨-, -, hopener, hquote⟩ := opener_facts hp
  have hclose : (c == ')' && s.groups.isEmpty) = false := by
    simpa using hc
  unfold Scan.stepBare
  rw [if_neg, hopener]
  · simp [hclose, isCloser_of_mem hp]
  · intro h
    simp only [Bool.and_eq_true] at h
    exact hquote (quote_test.mp h.1.1)

/-- **The scanner stops at a culprit**, or comes back to it at the end. -/
theorem answer_of_segmentCulprit (h : SegmentCulprit start seg rest reason) :
    (Scan.mk .bare args [] [] separated).answer place start (seg ++ rest) =
      .error ⟨start + width seg, reason⟩ := by
  cases h with
  | unterminated hb hq hl hrest =>
    rcases hrest with rfl | rfl
    · rw [answer_of_scan ((scan_quote hb hq start _).trans (scan_literal hq hl _))]
      rfl
    · rw [Scan.answer, scan_quote hb hq, scanFrom_append_of_scan (scan_literal hq hl _),
        scanFrom_cons_of_step (step_backslash hq _ _ _)]
      rfl
  | unclosed hg hp hi hq =>
    rw [answer_of_scan (scan_grouped (hg.group hi hp) hq)]
    rfl
  | @mismatched groups cs inner _ o expected o' found hg hp hi hq hf hne =>
    rw [answer_append (scan_grouped (hg.group hi hp) hq)]
    refine answer_of_step ?_ _
    have hopen : (Scan.mk .bare args (cs ++ o :: inner) (⟨expected, start + width cs⟩ :: groups)
        separated).groups ≠ [] := List.cons_ne_nil _ _
    rw [Scan.step]
    simp only
    rw [stepBare_of_isCloser hf fun _ => hopen, Scan.closeGroup]
    simp [Ne.symm hne]
  | @unbalanced _ _ o found hn hq hf hne =>
    rw [answer_append (scan_grouped (.base hn) hq)]
    refine answer_of_step ?_ _
    rw [Scan.step]
    simp only
    rw [stepBare_of_isCloser hf fun he => absurd he hne, Scan.closeGroup]
  | afterQuoted hb hq hl ha hc hcomma hclose =>
    rw [answer_append (scan_quoted hb hq hl ha start)]
    refine answer_of_step ?_ _
    simp [Scan.step, hc, hcomma, hclose]

/-- **The scanner stops at every culprit**, at its place and for its reason. -/
theorem scanArguments_of_culprit (h : Culprit name before rest reason)
    (htext : marker :: (name ++ '(' :: body) = before ++ rest) :
    scanArguments (opening name) body = .error ⟨width before, reason⟩ := by
  have hlead : marker :: (name ++ '(' :: body) = lead name ++ body := by simp [lead]
  have hanswer : scanArguments (opening name) body =
      Scan.start.answer (opening name) (width (lead name)) body := by
    rw [width_lead]
    rfl
  rw [hanswer]
  cases h with
  | @within pieces seg _ _ hp h =>
    have hbody : body = front pieces ++ (seg ++ rest) := by
      rw [hlead] at htext
      simpa using htext
    rw [hbody, answer_append (scan_start_front hp _), ← width_append,
      answer_of_segmentCulprit h, ← width_append]
  | missingClose hseg =>
    obtain ⟨pieces, seg, arg, -, hbody, hp, hlast⟩ := hseg.split_last
    have htail : body = front pieces ++ seg := by
      rw [← hbody]
      simpa using htext
    obtain ⟨s, hs, hend⟩ := scan_segment hlast (argumentsIn pieces) (!pieces.isEmpty)
      (width (lead name) + width (front pieces))
    rw [htail, answer_append (scan_start_front hp _), answer_of_scan hs]
    cases hend with
    | bare => rfl
    | quoted => rfl
  | @afterClose inner _ pieces hseg hrest =>
    have htail : body = inner ++ [')'] ++ rest := by
      rw [hlead] at htext
      simpa using htext
    obtain ⟨c, rest, rfl⟩ := List.exists_cons_of_ne_nil hrest
    have hargs : scanArguments (opening name) (inner ++ [')']) =
        .ok (argumentsOf inner pieces) := scanArguments_eq_ok_iff.mpr ⟨inner, pieces, rfl, hseg, rfl⟩
    rw [← hanswer, htail, scanArguments_append_of_ok hargs, ← width_lead, ← width_append,
      List.append_assoc]

/-! ## Texts -/

variable {text : String} {e : SyntaxError}

/-- **Reading fails iff there is a culprit**, and the error has its place and its reason. -/
theorem parse_eq_error_iff :
    parse text = .error e ↔ e.input = text ∧ ∃ name before rest, IsName name ∧
      text.toList = before ++ rest ∧ Culprit name before rest e.reason ∧
      e.offset = width before := by
  constructor
  · intro h
    obtain ⟨name, body, f, hname, htext, hf, rfl⟩ := parse_eq_error h
    obtain ⟨before, rest, hcut, hculprit, hoffset⟩ := culprit_of_scanArguments hf
    exact ⟨rfl, name, before, rest, hname, htext.trans hcut, hculprit, hoffset⟩
  · rintro ⟨rfl, name, before, rest, hname, hcut, hculprit, hoffset⟩
    obtain ⟨body, hbody⟩ := hculprit.exists_body
    have htext : e.input.toList = marker :: (name ++ '(' :: body) := hcut.trans hbody
    rw [parse_of_shape hname htext, scanArguments_of_culprit hculprit hbody.symm, ← hoffset]

/-- What stands in front of a place is known from its byte. -/
theorem eq_of_width_eq {a b a' b' : List Char} (h : a ++ b = a' ++ b') (hw : width a = width a') :
    a = a' ∧ b = b' := by
  have hrest : some b = some b' := by
    rw [← fromByte_append a b, h, hw, fromByte_append]
  cases hrest
  exact ⟨List.append_cancel_right h, rfl⟩

/-- An error that shows what stands at a place of its text: a place in front of some character, and
up to 24 characters from there on. -/
structure SyntaxError.PointsAt (e : SyntaxError) (before rest : List Char) : Prop where
  cut : e.input.toList = before ++ rest
  offset_eq : e.offset = width before
  rest_ne_nil : rest ≠ []
  offset_lt : e.offset < e.input.utf8ByteSize
  isValid : (⟨e.offset⟩ : String.Pos.Raw).IsValid e.input
  fromByte_eq : fromByte e.offset e.input.toList = some rest
  offending_eq : e.offending = String.ofList (rest.take 24)
  offending_ne : e.offending ≠ ""

theorem SyntaxError.PointsAt.of_cut (hcut : e.input.toList = before ++ rest)
    (hoffset : e.offset = width before) (hrest : rest ≠ []) : e.PointsAt before rest := by
  have hfrom : fromByte e.offset e.input.toList = some rest := by
    rw [hoffset, hcut, fromByte_append]
  have hshown : e.offending = String.ofList (rest.take 24) := by
    rw [SyntaxError.offending, hfrom, Option.getD_some, SyntaxError.shown]
  have hsize : e.input.utf8ByteSize = width before + width rest := by
    rw [← width_toList, hcut, width_append]
  have hend : (String.ofList before).utf8ByteSize = width before := by
    rw [← width_toList, String.toList_ofList]
  refine ⟨hcut, hoffset, hrest, ?_, ?_, hfrom, hshown, ?_⟩
  · obtain ⟨c, cs, rfl⟩ := List.exists_cons_of_ne_nil hrest
    have hpos : 0 < c.utf8Size := c.utf8Size_pos
    rw [hsize, width_cons]
    omega
  · refine String.Pos.Raw.isValid_iff_exists_append.mpr
      ⟨String.ofList before, String.ofList rest, ?_, ?_⟩
    · rw [← String.ofList_append, ← hcut, String.ofList_toList]
    · exact String.Pos.Raw.ext (hoffset.trans hend.symm)
  · rw [hshown]
    simpa using hrest

/-- **An error points at the culprit.** Its offset is the byte of a character of the text, the text
shown starts there, and what stands there is the culprit of its reason: the quote of a literal that
is not closed, the bracket of the innermost group that is open at the end, the parenthesis of the
directive if no group is, the closing bracket that does not fit, the first character behind a
literal that is neither blank nor a separator, or the character behind the closing parenthesis. No
other place of the text is a culprit of any reason. -/
theorem error_points_at_culprit {text : String} {e : SyntaxError} (h : parse text = .error e) :
    e.input = text ∧ ∃ name before rest, IsName name ∧ e.PointsAt before rest ∧
      Culprit name before rest e.reason ∧
      ∀ name' before' rest' reason', IsName name' → text.toList = before' ++ rest' →
        Culprit name' before' rest' reason' →
          before' = before ∧ rest' = rest ∧ reason' = e.reason := by
  obtain ⟨rfl, name, before, rest, hname, hcut, hculprit, hoffset⟩ := parse_eq_error_iff.mp h
  refine ⟨rfl, name, before, rest, hname, .of_cut hcut hoffset hculprit.rest_ne_nil, hculprit,
    fun name' before' rest' reason' hname' hcut' hculprit' => ?_⟩
  have hother : parse e.input = .error ⟨e.input, width before', reason'⟩ :=
    parse_eq_error_iff.mpr ⟨rfl, name', before', rest', hname', hcut', hculprit', rfl⟩
  rw [h, Except.error.injEq] at hother
  have hwidth : width before' = width before := by
    rw [← hoffset, hother]
  obtain ⟨hbefore, hrest⟩ := eq_of_width_eq (hcut'.symm.trans hcut) hwidth
  exact ⟨hbefore, hrest, by rw [hother]⟩

/-- Behind two characters of two bytes, the inner one of two open brackets. -/
theorem error_points_at_culprit_group :
    let e : SyntaxError := ⟨"@f('é', [(ü", 10, .unclosed ')'⟩
    parse "@f('é', [(ü" = .error e ∧ e.offending = "(ü" ∧
      ∃ name, Culprit name "@f('é', [".toList "(ü".toList (.unclosed ')') := by
  intro e
  have herror : parse "@f('é', [(ü" = .error e := by rfl
  obtain ⟨-, name, before, rest, -, hpoints, hculprit, -⟩ := error_points_at_culprit herror
  have hcut : "@f('é', [".toList ++ "(ü".toList = before ++ rest := by
    rw [← hpoints.cut, ← String.toList_append]
    rfl
  obtain ⟨rfl, rfl⟩ := eq_of_width_eq hcut hpoints.offset_eq
  exact ⟨herror, hpoints.offending_eq, name, hculprit⟩

end SubsetMatch.Directive
