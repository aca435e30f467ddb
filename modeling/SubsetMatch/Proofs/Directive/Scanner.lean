import SubsetMatch.Proofs.Directive.Grammar

/-!
# The scanner and the grammar

What the scanner has read of a directive's body, in the terms of the grammar, kept at every
character: some segments, each with its comma, and the beginning of one more (`Beginning`). Byte
offsets are part of it: `start` is where the segment begins, and every open group and open quote
carries its own place.

One character can only do three things (`Progress`): lengthen the segment, end it with a comma, or
end it, and the body, with the closing parenthesis. `progress_of_step` says so for one character
and `reads_of_scan` for a whole text. In the other direction `scan_segment` takes the scanner
through a segment of the grammar.

Results:
* `scanArguments_eq_ok_iff`: the scanner accepts exactly the bodies of the grammar with a closing
  parenthesis behind, and answers the arguments that their segments write.
* `Segmentation.unique`: a body is segmented in one way.
-/

namespace SubsetMatch.Directive

open Text Utf8

/-! ## Brackets -/

theorem closerFor?_eq_some_iff {o c : Char} : closerFor? o = some c ↔ (o, c) ∈ brackets := by
  unfold closerFor? brackets
  constructor
  · intro h
    repeat' split at h
    all_goals cases h
    all_goals simp_all
  · intro h
    simp only [List.mem_cons, Prod.mk.injEq, List.not_mem_nil, or_false] at h
    rcases h with ⟨rfl, rfl⟩ | ⟨rfl, rfl⟩ | ⟨rfl, rfl⟩ <;> rfl

theorem isCloser_iff {c : Char} : isCloser c = true ↔ ∃ o, (o, c) ∈ brackets := by
  simp only [isCloser, brackets, Bool.or_eq_true, beq_iff_eq, List.mem_cons, Prod.mk.injEq,
    List.not_mem_nil, or_false]
  constructor
  · rintro ((rfl | rfl) | rfl)
    · exact ⟨'(', by simp⟩
    · exact ⟨'[', by simp⟩
    · exact ⟨'{', by simp⟩
  · rintro ⟨o, h⟩
    rcases h with ⟨-, rfl⟩ | ⟨-, rfl⟩ | ⟨-, rfl⟩ <;> simp

theorem isCloser_of_mem {o c : Char} (h : (o, c) ∈ brackets) : isCloser c = true :=
  isCloser_iff.mpr ⟨o, h⟩

theorem not_isBracket_iff {c : Char} :
    ¬ IsBracket c ↔ closerFor? c = none ∧ isCloser c = false := by
  constructor
  · intro h
    constructor
    · cases hc : closerFor? c with
      | none => rfl
      | some d => exact absurd ⟨_, closerFor?_eq_some_iff.mp hc, .inl rfl⟩ h
    · cases hc : isCloser c with
      | false => rfl
      | true =>
        obtain ⟨o, ho⟩ := isCloser_iff.mp hc
        exact absurd ⟨_, ho, .inr rfl⟩ h
  · rintro ⟨ho, hc⟩ ⟨p, hp, rfl | rfl⟩
    · rw [closerFor?_eq_some_iff.mpr hp] at ho
      exact absurd ho (by simp)
    · rw [isCloser_of_mem hp] at hc
      exact absurd hc (by simp)

/-- An opening bracket is no quote and no blank, and a closing one opens nothing. -/
theorem opener_facts {o c : Char} (h : (o, c) ∈ brackets) :
    ¬ IsQuote o ∧ isBlank o = false ∧ closerFor? c = none ∧ ¬ IsQuote c := by
  simp only [brackets, List.mem_cons, Prod.mk.injEq, List.not_mem_nil, or_false] at h
  rcases h with ⟨rfl, rfl⟩ | ⟨rfl, rfl⟩ | ⟨rfl, rfl⟩ <;>
    exact ⟨by simp [IsQuote], by decide, by decide, by simp [IsQuote]⟩

theorem quote_test {c : Char} : (c == '"' || c == '\'') = true ↔ IsQuote c := by
  simp [IsQuote]

/-! ## Segments that have begun -/

/-- Bare text that starts at byte `start`, with its open groups, the innermost first: each stands
at its own byte, and behind it the brackets nest. -/
inductive Grouped (start : Nat) : List Group → List Char → Prop
  | base {cs : List Char} (h : Nested false cs) : Grouped start [] cs
  | group {groups : List Group} {cs inner : List Char} {o c : Char} (h : Grouped start groups cs)
      (hi : Nested true inner) (hp : (o, c) ∈ brackets) :
      Grouped start (⟨c, start + width cs⟩ :: groups) (cs ++ o :: inner)

/-- A closed group is text of the group around it. -/
theorem Grouped.close {start : Nat} {groups : List Group} {cs inner : List Char} {o c : Char}
    (h : Grouped start groups cs) (hi : Nested true inner) (hp : (o, c) ∈ brackets) :
    Grouped start groups (cs ++ o :: (inner ++ [c])) := by
  cases h with
  | base hn => exact .base (hn.group hi hp)
  | group h hn hq =>
    rw [List.append_assoc, List.cons_append]
    exact .group h (hn.group hi hp) hq

theorem Grouped.char {start : Nat} {groups : List Group} {cs : List Char} {c : Char}
    (h : Grouped start groups cs) (hb : ¬ IsBracket c) (hc : c = ',' → groups ≠ []) :
    Grouped start groups (cs ++ [c]) := by
  cases h with
  | base hn => exact .base (hn.char hb fun he => absurd rfl (hc he))
  | group h hn hq =>
    rw [List.append_assoc, List.cons_append]
    exact .group h (hn.char hb fun _ => rfl) hq

/-- A segment that starts at byte `start` and may go on, with what the scanner keeps of it: its
mode, the text of the argument and the open groups. -/
inductive Beginning (start : Nat) : List Char → Mode → List Char → List Group → Prop
  | bare {cs : List Char} {groups : List Group} (hg : Grouped start groups cs)
      (hq : Unquoted cs) : Beginning start cs .bare cs groups
  | quoted {before body text : List Char} {quote : Char} (hb : allBlank before)
      (hq : IsQuote quote) (hl : Literal quote body text) :
      Beginning start (before ++ quote :: body) (.quoted quote (start + width before)) text []
  | escape {before body text : List Char} {quote : Char} (hb : allBlank before)
      (hq : IsQuote quote) (hl : Literal quote body text) :
      Beginning start (before ++ quote :: (body ++ ['\\'])) (.escape quote (start + width before))
        text []
  | closedQuote {before body text after : List Char} {quote : Char} (hb : allBlank before)
      (hq : IsQuote quote) (hl : Literal quote body text) (ha : allBlank after) :
      Beginning start (before ++ quote :: (body ++ quote :: after)) .closedQuote text []

theorem beginning_nil (start : Nat) : Beginning start [] .bare [] [] :=
  .bare (.base (.nil false)) (unquoted_of_blank rfl)

/-- What one character may do to a segment that has begun: lengthen it, end it, or end it together
with the body. Only a blank segment that has no other before it is no argument. -/
inductive Progress (start : Nat) (s : Scan) (seg : List Char) : Char → Scan → Prop
  | longer {c : Char} {s' : Scan}
      (h : Beginning start (seg ++ [c]) s'.mode s'.current s'.groups)
      (ha : s'.args = s.args) (hs : s'.separated = s.separated) : Progress start s seg c s'
  | comma {arg : List Char} (h : Segment seg arg) :
      Progress start s seg ',' ⟨.bare, s.args ++ [String.ofList arg], [], [], true⟩
  | close {arg : List Char} {s' : Scan} (h : Segment seg arg) (hm : s'.mode = .finished)
      (ha : s'.args = if s.args = [] ∧ allBlank seg ∧ s.separated = false then []
        else s.args ++ [String.ofList arg]) : Progress start s seg ')' s'

/-! ## One character -/

variable {start : Nat} {args : List String} {seg : List Char} {separated : Bool} {c : Char}
  {s' : Scan}

theorem progress_of_closeGroup {groups : List Group} (hg : Grouped start groups seg)
    (hq : Unquoted seg) (hc : isCloser c = true) {offset : Nat}
    (h : (Scan.mk .bare args seg groups separated).closeGroup offset c = .ok s') :
    Progress start ⟨.bare, args, seg, groups, separated⟩ seg c s' := by
  unfold Scan.closeGroup at h
  cases hg with
  | base => simp at h
  | group hg hi hp =>
    simp only at h
    split at h
    · rename_i heq
      have heq : _ = c := beq_iff_eq.mp heq
      subst heq
      cases h
      refine .longer (.bare ?_ ?_) rfl rfl
      · simpa using hg.close hi hp
      · exact hq.snoc fun _ => (opener_facts hp).2.2.2
    · simp at h

/-- A closing parenthesis of a bare argument ends the body. -/
theorem closeBare_spec (args : List String) (seg : List Char) (separated : Bool) :
    (Scan.mk .bare args seg [] separated).closeBare.mode = .finished ∧
      (Scan.mk .bare args seg [] separated).closeBare.args =
        if args = [] ∧ allBlank seg ∧ separated = false then []
        else args ++ [String.ofList (trim seg)] := by
  unfold Scan.closeBare
  simp only
  split
  · rename_i h
    simp only [Bool.and_eq_true, List.isEmpty_iff, Bool.not_eq_true'] at h
    refine ⟨rfl, ?_⟩
    rw [if_pos ⟨h.1.1, trim_eq_nil_iff.mp h.1.2, h.2⟩]
    exact h.1.1
  · rename_i h
    refine ⟨rfl, ?_⟩
    rw [if_neg]
    · rfl
    · rintro ⟨ha, hb, hs⟩
      exact h (by simp [ha, hs, trim_eq_nil_iff.mpr hb])

theorem progress_of_stepBare {groups : List Group} (hg : Grouped start groups seg)
    (hq : Unquoted seg)
    (h : (Scan.mk .bare args seg groups separated).stepBare (start + width seg) c = .ok s') :
    Progress start ⟨.bare, args, seg, groups, separated⟩ seg c s' := by
  unfold Scan.stepBare at h
  split at h
  · rename_i hopen
    simp only [Bool.and_eq_true, List.isEmpty_iff] at hopen
    obtain ⟨⟨hc, rfl⟩, hb⟩ := hopen
    cases h
    exact .longer (.quoted hb (quote_test.mp hc) .nil) rfl rfl
  · rename_i hquote
    -- A quote is text here: a group is open, or something else stands before it.
    have hnoquote : groups = [] → allBlank seg → ¬ IsQuote c := by
      rintro rfl hb hc
      exact hquote (by simp [quote_test.mpr hc, hb])
    split at h
    · rename_i closer hcloser
      have hp := closerFor?_eq_some_iff.mp hcloser
      cases h
      have hq' := hq.snoc fun _ => (opener_facts hp).1
      exact .longer (.bare (.group hg (.nil true) hp) hq') rfl rfl
    · rename_i hopener
      split at h
      · rename_i hclose
        simp only [Bool.and_eq_true, beq_iff_eq, List.isEmpty_iff] at hclose
        obtain ⟨rfl, rfl⟩ := hclose
        cases h
        cases hg with
        | base hn =>
          obtain ⟨hm, ha⟩ := closeBare_spec args seg separated
          exact .close (.bare hn hq) hm ha
      · split at h
        · rename_i hc
          exact progress_of_closeGroup hg hq hc h
        · rename_i hc
          have hbr : ¬ IsBracket c := not_isBracket_iff.mpr ⟨hopener, by simpa using hc⟩
          split at h
          · rename_i hcomma
            simp only [Bool.and_eq_true, beq_iff_eq, List.isEmpty_iff] at hcomma
            obtain ⟨rfl, rfl⟩ := hcomma
            cases h
            cases hg with
            | base hn => exact .comma (.bare hn hq)
          · rename_i hcomma
            simp only [Bool.and_eq_true, beq_iff_eq, List.isEmpty_iff, not_and] at hcomma
            cases h
            refine .longer (.bare (hg.char hbr hcomma) (hq.snoc fun hb => ?_)) rfl rfl
            cases hg with
            | base => exact hnoquote rfl hb
            | group hg hi hp =>
              -- An open group's bracket is no blank.
              simp [allBlank, (opener_facts hp).2.1] at hb


/-- **What one character does.** A segment that has begun goes on, or it is one of the grammar and
ends here. -/
theorem progress_of_step {s : Scan} (hb : Beginning start seg s.mode s.current s.groups)
    (h : s.step (start + width seg) c = .ok s') : Progress start s seg c s' := by
  obtain ⟨mode, args, current, groups, separated⟩ := s
  simp only at hb
  unfold Scan.step at h
  cases hb with
  | bare hg hq => exact progress_of_stepBare hg hq h
  | @quoted before body _ quote hb hq hl =>
    simp only at h
    split at h
    · rename_i hc
      rw [beq_iff_eq.mp hc]
      cases h
      refine .longer ?_ rfl rfl
      have hclosed : Beginning start (before ++ quote :: (body ++ quote :: [])) .closedQuote
          current [] := .closedQuote hb hq hl rfl
      simpa using hclosed
    · rename_i hc
      split at h
      · rename_i hs
        rw [beq_iff_eq.mp hs]
        cases h
        refine .longer ?_ rfl rfl
        simpa using Beginning.escape hb hq hl
      · rename_i hs
        cases h
        refine .longer ?_ rfl rfl
        have hl' := hl.char (c := c) (by simpa using hc) (by simpa using hs)
        simpa [Scan.add] using Beginning.quoted hb hq hl'
  | escape hb hq hl =>
    have hl' := hl.escape (c := c)
    unfold unescape at hl'
    simp only at h
    split at h
    · rename_i hc
      rw [if_pos (by simpa using hc)] at hl'
      cases h
      refine .longer ?_ rfl rfl
      simpa [Scan.add] using Beginning.quoted hb hq hl'
    · rename_i hc
      rw [if_neg (by simpa using hc)] at hl'
      cases h
      refine .longer ?_ rfl rfl
      simpa [Scan.add] using Beginning.quoted hb hq hl'
  | closedQuote hb hq hl ha =>
    simp only at h
    split at h
    · rename_i hc
      rw [beq_iff_eq.mp hc]
      cases h
      exact .comma (.quoted hb hq hl ha)
    · split at h
      · rename_i hc
        rw [beq_iff_eq.mp hc]
        cases h
        refine .close (.quoted hb hq hl ha) rfl ?_
        rw [if_neg (fun h => not_allBlank_of_quote hq h.2.1)]
        rfl
      · split at h
        · rename_i hc
          cases h
          refine .longer ?_ rfl rfl
          have ha' : allBlank (_ ++ [c]) := allBlank_snoc ha hc
          simpa using Beginning.closedQuote hb hq hl ha'
        · simp at h

/-! ## Whole texts, from the scanner to the grammar -/

/-- What the state says about all that has been read of a body that starts at byte `start`. -/
inductive Reads (start : Nat) : List Char → Scan → Prop
  | within {pieces : List (List Char × List Char)} {seg : List Char} {s : Scan}
      (hp : ∀ p ∈ pieces, Segment p.1 p.2)
      (hb : Beginning (start + width (front pieces)) seg s.mode s.current s.groups)
      (ha : s.args = argumentsIn pieces) (hs : s.separated = !pieces.isEmpty) :
      Reads start (front pieces ++ seg) s
  | finished {pieces : List (List Char × List Char)} {body : List Char} {s : Scan}
      (h : Segmentation body pieces) (hm : s.mode = .finished)
      (ha : s.args = argumentsOf body pieces) : Reads start (body ++ [')']) s

theorem reads_start (start : Nat) : Reads start [] .start := by
  have hread : Reads start (front [] ++ []) .start := .within (by simp) (beginning_nil _) rfl rfl
  exact hread

/-- The arguments of a body that ends here: none if a blank segment is all there is. -/
theorem argumentsOf_snoc {pieces : List (List Char × List Char)} {arg : List Char} :
    argumentsOf (front pieces ++ seg) (pieces ++ [(seg, arg)]) =
      if argumentsIn pieces = [] ∧ allBlank seg ∧ (!pieces.isEmpty) = false then []
      else argumentsIn pieces ++ [String.ofList arg] := by
  unfold argumentsOf
  cases pieces with
  | nil => simp [front, argumentsIn]
  | cons p pieces =>
    have hcomma : ¬ allBlank (front (p :: pieces) ++ seg) := by
      intro h
      have := List.all_eq_true.mp h ',' (by simp [front_cons])
      exact absurd this (by decide)
    rw [if_neg hcomma, if_neg (by simp)]
    simp [argumentsIn]

theorem Reads.step {cs : List Char} {s : Scan} (h : Reads start cs s)
    (hs : s.step (start + width cs) c = .ok s') : Reads start (cs ++ [c]) s' := by
  cases h with
  | finished _ hm _ =>
    unfold Scan.step at hs
    rw [hm] at hs
    simp at hs
  | within hp hb ha hsep =>
    rw [width_append, ← Nat.add_assoc] at hs
    cases progress_of_step hb hs with
    | longer hb' ha' hs' =>
      rw [List.append_assoc]
      exact .within hp hb' (ha'.trans ha) (hs'.trans hsep)
    | @comma arg hseg =>
      rename_i pieces seg
      have hread : Reads start (front (pieces ++ [(seg, arg)]) ++ [])
          ⟨.bare, s.args ++ [String.ofList arg], [], [], true⟩ :=
        .within (segments_snoc hp hseg) (beginning_nil _) (by simp [ha, argumentsIn]) (by simp)
      rw [List.append_nil, front_snoc, ← List.append_assoc] at hread
      exact hread
    | close hseg hm ha' =>
      refine .finished (Segmentation.snoc hp hseg) hm ?_
      rw [ha', argumentsOf_snoc, ha, hsep]

/-- **Whatever the scanner reads, the grammar explains.** -/
theorem reads_of_scan {cs : List Char} {s : Scan} (h : scanFrom .start start cs = .ok s) :
    Reads start cs s := by
  suffices general : ∀ (rest cs : List Char) (s s' : Scan), Reads start cs s →
      scanFrom s (start + width cs) rest = .ok s' → Reads start (cs ++ rest) s' from
    general cs [] .start s (reads_start start) h
  intro rest
  induction rest with
  | nil =>
    intro cs s s' hr hs
    cases hs
    rwa [List.append_nil]
  | cons c rest ih =>
    intro cs s s' hr hs
    rw [scanFrom] at hs
    split at hs
    · simp at hs
    · rename_i t ht
      have hw : start + width cs + c.utf8Size = start + width (cs ++ [c]) := by
        rw [width_append, width_cons, width_nil]
        omega
      rw [hw] at hs
      have := ih _ _ _ (hr.step ht) hs
      rwa [List.append_assoc, List.singleton_append] at this

theorem finish_eq_ok {s : Scan} {opening : Nat} {args : List String}
    (h : s.finish opening = .ok args) : s.mode = .finished ∧ s.args = args := by
  unfold Scan.finish at h
  split at h
  · rename_i hm
    exact ⟨hm, Except.ok.inj h⟩
  · simp at h
  · simp at h
  · split at h <;> simp at h
  · split at h <;> simp at h

/-! ## From the grammar to the scanner -/

theorem stepBare_of_text {s : Scan} {offset : Nat} (hb : ¬ IsBracket c)
    (hq : IsQuote c → s.groups = [] → allBlank s.current = false)
    (hc : c = ',' → s.groups ≠ []) : s.stepBare offset c = .ok (s.add c) := by
  obtain ⟨hopener, hcloser⟩ := not_isBracket_iff.mp hb
  unfold Scan.stepBare
  rw [if_neg, hopener]
  · have hparen : (c == ')') = false := by
      cases h : c == ')' with
      | false => rfl
      | true => exact absurd hcloser (by rw [beq_iff_eq.mp h]; decide)
    have hcomma : (c == ',' && s.groups.isEmpty) = false := by
      cases h : c == ',' with
      | false => rfl
      | true => simpa using hc (beq_iff_eq.mp h)
    simp [hparen, hcloser, hcomma]
  · intro h
    simp only [Bool.and_eq_true, List.isEmpty_iff] at h
    have := hq (quote_test.mp h.1.1) h.1.2
    rw [h.2] at this
    exact absurd this (by simp)

theorem stepBare_of_opener {s : Scan} {offset : Nat} {o : Char} (hp : (o, c) ∈ brackets) :
    s.stepBare offset o = .ok { s.add o with groups := ⟨c, offset⟩ :: s.groups } := by
  unfold Scan.stepBare
  rw [if_neg, closerFor?_eq_some_iff.mpr hp]
  intro h
  simp only [Bool.and_eq_true] at h
  exact (opener_facts hp).1 (quote_test.mp h.1.1)

theorem stepBare_of_closer {s : Scan} {offset : Nat} {o : Char} (hp : (o, c) ∈ brackets)
    {g : Group} {groups : List Group} (hs : s.groups = g :: groups) (hg : g.closer = c) :
    s.stepBare offset c = .ok { s.add c with groups := groups } := by
  unfold Scan.stepBare Scan.closeGroup
  rw [if_neg, (opener_facts hp).2.2.1]
  · simp [hs, hg, isCloser_of_mem hp]
  · simp [hs]

theorem scanFrom_cons_of_step {s t : Scan} {offset : Nat} (h : s.step offset c = .ok t)
    (cs : List Char) : scanFrom s offset (c :: cs) = scanFrom t (offset + c.utf8Size) cs := by
  rw [scanFrom, h]

theorem scanFrom_append_of_scan {s t : Scan} {offset : Nat} {cs : List Char}
    (h : scanFrom s offset cs = .ok t) (rest : List Char) :
    scanFrom s offset (cs ++ rest) = scanFrom t (offset + width cs) rest := by
  rw [scanFrom_append, h]

/-- Bare text is read as it stands, unless a quote opens a literal in it. -/
theorem scan_nested {commas : Bool} {cs current : List Char} {groups : List Group}
    (h : Nested commas cs) (hc : groups = [] → commas = false)
    (hq : groups = [] → Unquoted (current ++ cs)) (offset : Nat) :
    scanFrom ⟨.bare, args, current, groups, separated⟩ offset cs =
      .ok ⟨.bare, args, current ++ cs, groups, separated⟩ := by
  induction h generalizing current groups offset with
  | nil =>
    rw [List.append_nil]
    rfl
  | @char commas cs c _ hb hcomma ih =>
    have hu : groups = [] → Unquoted (current ++ cs ++ [c]) := by simpa using hq
    rw [scanFrom_append_of_scan (ih hc (fun hg => unquoted_of_append (hu hg)) offset),
      scanFrom_cons_of_step (t := ⟨.bare, args, current ++ cs ++ [c], groups, separated⟩)]
    · rw [List.append_assoc]
      rfl
    · refine stepBare_of_text hb (fun hquote hg => ?_) fun heq hg => ?_
      · cases hblank : allBlank (current ++ cs) with
        | false => rfl
        | true =>
          have hone := (unquoted_append_of_blank hblank).mp (hu hg)
          have hnot : isBlank c = false := by
            cases h : isBlank c with
            | false => rfl
            | true => exact absurd hquote (not_isQuote_of_isBlank h)
          exact absurd hquote (hone c (by simp [hnot]))
      · have hg : groups = [] := hg
        rw [hc hg] at hcomma
        exact absurd (hcomma heq) (by simp)
  | @group commas cs inner o c _ _ hp ih ihi =>
    have hu : groups = [] → Unquoted (current ++ cs ++ o :: (inner ++ [c])) := by simpa using hq
    have hopen : (Scan.mk .bare args (current ++ cs) groups separated).step (offset + width cs) o =
        .ok ⟨.bare, args, current ++ cs ++ [o], ⟨c, offset + width cs⟩ :: groups, separated⟩ :=
      stepBare_of_opener hp
    have hinner : scanFrom ⟨.bare, args, current ++ cs ++ [o], ⟨c, offset + width cs⟩ :: groups,
        separated⟩ (offset + width cs + o.utf8Size) inner =
          .ok ⟨.bare, args, current ++ cs ++ [o] ++ inner, ⟨c, offset + width cs⟩ :: groups,
            separated⟩ := ihi (by simp) (by simp) _
    have hclose : (Scan.mk .bare args (current ++ cs ++ [o] ++ inner)
        (⟨c, offset + width cs⟩ :: groups) separated).step
          (offset + width cs + o.utf8Size + width inner) c =
            .ok ⟨.bare, args, current ++ cs ++ [o] ++ inner ++ [c], groups, separated⟩ :=
      stepBare_of_closer hp rfl rfl
    rw [scanFrom_append_of_scan (ih hc (fun hg => unquoted_of_append (hu hg)) offset),
      scanFrom_cons_of_step hopen, scanFrom_append_of_scan hinner, scanFrom_cons_of_step hclose]
    simp [scanFrom]

/-- A backslash in a literal waits for the character that it takes. -/
theorem step_backslash {quote : Char} (hquote : IsQuote quote) (current : List Char)
    (opened offset : Nat) :
    (Scan.mk (.quoted quote opened) args current [] separated).step offset '\\' =
      .ok ⟨.escape quote opened, args, current, [], separated⟩ := by
  have hne : ('\\' == quote) = false := by
    rcases hquote with rfl | rfl <;> rfl
  simp [Scan.step, hne]

theorem scan_literal {quote : Char} {body text current : List Char} {opened : Nat}
    (hquote : IsQuote quote) (h : Literal quote body text) (offset : Nat) :
    scanFrom ⟨.quoted quote opened, args, current, [], separated⟩ offset body =
      .ok ⟨.quoted quote opened, args, current ++ text, [], separated⟩ := by
  induction h generalizing offset with
  | nil =>
    rw [List.append_nil]
    rfl
  | @char body text c _ hq hb ih =>
    have hstep : (Scan.mk (.quoted quote opened) args (current ++ text) [] separated).step
        (offset + width body) c =
          .ok ⟨.quoted quote opened, args, current ++ (text ++ [c]), [], separated⟩ := by
      simp [Scan.step, Scan.add, hq, hb]
    rw [scanFrom_append_of_scan (ih offset), scanFrom_cons_of_step hstep]
    rfl
  | @escape body text c _ ih =>
    have hstep : (Scan.mk (.escape quote opened) args (current ++ text) [] separated).step
        (offset + width body + '\\'.utf8Size) c =
          .ok ⟨.quoted quote opened, args, current ++ (text ++ unescape quote c), [],
            separated⟩ := by
      by_cases h : c = quote ∨ c = '\\'
      · simp [Scan.step, Scan.add, unescape, h]
      · simp [Scan.step, Scan.add, unescape, h]
    rw [scanFrom_append_of_scan (ih offset), scanFrom_cons_of_step (step_backslash hquote _ _ _),
      scanFrom_cons_of_step hstep]
    rfl

theorem scan_blank {cs current : List Char} (h : allBlank cs) (offset : Nat) :
    scanFrom ⟨.closedQuote, args, current, [], separated⟩ offset cs =
      .ok ⟨.closedQuote, args, current, [], separated⟩ := by
  induction cs generalizing offset with
  | nil => rfl
  | cons c cs ih =>
    have hc : isBlank c = true := List.all_eq_true.mp h c List.mem_cons_self
    have hcs : allBlank cs := List.all_eq_true.mpr fun d hd =>
      List.all_eq_true.mp h d (List.mem_cons_of_mem c hd)
    have hstep : (Scan.mk .closedQuote args current [] separated).step offset c =
        .ok ⟨.closedQuote, args, current, [], separated⟩ := by
      have hcomma : c ≠ ',' := by
        rintro rfl
        exact absurd hc (by decide)
      have hparen : c ≠ ')' := by
        rintro rfl
        exact absurd hc (by decide)
      simp [Scan.step, hcomma, hparen, hc]
    rw [scanFrom_cons_of_step hstep]
    exact ih hcs _

/-- A quote behind nothing but blanks opens a literal, and its place is kept. -/
theorem scan_quote {before : List Char} {quote : Char} (hb : allBlank before) (hq : IsQuote quote)
    (offset : Nat) (rest : List Char) :
    scanFrom ⟨.bare, args, [], [], separated⟩ offset (before ++ quote :: rest) =
      scanFrom ⟨.quoted quote (offset + width before), args, [], [], separated⟩
        (offset + width before + quote.utf8Size) rest := by
  have hbefore : scanFrom ⟨.bare, args, [], [], separated⟩ offset before =
      .ok ⟨.bare, args, before, [], separated⟩ := by
    have hnest : Nested false before := nested_of_blank hb
    have hu : Unquoted ([] ++ before) := unquoted_of_blank hb
    exact scan_nested hnest (fun _ => rfl) (fun _ => hu) offset
  have hopen : (Scan.mk .bare args before [] separated).step (offset + width before) quote =
      .ok ⟨.quoted quote (offset + width before), args, [], [], separated⟩ := by
    unfold Scan.step Scan.stepBare
    simp [quote_test.mpr hq, hb]
  rw [scanFrom_append_of_scan hbefore, scanFrom_cons_of_step hopen]

/-- A literal between blanks is read as the text that it stands for. -/
theorem scan_quoted {before body text after : List Char} {quote : Char} (hb : allBlank before)
    (hq : IsQuote quote) (hl : Literal quote body text) (ha : allBlank after) (offset : Nat) :
    scanFrom ⟨.bare, args, [], [], separated⟩ offset (before ++ quote :: (body ++ quote :: after)) =
      .ok ⟨.closedQuote, args, text, [], separated⟩ := by
  have hclose : (Scan.mk (.quoted quote (offset + width before)) args text [] separated).step
      (offset + width before + quote.utf8Size + width body) quote =
        .ok ⟨.closedQuote, args, text, [], separated⟩ := by
    simp [Scan.step]
  rw [scan_quote hb hq, scanFrom_append_of_scan (scan_literal hq hl _), List.nil_append,
    scanFrom_cons_of_step hclose]
  exact scan_blank ha _

/-- The states in which a segment may end: bare text without open groups, or a closed literal. -/
inductive Ending (args : List String) (separated : Bool) (seg arg : List Char) : Scan → Prop
  | bare (h : arg = trim seg) : Ending args separated seg arg ⟨.bare, args, seg, [], separated⟩
  | quoted (h : ¬ allBlank seg) :
      Ending args separated seg arg ⟨.closedQuote, args, arg, [], separated⟩

/-- **Whatever is a segment, the scanner reads.** -/
theorem scan_segment {arg : List Char} (h : Segment seg arg) (args : List String)
    (separated : Bool) (offset : Nat) :
    ∃ s, scanFrom ⟨.bare, args, [], [], separated⟩ offset seg = .ok s ∧
      Ending args separated seg arg s := by
  cases h with
  | bare hn hq =>
    refine ⟨_, scan_nested hn (fun _ => rfl) (fun _ => ?_) offset, .bare rfl⟩
    rwa [List.nil_append]
  | quoted hb hq hl ha =>
    exact ⟨_, scan_quoted hb hq hl ha offset, .quoted (not_allBlank_of_quote hq)⟩

theorem step_comma {arg : List Char} {s : Scan} (h : Ending args separated seg arg s)
    (offset : Nat) :
    s.step offset ',' = .ok ⟨.bare, args ++ [String.ofList arg], [], [], true⟩ := by
  cases h with
  | bare h =>
    rw [h]
    simp [Scan.step, Scan.stepBare, Scan.push, closerFor?, isCloser]
  | quoted => simp [Scan.step, Scan.push]

theorem step_close {arg : List Char} {s : Scan} (h : Ending args separated seg arg s)
    (offset : Nat) :
    ∃ s', s.step offset ')' = .ok s' ∧ s'.mode = .finished ∧
      s'.args = if args = [] ∧ allBlank seg ∧ separated = false then []
        else args ++ [String.ofList arg] := by
  cases h with
  | bare h =>
    obtain ⟨hm, ha⟩ := closeBare_spec args seg separated
    rw [← h] at ha
    exact ⟨_, rfl, hm, ha⟩
  | quoted h =>
    refine ⟨_, rfl, rfl, ?_⟩
    rw [if_neg fun hb => h hb.2.1]
    rfl

theorem scan_front {pieces : List (List Char × List Char)} (h : ∀ p ∈ pieces, Segment p.1 p.2)
    (args : List String) (separated : Bool) (offset : Nat) :
    scanFrom ⟨.bare, args, [], [], separated⟩ offset (front pieces) =
      .ok ⟨.bare, args ++ argumentsIn pieces, [], [], separated || !pieces.isEmpty⟩ := by
  induction pieces generalizing args separated offset with
  | nil => simp [front, argumentsIn, scanFrom]
  | cons p pieces ih =>
    obtain ⟨s, hs, hend⟩ := scan_segment (h p List.mem_cons_self) args separated offset
    rw [front_cons, scanFrom_append_of_scan hs, scanFrom_cons_of_step (step_comma hend _),
      ih fun q hq => h q (List.mem_cons_of_mem p hq)]
    simp [argumentsIn]

theorem scan_start_front {pieces : List (List Char × List Char)}
    (h : ∀ p ∈ pieces, Segment p.1 p.2) (offset : Nat) :
    scanFrom .start offset (front pieces) =
      .ok ⟨.bare, argumentsIn pieces, [], [], !pieces.isEmpty⟩ := by
  have hfront := scan_front h [] false offset
  simpa [Scan.start] using hfront

/-! ## Bodies -/

/-- **The scanner accepts the bodies of the grammar, closed by a parenthesis, and no others**, and
answers the arguments of their segments. -/
theorem scanArguments_eq_ok_iff {opening : Nat} {body : List Char} {args : List String} :
    scanArguments opening body = .ok args ↔
      ∃ inner pieces, body = inner ++ [')'] ∧ Segmentation inner pieces ∧
        args = argumentsOf inner pieces := by
  unfold scanArguments
  constructor
  · intro h
    split at h
    · simp at h
    · rename_i s hs
      obtain ⟨hm, ha⟩ := finish_eq_ok h
      cases reads_of_scan hs with
      | within _ hb _ _ =>
        rw [hm] at hb
        cases hb
      | @finished pieces inner _ hseg _ harg =>
        exact ⟨inner, pieces, rfl, hseg, ha ▸ harg⟩
  · rintro ⟨inner, pieces, rfl, hseg, rfl⟩
    obtain ⟨rest, seg, arg, rfl, rfl, hrest, hlast⟩ := hseg.split_last
    obtain ⟨s, hs, hend⟩ := scan_segment hlast (argumentsIn rest) (!rest.isEmpty)
      (opening + '('.utf8Size + width (front rest))
    obtain ⟨t, ht, hm, ha⟩ := step_close hend
      (opening + '('.utf8Size + width (front rest) + width seg)
    have hscan : scanFrom .start (opening + '('.utf8Size) (front rest ++ seg ++ [')']) = .ok t := by
      rw [List.append_assoc]
      rw [scanFrom_append_of_scan (scan_start_front hrest _), scanFrom_append_of_scan hs,
        scanFrom_cons_of_step ht]
      rfl
    rw [hscan]
    simp only [Scan.finish, hm]
    rw [ha, argumentsOf_snoc]

/-! ## Uniqueness -/

theorem args_prefix_of_closeBare (s : Scan) : s.args <+: s.closeBare.args := by
  unfold Scan.closeBare
  simp only
  split
  · exact List.prefix_rfl
  · exact List.prefix_append _ _

theorem args_prefix_of_stepBare {s : Scan} {offset : Nat} (h : s.stepBare offset c = .ok s') :
    s.args <+: s'.args := by
  unfold Scan.stepBare Scan.closeGroup at h
  repeat' split at h
  all_goals cases h
  case h_2.isTrue => exact args_prefix_of_closeBare s
  all_goals simp [Scan.push, Scan.add]

/-- No argument that has been read is ever taken back. -/
theorem args_prefix_of_step {s : Scan} {offset : Nat} (h : s.step offset c = .ok s') :
    s.args <+: s'.args := by
  unfold Scan.step at h
  split at h
  · exact args_prefix_of_stepBare h
  all_goals
    repeat' split at h
    all_goals cases h
    all_goals simp [Scan.push, Scan.add]

theorem args_prefix_of_scan {cs : List Char} {s t : Scan} {offset : Nat}
    (h : scanFrom s offset cs = .ok t) : s.args <+: t.args := by
  induction cs generalizing s offset with
  | nil =>
    cases h
    exact List.prefix_rfl
  | cons c cs ih =>
    rw [scanFrom] at h
    split at h
    · simp at h
    · rename_i u hu
      exact (args_prefix_of_step hu).trans (ih h)

/-- No segment goes on behind a comma after another one: the comma would have ended it. -/
theorem not_segment_comma {rest a b : List Char} (h : Segment seg a) :
    ¬ Segment (seg ++ ',' :: rest) b := by
  intro h'
  obtain ⟨s, hs, hend⟩ := scan_segment h [] false 0
  obtain ⟨t, ht, hend'⟩ := scan_segment h' [] false 0
  rw [scanFrom_append_of_scan hs, scanFrom_cons_of_step (step_comma hend _)] at ht
  have hle := (args_prefix_of_scan ht).length_le
  cases hend' <;> simp at hle

theorem nil_of_longer {a b u tail tail' : List Char} (h : Segment seg a)
    (h' : Segment (seg ++ u) b) (htail : tail = [] ∨ ∃ rest, tail = ',' :: rest)
    (hu : tail = u ++ tail') : u = [] := by
  cases u with
  | nil => rfl
  | cons d u =>
    rcases htail with rfl | ⟨rest, rfl⟩
    · exact absurd hu (by simp)
    · rw [List.cons_append, List.cons.injEq] at hu
      rw [← hu.1] at h'
      exact absurd h' (not_segment_comma h)

/-- The argument of a segment is known from its text. -/
theorem Segment.arg_unique {a b : List Char} (h : Segment seg a) (h' : Segment seg b) : a = b := by
  obtain ⟨s, hs, hend⟩ := scan_segment h [] false 0
  obtain ⟨t, ht, hend'⟩ := scan_segment h' [] false 0
  have hst : s = t := by
    rw [hs] at ht
    exact Except.ok.inj ht
  subst hst
  cases hend with
  | bare ha =>
    cases hend' with
    | bare hb => rw [ha, hb]
  | quoted => cases hend' with
    | quoted => rfl

/-- A body is segmented in one way. -/
theorem Segmentation.unique {body : List Char} {pieces pieces' : List (List Char × List Char)}
    (h : Segmentation body pieces) (h' : Segmentation body pieces') : pieces = pieces' := by
  induction pieces generalizing body pieces' with
  | nil => exact absurd rfl h.nonempty
  | cons p rest ih =>
    cases pieces' with
    | nil => exact absurd rfl h'.nonempty
    | cons p' rest' =>
      obtain ⟨hp, tail, hbody, htail⟩ := h.head
      obtain ⟨hp', tail', hbody', htail'⟩ := h'.head
      rw [hbody] at hbody'
      have hseg : p.1 = p'.1 := by
        rcases List.append_eq_append_iff.mp hbody' with ⟨u, hu, ht⟩ | ⟨u, hu, ht⟩
        · rw [hu] at hp' ⊢
          rw [nil_of_longer hp hp' (htail.imp And.left fun ⟨b, hb, _⟩ => ⟨b, hb⟩) ht,
            List.append_nil]
        · rw [hu] at hp ⊢
          rw [nil_of_longer hp' hp (htail'.imp And.left fun ⟨b, hb, _⟩ => ⟨b, hb⟩) ht,
            List.append_nil]
      rw [hseg] at hbody' hp
      have htails : tail = tail' := List.append_cancel_left hbody'
      have hpp : p = p' := Prod.ext hseg (hp.arg_unique hp')
      rw [hpp, List.cons.injEq]
      refine ⟨rfl, ?_⟩
      rcases htail with ⟨rfl, rfl⟩ | ⟨b, rfl, hb⟩
      · rcases htail' with ⟨_, rfl⟩ | ⟨b', hb', _⟩
        · rfl
        · rw [hb'] at htails
          exact absurd htails (by simp)
      · rcases htail' with ⟨h0, _⟩ | ⟨b', rfl, hb'⟩
        · rw [h0] at htails
          exact absurd htails (by simp)
        · rw [List.cons.injEq] at htails
          rw [← htails.2] at hb'
          exact ih hb hb'

end SubsetMatch.Directive
