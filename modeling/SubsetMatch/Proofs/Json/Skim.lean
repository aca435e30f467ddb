import SubsetMatch.Json.Skim

/-!
# Reading and skimming

Skimming asks less of a text than reading does: it looks at how a value is written and never at what
the value stands for. So it goes through wherever reading does, and it stops at the same place,
which is where the next value or sign is looked for.

Results:
* `skimString_of_stringBody`, `skimNumber_of_number`: strings and numbers.
* `skimEntries_of_elementsFrom`, `skimEntries_of_membersFrom`: lists and objects, if it holds of
  what is in them.
* `skim_of_value`: **a value that can be read is skimmed up to where its reading ends.**
-/

namespace SubsetMatch.Json

open Decimal

/-! ## Strings -/

theorem hexEscape_eq_ok {cs rest : List Char} {n : Nat} (h : hexEscape cs = .ok (n, rest)) :
    ∃ a b c d, cs = a :: b :: c :: d :: rest ∧ (hexValues? [a, b, c, d]).isSome := by
  unfold hexEscape at h
  split at h
  · rename_i a b c d tail
    cases hvalue : hexValues? [a, b, c, d] with
    | none => simp [hvalue] at h
    | some m =>
      simp only [hvalue, Except.ok.injEq, Prod.mk.injEq] at h
      exact ⟨a, b, c, d, by rw [h.2], by rw [hvalue]; rfl⟩
  · split at h <;> simp at h

theorem skimString_hexEscape {cs rest : List Char} {n : Nat} (h : hexEscape cs = .ok (n, rest)) :
    skimString ('\\' :: 'u' :: cs) = skimString rest := by
  obtain ⟨a, b, c, d, rfl, hsome⟩ := hexEscape_eq_ok h
  rw [skimString, if_pos hsome]

/-- The second half of a pair is skimmed as an escape of its own. -/
theorem skimString_lowSurrogate {high : Nat} {cs rest : List Char} {c : Char}
    (h : lowSurrogate high cs = .ok (c, rest)) : skimString cs = skimString rest := by
  unfold lowSurrogate at h
  split at h
  · split at h
    · simp at h
    · rename_i hescape
      split at h
      · simp only [Except.ok.injEq, Prod.mk.injEq] at h
        obtain ⟨-, rfl⟩ := h
        exact skimString_hexEscape hescape
      · simp at h
  all_goals simp at h

theorem skimString_unicodeEscape {cs rest : List Char} {c : Char}
    (h : unicodeEscape cs = .ok (c, rest)) :
    skimString ('\\' :: 'u' :: cs) = skimString rest := by
  unfold unicodeEscape at h
  split at h
  · simp at h
  · rename_i hescape
    rw [skimString_hexEscape hescape]
    split at h
    · simp at h
    · split at h
      · exact skimString_lowSurrogate h
      · simp only [Except.ok.injEq, Prod.mk.injEq] at h
        rw [h.2]

theorem skimString_letter {c : Char} (h : isEscapeLetter c = true) (cs : List Char) :
    skimString ('\\' :: c :: cs) = skimString cs := by
  have hu : c ≠ 'u' := by
    rintro rfl
    exact absurd h (by decide)
  rw [skimString, if_pos h]
  · exact fun _ _ _ _ _ hc => absurd hc hu

theorem skimString_escaped {cs rest : List Char} {c : Char} (h : escaped cs = .ok (c, rest)) :
    skimString ('\\' :: cs) = skimString rest := by
  unfold escaped at h
  split at h
  · simp at h
  · split at h
    all_goals first
      | exact skimString_unicodeEscape h
      | (simp only [Except.ok.injEq, Prod.mk.injEq] at h
         rw [← h.2]
         exact skimString_letter (by decide) _)
      | simp at h

theorem skimString_plain {c : Char} (hquote : c ≠ '"') (hescape : c ≠ '\\')
    (hcontrol : ¬ c.val < 32) (cs : List Char) : skimString (c :: cs) = skimString cs := by
  rw [skimString, if_neg hcontrol]
  · exact hquote
  · exact fun _ _ _ _ _ hc => absurd hc hescape
  · exact fun _ _ hc => absurd hc hescape

theorem skimString_of_stringBody {cs s rest : List Char} (h : stringBody cs = .ok (s, rest)) :
    skimString cs = some rest := by
  fun_induction stringBody cs generalizing s with
  | case1 => simp at h
  | case2 c tail hc =>
    simp only [Except.ok.injEq, Prod.mk.injEq] at h
    rw [eq_of_beq hc, skimString, h.2]
  | case3 => simp at h
  | case4 c tail _ hc e tail' he hlt ih =>
    cases hb : stringBody tail' with
    | error f => simp [hb, Except.map] at h
    | ok p =>
      simp only [hb, Except.map, Except.ok.injEq, Prod.mk.injEq] at h
      obtain ⟨-, rfl⟩ := h
      rw [eq_of_beq hc, skimString_escaped he, ih hb]
  | case5 => simp at h
  | case6 c tail hquote hescape hcontrol ih =>
    cases hb : stringBody tail with
    | error f => simp [hb, Except.map] at h
    | ok p =>
      simp only [hb, Except.map, Except.ok.injEq, Prod.mk.injEq] at h
      obtain ⟨-, rfl⟩ := h
      rw [skimString_plain (by simpa using hquote) (by simpa using hescape) hcontrol, ih hb]

/-! ## Numbers

A reading may stop counting within a run of digits. The run as a whole is taken all the same. -/

theorem drop_length_takeWhile (p : Char → Bool) (cs : List Char) :
    cs.drop (cs.takeWhile p).length = cs.dropWhile p := by
  calc cs.drop (cs.takeWhile p).length
      = (cs.takeWhile p ++ cs.dropWhile p).drop (cs.takeWhile p).length := by
        rw [List.takeWhile_append_dropWhile]
    _ = cs.dropWhile p := List.drop_left

theorem dropWhile_absorb (significand : Nat) (cs : List Char) :
    (absorb significand cs).2.dropWhile Char.isDigit = cs.dropWhile Char.isDigit := by
  induction cs generalizing significand with
  | nil => rfl
  | cons c cs ih =>
    rw [absorb]
    split
    · rename_i h
      simp only [Bool.and_eq_true] at h
      rw [ih, List.dropWhile_cons_of_pos h.1]
    · rfl

theorem dropWhile_exponentDigits (n : Nat) (cs : List Char) :
    (∀ m rest, exponentDigits n cs = .ok (m, rest) → cs.dropWhile Char.isDigit = rest) ∧
      ∀ rest, exponentDigits n cs = .error rest →
        cs.dropWhile Char.isDigit = rest.dropWhile Char.isDigit := by
  induction cs generalizing n with
  | nil => simp [exponentDigits]
  | cons c cs ih =>
    rw [exponentDigits]
    by_cases hdigit : c.isDigit = true
    · rw [if_pos hdigit, List.dropWhile_cons_of_pos hdigit]
      split
      · simp
      · exact ih _
    · rw [if_neg hdigit, List.dropWhile_cons_of_neg hdigit]
      simp

theorem skimDigits_of_isDigit {c : Char} {cs : List Char} (h : c.isDigit = true) :
    skimDigits (c :: cs) = some ((c :: cs).dropWhile Char.isDigit) := by
  rw [skimDigits, if_pos h, List.dropWhile_cons_of_pos h]

variable {negative : Bool} {significand dropped : Nat} {shift : Int} {cs rest : List Char}
  {n : Number}

theorem skimDigits_of_exponentPart
    (h : exponentPart negative significand shift cs = .ok (n, rest)) :
    skimDigits (splitSign cs).2 = some rest := by
  unfold exponentPart at h
  generalize splitSign cs = p at h
  obtain ⟨below, body⟩ := p
  simp only at h ⊢
  split at h
  · simp at h
  · rename_i c tail
    split at h
    · rename_i hdigit
      rw [skimDigits_of_isDigit hdigit]
      split at h
      · rename_i m r hd
        rw [(dropWhile_exponentDigits 0 _).1 _ _ hd, scaled_rest h]
      · rename_i r hd
        rw [(dropWhile_exponentDigits 0 _).2 _ hd]
        split at h
        · simp at h
        · simp only [Except.ok.injEq, Prod.mk.injEq] at h
          rw [h.2]
    · simp at h

theorem skimExponent_of_afterDigits
    (h : afterDigits negative significand shift cs = .ok (n, rest)) :
    skimExponent cs = some rest := by
  unfold afterDigits at h
  split at h
  · rename_i c tail
    rw [skimExponent]
    split at h
    · rename_i hmark
      rw [if_pos hmark]
      exact skimDigits_of_exponentPart h
    · rename_i hmark
      rw [if_neg hmark, scaled_rest h]
  · rw [scaled_rest h]
    rfl

theorem skimDigits_of_fractionPart
    (h : fractionPart negative significand shift cs = .ok (n, rest)) :
    (skimDigits cs).bind skimExponent = some rest := by
  unfold fractionPart at h
  have hrun := dropWhile_absorb significand cs
  cases cs with
  | nil => simp [absorb] at h
  | cons c cs =>
    by_cases hdigit : c.isDigit = true
    · rw [skimDigits_of_isDigit hdigit, Option.bind_some, ← hrun]
      simp only at h
      split at h
      · simp at h
      · rw [drop_length_takeWhile] at h
        exact skimExponent_of_afterDigits h
    · simp [absorb, hdigit] at h

theorem skimFraction_of_afterInteger
    (h : afterInteger negative significand dropped cs = .ok (n, rest)) :
    skimFraction cs = some rest := by
  unfold afterInteger at h
  split at h
  · exact skimDigits_of_fractionPart h
  · rename_i hpoint
    have hfraction : skimFraction cs = skimExponent cs := by
      rw [skimFraction]
      exact fun tail hcs => hpoint tail hcs
    rw [hfraction]
    split at h
    · exact skimExponent_of_afterDigits h
    · rename_i hmark
      -- no mark of an exponent follows, so the number ends here whatever it stands for
      have hend : skimExponent cs = some cs := by
        cases cs with
        | nil => rfl
        | cons c tail =>
          rw [skimExponent, if_neg]
          intro hexponent
          exact hmark (by simp [hexponent])
      rw [hend]
      repeat' split at h
      all_goals
        simp only [Except.ok.injEq, Prod.mk.injEq] at h
        rw [h.2]

theorem skimDigits_of_wholePart {c : Char} (hdigit : c.isDigit = true)
    (h : wholePart negative (c :: cs) = .ok (n, rest)) :
    (skimDigits (c :: cs)).bind skimFraction = some rest := by
  rw [skimDigits_of_isDigit hdigit, Option.bind_some, ← dropWhile_absorb 0]
  unfold wholePart at h
  simp only [drop_length_takeWhile] at h
  exact skimFraction_of_afterInteger h

theorem skimUnsigned_of_unsignedNumber (h : unsignedNumber negative cs = .ok (n, rest)) :
    skimUnsigned cs = some rest := by
  unfold unsignedNumber at h
  split at h
  · simp at h
  · rw [skimUnsigned]
    split at h
    · simp at h
    · rename_i hdigit
      rw [if_neg hdigit]
      exact skimFraction_of_afterInteger h
  · rename_i c tail hzero
    split at h
    · rename_i hdigit
      rw [skimUnsigned]
      · exact skimDigits_of_wholePart hdigit h
      · rintro _ ⟨⟩
        exact hzero rfl
    · simp at h

theorem skimNumber_of_number (h : number cs = .ok (n, rest)) : skimNumber cs = some rest := by
  unfold number at h
  split at h
  · exact skimUnsigned_of_unsignedNumber h
  · rename_i hsign
    rw [skimNumber]
    · exact skimUnsigned_of_unsignedNumber h
    · exact hsign

/-! ## Values

Texts get shorter as a reading goes on, so what is said of the entries of a list or an object is
said of texts up to some length only. -/

theorem skip_skip (cs : List Char) : skip (skip cs) = skip cs := by
  unfold skip
  induction cs with
  | nil => rfl
  | cons c cs ih =>
    by_cases hspace : isSpace c = true
    · rw [List.dropWhile_cons_of_pos hspace, ih]
    · rw [List.dropWhile_cons_of_neg hspace, List.dropWhile_cons_of_neg hspace]

theorem isPrefixOf?_of_word {v w : Value} {letters cs rest : List Char}
    (h : word v letters cs = .ok (w, rest)) : letters.isPrefixOf? cs = some rest := by
  induction letters generalizing cs with
  | nil =>
    simp only [word, Except.ok.injEq, Prod.mk.injEq] at h
    exact congrArg some h.2
  | cons e es ih =>
    cases cs with
    | nil => simp [word] at h
    | cons c cs =>
      rw [word] at h
      split at h
      · rename_i hc
        show (if e == c then es.isPrefixOf? cs else none) = some rest
        rw [if_pos (beq_iff_eq.mpr (eq_of_beq hc).symm)]
        exact ih h
      · simp at h

theorem snd_taken (skimmer : Skimmer) (cs : List Char) :
    (taken skimmer cs).map Prod.snd = skimmer cs := by
  rw [taken, Option.map_map]
  exact Option.map_id' ..

section

variable {α β : Type} {close : Char} {limit : Nat}

/-- A reader of entries with commas between them, at least one, and the closing sign behind them. -/
structure ReadsEntries (close : Char) (one : List Char → Reading β)
    (read : Nat → List Char → Reading (List β)) : Prop where
  zero : ∀ cs p, read 0 cs ≠ .ok p
  succ : ∀ fuel cs items rest, read (fuel + 1) cs = .ok (items, rest) →
    ∃ entry behind, one cs = .ok (entry, behind) ∧
      (skip behind = close :: rest ∨
        ∃ next others, skip behind = ',' :: next ∧ read fuel (skip next) = .ok (others, rest))

theorem readsEntries_elementsFrom (one : List Char → Reading Value) :
    ReadsEntries ']' one (elementsFrom one) where
  zero := by simp [elementsFrom]
  succ fuel cs items rest h := by
    rw [elementsFrom] at h
    cases hone : one cs with
    | error f => simp [hone] at h
    | ok p =>
      obtain ⟨v, behind⟩ := p
      refine ⟨v, behind, rfl, ?_⟩
      simp only [hone] at h
      split at h
      · simp at h
      · rename_i hskip
        simp only [Except.ok.injEq, Prod.mk.injEq] at h
        exact .inl (h.2 ▸ hskip)
      · rename_i next hskip
        split at h
        · simp at h
        · simp at h
        · obtain ⟨others, hothers, -⟩ := map_eq_ok_iff.mp h
          exact .inr ⟨next, others, hskip, hothers⟩
      · simp at h

theorem readsEntries_membersFrom (one : List Char → Reading Value) :
    ReadsEntries '}' (member one) (membersFrom one) where
  zero := by simp [membersFrom]
  succ fuel cs items rest h := by
    rw [membersFrom] at h
    cases hone : member one cs with
    | error f => simp [hone] at h
    | ok p =>
      obtain ⟨m, behind⟩ := p
      refine ⟨m, behind, rfl, ?_⟩
      simp only [hone] at h
      split at h
      · simp at h
      · rename_i hskip
        simp only [Except.ok.injEq, Prod.mk.injEq] at h
        exact .inl (h.2 ▸ hskip)
      · rename_i next hskip
        split at h
        · simp at h
        · simp at h
        · obtain ⟨others, hothers, -⟩ := map_eq_ok_iff.mp h
          exact .inr ⟨next, others, hskip, hothers⟩
      · simp at h

/-- A skimmer of entries that stops wherever their reader does, on texts up to a length. -/
def FollowsEntries (limit : Nat) (one : List Char → Reading β)
    (entry : List Char → Option (α × List Char)) : Prop :=
  ∀ cs b rest, cs.length ≤ limit → one (skip cs) = .ok (b, rest) →
    (entry cs).map Prod.snd = some rest ∧ rest.length ≤ cs.length

theorem skimEntries_of_reads {one : List Char → Reading β}
    {read : Nat → List Char → Reading (List β)} {entry : List Char → Option (α × List Char)}
    (hread : ReadsEntries close one read) (hentry : FollowsEntries limit one entry)
    (hclose : close ≠ ',') {fuel fuel' : Nat} (hfuel : fuel ≤ fuel') {cs rest : List Char}
    (hcs : cs.length ≤ limit) {items : List β} (h : read fuel (skip cs) = .ok (items, rest)) :
    (skimEntries close entry fuel' cs).map Prod.snd = some rest := by
  induction fuel generalizing fuel' cs items with
  | zero => exact absurd h (hread.zero _ _)
  | succ fuel ih =>
    obtain ⟨fuel', rfl⟩ : ∃ k, fuel' = k + 1 := ⟨fuel' - 1, by omega⟩
    obtain ⟨b, behind, hone, hnext⟩ := hread.succ _ _ _ _ h
    obtain ⟨hsnd, hbehind⟩ := hentry cs b behind hcs hone
    obtain ⟨⟨part, r⟩, hpart, hr⟩ := Option.map_eq_some_iff.mp hsnd
    obtain rfl : r = behind := hr
    rw [skimEntries]
    simp only [hpart]
    rcases hnext with hskip | ⟨next, others, hskip, hothers⟩
    · simp [hskip]
    · have hshort := skip_length_le r
      simp only [hskip, List.length_cons] at hshort
      have hrest := ih (Nat.le_of_succ_le_succ hfuel) (by omega) hothers
      simp only [hskip]
      rw [if_neg (by simpa using fun heq => hclose heq.symm), if_pos (beq_self_eq_true _),
        Option.map_map]
      exact hrest

theorem skimAll_of_entries {entry : List Char → Option (α × List Char)} {cs rest : List Char}
    (hne : skip cs ≠ []) (hopen : ∀ tail, skip cs ≠ close :: tail)
    (h : (skimEntries close entry cs.length (skip cs)).map Prod.snd = some rest) :
    (skimAll close entry cs).map Prod.snd = some rest := by
  rw [skimAll]
  cases hskip : skip cs with
  | nil => exact absurd hskip hne
  | cons c tail =>
    have hc : ¬ (c == close) = true := fun heq => hopen tail (by rw [hskip, eq_of_beq heq])
    simp only
    rw [if_neg hc, ← hskip]
    exact h

end

/-- A skimmer that stops wherever a reader does, on texts up to a length, and that passes over
blanks in front of a value. -/
structure Follows (limit : Nat) (one : List Char → Reading Value) (skimmer : Skimmer) : Prop where
  frugal : Frugal one
  stops : ∀ cs v rest, cs.length ≤ limit → one cs = .ok (v, rest) → skimmer cs = some rest
  blanks : ∀ cs, skimmer (skip cs) = skimmer cs

section

variable {limit : Nat} {one : List Char → Reading Value} {skimmer : Skimmer} {cs rest : List Char}

theorem Follows.elements (h : Follows limit one skimmer) :
    FollowsEntries limit one (taken skimmer) := by
  intro cs v rest hcs hone
  have hskip := skip_length_le cs
  have hfrugal := h.frugal _ _ _ hone
  refine ⟨?_, by omega⟩
  rw [snd_taken, ← h.blanks]
  exact h.stops _ _ _ (by omega) hone

theorem Follows.members (h : Follows limit one skimmer) :
    FollowsEntries limit (member one) (skimMember skimmer) := by
  intro cs m rest hcs hone
  have hskip := skip_length_le cs
  have hfrugal := member_frugal h.frugal hone
  refine ⟨?_, by omega⟩
  unfold member at hone
  split at hone
  · rename_i body hquote
    split at hone
    · simp at hone
    · rename_i key behind hkey
      have hshorter := stringBody_shorter hkey
      have hbehind := skip_length_le behind
      split at hone
      · simp at hone
      · rename_i text hcolon
        obtain ⟨v, hv, -⟩ := map_eq_ok_iff.mp hone
        simp only [hquote, hcolon, List.length_cons] at hskip hbehind
        have hvalue := h.stops _ _ _ (by omega) hv
        simp [skimMember, hquote, taken, skimString_of_stringBody hkey, hcolon, hvalue]
      · simp at hone
  · simp at hone

theorem skimAll_of_elements (h : Follows limit one skimmer) (hcs : cs.length ≤ limit)
    {items : List Value} (hread : elements one cs = .ok (items, rest)) :
    (skimAll ']' (taken skimmer) cs).map Prod.snd = some rest := by
  have hskip := skip_length_le cs
  unfold Json.elements at hread
  split at hread
  · simp at hread
  · rename_i tail hclose
    simp only [Except.ok.injEq, Prod.mk.injEq] at hread
    simp [skimAll, hclose, hread.2]
  · rename_i hne hopen
    refine skimAll_of_entries hne hopen ?_
    rw [← skip_skip] at hread
    exact skimEntries_of_reads (readsEntries_elementsFrom one) h.elements (by decide)
      (by simpa [skip_skip] using hskip) (by omega) hread

theorem skimAll_of_members (h : Follows limit one skimmer) (hcs : cs.length ≤ limit)
    {ms : List (String × Value)} (hread : members one cs = .ok (ms, rest)) :
    (skimAll '}' (skimMember skimmer) cs).map Prod.snd = some rest := by
  have hskip := skip_length_le cs
  unfold Json.members at hread
  split at hread
  · simp at hread
  · rename_i tail hclose
    simp only [Except.ok.injEq, Prod.mk.injEq] at hread
    simp [skimAll, hclose, hread.2]
  · rename_i hne hopen
    refine skimAll_of_entries hne hopen ?_
    rw [← skip_skip] at hread
    exact skimEntries_of_reads (readsEntries_membersFrom one) h.members (by decide)
      (by simpa [skip_skip] using hskip) (by omega) hread

theorem skimWith_of_sign {c : Char} {tail : List Char} (hskip : skip cs = c :: tail)
    (hnumber : (c == '-' || c.isDigit) = true) : skimWith skimmer cs = skimNumber (c :: tail) := by
  rw [skimWith, hskip]
  simp only
  split
  · exact absurd hnumber (by decide)
  · exact absurd hnumber (by decide)
  · exact absurd hnumber (by decide)
  · exact absurd hnumber (by decide)
  · exact absurd hnumber (by decide)
  · exact absurd hnumber (by decide)
  · rfl

/-- What a reader of values has inside of it is followed on everything behind the first
character. -/
theorem skimWith_of_valueWith {inner : Option (List Char → Reading Value)} {v : Value}
    (hinner : ∀ one, inner = some one → Follows limit one skimmer) (hcs : cs.length ≤ limit + 1)
    (h : valueWith inner cs = .ok (v, rest)) : skimWith skimmer cs = some rest := by
  have hlength := skip_length_le cs
  unfold valueWith at h
  cases hskip : skip cs with
  | nil => simp [hskip] at h
  | cons c tail =>
    simp only [hskip, List.length_cons] at h hlength
    split at h
    · rw [skimWith, hskip]
      exact isPrefixOf?_of_word h
    · rw [skimWith, hskip]
      exact isPrefixOf?_of_word h
    · rw [skimWith, hskip]
      exact isPrefixOf?_of_word h
    · rw [skimWith, hskip]
      obtain ⟨s, hs, -⟩ := map_eq_ok_iff.mp h
      exact skimString_of_stringBody hs
    · rw [skimWith, hskip]
      cases inner with
      | none => simp at h
      | some one =>
        obtain ⟨items, hitems, -⟩ := map_eq_ok_iff.mp h
        exact skimAll_of_elements (hinner one rfl) (by omega) hitems
    · rw [skimWith, hskip]
      cases inner with
      | none => simp at h
      | some one =>
        obtain ⟨ms, hms, -⟩ := map_eq_ok_iff.mp h
        exact skimAll_of_members (hinner one rfl) (by omega) hms
    · split at h
      · rename_i hnumber
        obtain ⟨n, hn, -⟩ := map_eq_ok_iff.mp h
        rw [skimWith_of_sign hskip hnumber]
        exact skimNumber_of_number hn
      · simp at h

end

theorem skimLevels_skip (levels : Nat) (cs : List Char) :
    skimLevels levels (skip cs) = skimLevels levels cs := by
  cases levels with
  | zero => rfl
  | succ levels => rw [skimLevels, skimWith, skimWith, skip_skip]

/-- No text has room for more levels than it has characters. -/
theorem follows_value (levels limit : Nat) : Follows limit (value levels) (skimLevels limit) := by
  induction limit generalizing levels with
  | zero =>
    refine ⟨value_frugal levels, fun cs v rest hcs h => ?_, skimLevels_skip 0⟩
    obtain rfl := List.eq_nil_of_length_eq_zero (Nat.le_zero.mp hcs)
    cases levels <;> simp [value, valueWith, skip] at h
  | succ limit ih =>
    refine ⟨value_frugal levels, fun cs v rest hcs h => ?_, skimLevels_skip (limit + 1)⟩
    cases levels with
    | zero => exact skimWith_of_valueWith (by simp) hcs h
    | succ levels =>
      refine skimWith_of_valueWith (fun one hone => ?_) hcs h
      cases hone
      exact ih levels

/-- **A value that can be read is skimmed up to where its reading ends.** -/
theorem skim_of_value {levels : Nat} {cs rest : List Char} {v : Value}
    (h : value levels cs = .ok (v, rest)) : skim cs = some rest :=
  (follows_value levels cs.length).stops _ _ _ (Nat.le_refl _) h

/-- Skimming goes further than reading: what is written may stand for nothing. -/
example : skim "[1e999, \"\\ud800\"]".toList = some [] := by decide +kernel

end SubsetMatch.Json
