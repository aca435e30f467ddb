import SubsetMatch.Directive.Scan

/-!
# The grammar of directives

What a directive looks like, said without the scanner: `@`, a name, and between parentheses
segments joined by commas. A segment is a quoted literal between blanks, or bare text.

* `Nested` is bare text: brackets nest, and no comma stands outside of them unless the text is
  itself inside a group.
* `Literal` is the text between two quotes beside the text it stands for. A backslash always takes
  the next character with it, so the literal ends at the first quote that no backslash took.
* `Segment` is the text between two separators beside the argument it writes.

Both kinds of text grow at their end, as a scanner sees them.

Results:
* `Nested.append`, `nested_of_no_bracket`: bare text may be put together, and text without brackets
  and commas is bare.
* `unquoted_append_of_blank`: blanks in front of a text do not decide whether a quote opens it.
* `Segment.blank_cons`: a blank in front of a segment changes nothing.
* `Segmentation.snoc`, `Segmentation.split_last`: a body is its segments but the last, each with its
  comma, and the last.
-/

namespace SubsetMatch.Directive

open Text

/-! ## Bare text -/

/-- The pairs of brackets that group text. -/
def brackets : List (Char × Char) :=
  [('(', ')'), ('[', ']'), ('{', '}')]

/-- A bracket of either side. -/
def IsBracket (c : Char) : Prop :=
  ∃ p ∈ brackets, c = p.1 ∨ c = p.2

/-- Text in which brackets nest; quotes and backslashes stand for themselves. Commas outside of all
groups are allowed or not. -/
inductive Nested : Bool → List Char → Prop
  | nil (commas : Bool) : Nested commas []
  | char {commas : Bool} {cs : List Char} {c : Char} (h : Nested commas cs) (hb : ¬ IsBracket c)
      (hc : c = ',' → commas = true) : Nested commas (cs ++ [c])
  | group {commas : Bool} {cs inner : List Char} {o c : Char} (h : Nested commas cs)
      (hi : Nested true inner) (hp : (o, c) ∈ brackets) :
      Nested commas (cs ++ o :: (inner ++ [c]))

/-- The two quotes. -/
def IsQuote (c : Char) : Prop :=
  c = '"' ∨ c = '\''

/-- The first character of a text that is no blank, if there is one, is no quote. -/
def Unquoted (cs : List Char) : Prop :=
  ∀ c, (cs.find? fun c => !isBlank c) = some c → ¬ IsQuote c

theorem Nested.append {commas : Bool} {a b : List Char} (ha : Nested commas a)
    (hb : Nested commas b) : Nested commas (a ++ b) := by
  induction hb with
  | nil => rwa [List.append_nil]
  | char _ hbr hc ih =>
    rw [← List.append_assoc]
    exact (ih ha).char hbr hc
  | group _ hi hp ih =>
    rw [← List.append_assoc]
    exact (ih ha).group hi hp

theorem nested_of_no_bracket {commas : Bool} {cs : List Char} (hb : ∀ c ∈ cs, ¬ IsBracket c)
    (hc : ∀ c ∈ cs, c ≠ ',') : Nested commas cs := by
  induction cs with
  | nil => exact .nil commas
  | cons c cs ih =>
    have hone : Nested commas ([] ++ [c]) :=
      (Nested.nil commas).char (hb c List.mem_cons_self) fun h => absurd h (hc c List.mem_cons_self)
    exact hone.append (ih (fun d hd => hb d (List.mem_cons_of_mem c hd))
      fun d hd => hc d (List.mem_cons_of_mem c hd))

theorem not_isBracket_of_isBlank {c : Char} (h : isBlank c = true) : ¬ IsBracket c := by
  rintro ⟨p, hp, hc⟩
  simp only [brackets, List.mem_cons, List.not_mem_nil, or_false] at hp
  rcases hp with rfl | rfl | rfl <;> rcases hc with rfl | rfl <;> exact absurd h (by decide)

theorem nested_of_blank {commas : Bool} {cs : List Char} (h : allBlank cs) : Nested commas cs := by
  refine nested_of_no_bracket (fun c hc => ?_) fun c hc => ?_
  · exact not_isBracket_of_isBlank (List.all_eq_true.mp h c hc)
  · rintro rfl
    exact absurd (List.all_eq_true.mp h ',' hc) (by decide)

theorem allBlank_iff_find? {cs : List Char} :
    allBlank cs ↔ (cs.find? fun c => !isBlank c) = none := by
  simp [allBlank]

theorem not_isQuote_of_isBlank {c : Char} (h : isBlank c = true) : ¬ IsQuote c := by
  rintro (rfl | rfl)
  · exact absurd h (by decide)
  · exact absurd h (by decide)

theorem allBlank_snoc {cs : List Char} {c : Char} (h : allBlank cs) (hc : isBlank c = true) :
    allBlank (cs ++ [c]) := by
  unfold allBlank at h ⊢
  rw [List.all_append, h]
  simp [hc]

theorem allBlank_of_append {a b : List Char} (h : allBlank (a ++ b)) : allBlank a := by
  unfold allBlank at h ⊢
  rw [List.all_append, Bool.and_eq_true] at h
  exact h.1

theorem not_allBlank_of_quote {quote : Char} (hq : IsQuote quote) {before after : List Char} :
    ¬ allBlank (before ++ quote :: after) := by
  intro h
  have := List.all_eq_true.mp h quote (by simp)
  exact not_isQuote_of_isBlank this hq

theorem unquoted_of_append {a b : List Char} (h : Unquoted (a ++ b)) : Unquoted a := by
  intro c hc
  refine h c ?_
  rw [List.find?_append, hc]
  rfl

theorem unquoted_append_of_blank {a b : List Char} (ha : allBlank a) :
    Unquoted (a ++ b) ↔ Unquoted b := by
  unfold Unquoted
  rw [List.find?_append, allBlank_iff_find?.mp ha, Option.none_or]

theorem unquoted_of_blank {cs : List Char} (h : allBlank cs) : Unquoted cs := by
  intro c hc
  rw [allBlank_iff_find?.mp h] at hc
  exact absurd hc (by simp)

/-- A text stays unquoted as long as no quote is put behind nothing but blanks. -/
theorem Unquoted.snoc {cs : List Char} {c : Char} (h : Unquoted cs)
    (hc : allBlank cs → ¬ IsQuote c) : Unquoted (cs ++ [c]) := by
  by_cases hb : allBlank cs
  · rw [unquoted_append_of_blank hb]
    intro d hd
    have hdc : d = c := by
      have := List.mem_of_find?_eq_some hd
      rwa [List.mem_singleton] at this
    rw [hdc]
    exact hc hb
  · intro d hd
    refine h d ?_
    rw [List.find?_append] at hd
    cases hf : cs.find? fun c => !isBlank c with
    | none => exact absurd (allBlank_iff_find?.mpr hf) hb
    | some e =>
      rw [hf] at hd
      exact hd

/-! ## Literals -/

/-- What a backslash and the character behind it stand for: the quote or the backslash alone, any
other character with its backslash. -/
def unescape (quote c : Char) : List Char :=
  if c = quote ∨ c = '\\' then [c] else ['\\', c]

/-- The text between two quotes and the text that it stands for. -/
inductive Literal (quote : Char) : List Char → List Char → Prop
  | nil : Literal quote [] []
  | char {body text : List Char} {c : Char} (h : Literal quote body text) (hq : c ≠ quote)
      (hb : c ≠ '\\') : Literal quote (body ++ [c]) (text ++ [c])
  | escape {body text : List Char} {c : Char} (h : Literal quote body text) :
      Literal quote (body ++ ['\\', c]) (text ++ unescape quote c)

theorem Literal.append {quote : Char} {a b s t : List Char} (ha : Literal quote a s)
    (hb : Literal quote b t) : Literal quote (a ++ b) (s ++ t) := by
  induction hb with
  | nil => rwa [List.append_nil, List.append_nil]
  | char _ hq hbs ih =>
    rw [← List.append_assoc, ← List.append_assoc]
    exact ih.char hq hbs
  | escape _ ih =>
    rw [← List.append_assoc, ← List.append_assoc]
    exact ih.escape

/-! ## Segments -/

/-- The text between two separators and the argument that it writes. -/
inductive Segment : List Char → List Char → Prop
  | quoted {before body text after : List Char} {quote : Char} (hbefore : allBlank before)
      (hq : IsQuote quote) (hl : Literal quote body text) (hafter : allBlank after) :
      Segment (before ++ quote :: (body ++ quote :: after)) text
  | bare {text : List Char} (h : Nested false text) (hq : Unquoted text) :
      Segment text (trim text)

/-- Segments, with their arguments, that make up the body of a directive. -/
structure Segmentation (body : List Char) (pieces : List (List Char × List Char)) : Prop where
  nonempty : pieces ≠ []
  segments : ∀ p ∈ pieces, Segment p.1 p.2
  joined : [','].intercalate (pieces.map Prod.fst) = body

/-- The argument of every segment. -/
def argumentsIn (pieces : List (List Char × List Char)) : List String :=
  pieces.map fun p => String.ofList p.2

/-- The arguments of a body: one for every segment, but none for a single blank one. -/
def argumentsOf (body : List Char) (pieces : List (List Char × List Char)) : List String :=
  if allBlank body then [] else argumentsIn pieces

theorem trim_blank_cons {b : Char} (hb : isBlank b = true) (cs : List Char) :
    trim (b :: cs) = trim cs := by
  rw [trim, trim, List.dropWhile_cons, if_pos hb]

theorem Segment.blank_cons {text arg : List Char} {b : Char} (h : Segment text arg)
    (hb : isBlank b = true) : Segment (b :: text) arg := by
  cases h with
  | @quoted before body _ after quote hbefore hq hl hafter =>
    have hbefore' : allBlank (b :: before) := by simpa [allBlank, hb] using hbefore
    exact .quoted hbefore' hq hl hafter
  | bare hn hq =>
    rw [← trim_blank_cons hb]
    have hblank : allBlank [b] := by simpa [allBlank] using hb
    refine .bare ((nested_of_blank hblank).append hn) ?_
    exact (unquoted_append_of_blank hblank).mpr hq

/-! ## Bodies -/

/-- Segments with a comma behind each. -/
def front (pieces : List (List Char × List Char)) : List Char :=
  pieces.flatMap fun p => p.1 ++ [',']

theorem front_cons (p : List Char × List Char) (pieces : List (List Char × List Char)) :
    front (p :: pieces) = p.1 ++ ',' :: front pieces := by
  simp [front]

theorem front_snoc (pieces : List (List Char × List Char)) (p : List Char × List Char) :
    front (pieces ++ [p]) = front pieces ++ (p.1 ++ [',']) := by
  simp [front]

theorem intercalate_cons_cons (a b : List Char) (l : List (List Char)) :
    [','].intercalate (a :: b :: l) = a ++ ',' :: [','].intercalate (b :: l) := by
  simp [List.intercalate, List.intersperse_cons_cons]

/-- Joining segments puts a comma behind each but the last. -/
theorem intercalate_snoc (pieces : List (List Char × List Char)) (p : List Char × List Char) :
    [','].intercalate ((pieces ++ [p]).map Prod.fst) = front pieces ++ p.1 := by
  induction pieces with
  | nil => simp [front, List.intercalate]
  | cons q pieces ih =>
    rw [front_cons]
    cases pieces with
    | nil => simp [front, List.intercalate]
    | cons r pieces =>
      simp only [List.cons_append, List.map_cons] at ih ⊢
      rw [intercalate_cons_cons, ih, List.append_assoc, List.cons_append]

theorem segments_snoc {pieces : List (List Char × List Char)} {seg arg : List Char}
    (h : ∀ p ∈ pieces, Segment p.1 p.2) (hs : Segment seg arg) :
    ∀ p ∈ pieces ++ [(seg, arg)], Segment p.1 p.2 := by
  intro p hp
  rcases List.mem_append.mp hp with hp | hp
  · exact h p hp
  · rw [List.mem_singleton.mp hp]
    exact hs

theorem Segmentation.snoc {pieces : List (List Char × List Char)} {seg arg : List Char}
    (h : ∀ p ∈ pieces, Segment p.1 p.2) (hs : Segment seg arg) :
    Segmentation (front pieces ++ seg) (pieces ++ [(seg, arg)]) :=
  ⟨by simp, segments_snoc h hs, intercalate_snoc pieces (seg, arg)⟩

/-- A body is its segments but the last, each with its comma, and the last. -/
theorem Segmentation.split_last {body : List Char} {pieces : List (List Char × List Char)}
    (h : Segmentation body pieces) :
    ∃ rest seg arg, pieces = rest ++ [(seg, arg)] ∧ body = front rest ++ seg ∧
      (∀ p ∈ rest, Segment p.1 p.2) ∧ Segment seg arg := by
  obtain ⟨rest, ⟨seg, arg⟩, rfl⟩ : ∃ rest p, pieces = rest ++ [p] :=
    ⟨_, _, (List.dropLast_concat_getLast h.nonempty).symm⟩
  refine ⟨rest, seg, arg, rfl, ?_, fun p hp => h.segments p (List.mem_append_left _ hp),
    h.segments (seg, arg) (by simp)⟩
  rw [← h.joined, intercalate_snoc]

/-- A body is its first segment and, behind a comma, the body of the others. -/
theorem Segmentation.head {body : List Char} {p : List Char × List Char}
    {pieces : List (List Char × List Char)} (h : Segmentation body (p :: pieces)) :
    Segment p.1 p.2 ∧ ∃ tail, body = p.1 ++ tail ∧
      (tail = [] ∧ pieces = [] ∨ ∃ rest, tail = ',' :: rest ∧ Segmentation rest pieces) := by
  refine ⟨h.segments p List.mem_cons_self, ?_⟩
  have hjoined := h.joined
  cases pieces with
  | nil => exact ⟨[], by simpa [List.intercalate] using hjoined.symm, .inl ⟨rfl, rfl⟩⟩
  | cons q pieces =>
    rw [List.map_cons, List.map_cons, intercalate_cons_cons] at hjoined
    exact ⟨_, hjoined.symm, .inr ⟨_, rfl, by simp,
      fun r hr => h.segments r (List.mem_cons_of_mem p hr), rfl⟩⟩

theorem Segmentation.single {seg arg : List Char} (h : Segment seg arg) :
    Segmentation seg [(seg, arg)] :=
  ⟨by simp, by simpa using h, by simp [List.intercalate]⟩

theorem Segmentation.cons {seg arg body : List Char} {pieces : List (List Char × List Char)}
    (hs : Segment seg arg) (h : Segmentation body pieces) :
    Segmentation (seg ++ ',' :: body) ((seg, arg) :: pieces) := by
  refine ⟨by simp, fun p hp => ?_, ?_⟩
  · rcases List.mem_cons.mp hp with rfl | hp
    · exact hs
    · exact h.segments p hp
  · obtain ⟨q, rest, rfl⟩ := List.exists_cons_of_ne_nil h.nonempty
    rw [← h.joined, List.map_cons, List.map_cons, intercalate_cons_cons]

/-- A blank in front of a body belongs to its first segment. -/
theorem Segmentation.blank_cons {body : List Char} {pieces : List (List Char × List Char)}
    {b : Char} (h : Segmentation body pieces) (hb : isBlank b = true) :
    ∃ pieces', Segmentation (b :: body) pieces' ∧ argumentsIn pieces' = argumentsIn pieces := by
  obtain ⟨⟨seg, arg⟩, rest, rfl⟩ := List.exists_cons_of_ne_nil h.nonempty
  obtain ⟨hseg, tail, rfl, htail⟩ := h.head
  refine ⟨(b :: seg, arg) :: rest, ?_, rfl⟩
  rcases htail with ⟨rfl, rfl⟩ | ⟨body, rfl, hrest⟩
  · rw [List.append_nil]
    exact .single (hseg.blank_cons hb)
  · exact .cons (hseg.blank_cons hb) hrest

/-! ## Directives -/

/-- A letter or an underscore, then letters, digits and underscores. -/
def IsName (cs : List Char) : Prop :=
  ∃ c rest, cs = c :: rest ∧ isNameStart c = true ∧ ∀ d ∈ rest, isNameRest d = true

/-- A text that starts with the marker, a name and an opening parenthesis. -/
def Starts (text : String) : Prop :=
  ∃ name rest, IsName name ∧ text.toList = marker :: (name ++ '(' :: rest)

/-- A text that writes a directive. -/
def Writes (text : String) (d : Directive) : Prop :=
  ∃ body pieces, IsName d.name.toList ∧
    text.toList = marker :: (d.name.toList ++ '(' :: (body ++ [')'])) ∧
    Segmentation body pieces ∧ d.args = argumentsOf body pieces

end SubsetMatch.Directive
