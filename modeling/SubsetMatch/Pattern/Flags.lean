import SubsetMatch.Text.Cut

/-!
# Delimited patterns (§10.6)

A pattern may be written `/body/flags`. The flags are the letters behind the last slash; if one of
them is no flag, the whole text is the pattern. The program splits with `split_delimited`, and
`build_regex` puts the options on one after the other.

Results:
* `splitDelimited_eq_some_iff`: a text is delimited exactly when it is a slash, a body, a slash and
  flags, and there is only one such way to cut it.
* `ofLetters_eq`: an option is on in the end iff its letter is among the flags.
* `ofLetters_congr`: flags with the same letters mean the same.
-/

namespace SubsetMatch.Pattern

/-- The options of a pattern. -/
structure Flags where
  ignoreCase : Bool
  multiLine : Bool
  dotAll : Bool
  extended : Bool
  swapGreed : Bool
  unicode : Bool
deriving DecidableEq, Repr

namespace Flags

/-- No option asked for. A pattern is about Unicode characters all the same. -/
def none : Flags :=
  ⟨false, false, false, false, false, true⟩

/-- The letters that are flags (`SUPPORTED_FLAGS`). The last one asks for what always holds. -/
def letters : List Char :=
  ['i', 'm', 's', 'x', 'U', 'u']

/-- The options with the one of a letter put on. -/
def set (f : Flags) (letter : Char) : Flags :=
  match letter with
  | 'i' => { f with ignoreCase := true }
  | 'm' => { f with multiLine := true }
  | 's' => { f with dotAll := true }
  | 'x' => { f with extended := true }
  | 'U' => { f with swapGreed := true }
  | _ => { f with unicode := true }

/-- The options that letters stand for, put on one after the other. -/
def ofLetters (cs : List Char) : Flags :=
  cs.foldl set none

/-- What one letter does to each option. -/
theorem set_eq (f : Flags) (c : Char) (h : f.unicode = true) :
    f.set c = ⟨f.ignoreCase || 'i' == c, f.multiLine || 'm' == c, f.dotAll || 's' == c,
      f.extended || 'x' == c, f.swapGreed || 'U' == c, true⟩ := by
  unfold set
  split
  all_goals grind

/-- What a run of letters does to each option: an option is on in the end iff it was on or its
letter is there, wherever and how often. -/
theorem foldl_set (f : Flags) (cs : List Char) (h : f.unicode = true) :
    cs.foldl set f = ⟨f.ignoreCase || cs.contains 'i', f.multiLine || cs.contains 'm',
      f.dotAll || cs.contains 's', f.extended || cs.contains 'x', f.swapGreed || cs.contains 'U',
      true⟩ := by
  induction cs generalizing f with
  | nil => simp [← h]
  | cons c cs ih =>
    rw [List.foldl_cons, set_eq f c h, ih _ rfl]
    simp only [List.contains_cons, Bool.or_assoc]

/-- An option is on iff its letter is there, and Unicode always. -/
theorem ofLetters_eq (cs : List Char) :
    ofLetters cs = ⟨cs.contains 'i', cs.contains 'm', cs.contains 's', cs.contains 'x',
      cs.contains 'U', true⟩ := by
  rw [ofLetters, foldl_set none cs rfl]
  simp [none]

theorem ofLetters_congr {a b : List Char} (h : ∀ c, c ≠ 'u' → (c ∈ a ↔ c ∈ b)) :
    ofLetters a = ofLetters b := by
  simp only [ofLetters_eq, Flags.mk.injEq, List.contains_eq_mem, decide_eq_decide]
  exact ⟨h _ (by decide), h _ (by decide), h _ (by decide), h _ (by decide), h _ (by decide),
    trivial⟩

end Flags

/-- The body and the flags of a delimited pattern. -/
def splitDelimited (raw : List Char) : Option (List Char × List Char) :=
  match raw with
  | '/' :: rest =>
    match Text.cutLast '/' rest with
    | some (body, flags) => if flags.all Flags.letters.contains then some (body, flags) else none
    | none => none
  | _ => none

theorem splitDelimited_eq_some_iff {raw body flags : List Char} :
    splitDelimited raw = some (body, flags) ↔
      raw = '/' :: (body ++ '/' :: flags) ∧ ∀ c ∈ flags, c ∈ Flags.letters := by
  unfold splitDelimited
  constructor
  · intro h
    split at h
    · split at h
      · rename_i hcut
        split at h
        · rename_i hall
          simp only [Option.some.injEq, Prod.mk.injEq] at h
          obtain ⟨rfl, rfl⟩ := h
          refine ⟨by rw [(Text.cutLast_eq_some_iff.1 hcut).1], fun c hc => ?_⟩
          simpa using List.all_eq_true.1 hall c hc
        · simp at h
      · simp at h
    · simp at h
  · rintro ⟨rfl, hall⟩
    have hslash : '/' ∉ flags := fun h => absurd (hall _ h) (by decide)
    simp only [Text.cutLast_eq_some_iff.2 ⟨rfl, hslash⟩]
    rw [if_pos (List.all_eq_true.2 fun c hc => by simpa using hall c hc)]

/-- What a pattern argument asks for: the body to compile and the options. -/
def request (raw : List Char) : List Char × Flags :=
  match splitDelimited raw with
  | some (body, flags) => (body, Flags.ofLetters flags)
  | none => (raw, Flags.none)

end SubsetMatch.Pattern
