import SubsetMatch.Proofs.Matcher.Alike
import SubsetMatch.Proofs.Matcher.PatternCache

/-!
# What a pattern argument asks for

A pattern argument is a body between slashes, with flags behind the second one, or it is the pattern
itself. No flag is a slash, so the second slash can only be the last one of the argument, and the
argument tells body and flags, whatever slashes the body has of its own. If a letter behind the last
slash is no flag, the argument is a pattern with slashes in it.

Flags put options on, and none puts an option off. So in the end an option is on iff its letter is
there, and the order and the number of letters do not matter. The letter `u` asks for what holds
without it.

Results:
* `Delimits.unique`: an argument is delimited in at most one way.
* `compile_of_delimits`, `compile_of_not_delimited`: what is compiled, and with which options.
* `blame_evaluate_eq`: arguments that ask for the same are answered alike.
* `pattern_argument_tells_request`: all of this, whatever patterns have been evaluated before.
-/

namespace SubsetMatch.Pattern

variable {engine : Engine} {raw raw' body body' flags flags' : String}

/-- An argument that puts a body between slashes, with flags behind the second one. -/
def Delimits (raw body flags : String) : Prop :=
  raw = "/" ++ body ++ "/" ++ flags ∧ ∀ c ∈ flags.toList, c ∈ Flags.letters

/-- An argument is delimited as it is split. -/
theorem delimits_iff :
    Delimits raw body flags ↔ splitDelimited raw.toList = some (body.toList, flags.toList) := by
  have htext : raw = "/" ++ body ++ "/" ++ flags ↔
      raw.toList = '/' :: (body.toList ++ '/' :: flags.toList) := by
    rw [← String.toList_inj]
    simp
  rw [splitDelimited_eq_some_iff, Delimits, htext]

/-- **An argument is delimited in at most one way.** -/
theorem Delimits.unique (h : Delimits raw body flags) (h' : Delimits raw body' flags') :
    body = body' ∧ flags = flags' := by
  rw [delimits_iff] at h h'
  rw [h] at h'
  simpa [String.toList_inj] using h'

theorem request_of_delimits (h : Delimits raw body flags) :
    request raw.toList = (body.toList, .ofLetters flags.toList) := by
  rw [request, delimits_iff.mp h]

theorem request_of_not_delimited (h : ∀ body flags, ¬ Delimits raw body flags) :
    request raw.toList = (raw.toList, .none) := by
  cases hsplit : splitDelimited raw.toList with
  | none => rw [request, hsplit]
  | some p =>
    obtain ⟨b, f⟩ := p
    refine absurd (delimits_iff.mpr ?_) (h (String.ofList b) (String.ofList f))
    rw [hsplit, String.toList_ofList, String.toList_ofList]

/-- What an argument asks for is compiled, and a refusal shows the argument. -/
theorem compile_of_request {pattern : List Char} {options : Flags}
    (h : request raw.toList = (pattern, options)) :
    compile engine raw =
      (engine (String.ofList pattern) options).mapError (.patternArgument raw) := by
  simp only [compile, h]
  cases engine (String.ofList pattern) options with
  | error detail => rfl
  | ok p => rfl

/-- **The body of a delimited argument is compiled** with just the options that flags ask for. -/
theorem compile_of_delimits (h : Delimits raw body flags) :
    compile engine raw =
      (engine body
        { ignoreCase := flags.toList.contains 'i'
          multiLine := flags.toList.contains 'm'
          dotAll := flags.toList.contains 's'
          extended := flags.toList.contains 'x'
          swapGreed := flags.toList.contains 'U'
          unicode := true }).mapError (.patternArgument raw) := by
  rw [compile_of_request (request_of_delimits h), Flags.ofLetters_eq, String.ofList_toList]

/-- **Any other argument is compiled as it is**, with no options. -/
theorem compile_of_not_delimited (h : ∀ body flags, ¬ Delimits raw body flags) :
    compile engine raw = (engine raw .none).mapError (.patternArgument raw) := by
  rw [compile_of_request (request_of_not_delimited h), String.ofList_toList]

/-! ## Arguments that ask for the same -/

/-- How a compiled pattern was written shows in the wording of a verdict only. -/
theorem blame_check (raw raw' : String) (p : Compiled) (actual : Value) :
    Verdict.blame (check raw p actual) = Verdict.blame (check raw' p actual) := by
  cases hsubject : subject? actual with
  | none => simp only [check, hsubject]
  | some subject =>
    cases hp : p subject with
    | false =>
      simp only [check, hsubject, hp]
      rfl
    | true => simp only [check, hsubject, hp, if_true]

/-- **Arguments that ask for the same are answered alike**, in success and in kind of failure. -/
theorem blame_evaluate_eq (h : request raw.toList = request raw'.toList) (matcher : String)
    (actual : Value) :
    Verdict.blame (evaluate engine matcher [raw] actual) =
      Verdict.blame (evaluate engine matcher [raw'] actual) := by
  obtain ⟨⟨pattern, options⟩, hraw⟩ : ∃ r, request raw.toList = r := ⟨_, rfl⟩
  have hraw' : request raw'.toList = (pattern, options) := h ▸ hraw
  simp only [evaluate, oneArgument, compile_of_request hraw, compile_of_request hraw']
  cases engine (String.ofList pattern) options with
  | error detail => rfl
  | ok p => exact blame_check raw raw' p actual

/-- Flags with the same letters, `u` aside, ask for the same. -/
theorem request_eq_of_delimits (h : Delimits raw body flags) (h' : Delimits raw' body flags')
    (hletters : ∀ c, c ≠ 'u' → (c ∈ flags.toList ↔ c ∈ flags'.toList)) :
    request raw.toList = request raw'.toList := by
  rw [request_of_delimits h, request_of_delimits h', Flags.ofLetters_congr hletters]

/-! ## Evaluations after others -/

/-- The patterns that a matcher keeps after some evaluations. -/
def keptAfter (E : Primitives) (earlier : List SharedUse) : Cache :=
  ((SharedUse.runAll E earlier).run NameTable.empty).2

theorem faithful_keptAfter (E : Primitives) (earlier : List SharedUse) :
    (keptAfter E earlier).Faithful E.engine :=
  (SharedUse.runAll_answers _ (Cache.faithful_empty _)).2

/-- **An argument tells what it asks for**, whatever the engine does. At most one body and one run
of flags make up an argument. If they do, the body is compiled, with an option on iff its letter is
one of the flags; if no body and flags do, the whole argument is compiled, without options. And two
arguments with the same body and the same set of flags, `u` aside, are answered alike: both hold of
a value, or both fail with one kind of failure, whatever has been evaluated before. -/
theorem pattern_argument_tells_request (E : Primitives) :
    (∀ raw body flags body' flags', Delimits raw body flags → Delimits raw body' flags' →
      body = body' ∧ flags = flags') ∧
    (∀ raw body flags, Delimits raw body flags →
      compile E.engine raw =
        (E.engine body
          { ignoreCase := flags.toList.contains 'i'
            multiLine := flags.toList.contains 'm'
            dotAll := flags.toList.contains 's'
            extended := flags.toList.contains 'x'
            swapGreed := flags.toList.contains 'U'
            unicode := true }).mapError (.patternArgument raw)) ∧
    (∀ raw, (∀ body flags, ¬ Delimits raw body flags) →
      compile E.engine raw = (E.engine raw .none).mapError (.patternArgument raw)) ∧
    ∀ raw raw' body flags flags', Delimits raw body flags → Delimits raw' body flags' →
      (∀ c, c ≠ 'u' → (c ∈ flags.toList ↔ c ∈ flags'.toList)) →
      ∀ (earlier earlier' : List SharedUse) (matcher : String) (actual : Value),
        Verdict.blame ((keptAfter E earlier).evaluate E.engine matcher [raw] actual).1 =
          Verdict.blame ((keptAfter E earlier').evaluate E.engine matcher [raw'] actual).1 := by
  refine ⟨fun _ _ _ _ _ h h' => h.unique h', fun _ _ _ h => compile_of_delimits h,
    fun _ h => compile_of_not_delimited h, ?_⟩
  intro raw raw' body flags flags' h h' hletters earlier earlier' matcher actual
  rw [((faithful_keptAfter E earlier).evaluate matcher [raw] actual).1,
    ((faithful_keptAfter E earlier').evaluate matcher [raw'] actual).1]
  exact blame_evaluate_eq (request_eq_of_delimits h h' hletters) matcher actual

/-- An engine whose patterns match texts of their own length if case is ignored, and only their own
body otherwise. -/
def lengthPrimitives : Primitives where
  engine := fun body flags =>
    .ok fun s => if flags.ignoreCase then s.length == body.length else s == body
  signs := fun _ _ _ _ => false
  now := 0

/-- The body has a slash, and the flags are the same ones in another order and number; in a path no
letters are flags. -/
theorem pattern_argument_tells_request_slashes :
    let E := lengthPrimitives
    let verdict := fun raw => ((keptAfter E []).evaluate E.engine "re" [raw] (.string "A/B")).1
    Delimits "/a/b/im" "a/b" "im" ∧ Delimits "/a/b/muuim" "a/b" "muuim" ∧
      (∀ body flags, Delimits "/a/b/im" body flags → body = "a/b" ∧ flags = "im") ∧
      (∀ body flags, ¬ Delimits "/api/users" body flags) ∧
      (∃ p, compile E.engine "/api/users" = .ok p ∧ p "/api/users" = true) ∧
      (∃ p, compile E.engine "/a/b/im" = .ok p ∧ p "A/B" = true) ∧
      Verdict.blame (verdict "/a/b/im") = none ∧ Verdict.blame (verdict "/a/b/muuim") = none := by
  intro E verdict
  have h : Delimits "/a/b/im" "a/b" "im" := ⟨by rfl, by simp [Flags.letters]⟩
  have h' : Delimits "/a/b/muuim" "a/b" "muuim" := ⟨by rfl, by simp [Flags.letters]⟩
  have hletters : ∀ c, c ≠ 'u' → (c ∈ "im".toList ↔ c ∈ "muuim".toList) := by
    intro c hc
    simp only [String.reduceToList, List.mem_cons, List.not_mem_nil, or_false]
    grind
  have hraw : ∀ body flags, ¬ Delimits "/api/users" body flags := by
    intro body flags hd
    have hsplit : splitDelimited "/api/users".toList = none := by rfl
    rw [delimits_iff, hsplit] at hd
    cases hd
  obtain ⟨hunique, hdelimited, hother, halike⟩ := pattern_argument_tells_request E
  have hverdict : Verdict.blame (verdict "/a/b/im") = none := by decide +kernel
  have hsame := halike _ _ _ _ _ h h' hletters [] [] "re" (.string "A/B")
  exact ⟨h, h', fun body flags hd => hunique _ _ _ _ _ hd h, hraw, ⟨_, hother _ hraw, by decide⟩,
    ⟨_, hdelimited _ _ _ h, by decide⟩, hverdict, hsame.symm.trans hverdict⟩

end SubsetMatch.Pattern
