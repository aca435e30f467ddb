import Mathlib.Logic.Function.Basic
import SubsetMatch.Proofs.Comparator.Calls
import SubsetMatch.Proofs.Matcher.PatternCache

/-!
# Comparisons that remember patterns

The walk is followed here with what its pattern matchers keep. Every pattern matcher has a cache of
its own. Which one a name is bound to is told apart by an identity, so that one matcher can stand
under several names and in several comparators. A nested comparison finds what has been kept so far
and leaves what it keeps.

A custom function may compare on its own, and others may be at work at the same time: the patterns
that are evaluated by them are evaluated between the steps of the walk. They are arbitrary.

All this does not show: from whatever was kept before, as long as it is what compilation yields,
the walk answers what it answers without any memory.

Results:
* `PatternUse.run_answers`: an evaluation through a cache answers what compilation and search do.
* `Matcher.evaluateIn_answers`: so does a matcher, if the nested comparisons do.
* `Setting.node_answers`: so does the walk.
* `pattern_cache_invisible`: evaluations and comparisons, in any number and order.
-/

namespace SubsetMatch

/-! ## What pattern matchers keep -/

/-- The caches of pattern matchers. -/
abbrev Memory (ι : Type) := ι → Pattern.Cache

namespace Memory

/-- Nothing is kept. -/
def empty {ι : Type} : Memory ι :=
  fun _ => NameTable.empty

/-- Every cache holds only what compilation yields. -/
def Faithful {ι : Type} (E : Primitives) (memory : Memory ι) : Prop :=
  ∀ i, (memory i).Faithful E.engine

theorem faithful_empty {ι : Type} (E : Primitives) : (empty : Memory ι).Faithful E :=
  fun _ => Pattern.Cache.faithful_empty E.engine

end Memory

/-- An evaluation of a pattern matcher. -/
structure PatternUse (ι : Type) where
  matcher : ι
  name : String
  args : List String
  actual : Value

section PatternUse

variable {ι : Type} [DecidableEq ι] {E : Primitives}

/-- The evaluation, with the cache of its matcher. -/
def PatternUse.run (E : Primitives) (u : PatternUse ι) : StateM (Memory ι) Verdict :=
  fun memory =>
    let (verdict, cache) := (memory u.matcher).evaluate E.engine u.name u.args u.actual
    (verdict, Function.update memory u.matcher cache)

/-- Evaluations whose verdicts are for others. -/
def PatternUse.runAll (E : Primitives) : List (PatternUse ι) → StateM (Memory ι) Unit
  | [] => return ()
  | u :: uses => do
    let _ ← u.run E
    runAll E uses

/-- **An evaluation through a cache** answers what one without a cache does. -/
theorem PatternUse.run_answers (u : PatternUse ι) : Answers (Memory.Faithful E) (u.run E)
    (Pattern.evaluate E.engine u.name u.args u.actual) := by
  intro memory hmemory
  obtain ⟨hverdict, hcache⟩ := (hmemory u.matcher).evaluate u.name u.args u.actual
  refine ⟨hverdict, fun i => ?_⟩
  change Pattern.Cache.Faithful E.engine (Function.update memory u.matcher _ i)
  by_cases hi : i = u.matcher
  · rw [hi, Function.update_self]
    exact hcache
  · rw [Function.update_of_ne hi]
    exact hmemory i

theorem PatternUse.runAll_answers (uses : List (PatternUse ι)) :
    Answers (Memory.Faithful E) (runAll E uses) () := by
  induction uses with
  | nil => exact .pure ()
  | cons u uses ih => exact u.run_answers.bind ih

end PatternUse

/-! ## Matchers -/

/-- A nested comparison that finds and leaves a memory. -/
abbrev NestedIn (ι : Type) (actual : Value) (reach : Nat) :=
  (needle haystack : Value) → Smaller needle haystack actual reach → StateM (Memory ι) Outcome

/-- The claims of a string that must be a token, against a payload. -/
def Token.checkIn {ι : Type} (E : Primitives) (required : Check) (payload : Members) (reach : Nat)
    (actual : Value) (nested : NestedIn ι actual reach) : StateM (Memory ι) Verdict :=
  match actual, nested with
  | .string text, nested =>
    match h : verify E.signs E.now required text.toList with
    | .error e => return .error (.token e)
    | .ok claims => do
      match ← nested (.object payload) (.object claims) (smaller_claims h _ _) with
      | .error f => return .error (.claims f.kind f.message)
      | .ok () => return .ok ()
  | v, _ => return .error (.tokenKind v.kind)

/-- The assertion that a value is a token registered under a name. -/
def Token.evaluateIn {ι : Type} (E : Primitives) (tokens : TokenTable) (call : Call)
    (actual : Value) (nested : NestedIn ι actual call.reach) : StateM (Memory ι) Verdict :=
  match oneArgument call.name call.args with
  | .error e => return .error e
  | .ok name =>
    match tokens.get? name with
    | none => return .error (.unknownToken name)
    | some registered => checkIn E registered.toCheck registered.payload call.reach actual nested

/-- The assertion that a matcher makes, with the memory. The identity is that of the matcher, if it
is one of patterns. A custom function decides by what its nested comparisons answer. -/
def Matcher.evaluateIn {ι : Type} [DecidableEq ι] (E : Primitives) (tokens : TokenTable) (i : ι)
    (m : Matcher) (call : Call) (actual : Value) (nested : NestedIn ι actual call.reach) :
    StateM (Memory ι) Verdict :=
  match m with
  | .pattern | .sharedPattern => PatternUse.run E ⟨i, call.name, call.args, actual⟩
  | .token => Token.evaluateIn E tokens call actual nested
  | m => fun memory =>
    (m.evaluate E tokens call actual fun n h hsmall => ((nested n h hsmall).run memory).1, memory)

section Matchers

variable {ι : Type} {E : Primitives} {actual : Value} {reach : Nat} {ask : Value → Value → Outcome}

namespace Token

variable {required : Check} {payload : Members} {text : String}

theorem checkIn_of_error {e : Error} (hv : verify E.signs E.now required text.toList = .error e)
    (nested : NestedIn ι (.string text) reach) :
    checkIn E required payload reach (.string text) nested = pure (.error (.token e)) := by
  simp only [checkIn]
  split
  · rename_i e' hv'
    cases hv.symm.trans hv'
    rfl
  · rename_i claims hv'
    cases hv.symm.trans hv'

theorem checkIn_of_ok {claims : Members} (hv : verify E.signs E.now required text.toList = .ok claims)
    (nested : NestedIn ι (.string text) reach) :
    checkIn E required payload reach (.string text) nested = do
      match ← nested (.object payload) (.object claims) (smaller_claims hv _ _) with
      | .error f => return .error (.claims f.kind f.message)
      | .ok () => return .ok () := by
  simp only [checkIn]
  split
  · rename_i e hv'
    cases hv.symm.trans hv'
  · rename_i claims' hv'
    cases hv.symm.trans hv'
    rfl

theorem checkIn_answers {registered : RegisteredToken} {nested : NestedIn ι actual reach}
    (h : ∀ n x hsmall, Answers (Memory.Faithful E) (nested n x hsmall) (ask n x)) :
    Answers (Memory.Faithful E)
      (checkIn E registered.toCheck registered.payload reach actual nested)
      (check E registered reach actual fun n x _ => ask n x) := by
  cases actual with
  | string text =>
    have hcheck : check E registered reach (.string text) (fun n x _ => ask n x) = _ :=
      check_string text ask
    rw [hcheck]
    cases hv : verify E.signs E.now registered.toCheck text.toList with
    | error e =>
      rw [checkIn_of_error hv]
      exact .pure _
    | ok claims =>
      rw [checkIn_of_ok hv]
      simp only
      refine (h _ _ (smaller_claims hv _ _)).bind ?_
      cases ask (.object registered.payload) (.object claims) with
      | error f => exact .pure _
      | ok u => exact .pure _
  | _ => exact .pure _

theorem evaluateIn_answers {tokens : TokenTable} {call : Call}
    {nested : NestedIn ι actual call.reach}
    (h : ∀ n x hsmall, Answers (Memory.Faithful E) (nested n x hsmall) (ask n x)) :
    Answers (Memory.Faithful E) (evaluateIn E tokens call actual nested)
      (evaluate E tokens call actual fun n x _ => ask n x) := by
  unfold evaluateIn evaluate
  cases oneArgument call.name call.args with
  | error e => exact .pure _
  | ok name =>
    simp only
    cases tokens.get? name with
    | none => exact .pure _
    | some registered => exact checkIn_answers h

end Token

/-- **A matcher answers what it does without memory**, if the nested comparisons do. -/
theorem Matcher.evaluateIn_answers [DecidableEq ι] {tokens : TokenTable} {i : ι} (m : Matcher)
    {call : Call} {nested : NestedIn ι actual call.reach}
    (h : ∀ n x hsmall, Answers (Memory.Faithful E) (nested n x hsmall) (ask n x)) :
    Answers (Memory.Faithful E) (m.evaluateIn E tokens i call actual nested)
      (m.evaluate E tokens call actual fun n x _ => ask n x) := by
  cases m with
  | pattern => exact PatternUse.run_answers _
  | sharedPattern => exact PatternUse.run_answers _
  | token => exact Token.evaluateIn_answers h
  | custom run =>
    intro memory hmemory
    have hnested : (fun n x hsmall => ((nested n x hsmall).run memory).1) =
        fun n x _ => ask n x := by
      funext n x hsmall
      exact (h n x hsmall memory hmemory).1
    refine ⟨?_, hmemory⟩
    rw [Matcher.evaluate, ← hnested]
    rfl
  | _ => exact .pure _

end Matchers

/-! ## The walk -/

/-- A comparator, which pattern matcher each of its names stands for, and the patterns that are
evaluated by custom functions and others before a directive is. -/
structure Setting (ι : Type) where
  comparator : Comparator
  matcherOf : String → ι
  meanwhile : Visit → List (PatternUse ι)

namespace Setting

variable {ι : Type} [DecidableEq ι] (E : Primitives) (s : Setting ι)

mutual

/-- The walk over a node, with the memory. -/
def node (needle haystack : Value) (path : KeyPath) : StateM (Memory ι) Outcome :=
  match needle with
  | .string text =>
    match Directive.parse text with
    | .error e => return .error ⟨path, .malformed e⟩
    | .ok none => return Comparator.leaf (.string text) haystack path
    | .ok (some d) =>
      match s.comparator.functions.resolve d.name with
      | .error e => return .error ⟨path, .unknown e⟩
      | .ok m => do
        PatternUse.runAll E (s.meanwhile ⟨.string text, haystack, path⟩)
        match ← m.evaluateIn E s.comparator.tokens (s.matcherOf d.name) ⟨d, path, text.length⟩
            haystack (fun n h _ => node n h .root) with
        | .error e => return .error ⟨path, .assertion d e⟩
        | .ok () => return .ok ()
  | .object expected =>
    match haystack with
    | .object actual => members expected actual path
    | v => return .error ⟨path, .container .object v.kind⟩
  | .array expected =>
    match haystack with
    | .array actual =>
      if expected.length = actual.length then items expected actual 0 path
      else return .error ⟨path, .length expected.length actual.length⟩
    | v => return .error ⟨path, .container .array v.kind⟩
  | .null => return Comparator.leaf .null haystack path
  | .bool b => return Comparator.leaf (.bool b) haystack path
  | .number n => return Comparator.leaf (.number n) haystack path
termination_by (haystack.textLength, needle.size)
decreasing_by
  · exact Comparator.lex_of_smaller (by assumption) (by simp [Value.size])
  · exact Comparator.lex_of_le_of_lt (by simp [Value.textLength]) (by simp [Value.size])
  · exact Comparator.lex_of_le_of_lt (by simp [Value.textLength]) (by simp [Value.size])

/-- The walk over the members of an object, with the memory. -/
def members (expected : List (String × Value)) (actual : Members) (path : KeyPath) :
    StateM (Memory ι) Outcome :=
  match expected with
  | [] => return .ok ()
  | (key, needle) :: rest =>
    match _h : address actual key path with
    | .error f => return .error f
    | .ok t => do
      match ← node needle t.value t.path with
      | .error f => return .error f
      | .ok () => members rest actual path
termination_by (Value.textLengthMembers actual, Value.sizeMembers expected)
decreasing_by
  · exact Comparator.lex_of_le_of_lt (textLength_le_of_address _h)
      (by simp only [Value.sizeMembers]; omega)
  · exact Comparator.lex_of_le_of_lt (Nat.le_refl _) (by simp only [Value.sizeMembers]; omega)

/-- The walk over the elements of lists, with the memory. -/
def items (expected actual : List Value) (position : Nat) (path : KeyPath) :
    StateM (Memory ι) Outcome :=
  match expected, actual with
  | needle :: expected, haystack :: actual => do
    match ← node needle haystack (path.index position) with
    | .error f => return .error f
    | .ok () => items expected actual (position + 1) path
  | _, _ => return .ok ()
termination_by (Value.textLengthItems actual, Value.sizeItems expected)
decreasing_by
  · exact Comparator.lex_of_le_of_lt (by simp only [Value.textLengthItems]; omega)
      (by simp only [Value.sizeItems]; omega)
  · exact Comparator.lex_of_le_of_lt (by simp only [Value.textLengthItems]; omega)
      (by simp only [Value.sizeItems]; omega)

end

variable {E : Primitives} {s : Setting ι}

theorem node_object (expected : Members) (haystack : Value) (path : KeyPath) :
    node E s (.object expected) haystack path =
      match haystack with
      | .object actual => members E s expected actual path
      | v => return .error ⟨path, .container .object v.kind⟩ := by
  cases haystack <;> simp [node]

theorem node_array (expected : List Value) (haystack : Value) (path : KeyPath) :
    node E s (.array expected) haystack path =
      match haystack with
      | .array actual =>
        if expected.length = actual.length then items E s expected actual 0 path
        else return .error ⟨path, .length expected.length actual.length⟩
      | v => return .error ⟨path, .container .array v.kind⟩ := by
  cases haystack <;> simp [node]

theorem members_answers {expected actual : Members} {path : KeyPath}
    (h : ∀ m ∈ expected, ∀ t, address actual m.1 path = .ok t →
      Answers (Memory.Faithful E) (s.node E m.2 t.value t.path)
        (s.comparator.node E m.2 t.value t.path)) :
    Answers (Memory.Faithful E) (s.members E expected actual path)
      (s.comparator.members E expected actual path) := by
  induction expected with
  | nil =>
    rw [members, Comparator.members_nil]
    exact .pure _
  | cons m rest ih =>
    obtain ⟨key, needle⟩ := m
    rw [members, Comparator.members_cons]
    split
    · rename_i f haddress
      simp only [haddress]
      exact .pure _
    · rename_i t haddress
      simp only [haddress]
      refine (h _ (List.mem_cons_self ..) t haddress).bind ?_
      cases s.comparator.node E needle t.value t.path with
      | error f => exact .pure _
      | ok u => exact ih fun m hm => h m (List.mem_cons_of_mem _ hm)

theorem items_answers {expected actual : List Value} {position : Nat} {path : KeyPath}
    (h : ∀ n ∈ expected, ∀ x ∈ actual, ∀ p, Answers (Memory.Faithful E) (s.node E n x p)
      (s.comparator.node E n x p)) :
    Answers (Memory.Faithful E) (s.items E expected actual position path)
      (s.comparator.items E expected actual position path) := by
  induction expected generalizing actual position with
  | nil =>
    rw [items, Comparator.items]
    exact .pure _
    all_goals simp
  | cons needle expected ih =>
    cases actual with
    | nil =>
      rw [items, Comparator.items]
      exact .pure _
      all_goals simp
    | cons haystack actual =>
      rw [items, Comparator.items_cons]
      refine (h _ (List.mem_cons_self ..) _ (List.mem_cons_self ..) _).bind ?_
      cases s.comparator.node E needle haystack (path.index position) with
      | error f => exact .pure _
      | ok u =>
        exact ih fun n hn x hx => h n (List.mem_cons_of_mem _ hn) x (List.mem_cons_of_mem _ hx)

theorem string_answers {text : String} {haystack : Value} {path : KeyPath}
    (h : ∀ n x, Smaller n x haystack text.length → Answers (Memory.Faithful E)
      (s.node E n x .root) (s.comparator.node E n x .root)) :
    Answers (Memory.Faithful E) (s.node E (.string text) haystack path)
      (s.comparator.node E (.string text) haystack path) := by
  rw [node, Comparator.node_string]
  cases Directive.parse text with
  | error e => exact .pure _
  | ok r =>
    cases r with
    | none => exact .pure _
    | some d =>
      simp only
      cases s.comparator.functions.resolve d.name with
      | error e => exact .pure _
      | ok m =>
        simp only
        refine (PatternUse.runAll_answers _).bind ((m.evaluateIn_answers h).bind ?_)
        cases m.evaluate E s.comparator.tokens ⟨d, path, text.length⟩ haystack
            (fun n x _ => s.comparator.node E n x .root) with
        | error e => exact .pure _
        | ok u => exact .pure _

/-- **The walk answers what it does without memory**, by induction on its measure. -/
theorem node_answers (needle haystack : Value) (path : KeyPath) :
    Answers (Memory.Faithful E) (s.node E needle haystack path)
      (s.comparator.node E needle haystack path) := by
  induction hm : (haystack.textLength, needle.size) using
    (Prod.lex Nat.lt_wfRel Nat.lt_wfRel).wf.induction generalizing needle haystack path with
  | _ measure ih =>
    subst hm
    have hsmaller : ∀ n x p, Prod.Lex (· < ·) (· < ·) (x.textLength, n.size)
        (haystack.textLength, needle.size) → Answers (Memory.Faithful E) (s.node E n x p)
          (s.comparator.node E n x p) := fun n x p hlt => ih _ hlt n x p rfl
    clear ih
    cases needle with
    | string text =>
      refine string_answers fun n x hsmall => hsmaller n x .root ?_
      exact Comparator.lex_of_smaller hsmall (by simp [Value.size])
    | object expected =>
      rw [node_object, Comparator.node_object]
      cases haystack with
      | object actual =>
        refine members_answers fun m hm t haddress => hsmaller _ _ _ ?_
        have hsize := Value.size_lt_of_mem_members hm
        refine Comparator.lex_of_le_of_lt ?_ ?_
        · rw [Value.textLength]
          exact textLength_le_of_address haddress
        · rw [Value.size]
          omega
      | _ => exact .pure _
    | array expected =>
      rw [node_array, Comparator.node_array]
      cases haystack with
      | array actual =>
        simp only
        split
        · refine items_answers fun n hn x hx p => hsmaller _ _ _ ?_
          have hsize := Value.size_lt_of_mem_items hn
          refine Comparator.lex_of_le_of_lt ?_ ?_
          · rw [Value.textLength]
            exact Value.textLength_le_of_mem_items hx
          · rw [Value.size]
            omega
        · exact .pure _
      | _ => exact .pure _
    | _ =>
      rw [node, Comparator.node]
      exact .pure _

end Setting

/-! ## Comparisons in a row -/

/-- A comparison of two documents. -/
structure Comparison (ι : Type) where
  setting : Setting ι
  needle : Value
  haystack : Value

namespace Comparison

variable {ι : Type} [DecidableEq ι] {E : Primitives}

/-- Comparisons one after the other. -/
def runAll (E : Primitives) : List (Comparison ι) → StateM (Memory ι) (List Outcome)
  | [] => return []
  | k :: comparisons => do
    let outcome ← k.setting.node E k.needle k.haystack .root
    let outcomes ← runAll E comparisons
    return outcome :: outcomes

/-- The comparison without memory. -/
def alone (E : Primitives) (k : Comparison ι) : Outcome :=
  k.setting.comparator.compare E k.needle k.haystack

/-- **Comparisons in a row answer what each of them answers alone.** -/
theorem runAll_answers (comparisons : List (Comparison ι)) :
    Answers (Memory.Faithful E) (runAll E comparisons) (comparisons.map (alone E)) := by
  induction comparisons with
  | nil => exact .pure []
  | cons k comparisons ih =>
    exact (k.setting.node_answers k.needle k.haystack .root).bind (ih.bind (.pure _))

end Comparison

/-- **The cache of compiled patterns does not show.** Evaluations of one pattern matcher, through
any registries and under any names that are bound to it, answer in any number and order what a
matcher that has kept nothing answers. In the end just the patterns are kept that were the only
argument of an evaluation and compiled, each once. So comparisons, with any comparators that share
their pattern matchers in any way, answer what they answer without any memory, and which were made
before makes no difference. -/
theorem pattern_cache_invisible (E : Primitives) :
    (∀ uses : List SharedUse,
      let run := (SharedUse.runAll E uses).run NameTable.empty
      run.1 = uses.map (SharedUse.alone E) ∧
      (∀ raw, raw ∈ run.2.names ↔ raw ∈ uses.filterMap (SharedUse.compiledText? E)) ∧
      run.2.size = (uses.filterMap (SharedUse.compiledText? E)).dedup.length) ∧
    ∀ (ι : Type) [DecidableEq ι] (comparisons : List (Comparison ι)),
      ((Comparison.runAll E comparisons).run Memory.empty).1 =
        comparisons.map (Comparison.alone E) := by
  refine ⟨fun uses => ⟨?_, fun raw => ?_, SharedUse.size_runAll⟩, fun ι _ comparisons => ?_⟩
  · exact (SharedUse.runAll_answers _ (Pattern.Cache.faithful_empty _)).1
  · rw [SharedUse.mem_names_runAll]
    simp [NameTable.names, NameTable.empty]
  · exact (Comparison.runAll_answers comparisons _ (Memory.faithful_empty E)).1

/-- An engine whose patterns match their own body only, and refuse an open group. -/
def literalPrimitives : Primitives where
  engine := fun body _ => if body = "(" then .error "unclosed group" else .ok (· == body)
  signs := fun _ _ _ _ => false
  now := 0

/-- A pattern evaluated under the name `re`. -/
def literalUse (pattern : String) (actual : Value) : SharedUse where
  registry := NameTable.empty.insert "re" .sharedPattern
  tokens := NameTable.empty
  call := ⟨⟨"re", [pattern]⟩, .root, pattern.length⟩
  actual := actual
  nested := fun _ _ _ => .ok ()
  resolves := rfl

/-- Three spellings of a body are kept apart, and a pattern that is refused is refused again. -/
theorem pattern_cache_invisible_spellings :
    let uses := [literalUse "/a/" (.string "b"), literalUse "/a/i" (.string "a"),
      literalUse "(" (.string "("), literalUse "a" .null, literalUse "/a/" (.string "a"),
      literalUse "(" (.string "(")]
    let run := (SharedUse.runAll literalPrimitives uses).run NameTable.empty
    run.1.map Except.isOk = [false, true, false, false, true, false] ∧ run.2.size = 3 := by
  intro uses run
  obtain ⟨hinvisible, -⟩ := pattern_cache_invisible literalPrimitives
  obtain ⟨hverdicts, -, hsize⟩ := hinvisible uses
  constructor
  · rw [hverdicts]
    decide +kernel
  · rw [hsize]
    decide +kernel

end SubsetMatch
