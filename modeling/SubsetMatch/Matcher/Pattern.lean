import SubsetMatch.Json.Render
import SubsetMatch.Matcher.Error
import SubsetMatch.NameTable
import SubsetMatch.Pattern.Flags

/-!
# Patterns as assertions (§10.6)

A string, or the written form of a number, must contain a match of a pattern. Patterns are
compiled before the value is looked at. A cache keeps those that compiled, by their argument text.
The program's `build_regex` is `compile`; its own `compile`, which looks into the cache first, is
`Cache.compile`.

Results:
* `Faithful.evaluate`: a cache that holds only what compilation yields never changes a verdict, and
  stays such a cache.
-/

namespace SubsetMatch

namespace Pattern

/-- A compiled pattern: whether a text contains a match. -/
abbrev Compiled := String → Bool

/-- A pattern engine: of a body and options, what they compile to or why they do not. -/
abbrev Engine := String → Flags → Except String Compiled

/-- The pattern of an argument (`build_regex`). -/
def compile (engine : Engine) (raw : String) : Except MatcherError Compiled :=
  let (body, flags) := request raw.toList
  match engine (String.ofList body) flags with
  | .error detail => .error (.patternArgument raw detail)
  | .ok p => .ok p

/-- The text that a pattern is applied to. -/
def subject? : Value → Option String
  | .string s => some s
  | .number n => some (String.ofList (Json.numberText n))
  | _ => none

/-- A compiled pattern against a value. -/
def check (raw : String) (p : Compiled) (actual : Value) : Verdict :=
  match subject? actual with
  | none => .error (.subjectKind actual.kind)
  | some subject => if p subject then .ok () else .error (.noMatch subject raw)

/-- The assertion that a pattern occurs in a value. -/
def evaluate (engine : Engine) (matcher : String) (args : List String) (actual : Value) : Verdict :=
  match oneArgument matcher args with
  | .error e => .error e
  | .ok raw =>
    match compile engine raw with
    | .error e => .error e
    | .ok p => check raw p actual

/-- The patterns compiled so far, by argument text. -/
abbrev Cache := NameTable Compiled

namespace Cache

/-- The pattern of an argument, compiled only if it is not cached; failures are not cached. -/
def compile (cache : Cache) (engine : Engine) (raw : String) :
    Except MatcherError Compiled × Cache :=
  match cache.get? raw with
  | some p => (.ok p, cache)
  | none =>
    match Pattern.compile engine raw with
    | .error e => (.error e, cache)
    | .ok p => (.ok p, cache.insert raw p)

/-- The assertion through a cache, and the cache afterwards. -/
def evaluate (cache : Cache) (engine : Engine) (matcher : String) (args : List String)
    (actual : Value) : Verdict × Cache :=
  match oneArgument matcher args with
  | .error e => (.error e, cache)
  | .ok raw =>
    match cache.compile engine raw with
    | (.error e, cache) => (.error e, cache)
    | (.ok p, cache) => (check raw p actual, cache)

/-- A cache that holds only what compilation yields. -/
def Faithful (engine : Engine) (cache : Cache) : Prop :=
  ∀ raw p, cache.get? raw = some p → Pattern.compile engine raw = .ok p

theorem faithful_empty (engine : Engine) : Faithful engine NameTable.empty := by
  intro raw p h
  simp at h

theorem Faithful.compile {engine : Engine} {cache : Cache} (h : Faithful engine cache)
    (raw : String) :
    (cache.compile engine raw).1 = Pattern.compile engine raw ∧
      Faithful engine (cache.compile engine raw).2 := by
  unfold Cache.compile
  cases hc : cache.get? raw with
  | some p => exact ⟨(h raw p hc).symm, h⟩
  | none =>
    cases hp : Pattern.compile engine raw with
    | error e => exact ⟨rfl, h⟩
    | ok p =>
      refine ⟨rfl, fun key q hq => ?_⟩
      rw [NameTable.get?_insert] at hq
      split at hq
      · rename_i heq
        simp only [Option.some.injEq] at hq
        rw [← heq, hp, hq]
      · exact h key q hq

theorem Faithful.evaluate {engine : Engine} {cache : Cache} (h : Faithful engine cache)
    (matcher : String) (args : List String) (actual : Value) :
    (cache.evaluate engine matcher args actual).1 = Pattern.evaluate engine matcher args actual ∧
      Faithful engine (cache.evaluate engine matcher args actual).2 := by
  unfold Cache.evaluate Pattern.evaluate
  cases ha : oneArgument matcher args with
  | error e => exact ⟨rfl, h⟩
  | ok raw =>
    have hc := h.compile raw
    simp only
    generalize cache.compile engine raw = r at hc ⊢
    obtain ⟨r, cache'⟩ := r
    obtain ⟨h1, h2⟩ := hc
    simp only at h1 h2
    subst h1
    cases Pattern.compile engine raw with
    | error e => exact ⟨rfl, h2⟩
    | ok p => exact ⟨rfl, h2⟩

end Cache

end Pattern

end SubsetMatch
