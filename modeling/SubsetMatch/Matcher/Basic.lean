import SubsetMatch.Failure
import SubsetMatch.Matcher.Length
import SubsetMatch.Matcher.Numeric
import SubsetMatch.Matcher.Pattern
import SubsetMatch.Matcher.TypeName
import SubsetMatch.Token.Table

/-!
# Matchers (§10.5)

A matcher makes the assertion that a directive stands for. The built-in ones look at lengths,
types, patterns, numbers and signed tokens; custom ones are functions. A matcher may ask for a
nested comparison, as the token matcher does for the claims, but only of smaller documents.
A `Call` and a `Nested` comparison are the two halves of the program's `MatchContext`, and
`Matcher.evaluate` is its `evaluate`, one case for each of the types that it is written for.

Results:
* `smaller_claims`: the claims of a token are smaller than the token.
-/

namespace SubsetMatch

/-- What a comparison needs from outside: a pattern engine, a check of signatures and the time. -/
structure Primitives where
  engine : Pattern.Engine
  signs : Token.Signs
  now : Nat

/-- An invocation: the directive, the place of the value it is applied to, and the size that a
nested needle may have. The program hands over the first two only. -/
structure Call where
  directive : Directive
  path : KeyPath
  reach : Nat

/-- The name under which a matcher was invoked. -/
def Call.name (call : Call) : String :=
  call.directive.name

/-- The raw arguments of an invocation. -/
def Call.args (call : Call) : List String :=
  call.directive.args

/-- The documents a matcher may compare: those with less text than its value, or with no more text
and a needle within its reach. The program has no such bound: there, a matcher that goes on asking
for comparisons recurses until the stack is used up. The token matcher keeps the bound by itself,
see `smaller_claims`. -/
def Smaller (needle haystack actual : Value) (reach : Nat) : Prop :=
  haystack.textLength < actual.textLength ∨
    haystack.textLength ≤ actual.textLength ∧ needle.size ≤ reach

/-- The comparison that a matcher may ask for. -/
abbrev Nested (actual : Value) (reach : Nat) :=
  (needle haystack : Value) → Smaller needle haystack actual reach → Outcome

/-- A function that makes an assertion. It stands for every implementation of `evaluate` that always
ends and keeps no state. Such an implementation answers each call and value in one way, whatever
nested comparisons it makes to find the answer; so in a given comparator it is a function of these
two, which is a `CustomMatcher` that ignores its last argument. Hence the bound on nested
comparisons loses no registry in which every comparison ends. -/
abbrev CustomMatcher :=
  (call : Call) → (actual : Value) → Nested actual call.reach → Verdict

/-- A matcher. The two kinds of pattern matchers differ only in who sees their cache. `token` is the
token matcher of the comparator itself (the program's `jwt`), which looks names up in the
comparator's own table of tokens. A token matcher made apart from a comparator has a table of its
own, and such matchers are not modelled; registered by hand, one is a `custom` matcher for as long
as its table stays as it is. -/
inductive Matcher
  | length (bound : LengthBound)
  | numeric (direction : Direction)
  | typeName
  | pattern
  | sharedPattern
  | token
  | custom (run : CustomMatcher)

namespace Token

theorem smaller_claims {signs : Signs} {now : Nat} {check : Check} {text : String}
    {claims : Members} (h : verify signs now check text.toList = .ok claims) (payload : Members)
    (reach : Nat) : Smaller (.object payload) (.object claims) (.string text) reach := by
  refine .inl ?_
  have hlt := textLength_lt_of_verify h
  rw [String.length_toList] at hlt
  simpa [Value.textLength] using hlt

/-- The claims of a string that must be a token, against the registered payload. -/
def check (E : Primitives) (registered : RegisteredToken) (reach : Nat) (actual : Value)
    (nested : Nested actual reach) : Verdict :=
  match actual, nested with
  | .string text, nested =>
    match h : verify E.signs E.now registered.toCheck text.toList with
    | .error e => .error (.token e)
    | .ok claims =>
      match nested (.object registered.payload) (.object claims) (smaller_claims h _ _) with
      | .error f => .error (.claims f.kind f.message)
      | .ok () => .ok ()
  | v, _ => .error (.tokenKind v.kind)

/-- The assertion that a value is a token registered under a name: `lookup`, then `decode`, then the
nested comparison (§10.7). -/
def evaluate (E : Primitives) (tokens : TokenTable) (call : Call) (actual : Value)
    (nested : Nested actual call.reach) : Verdict :=
  match oneArgument call.name call.args with
  | .error e => .error e
  | .ok name =>
    match tokens.get? name with
    | none => .error (.unknownToken name)
    | some registered => check E registered call.reach actual nested

end Token

namespace Matcher

/-- The assertion that a matcher makes. -/
def evaluate (E : Primitives) (tokens : TokenTable) (m : Matcher) (call : Call) (actual : Value)
    (nested : Nested actual call.reach) : Verdict :=
  match m with
  | length bound => bound.evaluate call.name call.args actual
  | numeric direction => direction.evaluate call.name call.args actual
  | typeName => TypeName.evaluate call.name call.args actual
  | pattern | sharedPattern => Pattern.evaluate E.engine call.name call.args actual
  | token => Token.evaluate E tokens call actual nested
  | custom run => run call actual nested

/-- The built-in matchers: all but custom functions. -/
def isBuiltIn : Matcher → Bool
  | custom _ => false
  | _ => true

end Matcher

end SubsetMatch
