import SubsetMatch.Json.Value
import SubsetMatch.Token.Verify

/-!
# Why an assertion does not hold (§10.9)

An assertion fails because of its arguments, which is a fault of the needle, or because the haystack
does not satisfy it. The program's `MatcherError` is one of these two with a text. Here each failure
keeps what its text is made from, `kind` says which of the two it is, and `message` is the text. Its
`ErrorKind` is `FailureKind`, where `Syntax` is `malformed`.

Results:
* `kind_ne_malformed`: a matcher never reports a malformed directive.
-/

namespace SubsetMatch

/-- The three kinds of failures. -/
inductive FailureKind
  | malformed
  | argument
  | mismatch
deriving DecidableEq, Repr

/-- The label of a kind. -/
def FailureKind.label : FailureKind → String
  | malformed => "syntax"
  | argument => "argument"
  | mismatch => "mismatch"

/-- How the length of a list is compared with the wanted one. -/
inductive LengthBound
  | exact
  | atLeast
  | atMost
deriving DecidableEq, Repr

namespace LengthBound

/-- Whether a length satisfies the bound. -/
def holds (bound : LengthBound) (actual expected : Nat) : Bool :=
  match bound with
  | exact => actual == expected
  | atLeast => expected ≤ actual
  | atMost => actual ≤ expected

/-- The wording of the bound. -/
def phrase : LengthBound → String
  | exact => "exactly"
  | atLeast => "more than or equal to"
  | atMost => "less than or equal to"

end LengthBound

/-- On which side of its bound a number must lie. -/
inductive Direction
  | greater
  | less
deriving DecidableEq, Repr

/-- The wording of a direction. -/
def Direction.phrase : Direction → String
  | greater => "greater than"
  | less => "less than"

/-- Why an assertion does not hold. -/
inductive MatcherError
  /-- a wrong number of arguments -/
  | arity (matcher : String) (expected given : Nat)
  /-- no function of that name -/
  | unknownFunction (name : String)
  /-- an argument that is no length -/
  | lengthArgument (matcher raw : String)
  /-- a length asked of something else than a list -/
  | notList (kind : Kind)
  /-- a list of another length -/
  | length (bound : LengthBound) (expected actual : Nat)
  /-- an argument that is no number -/
  | boundArgument (matcher raw : String)
  /-- a number asked of something else -/
  | notNumeric (shown : String)
  /-- a number on the wrong side of its bound -/
  | outOfBound (direction : Direction) (shown raw : String)
  /-- an argument that names no type -/
  | typeArgument (raw : String)
  /-- a value of another type -/
  | wrongType (expected : String) (actual : Kind)
  /-- an argument that is no pattern -/
  | patternArgument (raw detail : String)
  /-- a pattern applied to something without text -/
  | subjectKind (kind : Kind)
  /-- a text that the pattern does not occur in -/
  | noMatch (subject raw : String)
  /-- no token of that name -/
  | unknownToken (name : String)
  /-- a token asked of something else than a string -/
  | tokenKind (kind : Kind)
  /-- a token that is refused -/
  | token (e : Token.Error)
  /-- claims that do not satisfy the registered payload -/
  | claims (kind : FailureKind) (message : String)
  /-- no algorithm to register a token with -/
  | noAlgorithm (name : String)
  /-- an algorithm that no token may be registered with -/
  | unknownAlgorithm (name : String)
  /-- an argument refused by a custom matcher -/
  | customArgument (message : String)
  /-- a value refused by a custom matcher -/
  | customMismatch (message : String)
deriving DecidableEq, Repr

namespace MatcherError

/-- The kind of a failed assertion. Claims that fail for another reason than their values make the
argument unusable. -/
def kind : MatcherError → FailureKind
  | notList _ | length .. | notNumeric _ | outOfBound .. | wrongType .. | subjectKind _ | noMatch ..
  | tokenKind _ | token _ | claims .mismatch _ | customMismatch _ => .mismatch
  | _ => .argument

/-- The plural ending of a count. -/
def plural (n : Nat) : String :=
  if n == 1 then "" else "s"

/-- The wording of a failed assertion. -/
def message : MatcherError → String
  | arity matcher expected given =>
    s!"@{matcher} expects {expected} argument{plural expected}, got {given}."
  | unknownFunction name =>
    s!"Unknown directive \"@{name}\": no function named \"{name}\" is registered."
  | lengthArgument matcher raw =>
    s!"@{matcher} expects a non-negative integer length, got \"{raw}\"."
  | notList kind => s!"Only numerically indexed arrays are supported, got \"{kind.name}\"."
  | length bound expected actual =>
    s!"Expected array to have {bound.phrase} {expected} entries, actual length: {actual}."
  | boundArgument matcher raw => s!"@{matcher} expects a numeric bound, got \"{raw}\"."
  | notNumeric shown => s!"\"{shown}\" is not numeric."
  | outOfBound direction shown raw => s!"\"{shown}\" is not {direction.phrase} \"{raw}\"."
  | typeArgument raw => s!"Unsupported variable type: \"{raw}\"."
  | wrongType expected actual =>
    s!"Expected variable type \"{expected}\", got \"{actual.name}\"."
  | patternArgument raw detail => s!"Invalid regular expression \"{raw}\": {detail}"
  | subjectKind kind =>
    "Regular expression matching can only be applied to strings, integers or doubles, " ++
      s!"got \"{kind.name}\"."
  | noMatch subject raw => s!"Subject \"{subject}\" did not match pattern \"{raw}\"."
  | unknownToken name => s!"No JWT registered for \"{name}\"."
  | tokenKind kind => s!"JWT matching can only be applied to strings, got \"{kind.name}\"."
  | token e => s!"Invalid JWT: {e.message}"
  | claims _ message => s!"JWT mismatch: {message}"
  | noAlgorithm name => s!"JWT \"{name}\" must allow at least one algorithm."
  | unknownAlgorithm name =>
    s!"Unsupported JWT algorithm \"{name}\", expected one of HS256, HS384, HS512."
  | customArgument message => message
  | customMismatch message => message

theorem kind_ne_malformed (e : MatcherError) : e.kind ≠ .malformed := by
  unfold kind
  split <;> simp

end MatcherError

/-- What a matcher answers. -/
abbrev Verdict := Except MatcherError Unit

/-- The only argument, if there is exactly one (`expect_arity`). -/
def oneArgument (matcher : String) : List String → Except MatcherError String
  | [arg] => .ok arg
  | args => .error (.arity matcher 1 args.length)

end SubsetMatch
