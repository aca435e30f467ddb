import SubsetMatch.Directive.SyntaxError
import SubsetMatch.KeyPath
import SubsetMatch.Matcher.Error

/-!
# Failed comparisons (§10.9)

A comparison fails at a node of the haystack, for a cause. This is the program's `ComparisonFailure`
before it is put into words: its `message`, `kind` and `path` are computed from the cause and the
node. With the documents it becomes a `Report`.

Results:
* `kind_malformed_iff`: only a malformed directive is reported as such.
-/

namespace SubsetMatch

/-- What a needle that is no leaf asks for. -/
inductive Container
  | object
  | array
deriving DecidableEq, Repr

/-- The wording of a container. -/
def Container.phrase : Container → String
  | object => "an object"
  | array => "an array"

/-- Why a node of the haystack does not satisfy the needle. -/
inductive Cause
  /-- another leaf -/
  | value (expected actual : Value)
  /-- no container of the wanted kind -/
  | container (expected : Container) (actual : Kind)
  /-- a list of another length -/
  | length (expected actual : Nat)
  /-- an object without a key -/
  | missingKey (key : String)
  /-- a member of `owner` that is no list -/
  | notList (owner : KeyPath) (base : String)
  /-- a list that is too short -/
  | noElement (position : Nat)
  /-- a malformed directive -/
  | malformed (e : Directive.SyntaxError)
  /-- a directive that names no function -/
  | unknown (e : MatcherError)
  /-- an assertion that does not hold -/
  | assertion (d : Directive) (e : MatcherError)

/-- A node of the haystack and what is wrong with it. -/
structure Failure where
  path : KeyPath
  cause : Cause

namespace Failure

/-- The kind of a failure. -/
def kind (f : Failure) : FailureKind :=
  match f.cause with
  | .malformed _ => .malformed
  | .unknown e | .assertion _ e => e.kind
  | _ => .mismatch

/-- The wording of a failure. -/
def message (f : Failure) : String :=
  let path := f.path.render
  match f.cause with
  | .value expected actual =>
    s!"Value mismatch at {path}: expected {expected.describe}, got {actual.describe}."
  | .container expected actual =>
    s!"Type mismatch at {path}: expected {expected.phrase}, got \"{actual.name}\"."
  | .length expected actual =>
    s!"Array length mismatch at {path}: expected {expected} entries, got {actual}."
  | .missingKey key => s!"Haystack object at {path} is missing the \"{key}\" key."
  | .notList owner base =>
    s!"Element at key \"{base}\" in the haystack object at {owner.render} is not a list."
  | .noElement position =>
    s!"The index {position} does not exist in the haystack list at {path}."
  | .malformed e => e.message
  | .unknown e => s!"{e.message} (at {path})"
  | .assertion d e => s!"{d.render} failed at {path}: {e.message}"

theorem kind_malformed_iff (f : Failure) :
    f.kind = .malformed ↔ ∃ e, f.cause = .malformed e := by
  unfold kind
  split
  · simp_all
  all_goals simp_all [MatcherError.kind_ne_malformed]

end Failure

/-- What a comparison answers. -/
abbrev Outcome := Except Failure Unit

end SubsetMatch
