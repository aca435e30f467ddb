import SubsetMatch.Directive.Basic

/-!
# Malformed directives (§10.9)

Why a text that starts like a directive is none, and where the culprit stands: the fields and the
wording of `DirectiveSyntaxError`.

Results:
* `offending_length_le`: at most 24 characters of the text are shown.
-/

namespace SubsetMatch.Directive

open Text

/-- Why a text that starts like a directive is none. -/
inductive Reason
  | afterQuoted
  | unterminated
  | mismatched (found expected : Char)
  | unbalanced (found : Char)
  | unclosed (expected : Char)
  | missingClose
  | afterClose
deriving DecidableEq, Repr

/-- The wording of a reason. -/
def Reason.text : Reason → String
  | afterQuoted => "unexpected character after quoted argument"
  | unterminated => "unterminated quoted argument"
  | mismatched found expected => s!"mismatched '{found}', expected '{expected}'"
  | unbalanced found => s!"unbalanced '{found}'"
  | unclosed expected => s!"unclosed group, expected '{expected}'"
  | missingClose => "missing closing parenthesis"
  | afterClose => "unexpected characters after closing parenthesis"

/-- A reason and the byte offset of its culprit. -/
structure Fault where
  offset : Nat
  reason : Reason
deriving DecidableEq, Repr

/-- A malformed directive: the whole text, the byte offset of the culprit and the reason. -/
structure SyntaxError where
  input : String
  offset : Nat
  reason : Reason
deriving DecidableEq, Repr

namespace SyntaxError

/-- The most characters shown of the offending text. -/
def shown : Nat := 24

/-- The text at the culprit. -/
def offending (e : SyntaxError) : String :=
  String.ofList (((Utf8.fromByte e.offset e.input.toList).getD []).take shown)

/-- The wording of the error. -/
def message (e : SyntaxError) : String :=
  s!"Invalid directive \"{e.input}\": {e.reason.text} at offset {e.offset} (near \"{e.offending}\")."

theorem offending_length_le (e : SyntaxError) : e.offending.length ≤ 24 := by
  simp only [offending, shown, String.length_ofList, List.length_take]
  omega

end SyntaxError

end SubsetMatch.Directive
