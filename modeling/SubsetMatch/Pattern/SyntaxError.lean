/-!
# Malformed patterns

Why a text is no pattern, in words. The report names the pattern and the reason.
-/

namespace SubsetMatch.Pattern

/-- Why a text is no pattern. -/
inductive Reason
  | groupNameDuplicate
  | groupNameEmpty
  | groupNameInvalid
  | groupNameUnclosed
  | groupUnclosed
  | groupUnopened
  | classEscape
  | classRange
  | classRangeEnd
  | classUnclosed
  | decimal
  | hexEmpty
  | hexDigit
  | hexScalar
  | escapeEnd
  | escapeUnknown
  | flagDangling
  | flagDuplicate
  | flagNegatedTwice
  | flagEnd
  | flagUnknown
  | nesting
  | countOrder
  | countEmpty
  | countUnclosed
  | repetitionOfNothing
  | boundaryUnclosed
  | boundaryUnknown
  | letterClass
  | backreference
  | lookAround
  | beyondAscii
  | notText
  | unknownClass
deriving DecidableEq, Repr

/-- The deepest nesting of groups, brackets and operators. -/
def nestLimit : Nat := 250

/-- The wording of a reason. -/
def Reason.text : Reason → String
  | groupNameDuplicate => "duplicate capture group name"
  | groupNameEmpty => "empty capture group name"
  | groupNameInvalid => "invalid capture group character"
  | groupNameUnclosed => "unclosed capture group name"
  | groupUnclosed => "unclosed group"
  | groupUnopened => "unopened group"
  | classEscape => "invalid escape sequence found in character class"
  | classRange => "invalid character class range, the start must be <= the end"
  | classRangeEnd => "invalid range boundary, must be a literal"
  | classUnclosed => "unclosed character class"
  | decimal => "decimal literal invalid"
  | hexEmpty => "hexadecimal literal empty"
  | hexDigit => "invalid hexadecimal digit"
  | hexScalar => "hexadecimal literal is not a Unicode scalar value"
  | escapeEnd => "incomplete escape sequence, reached end of pattern prematurely"
  | escapeUnknown => "unrecognized escape sequence"
  | flagDangling => "dangling flag negation operator"
  | flagDuplicate => "duplicate flag"
  | flagNegatedTwice => "flag negation operator repeated"
  | flagEnd => "expected flag but got end of regex"
  | flagUnknown => "unrecognized flag"
  | nesting => s!"exceed the maximum number of nested parentheses/brackets ({nestLimit})"
  | countOrder => "invalid repetition count range, the start must be <= the end"
  | countEmpty => "repetition quantifier expects a valid decimal"
  | countUnclosed => "unclosed counted repetition"
  | repetitionOfNothing => "repetition operator missing expression"
  | boundaryUnclosed => "special word boundary assertion is either unclosed or contains an invalid character"
  | boundaryUnknown => "unrecognized special word boundary assertion"
  | letterClass => "invalid Unicode character class"
  | backreference => "backreferences are not supported"
  | lookAround => "look-around, including look-ahead and look-behind, is not supported"
  | beyondAscii => "Unicode not allowed here"
  | notText => "pattern can match invalid UTF-8"
  | unknownClass => "Unicode property not found"

/-- The wording of a refusal, with the pattern. -/
def Reason.message (r : Reason) (pattern : String) : String :=
  s!"regex parse error:\n    {pattern}\nerror: {r.text}"

end SubsetMatch.Pattern
