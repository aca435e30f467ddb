import SubsetMatch.Matcher.Pattern
import SubsetMatch.Pattern.Footprint
import SubsetMatch.Pattern.Read
import SubsetMatch.Pattern.Search

/-!
# The pattern engine

What `build_regex` gets from the library of regular expressions that it calls.
-/

namespace SubsetMatch.Pattern

/-- The wording for a pattern that takes too much room. -/
def tooLarge : String :=
  s!"Compiled regex exceeds size limit of {footprintLimit} bytes."

/-- The test for a pattern, or why there is none. -/
def engine : Engine := fun body flags =>
  match read (.ofFlags flags) body.toList with
  | .error e => .error (e.message body)
  | .ok r =>
    if footprintLimit < r.footprint then .error tooLarge else .ok r.occursIn

end SubsetMatch.Pattern
