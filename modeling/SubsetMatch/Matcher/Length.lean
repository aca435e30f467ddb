import SubsetMatch.Decimal.Numeral
import SubsetMatch.Matcher.Error

/-!
# Lengths of lists (§10.6)

`arrayLength`, `arrayMinLength` and `arrayMaxLength`, which the program makes of one type,
`ArrayLength`, with three bounds.
-/

namespace SubsetMatch

namespace LengthBound

/-- The length of a list against a wanted one. -/
def check (bound : LengthBound) (expected : Nat) : Value → Verdict
  | .array items =>
    if bound.holds items.length expected then .ok ()
    else .error (.length bound expected items.length)
  | v => .error (.notList v.kind)

/-- The assertion on the length of a list. -/
def evaluate (bound : LengthBound) (matcher : String) (args : List String) (actual : Value) :
    Verdict :=
  match oneArgument matcher args with
  | .error e => .error e
  | .ok raw =>
    match Decimal.readSize? raw.toList with
    | none => .error (.lengthArgument matcher raw)
    | some expected => bound.check expected actual

end LengthBound

end SubsetMatch
