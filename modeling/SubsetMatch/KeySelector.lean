import SubsetMatch.Decimal.Numeral
import SubsetMatch.Text.Cut

/-!
# Keys of needle objects (§10.4)

A needle key addresses a member, or, when it ends in brackets, the list stored under the text
before them: the whole list with empty brackets, one element with a number inside. The program's
`parse_key` is `ofKey`, and its `Index` is `element`.
-/

namespace SubsetMatch

open Decimal

/-- What a needle key addresses. -/
inductive KeySelector
  | plain (key : String)
  | element (base : String) (position : Nat)
  | wholeList (base : String)
deriving DecidableEq, Repr

namespace KeySelector

/-- The selector of a base and the text between the brackets; `none` if they address nothing. -/
def ofParts (base inner : List Char) : Option KeySelector :=
  if base.isEmpty then none
  else if inner.isEmpty then some (.wholeList (String.ofList base))
  else ((readNat? inner).filter (· < sizeLimit)).map (.element (String.ofList base))

/-- The selector of a key that ends in a bracket, of which `cs` is all but the bracket. -/
def bracketed? (cs : List Char) : Option KeySelector :=
  (Text.cutLast '[' cs).bind fun (base, inner) => ofParts base inner

/-- What a key addresses (`parse_key`). -/
def ofKey (key : String) : KeySelector :=
  match key.toList.reverse with
  | ']' :: rest => (bracketed? rest.reverse).getD (.plain key)
  | _ => .plain key

end KeySelector

end SubsetMatch
