import SubsetMatch.Comparator
import SubsetMatch.Text.Visible

/-!
# Inspection

Texts that show what a comparator, a registry or a registered token holds: what `fmt` writes of each
for debugging. Secrets are left out.

Results:
* `inspect_eq_of_names`: of a comparator only the names show.
-/

namespace SubsetMatch

open Text

/-- Texts separated by a comma and a blank. -/
def commaSeparated : List (List Char) → List Char
  | [] => []
  | [item] => item
  | item :: items => item ++ ',' :: ' ' :: commaSeparated items

/-- Texts in brackets. -/
def bracketed (items : List (List Char)) : List Char :=
  '[' :: (commaSeparated items ++ [']'])

/-- Texts in braces. -/
def braced (items : List (List Char)) : List Char :=
  '\x7b' :: (commaSeparated items ++ ['\x7d'])

/-- The fields of something, after its name. -/
def record (name : String) (fields : List (String × List Char)) : List Char :=
  name.toList ++ [' ', '\x7b', ' '] ++
    commaSeparated (fields.map fun (field, text) => field.toList ++ ':' :: ' ' :: text) ++
    [' ', '\x7d']

/-- A text in parentheses, after a name. -/
def wrapped (name : String) (inner : List Char) : List Char :=
  name.toList ++ '(' :: (inner ++ [')'])

mutual
/-- What a document holds. -/
def Value.inspect : Value → List Char
  | .null => "Null".toList
  | .bool b => wrapped "Bool" (if b then "true" else "false").toList
  | .number n => wrapped "Number" (Json.numberText n)
  | .string s => wrapped "String" (visible s)
  | .array items => "Array ".toList ++ bracketed (inspectItems items)
  | .object members => "Object ".toList ++ braced (inspectMembers members)

/-- What some documents hold. -/
def inspectItems : List Value → List (List Char)
  | [] => []
  | v :: items => v.inspect :: inspectItems items

/-- What some members hold. -/
def inspectMembers : List (String × Value) → List (List Char)
  | [] => []
  | (key, v) :: members => (visible key ++ ':' :: ' ' :: v.inspect) :: inspectMembers members
end

/-- What a registered token holds, but for the secret. -/
def RegisteredToken.inspect (t : RegisteredToken) : String :=
  String.ofList (record "RegisteredToken" [
    ("payload", braced (inspectMembers t.payload)),
    ("secret", visible "<redacted>"),
    ("algorithms", bracketed (t.algorithms.map fun a => a.name.toList))])

/-- The names in a registry. -/
def Registry.inspectText (r : Registry) : List Char :=
  record "MatcherRegistry" [("functions", bracketed (r.names.map visible))]

/-- The names in a registry. -/
def Registry.inspect (r : Registry) : String :=
  String.ofList r.inspectText

/-- The names in a table of tokens. -/
def TokenTable.inspectText (t : TokenTable) : List Char :=
  record "JwtMatcher" [("tokens", bracketed (t.names.map visible))]

/-- The names in a table of tokens. -/
def TokenTable.inspect (t : TokenTable) : String :=
  String.ofList t.inspectText

/-- The names of functions and tokens in a comparator. -/
def Comparator.inspect (c : Comparator) : String :=
  String.ofList (record "Comparator" [
    ("registry", c.functions.inspectText), ("jwt", c.tokens.inspectText)])

theorem inspect_eq_of_names {c d : Comparator} (hf : c.functions.names = d.functions.names)
    (ht : c.tokens.names = d.tokens.names) : c.inspect = d.inspect := by
  simp only [Comparator.inspect, Registry.inspectText, TokenTable.inspectText, hf, ht]

end SubsetMatch
