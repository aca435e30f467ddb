import SubsetMatch.Decimal.Shortest
import SubsetMatch.Json.Value

/-!
# Written documents

The compact form, without any blank, and the indented form, two blanks a level and one entry a
line. Both write strings with the same escapes and keep the order of members. Messages show the
compact form through `describe` and `plain` (§10.2), reports the indented one (§10.9).

Results:
* `escapeChar_ne_nil`: every character of a string leaves a trace in its written form.
-/

namespace SubsetMatch

open Decimal

namespace Json

/-- A hexadecimal digit in lower case. -/
def hexDigit (n : Nat) : Char :=
  Nat.digitChar (n % 16)

/-- One character of a written string: quotes, backslashes and controls are escaped. -/
def escapeChar (c : Char) : List Char :=
  if c == '"' then ['\\', '"']
  else if c == '\\' then ['\\', '\\']
  else if c.val == 8 then ['\\', 'b']
  else if c == '\t' then ['\\', 't']
  else if c == '\n' then ['\\', 'n']
  else if c.val == 12 then ['\\', 'f']
  else if c == '\r' then ['\\', 'r']
  else if c.val < 32 then
    ['\\', 'u', '0', '0', hexDigit (c.toNat / 16), hexDigit c.toNat]
  else [c]

/-- A written string. -/
def quoted (cs : List Char) : List Char :=
  '"' :: (cs.flatMap escapeChar ++ ['"'])

theorem escapeChar_ne_nil (c : Char) : escapeChar c ≠ [] := by
  unfold escapeChar
  repeat' split
  all_goals simp

/-- An integer in decimal. -/
def integerText (n : Int) : List Char :=
  if n < 0 then '-' :: digitsOf n.natAbs else digitsOf n.natAbs

/-- A written number. -/
def numberText : Number → List Char
  | .integer n => integerText n
  | .double x => layout x

mutual
/-- The compact form. -/
def compact : Value → List Char
  | .null => "null".toList
  | .bool b => (if b then "true" else "false").toList
  | .number n => numberText n
  | .string s => quoted s.toList
  | .array items => '[' :: (compactItems items ++ [']'])
  | .object members => '{' :: (compactMembers members ++ ['}'])

/-- The elements of a list, separated by commas. -/
def compactItems : List Value → List Char
  | [] => []
  | v :: items => compact v ++ (if items.isEmpty then [] else [',']) ++ compactItems items

/-- The members of an object, separated by commas. -/
def compactMembers : List (String × Value) → List Char
  | [] => []
  | (k, v) :: members =>
    quoted k.toList ++ ':' :: compact v ++ (if members.isEmpty then [] else [',']) ++
      compactMembers members
end

/-- A new line at a level of indentation. -/
def newline (level : Nat) : List Char :=
  '\n' :: List.replicate (2 * level) ' '

mutual
/-- The indented form of a document that starts at a level. -/
def indented (level : Nat) : Value → List Char
  | .null => "null".toList
  | .bool b => (if b then "true" else "false").toList
  | .number n => numberText n
  | .string s => quoted s.toList
  | .array [] => ['[', ']']
  | .array items => '[' :: (indentedItems (level + 1) items ++ newline level ++ [']'])
  | .object [] => ['{', '}']
  | .object members => '{' :: (indentedMembers (level + 1) members ++ newline level ++ ['}'])

/-- The elements of a list, one a line. -/
def indentedItems (level : Nat) : List Value → List Char
  | [] => []
  | v :: items =>
    newline level ++ indented level v ++ (if items.isEmpty then [] else [',']) ++
      indentedItems level items

/-- The members of an object, one a line. -/
def indentedMembers (level : Nat) : List (String × Value) → List Char
  | [] => []
  | (k, v) :: members =>
    newline level ++ quoted k.toList ++ [':', ' '] ++ indented level v ++
      (if members.isEmpty then [] else [',']) ++ indentedMembers level members
end

end Json

namespace Value

/-- The compact form of a document. -/
def compact (v : Value) : String :=
  String.ofList (Json.compact v)

/-- The indented form of a document. -/
def pretty (v : Value) : String :=
  String.ofList (Json.indented 0 v)

/-- The most characters a description shows. -/
def descriptionLimit : Nat := 80

/-- The compact form, cut with an ellipsis when it is long. -/
def describe (v : Value) : String :=
  let text := Json.compact v
  String.ofList
    (if text.length ≤ descriptionLimit then text else text.take descriptionLimit ++ ['.', '.', '.'])

/-- A string without its quotes, anything else described. -/
def plain : Value → String
  | string s => s
  | v => v.describe

end Value

end SubsetMatch
