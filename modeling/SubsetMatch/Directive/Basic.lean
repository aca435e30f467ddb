import SubsetMatch.Text.Blank
import SubsetMatch.Text.Utf8

/-!
# Directives (§10.3)

A directive `@name(argument, …)` stands in a needle for the assertion that a named matcher makes
with raw arguments. Writing one (`fmt`, here `render`) quotes the arguments that would not read back
otherwise (`needs_quoting`).
-/

namespace SubsetMatch

open Text

/-- A matcher's name and its raw arguments. -/
structure Directive where
  name : String
  args : List String
deriving DecidableEq, Repr

namespace Directive

/-- The character that opens a directive. -/
def marker : Char := '@'

/-- A letter or underscore may start a name. -/
def isNameStart (c : Char) : Bool :=
  c.isAlpha || c == '_'

/-- Letters, digits and underscores continue a name. -/
def isNameRest (c : Char) : Bool :=
  c.isAlphanum || c == '_'

/-- The characters that separate or group arguments. -/
def isStructural (c : Char) : Bool :=
  c == ',' || c == '(' || c == ')' || c == '[' || c == ']' || c == '{' || c == '}'

/-- Whether an argument reads back only between quotes (`needs_quoting`). -/
def needsQuoting (arg : List Char) : Bool :=
  arg.isEmpty || trim arg != arg || arg.head? == some '\'' || arg.contains '"' ||
    arg.any isStructural

/-- A character between double quotes. -/
def escapeChar (c : Char) : List Char :=
  if c == '\\' then ['\\', '\\'] else if c == '"' then ['\\', '"'] else [c]

/-- An argument as it is written. -/
def renderArgument (arg : List Char) : List Char :=
  if needsQuoting arg then '"' :: (arg.flatMap escapeChar ++ ['"']) else arg

/-- Arguments separated by a comma and a blank. -/
def renderArguments : List String → List Char
  | [] => []
  | [arg] => renderArgument arg.toList
  | arg :: args => renderArgument arg.toList ++ ',' :: ' ' :: renderArguments args

/-- The written directive. -/
def render (d : Directive) : String :=
  String.ofList (marker :: (d.name.toList ++ '(' :: (renderArguments d.args ++ [')'])))

end Directive

end SubsetMatch
