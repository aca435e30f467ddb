/-!
# Styled text

Colours and weights of text on a terminal. Styles are turned on in front of a text and all are
turned off behind it (§10.11).
-/

namespace SubsetMatch.CommandLine

/-- A colour or weight. -/
inductive Style
  | green
  | red
  | yellow
  | cyan
  | bold
  | dim
deriving DecidableEq, Repr

/-- The sequence that turns a style on. -/
def Style.on : Style → String
  | green => "\x1b[32m"
  | red => "\x1b[31m"
  | yellow => "\x1b[33m"
  | cyan => "\x1b[36m"
  | bold => "\x1b[1m"
  | dim => "\x1b[2m"

/-- The sequence that turns all styles off. -/
def reset : String := "\x1b[0m"

/-- A text in some styles. -/
def paint (styles : List Style) (text : String) : String :=
  styles.foldr (fun s rest => s.on ++ rest) (text ++ reset)

end SubsetMatch.CommandLine
