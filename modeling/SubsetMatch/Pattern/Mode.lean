import SubsetMatch.Pattern.Flags
import SubsetMatch.Pattern.SyntaxError
import SubsetMatch.Text.Blank

/-!
# Modes of a pattern

The options under which a part of a pattern is read. A pattern changes them with letters, up to the
end of the group that the letters stand in. In extended mode blanks and comments are skipped.

Results:
* `length_skip_le`: skipping never makes a text longer.
-/

namespace SubsetMatch.Pattern

open Text

/-- What a text is read to: a value and what is left, or why it cannot be read. -/
abbrev Reading (α : Type) := Except Reason (α × List Char)

/-- The options in force. -/
structure Mode where
  ignoreCase : Bool
  multiLine : Bool
  dotAll : Bool
  extended : Bool
  carriageReturns : Bool
  unicode : Bool
deriving DecidableEq, Repr

namespace Mode

/-- The mode that options ask for. Which matches are preferred makes no difference to whether there
is one. -/
def ofFlags (f : Flags) : Mode :=
  ⟨f.ignoreCase, f.multiLine, f.dotAll, f.extended, false, f.unicode⟩

/-- The mode with an option put on or off; `none` if the letter is no option. -/
def set? (m : Mode) (letter : Char) (on : Bool) : Option Mode :=
  match letter with
  | 'i' => some { m with ignoreCase := on }
  | 'm' => some { m with multiLine := on }
  | 's' => some { m with dotAll := on }
  | 'x' => some { m with extended := on }
  | 'R' => some { m with carriageReturns := on }
  | 'u' => some { m with unicode := on }
  | 'U' => some m
  | _ => none

end Mode

/-- The text behind blanks and comments, beginning in a comment or not. -/
def skipFrom (comment : Bool) : List Char → List Char
  | [] => []
  | c :: cs =>
    if comment then skipFrom (c != '\n') cs
    else if isBlank c then skipFrom false cs
    else if c == '#' then skipFrom true cs
    else c :: cs

/-- The text behind what extended mode skips. -/
def skip (extended : Bool) (cs : List Char) : List Char :=
  if extended then skipFrom false cs else cs

theorem length_skipFrom_le (comment : Bool) (cs : List Char) :
    (skipFrom comment cs).length ≤ cs.length := by
  induction cs generalizing comment with
  | nil => simp [skipFrom]
  | cons c cs ih =>
    have h1 := ih (c != '\n')
    have h2 := ih false
    have h3 := ih true
    rw [skipFrom]
    split
    · simp only [List.length_cons]
      omega
    · split
      · simp only [List.length_cons]
        omega
      · split
        · simp only [List.length_cons]
          omega
        · exact Nat.le_refl _

theorem length_skip_le (extended : Bool) (cs : List Char) :
    (skip extended cs).length ≤ cs.length := by
  unfold skip
  split
  · exact length_skipFrom_le _ _
  · exact Nat.le_refl _

/-- What stands after the next character, blanks left out. In a comment only its first character
counts. -/
def peekFrom (comment : Bool) : List Char → Option Char
  | [] => none
  | c :: cs =>
    if isBlank c then peekFrom comment cs
    else if !comment && c == '#' then peekFrom true cs
    else some c

/-- The character after the first one of a text. -/
def peek (extended : Bool) : List Char → Option Char
  | [] => none
  | _ :: cs =>
    if extended then
      match peekFrom false cs with
      | some c => some c
      | none => cs.head?
    else cs.head?

/-- The mode that letters ask for, with the sign that ends them, and whether there were any. -/
structure FlagSetting where
  mode : Mode
  closed : Bool
  isEmpty : Bool
deriving DecidableEq, Repr

/-- Letters up to a colon or a parenthesis; a hyphen puts the ones behind it off. -/
def readFlags (seen : List Char) (negated dangling : Bool) (m : Mode) :
    List Char → Reading FlagSetting
  | [] => .error .flagEnd
  | c :: cs =>
    if c == ':' || c == ')' then
      if dangling then .error .flagDangling
      else .ok (⟨m, c == ')', seen.isEmpty && !negated⟩, cs)
    else if c == '-' then
      if negated then .error .flagNegatedTwice else readFlags seen true true m cs
    else
      match m.set? c !negated with
      | none => .error .flagUnknown
      | some next =>
        if seen.contains c then .error .flagDuplicate
        else readFlags (c :: seen) negated false next cs

end SubsetMatch.Pattern
