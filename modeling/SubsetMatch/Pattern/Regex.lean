import SubsetMatch.Unicode.CharSet

/-!
# Regular expressions

The structure of a pattern: sets of characters, conditions on a place, and what is made of them.
-/

namespace SubsetMatch.Pattern

open Unicode

/-- Conditions on what stands before and after a place, as to words. -/
inductive WordEdge
  | boundary
  | inside
  | start
  | stop
  | startHalf
  | stopHalf
deriving DecidableEq, Repr

/-- Conditions on a place in a text. A line ends before a line feed or also before a carriage
return. -/
inductive Look
  | textStart
  | textEnd
  | lineStart (carriageReturns : Bool)
  | lineEnd (carriageReturns : Bool)
  | word (chars : CharSet) (edge : WordEdge)
deriving DecidableEq, Repr

/-- Whether a condition holds between word characters or others. -/
def WordEdge.holds (edge : WordEdge) (before after : Bool) : Bool :=
  match edge with
  | boundary => before != after
  | inside => before == after
  | start => !before && after
  | stop => before && !after
  | startHalf => !before
  | stopHalf => !after

/-- Whether there is a character of a set. -/
def isIn (chars : CharSet) : Option Char → Bool
  | none => false
  | some c => chars.has c

/-- Whether a condition holds between two characters, or an end of the text. -/
def Look.holds (l : Look) (before after : Option Char) : Bool :=
  match l with
  | textStart => before.isNone
  | textEnd => after.isNone
  | lineStart false => before.isNone || before == some '\n'
  | lineEnd false => after.isNone || after == some '\n'
  | lineStart true =>
    before.isNone || before == some '\n' || before == some '\r' && after != some '\n'
  | lineEnd true =>
    after.isNone || after == some '\r' || after == some '\n' && before != some '\r'
  | word chars edge => edge.holds (isIn chars before) (isIn chars after)

/-- A pattern. -/
inductive Regex
  | empty
  | one (chars : CharSet)
  | look (l : Look)
  | seq (first second : Regex)
  | alt (first second : Regex)
  | repeated (r : Regex) (least : Nat) (most : Option Nat)
  | group (r : Regex)
deriving DecidableEq, Repr

namespace Regex

/-- Patterns one after the other. -/
def seqs : List Regex → Regex
  | [] => empty
  | [r] => r
  | r :: rs => seq r (seqs rs)

/-- A choice of patterns. -/
def alts : List Regex → Regex
  | [] => empty
  | [r] => r
  | r :: rs => alt r (alts rs)

/-- Whether a pattern holds conditions only, and no character. -/
def isZeroWidth : Regex → Bool
  | empty | look _ => true
  | one _ => false
  | seq a b | alt a b => a.isZeroWidth && b.isZeroWidth
  | repeated r _ most => r.isZeroWidth || most == some 0
  | group r => r.isZeroWidth

end Regex

end SubsetMatch.Pattern
