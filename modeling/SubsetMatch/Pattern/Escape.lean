import SubsetMatch.Decimal.Numeral
import SubsetMatch.Pattern.Mode
import SubsetMatch.Pattern.Regex

/-!
# Escapes

What stands behind a backslash: a character, a class or a condition. Also the numbers of counted
repetitions.

Results:
* `readEscape_of_isEscapable`: an escaped sign stands for itself.
-/

namespace SubsetMatch.Pattern

open Text

/-- The classes with a letter of their own. -/
inductive LetterClass
  | digit
  | space
  | word
deriving DecidableEq, Repr

/-- A character, and whether it was written as a byte. -/
structure Literal where
  char : Char
  isByte : Bool
deriving DecidableEq, Repr

/-- What an escape, or a character, stands for. -/
inductive Primitive
  | literal (l : Literal)
  | letterClass (c : LetterClass) (negated : Bool)
  | namedClass (name : List Char) (negated : Bool)
  | valuedClass (property value : List Char) (negated : Bool)
  | textStart
  | textEnd
  | word (edge : WordEdge)
deriving DecidableEq, Repr

/-- A character that stands for itself. -/
def Primitive.char (c : Char) : Primitive :=
  .literal ⟨c, false⟩

/-- Whether a character may be escaped to stand for itself: ASCII signs but angle brackets. -/
def isEscapable (c : Char) : Bool :=
  c.toNat < 128 && !c.isAlphanum && c != '<' && c != '>'

/-- The character with a number. -/
def scalar (n : Nat) : Except Reason Char :=
  if n.isValidChar then .ok (Char.ofNat n) else .error .hexScalar

/-- A number of hexadecimal digits, with what extended mode skips behind each. -/
def hexDigits (x : Bool) : Nat → Nat → List Char → Reading Nat
  | 0, value, cs => .ok (value, cs)
  | _ + 1, _, [] => .error .escapeEnd
  | n + 1, value, c :: cs =>
    match Decimal.hexValue? c with
    | none => .error .hexDigit
    | some d => hexDigits x n (value * 16 + d) (skip x cs)

/-- The text up to a closing brace and the text behind it, without what extended mode skips. -/
def readBraced (x : Bool) (cs : List Char) : Reading (List Char) :=
  match _h : skip x cs with
  | [] => .error .escapeEnd
  | c :: rest =>
    if c == '\x7d' then .ok ([], rest)
    else
      match readBraced x rest with
      | .error e => .error e
      | .ok (inner, rest) => .ok (c :: inner, rest)
termination_by cs.length
decreasing_by
  have hlen := length_skip_le x cs
  rw [_h] at hlen
  exact hlen

/-- The number of hexadecimal digits of any count. -/
def hexNumber (value : Nat) : List Char → Except Reason Nat
  | [] => .ok value
  | c :: cs =>
    match Decimal.hexValue? c with
    | none => .error .hexDigit
    | some d => hexNumber (value * 16 + d) cs

/-- A character given by its number, which has some digits or stands in braces. -/
def readHex (x : Bool) (count : Nat) (cs : List Char) : Reading Primitive :=
  match skip x cs with
  | [] => .error .escapeEnd
  | '\x7b' :: rest =>
    match readBraced x rest with
    | .error e => .error e
    | .ok (inner, rest) =>
      match hexNumber 0 inner with
      | .error e => .error e
      | .ok n =>
        if inner.isEmpty then .error .hexEmpty
        else
          match scalar n with
          | .error e => .error e
          | .ok c => .ok (.char c, skip x rest)
  | rest =>
    match hexDigits x count 0 rest with
    | .error e => .error e
    | .ok (n, rest) =>
      match scalar n with
      | .error e => .error e
      | .ok c => .ok (.literal ⟨c, count == 2⟩, rest)

/-- A text cut at the first place where `mark` stands. -/
def cutFirst (mark : List Char) : List Char → Option (List Char × List Char)
  | [] => none
  | c :: cs =>
    if mark.isPrefixOf (c :: cs) then some ([], (c :: cs).drop mark.length)
    else (cutFirst mark cs).map fun (before, after) => (c :: before, after)

/-- A class named in braces; an unequal sign negates once more. -/
def bracedClass (name : List Char) (negated : Bool) : Primitive :=
  match cutFirst ['!', '='] name with
  | some (property, value) => .valuedClass property value !negated
  | none =>
    match cutFirst [':'] name with
    | some (property, value) => .valuedClass property value negated
    | none =>
      match cutFirst ['='] name with
      | some (property, value) => .valuedClass property value negated
      | none => .namedClass name negated

/-- A class named by a letter or in braces. -/
def readNamedClass (x negated : Bool) (cs : List Char) : Reading Primitive :=
  match skip x cs with
  | [] => .error .escapeEnd
  | '\x7b' :: rest =>
    match readBraced x rest with
    | .error e => .error e
    | .ok (name, rest) => .ok (bracedClass name negated, rest)
  | '\\' :: _ => .error .letterClass
  | c :: rest => .ok (.namedClass [c] negated, skip x rest)

/-- A letter or hyphen, as in the names of word boundaries. -/
def isEdgeChar (c : Char) : Bool :=
  c.isAlpha || c == '-'

/-- The letters of the name of a word boundary, and what is left. -/
def edgeName (x : Bool) (cs : List Char) : List Char × List Char :=
  match cs with
  | [] => ([], [])
  | c :: rest =>
    if isEdgeChar c then
      let (name, rest) := edgeName x (skip x rest)
      (c :: name, rest)
    else ([], c :: rest)
termination_by cs.length
decreasing_by
  have hlen := length_skip_le x rest
  simp only [List.length_cons]
  omega

/-- The word boundary of a name. -/
def edgeNamed? (name : List Char) : Option WordEdge :=
  if name == "start".toList then some .start
  else if name == "end".toList then some .stop
  else if name == "start-half".toList then some .startHalf
  else if name == "end-half".toList then some .stopHalf
  else none

/-- A word boundary, which may be named in braces. Braces around anything else than a name are left
to be read as a repetition. -/
def readBoundary (x : Bool) (cs : List Char) : Reading Primitive :=
  match cs with
  | '\x7b' :: inner =>
    match skip x inner with
    | [] => .error .boundaryUnclosed
    | c :: rest =>
      if isEdgeChar c then
        match edgeName x (c :: rest) with
        | (name, '\x7d' :: rest) =>
          match edgeNamed? name with
          | none => .error .boundaryUnknown
          | some edge => .ok (.word edge, rest)
        | _ => .error .boundaryUnclosed
      else .ok (.word .boundary, cs)
  | _ => .ok (.word .boundary, cs)

/-- What a letter behind a backslash stands for by itself. -/
def letterEscape? : Char → Option Primitive
  | 'a' => some (.char '\x07')
  | 'f' => some (.char '\x0c')
  | 't' => some (.char '\t')
  | 'n' => some (.char '\n')
  | 'r' => some (.char '\r')
  | 'v' => some (.char '\x0b')
  | 'd' => some (.letterClass .digit false)
  | 'D' => some (.letterClass .digit true)
  | 's' => some (.letterClass .space false)
  | 'S' => some (.letterClass .space true)
  | 'w' => some (.letterClass .word false)
  | 'W' => some (.letterClass .word true)
  | 'A' => some .textStart
  | 'z' => some .textEnd
  | 'B' => some (.word .inside)
  | '<' => some (.word .start)
  | '>' => some (.word .stop)
  | _ => none

/-- What stands behind a backslash. -/
def readEscape (x : Bool) : List Char → Reading Primitive
  | [] => .error .escapeEnd
  | 'x' :: cs => readHex x 2 cs
  | 'u' :: cs => readHex x 4 cs
  | 'U' :: cs => readHex x 8 cs
  | 'p' :: cs => readNamedClass x false cs
  | 'P' :: cs => readNamedClass x true cs
  | 'b' :: cs => readBoundary x cs
  | c :: cs =>
    if c.isDigit then .error .backreference
    else if isEscapable c then .ok (.char c, cs)
    else
      match letterEscape? c with
      | some p => .ok (p, cs)
      | none => .error .escapeUnknown

/-- **An escaped sign stands for itself**, whatever it would mean otherwise. -/
theorem readEscape_of_isEscapable {c : Char} (h : isEscapable c = true) (x : Bool)
    (cs : List Char) : readEscape x (c :: cs) = .ok (.char c, cs) := by
  have hne : ∀ d : Char, d.isAlphanum = true → c ≠ d := by
    rintro d hd rfl
    simp [isEscapable, hd] at h
  have hdigit : c.isDigit = false := by
    cases hc : c.isDigit with
    | false => rfl
    | true => simp [isEscapable, Char.isAlphanum, hc] at h
  unfold readEscape
  split
  all_goals simp_all

example : ['\\', '.', '+', '*', '?', '(', ')', '|', '[', ']', '\x7b', '\x7d', '^', '$', '#', '&',
    '-', '~'].all isEscapable = true := by decide

/-- The digits at the start of a text, with what extended mode skips behind each. -/
def decimalDigits (x : Bool) (cs : List Char) : List Char × List Char :=
  match cs with
  | [] => ([], [])
  | c :: rest =>
    if c.isDigit then
      let (digits, rest) := decimalDigits x (skip x rest)
      (c :: digits, rest)
    else ([], c :: rest)
termination_by cs.length
decreasing_by
  have hlen := length_skip_le x rest
  simp only [List.length_cons]
  omega

/-- The greatest count of a repetition: 32 bits. -/
def maxCount : Nat := Decimal.twoTo 32 - 1

/-- A count, with blanks around it. -/
def readCount (x : Bool) (cs : List Char) : Reading Nat :=
  let (digits, rest) := decimalDigits x (cs.dropWhile isBlank)
  if digits.isEmpty then .error .countEmpty
  else if maxCount < Decimal.valueOf digits then .error .decimal
  else .ok (Decimal.valueOf digits, rest.dropWhile isBlank)

/-- How often something is repeated. -/
structure Counts where
  least : Nat
  most : Option Nat
deriving DecidableEq, Repr

/-- What stands behind an opening brace, the closing one included. -/
def readCounts (x : Bool) (cs : List Char) : Reading Counts :=
  match skip x cs with
  | [] => .error .countUnclosed
  | cs =>
    match readCount x cs with
    | .error e => .error e
    | .ok (least, '\x7d' :: rest) => .ok (⟨least, some least⟩, rest)
    | .ok (least, ',' :: rest) =>
      match skip x rest with
      | [] => .error .countUnclosed
      | '\x7d' :: rest => .ok (⟨least, none⟩, rest)
      | rest =>
        match readCount x rest with
        | .error e => .error e
        | .ok (most, '\x7d' :: rest) =>
          if most < least then .error .countOrder else .ok (⟨least, some most⟩, rest)
        | .ok _ => .error .countUnclosed
    | .ok _ => .error .countUnclosed

end SubsetMatch.Pattern
