/-!
# Places in YAML texts

A cursor is a place in a text, with its line and column. A text is refused with a reason and the
place where it was found.
-/

namespace SubsetMatch.Yaml

/-- A place: the line, the column and the number of characters before it. -/
structure Mark where
  line : Nat
  column : Nat
  index : Nat
deriving DecidableEq, Repr

/-- A place in a text, and what stands behind it. -/
structure Cursor where
  mark : Mark
  rest : List Char
deriving DecidableEq, Repr

/-- Why a text is refused. -/
inductive Reason
  | controlCharacter
  | noToken
  | tabAsIndentation
  | unexpectedColon
  | documentInQuotes
  | unclosedQuotes
  | escape
  | hexDigit
  | scalarValue
  | zeroIndentation
  | blockHeader
  | anchorName
  | undefinedAnchor
  | tag
  | tagHandle
  | directive
  | version
  | keyNotEnded
  | blockEntry
  | mappingKey
  | mappingValue
  | documentStart
  | secondDocument
  | node
  | sequenceEntry
  | mappingEntry
  | flowSequence
  | flowMapping
  | tooDeep
  | tooManyAliases
  | numberTooLarge
  | wrongScalar
  | wrongShape
  | unknownTag
  | duplicateField
  | unknownField
  | missingField
deriving DecidableEq, Repr

/-- The wording of a reason. -/
def Reason.text : Reason → String
  | controlCharacter => "control characters are not allowed"
  | noToken => "found character that cannot start any token"
  | tabAsIndentation => "found a tab character that violates indentation"
  | unexpectedColon => "found unexpected ':' in a plain scalar"
  | documentInQuotes => "found unexpected document indicator in a quoted scalar"
  | unclosedQuotes => "found unexpected end of stream in a quoted scalar"
  | escape => "found unknown escape character"
  | hexDigit => "did not find expected hexadecimal number"
  | scalarValue => "found invalid Unicode character escape code"
  | zeroIndentation => "found an indentation indicator equal to 0"
  | blockHeader => "did not find expected comment or line break"
  | anchorName => "did not find expected alphabetic or numeric character"
  | undefinedAnchor => "unknown anchor"
  | tag => "did not find expected tag"
  | tagHandle => "found undefined tag handle"
  | directive => "found unknown directive"
  | version => "found incompatible YAML document"
  | keyNotEnded => "could not find expected ':'"
  | blockEntry => "block sequence entries are not allowed in this context"
  | mappingKey => "mapping keys are not allowed in this context"
  | mappingValue => "mapping values are not allowed in this context"
  | documentStart => "did not find expected document start"
  | secondDocument => "more than one document"
  | node => "did not find expected node content"
  | sequenceEntry => "did not find expected '-' indicator"
  | mappingEntry => "did not find expected key"
  | flowSequence => "did not find expected ',' or ']'"
  | flowMapping => "did not find expected ',' or '\x7d'"
  | tooDeep => "recursion limit exceeded"
  | tooManyAliases => "repetition limit exceeded"
  | numberTooLarge => "number out of range"
  | wrongScalar => "scalar does not fit its tag"
  | wrongShape => "unexpected kind of node"
  | unknownTag => "unexpected tag"
  | duplicateField => "duplicate field"
  | unknownField => "unknown field"
  | missingField => "missing field"

/-- A reason and a place. -/
structure Error where
  reason : Reason
  mark : Mark
deriving DecidableEq, Repr

/-- The wording of an error; lines and columns count from one. -/
def Error.message (e : Error) : String :=
  s!"{e.reason.text} at line {e.mark.line + 1} column {e.mark.column + 1}"

/-- The start of a text. -/
def Mark.start : Mark :=
  ⟨0, 0, 0⟩

/-- The place behind a character of the same line. -/
def Mark.step (m : Mark) : Mark :=
  { m with column := m.column + 1, index := m.index + 1 }

/-- The start of the next line, behind a break of some characters. -/
def Mark.newLine (m : Mark) (width : Nat) : Mark :=
  ⟨m.line + 1, 0, m.index + width⟩

/-- The place some characters further on in the line. -/
def Mark.steps (m : Mark) (n : Nat) : Mark :=
  { m with column := m.column + n, index := m.index + n }

namespace Cursor

/-- A reason at the place. -/
def fail {α : Type} (c : Cursor) (r : Reason) : Except Error α :=
  .error ⟨r, c.mark⟩

/-- The place behind the next character, which ends no line. -/
def step (c : Cursor) : Cursor :=
  ⟨c.mark.step, c.rest.tail⟩

/-- The place some characters further on in the line. -/
def steps (c : Cursor) (n : Nat) : Cursor :=
  ⟨c.mark.steps n, c.rest.drop n⟩

end Cursor

/-- Spaces and tabs. -/
def isGap (c : Char) : Bool :=
  c == ' ' || c == '\t'

/-- The characters that end a line. -/
def isBreak (c : Char) : Bool :=
  c == '\n' || c == '\r' || c == '\u0085' || c == '\u2028' || c == '\u2029'

/-- Whether a blank, a break or the end of the text comes next. -/
def endsWord : List Char → Bool
  | [] => true
  | c :: _ => isGap c || isBreak c

/-- A line break that comes next: the character it stands for and the place behind it. -/
def Cursor.lineBreak? (c : Cursor) : Option (Char × Cursor) :=
  match c.rest with
  | '\r' :: '\n' :: rest => some ('\n', ⟨c.mark.newLine 2, rest⟩)
  | ch :: rest =>
    if ch == '\u2028' || ch == '\u2029' then some (ch, ⟨c.mark.newLine 1, rest⟩)
    else if isBreak ch then some ('\n', ⟨c.mark.newLine 1, rest⟩)
    else none
  | [] => none

/-- The next character that passes no test, and the characters before it. -/
def Cursor.span (p : Char → Bool) (c : Cursor) : List Char × Cursor :=
  let taken := c.rest.takeWhile p
  (taken, ⟨c.mark.steps taken.length, c.rest.dropWhile p⟩)

/-- Whether the sign of a new document, or of the end of one, stands at the start of the line. -/
def Cursor.isAtDocumentSign (c : Cursor) : Bool :=
  c.mark.column == 0 &&
    match c.rest with
    | '-' :: '-' :: '-' :: rest | '.' :: '.' :: '.' :: rest => endsWord rest
    | _ => false

/-- The characters that a text may consist of. -/
def isAllowed (c : Char) : Bool :=
  c == '\t' || c == '\n' || c == '\r' || ' ' ≤ c && c ≤ '~' || c == '\u0085' ||
    0xA0 ≤ c.toNat && c.toNat ≤ 0xFFFD || 0x10000 ≤ c.toNat

end SubsetMatch.Yaml
