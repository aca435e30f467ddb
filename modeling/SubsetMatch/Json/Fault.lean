import SubsetMatch.Text.Utf8

/-!
# Faults of document texts

Why a text is no document and where: a line and a column, counted in bytes, with column 0 right
after a line break. A decoding error of a side carries this wording (`decode_side`, §10.8).
-/

namespace SubsetMatch.Json

open Text

/-- Why a text is no document. -/
inductive Reason
  | eofValue
  | eofString
  | eofList
  | eofObject
  | expectedValue
  | expectedIdent
  | expectedColon
  | expectedListEnd
  | expectedObjectEnd
  | keyNotString
  | trailingComma
  | trailingCharacters
  | invalidNumber
  | numberOutOfRange
  | invalidEscape
  | endOfHexEscape
  | loneSurrogate
  | controlCharacter
  | recursionLimit
deriving DecidableEq, Repr

/-- The wording of a reason. -/
def Reason.text : Reason → String
  | eofValue => "EOF while parsing a value"
  | eofString => "EOF while parsing a string"
  | eofList => "EOF while parsing a list"
  | eofObject => "EOF while parsing an object"
  | expectedValue => "expected value"
  | expectedIdent => "expected ident"
  | expectedColon => "expected `:`"
  | expectedListEnd => "expected `,` or `]`"
  | expectedObjectEnd => "expected `,` or `\x7d`"
  | keyNotString => "key must be a string"
  | trailingComma => "trailing comma"
  | trailingCharacters => "trailing characters"
  | invalidNumber => "invalid number"
  | numberOutOfRange => "number out of range"
  | invalidEscape => "invalid escape"
  | endOfHexEscape => "unexpected end of hex escape"
  | loneSurrogate => "lone leading surrogate in hex escape"
  | controlCharacter => "control character (\\u0000-\\u001F) found while parsing a string"
  | recursionLimit => "recursion limit exceeded"

/-- A fault found while `rest` was still to be read, of which `seen` bytes had been looked at. -/
structure Fault where
  reason : Reason
  rest : List Char
  seen : Nat
deriving Repr

/-- A line and a column. -/
structure Location where
  line : Nat
  column : Nat
deriving DecidableEq, Repr

/-- The location after `n` bytes of a text, starting from `here`. -/
def locate (here : Location) : Nat → List Char → Location
  | 0, _ => here
  | n + 1, [] => { here with column := here.column + (n + 1) }
  | n + 1, c :: cs =>
    if n + 1 < c.utf8Size then { here with column := here.column + (n + 1) }
    else
      locate (if c == '\n' then ⟨here.line + 1, 0⟩ else ⟨here.line, here.column + c.utf8Size⟩)
        (n + 1 - c.utf8Size) cs

/-- The number of bytes read when the fault was found; never more than there are. -/
def Fault.offset (text : List Char) (f : Fault) : Nat :=
  let total := Utf8.width text
  let position := total - Utf8.width f.rest + f.seen
  if position < total then position else total

/-- A reason with its location in a text. -/
structure Error where
  reason : Reason
  location : Location
deriving DecidableEq, Repr

/-- The fault located in the text that was read. -/
def Fault.within (text : List Char) (f : Fault) : Error :=
  ⟨f.reason, locate ⟨1, 0⟩ (f.offset text) text⟩

/-- The wording of an error. -/
def Error.message (e : Error) : String :=
  s!"{e.reason.text} at line {e.location.line} column {e.location.column}"

end SubsetMatch.Json
