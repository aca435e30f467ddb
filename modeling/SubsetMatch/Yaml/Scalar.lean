import SubsetMatch.Decimal.Numeral
import SubsetMatch.Yaml.Cursor

/-!
# Scalars in running text

Plain and quoted scalars may go over several lines. The blanks around a line break are dropped, a
single break becomes a blank and of several breaks the first one is dropped.
-/

namespace SubsetMatch.Yaml

/-- What stands between two words: blanks in a line, or line breaks. The first break is missing if
it was escaped. -/
inductive Gap
  | blanks (cs : List Char)
  | breaks (first : Option Char) (more : List Char)
deriving DecidableEq, Repr

namespace Gap

/-- Nothing. -/
def none : Gap :=
  .blanks []

/-- Whether a line ended. -/
def isFolded : Gap → Bool
  | blanks _ => false
  | breaks .. => true

/-- One more blank; at the start of a line blanks are dropped. -/
def addBlank (g : Gap) (c : Char) : Gap :=
  match g with
  | blanks cs => blanks (cs ++ [c])
  | breaks first more => breaks first more

/-- One more line break, which drops the blanks before it. -/
def addBreak (g : Gap) (c : Char) : Gap :=
  match g with
  | blanks _ => breaks (some c) []
  | breaks first more => breaks first (more ++ [c])

/-- What a gap becomes. -/
def text : Gap → List Char
  | blanks cs => cs
  | breaks (some '\n') [] => [' ']
  | breaks (some '\n') more => more
  | breaks (some c) more => c :: more
  | breaks Option.none more => more

end Gap

/-- The blanks and line breaks that come next. Inside of blocks a tab must not stand for
indentation. -/
def readGap (indent : Option Nat) : Nat → Gap → Cursor → Except Error (Gap × Cursor)
  | 0, g, c => .ok (g, c)
  | fuel + 1, g, c =>
    match c.lineBreak? with
    | some (b, next) => readGap indent fuel (g.addBreak b) next
    | none =>
      match c.rest with
      | ch :: _ =>
        if isGap ch then
          if g.isFolded && ch == '\t' && (indent.map fun n => decide (c.mark.column < n)).getD false then
            c.fail .tabAsIndentation
          else readGap indent fuel (g.addBlank ch) c.step
        else .ok (g, c)
      | [] => .ok (g, c)

/-- The signs that end a plain scalar in a flow collection. -/
def isFlowSign (c : Char) : Bool :=
  c == ',' || c == '[' || c == ']' || c == '\x7b' || c == '\x7d'

/-- The characters of a plain scalar up to a blank or to what ends it. -/
def plainWord (flow : Bool) (m : Mark) : List Char → Except Error (List Char × Cursor)
  | [] => .ok ([], ⟨m, []⟩)
  | c :: cs =>
    let next := cs.head?
    if isGap c || isBreak c then .ok ([], ⟨m, c :: cs⟩)
    else if flow && c == ':' && (next.map fun d => isFlowSign d || d == '?').getD false then
      .error ⟨.unexpectedColon, m⟩
    else if c == ':' && endsWord cs || flow && isFlowSign c then .ok ([], ⟨m, c :: cs⟩)
    else
      match plainWord flow m.step cs with
      | .error e => .error e
      | .ok (word, cursor) => .ok (c :: word, cursor)

/-- A plain scalar: its text, the place behind it and whether that is on a later line. The text is
`done`, and `gap` comes before the next word. -/
def plainWords (flow : Bool) (indent : Nat) :
    Nat → List Char → Gap → Cursor → Except Error (List Char × Cursor × Bool)
  | 0, done, gap, c => .ok (done, c, gap.isFolded)
  | fuel + 1, done, gap, c =>
    if c.isAtDocumentSign || c.rest.head? == some '#' then .ok (done, c, gap.isFolded)
    else
      match plainWord flow c.mark c.rest with
      | .error e => .error e
      | .ok (word, c) =>
        let (done, gap) := if word.isEmpty then (done, gap) else (done ++ gap.text ++ word, Gap.none)
        if !(c.rest.head?.map fun d => isGap d || isBreak d).getD false then
          .ok (done, c, gap.isFolded)
        else
          match readGap (some indent) c.rest.length gap c with
          | .error e => .error e
          | .ok (gap, c) =>
            if !flow && c.mark.column < indent then .ok (done, c, gap.isFolded)
            else plainWords flow indent fuel done gap c

/-- A plain scalar, which goes on while lines are indented at least so far. -/
def readPlain (flow : Bool) (indent : Nat) (c : Cursor) :
    Except Error (List Char × Cursor × Bool) :=
  plainWords flow indent (c.rest.length + 1) [] .none c

/-- What an escape in double quotes stands for; `none` if a number follows. -/
def escape? : Char → Option Char
  | '0' => some '\x00'
  | 'a' => some '\x07'
  | 'b' => some '\x08'
  | 't' => some '\t'
  | '\t' => some '\t'
  | 'n' => some '\n'
  | 'v' => some '\x0b'
  | 'f' => some '\x0c'
  | 'r' => some '\r'
  | 'e' => some '\x1b'
  | ' ' => some ' '
  | '"' => some '"'
  | '/' => some '/'
  | '\\' => some '\\'
  | 'N' => some '\u0085'
  | '_' => some '\u00a0'
  | 'L' => some '\u2028'
  | 'P' => some '\u2029'
  | _ => none

/-- The number of digits behind an escape. -/
def escapeDigits? : Char → Option Nat
  | 'x' => some 2
  | 'u' => some 4
  | 'U' => some 8
  | _ => none

/-- The number of some hexadecimal digits. -/
def hexNumber? : Nat → Nat → List Char → Option Nat
  | 0, value, _ => some value
  | _ + 1, _, [] => none
  | n + 1, value, c :: cs => (Decimal.hexValue? c).bind fun d => hexNumber? n (value * 16 + d) cs

/-- The character of an escape, behind its backslash, and the number of characters that name it. -/
def readEscape (c : Cursor) : Except Error (Char × Nat) :=
  match c.rest with
  | [] => c.fail .escape
  | letter :: rest =>
    match escape? letter, escapeDigits? letter with
    | some d, _ => .ok (d, 1)
    | none, some n =>
      match hexNumber? n 0 rest with
      | none => c.fail .hexDigit
      | some value =>
        if value.isValidChar then .ok (Char.ofNat value, n + 1) else c.fail .scalarValue
    | none, none => c.fail .escape

/-- The characters of a quoted scalar up to a blank, to its end or behind an escaped line break. -/
def quotedWord (double : Bool) : Nat → List Char → Cursor → Except Error (List Char × Cursor × Bool)
  | 0, word, c => .ok (word, c, false)
  | fuel + 1, word, c =>
    match c.rest with
    | [] => .ok (word, c, false)
    | '\'' :: '\'' :: _ =>
      if double then quotedWord double fuel (word ++ ['\'']) c.step
      else quotedWord double fuel (word ++ ['\'']) (c.steps 2)
    | ch :: _ =>
      if isGap ch || isBreak ch then .ok (word, c, false)
      else if ch == (if double then '"' else '\'') then .ok (word, c, false)
      else if double && ch == '\\' then
        match c.step.lineBreak? with
        | some (_, next) => .ok (word, next, true)
        | none =>
          match readEscape c.step with
          | .error e => .error e
          | .ok (d, n) => quotedWord double fuel (word ++ [d]) (c.step.steps n)
      else quotedWord double fuel (word ++ [ch]) c.step

/-- The rest of a quoted scalar and the place behind the closing quote. -/
def quotedWords (double : Bool) : Nat → List Char → Cursor → Except Error (List Char × Cursor)
  | 0, _, c => c.fail .unclosedQuotes
  | fuel + 1, done, c =>
    if c.isAtDocumentSign then c.fail .documentInQuotes
    else if c.rest.isEmpty then c.fail .unclosedQuotes
    else
      match quotedWord double (c.rest.length + 1) [] c with
      | .error e => .error e
      | .ok (word, c, escaped) =>
        let done := done ++ word
        if !escaped && c.rest.head? == some (if double then '"' else '\'') then .ok (done, c.step)
        else
          let start := if escaped then Gap.breaks none [] else Gap.none
          match readGap none c.rest.length start c with
          | .error e => .error e
          | .ok (gap, c) => quotedWords double fuel (done ++ gap.text) c

/-- A scalar in single or double quotes, from its opening quote on. -/
def readQuoted (double : Bool) (c : Cursor) : Except Error (List Char × Cursor) :=
  quotedWords double (c.rest.length + 1) [] c.step

end SubsetMatch.Yaml
