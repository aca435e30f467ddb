import SubsetMatch.Text.Utf8
import SubsetMatch.Yaml.BlockScalar
import SubsetMatch.Yaml.Scalar

/-!
# Tokens of YAML texts

The signs of a text: where collections begin and end, what is a key and what a value, and the
scalars with their labels. Indentation is turned into signs of its own.
-/

namespace SubsetMatch.Yaml

/-- The sign of a text. -/
inductive Token
  | version
  | tagPrefix (handle lead : List Char)
  | documentStart
  | documentEnd
  | blockSequence
  | blockMapping
  | blockEnd
  | flowSequence
  | flowSequenceEnd
  | flowMapping
  | flowMappingEnd
  | blockEntry
  | flowEntry
  | key
  | value
  | repeated (name : List Char)
  | anchor (name : List Char)
  | tag (handle suffix : List Char)
  | scalar (text : List Char) (isPlain : Bool)
deriving DecidableEq, Repr

/-- The characters of anchors and tag handles. -/
def isLabelChar (c : Char) : Bool :=
  c.isAlphanum || c == '_' || c == '-'

/-- The characters that may follow an anchor without a blank. -/
def endsAnchor (cs : List Char) : Bool :=
  endsWord cs || (cs.head?.map ['?', ':', ',', ']', '\x7d', '%', '@', '\x60'].contains).getD false

/-- The name of an anchor or alias, from its sign on. -/
def readAnchor (c : Cursor) : Except Error (List Char × Cursor) :=
  let (name, c) := c.step.span isLabelChar
  if name.isEmpty || !endsAnchor c.rest then c.fail .anchorName else .ok (name, c)

/-- The characters of tags but for escapes. -/
def isTagChar (verbatim : Bool) (c : Char) : Bool :=
  isLabelChar c ||
    [';', '/', '?', ':', '@', '&', '=', '+', '$', '.', '!', '~', '*', '\'', '(', ')'].contains c ||
    verbatim && [',', '[', ']'].contains c

/-- A byte written as a percent sign and two digits. -/
def escapedByte? : List Char → Option UInt8
  | '%' :: a :: b :: _ =>
    (Decimal.hexValue? a).bind fun x => (Decimal.hexValue? b).map fun y => UInt8.ofNat (x * 16 + y)
  | _ => none

/-- The number of bytes of a character that starts with a byte; zero if none does. -/
def leadWidth (b : UInt8) : Nat :=
  if b < 0x80 then 1
  else if b < 0xC0 then 0
  else if b < 0xE0 then 2
  else if b < 0xF0 then 3
  else if b < 0xF8 then 4
  else 0

/-- Some escaped bytes. -/
def escapedBytes? : Nat → List Char → Option (List UInt8)
  | 0, _ => some []
  | n + 1, cs =>
    (escapedByte? cs).bind fun b => (escapedBytes? n (cs.drop 3)).map (b :: ·)

/-- A character whose bytes are escaped, and the number of bytes. -/
def escapedChar? (cs : List Char) : Option (Char × Nat) :=
  (escapedByte? cs).bind fun lead =>
    let width := leadWidth lead
    if width == 0 then none
    else
      (escapedBytes? width cs).bind fun bytes =>
        match Text.Utf8.decode bytes with
        | some [c] => some (c, width)
        | _ => none

/-- The characters of a tag. -/
def tagChars (verbatim : Bool) : Nat → Cursor → Except Error (List Char × Cursor)
  | 0, c => .ok ([], c)
  | fuel + 1, c =>
    match c.rest with
    | '%' :: _ =>
      match escapedChar? c.rest with
      | none => c.fail .tag
      | some (d, width) =>
        match tagChars verbatim fuel (c.steps (3 * width)) with
        | .error e => .error e
        | .ok (ds, c) => .ok (d :: ds, c)
    | d :: _ =>
      if isTagChar verbatim d then
        match tagChars verbatim fuel c.step with
        | .error e => .error e
        | .ok (ds, c) => .ok (d :: ds, c)
      else .ok ([], c)
    | [] => .ok ([], c)

/-- A tag handle: letters between two exclamation marks, of which the second may be missing. -/
def tagHandle (c : Cursor) : List Char × Cursor :=
  let (letters, c) := c.step.span isLabelChar
  if c.rest.head? == some '!' then ('!' :: (letters ++ ['!']), c.step) else ('!' :: letters, c)

/-- A tag between angle brackets, in full. -/
def verbatimTag (c : Cursor) : Except Error (Token × Cursor) :=
  match tagChars true (c.rest.length + 1) (c.steps 2) with
  | .error e => .error e
  | .ok (suffix, c) =>
    if suffix.isEmpty || c.rest.head? != some '>' then c.fail .tag
    else .ok (.tag [] suffix, c.step)

/-- A tag with a handle or without. -/
def shortTag (c : Cursor) : Except Error (Token × Cursor) :=
  let (handle, c) := tagHandle c
  let isHandle := 1 < handle.length && handle.getLast? == some '!'
  match tagChars false (c.rest.length + 1) c with
  | .error e => .error e
  | .ok (suffix, c) =>
    if isHandle then
      if suffix.isEmpty then c.fail .tag else .ok (.tag handle suffix, c)
    else
      let suffix := handle.tail ++ suffix
      if suffix.isEmpty then .ok (.tag [] ['!'], c) else .ok (.tag ['!'] suffix, c)

/-- A tag, from its exclamation mark on. -/
def readTag (flow : Bool) (c : Cursor) : Except Error (Token × Cursor) :=
  let read := if (c.rest.drop 1).head? == some '<' then verbatimTag c else shortTag c
  match read with
  | .error e => .error e
  | .ok (t, c) =>
    if endsWord c.rest || flow && c.rest.head? == some ',' then .ok (t, c) else c.fail .tag

/-- The rest of a line that may hold a comment. -/
def endDirective (c : Cursor) : Except Error Cursor :=
  let (_, c) := c.span isGap
  let (_, c) := if c.rest.head? == some '#' then c.span (fun d => !isBreak d) else ([], c)
  match c.lineBreak? with
  | some (_, next) => .ok next
  | none => if c.rest.isEmpty then .ok c else c.fail .directive

/-- The version in a directive, which must be the first with minor version one or two. -/
def versionDirective (c : Cursor) : Except Error (Token × Cursor) :=
  let (_, c) := c.span isGap
  let (major, c) := c.span Char.isDigit
  if c.rest.head? != some '.' then c.fail .directive
  else
    let (minor, c) := c.step.span Char.isDigit
    if major != ['1'] || minor != ['1'] && minor != ['2'] then c.fail .version
    else .ok (.version, c)

/-- The handle and the prefix in a directive. -/
def tagDirective (c : Cursor) : Except Error (Token × Cursor) :=
  let (_, c) := c.span isGap
  if c.rest.head? != some '!' then c.fail .directive
  else
    let (handle, c) := tagHandle c
    if handle != ['!'] && handle.getLast? != some '!' then c.fail .directive
    else if !(c.rest.head?.map isGap).getD false then c.fail .directive
    else
      let (_, c) := c.span isGap
      match tagChars true (c.rest.length + 1) c with
      | .error e => .error e
      | .ok (lead, c) =>
        if lead.isEmpty || !endsWord c.rest then c.fail .directive
        else .ok (.tagPrefix handle lead, c)

/-- A directive, from its percent sign on. -/
def readDirective (c : Cursor) : Except Error (Token × Cursor) :=
  let (name, c) := c.step.span isLabelChar
  let read :=
    if !endsWord c.rest then c.fail .directive
    else if name == "YAML".toList then versionDirective c
    else if name == "TAG".toList then tagDirective c
    else c.fail .directive
  match read with
  | .error e => .error e
  | .ok (t, c) => (endDirective c).map fun c => (t, c)

/-- A place where a key may have begun: the number of tokens before it, and whether it must be one
because nothing else may stand there. -/
structure KeyStart where
  mark : Mark
  tokens : Nat
  isRequired : Bool
deriving DecidableEq, Repr

/-- The state of a reading. Tokens come last first; indentations count from one and zero means none;
for every open flow collection, and the block around them, there may be the start of a key. -/
structure Layout where
  cursor : Cursor
  tokens : List Token
  indents : List Nat
  keys : List (Option KeyStart)
  keyAllowed : Bool
deriving DecidableEq, Repr

/-- A token put behind the first `n`, in a list with the last token first. -/
def insertAt (n : Nat) (t : Token) (tokens : List Token) : List Token :=
  let behind := tokens.length - n
  tokens.take behind ++ t :: tokens.drop behind

namespace Layout

/-- The start of a text. -/
def start (cs : List Char) : Layout :=
  ⟨⟨.start, cs⟩, [], [], [none], true⟩

/-- Whether a flow collection is open. -/
def isFlow (l : Layout) : Bool :=
  1 < l.keys.length

/-- The indentation, counted from one. -/
def indent (l : Layout) : Nat :=
  l.indents.head?.getD 0

/-- One more token. -/
def push (l : Layout) (t : Token) : Layout :=
  { l with tokens := t :: l.tokens }

/-- The reading goes on somewhere else. -/
def moveTo (l : Layout) (c : Cursor) : Layout :=
  { l with cursor := c }

/-- Keys may begin here, or not. -/
def allowKey (l : Layout) (allowed : Bool) : Layout :=
  { l with keyAllowed := allowed }

/-- The start of a key on the current level. -/
def currentKey (l : Layout) : Option KeyStart :=
  l.keys.head?.getD none

/-- The start of a key on the current level replaced. -/
def setKey (l : Layout) (k : Option KeyStart) : Layout :=
  { l with keys := k :: l.keys.tail }

/-- The start of a key forgotten. -/
def dropKey (l : Layout) : Except Error Layout :=
  match l.currentKey with
  | some k => if k.isRequired then l.cursor.fail .keyNotEnded else .ok (l.setKey none)
  | none => .ok l

/-- A key may have begun here. -/
def saveKey (l : Layout) : Except Error Layout :=
  if !l.keyAllowed then .ok l
  else
    l.dropKey.map fun l =>
      l.setKey (some ⟨l.cursor.mark, l.tokens.length,
        !l.isFlow && l.indent == l.cursor.mark.column + 1⟩)

/-- A deeper indentation, with the token of the collection that it begins, behind the first `n`
tokens. -/
def deepen (l : Layout) (column n : Nat) (t : Token) : Layout :=
  if l.isFlow then l
  else if l.indent < column + 1 then
    { l with indents := (column + 1) :: l.indents, tokens := insertAt n t l.tokens }
  else l

/-- The ends of the collections that are indented more. -/
def unwind (level : Nat) : List Nat → List Token → List Nat × List Token
  | [], tokens => ([], tokens)
  | n :: indents, tokens =>
    if level < n then unwind level indents (.blockEnd :: tokens) else (n :: indents, tokens)

/-- A lesser indentation, counted from one. -/
def lessen (l : Layout) (level : Nat) : Layout :=
  if l.isFlow then l
  else
    let (indents, tokens) := unwind level l.indents l.tokens
    { l with indents := indents, tokens := tokens }

/-- The longest key. -/
def maxKeyLength : Nat := 1024

/-- The start of the key that a colon ends here: on the same line, and not too far away. -/
def endedKey (l : Layout) : Except Error (Option KeyStart) :=
  match l.currentKey with
  | none => .ok none
  | some k =>
    let m := l.cursor.mark
    if k.mark.line == m.line && m.index ≤ k.mark.index + maxKeyLength then .ok (some k)
    else if k.isRequired then l.cursor.fail .keyNotEnded
    else .ok none

/-- Blanks, comments and line breaks. A tab may stand where it does not indent anything. -/
def skipSpace : Nat → Layout → Layout
  | 0, l => l
  | fuel + 1, l =>
    let tabs := l.isFlow || !l.keyAllowed
    let (_, c) := l.cursor.span fun d => d == ' ' || tabs && d == '\t'
    let (_, c) := if c.rest.head? == some '#' then c.span (fun d => !isBreak d) else ([], c)
    match c.lineBreak? with
    | some (_, next) =>
      skipSpace fuel { l with cursor := next, keyAllowed := !l.isFlow || l.keyAllowed }
    | none => l.moveTo c

/-- The sign of a document, three characters long. -/
def documentSign (l : Layout) (t : Token) : Except Error Layout :=
  (l.lessen 0).dropKey.map fun l => ((l.allowKey false).push t).moveTo (l.cursor.steps 3)

/-- A directive. -/
def directive (l : Layout) : Except Error Layout :=
  match (l.lessen 0).dropKey with
  | .error e => .error e
  | .ok l =>
    (readDirective l.cursor).map fun (t, c) => ((l.allowKey false).push t).moveTo c

/-- The beginning of a flow collection. -/
def openFlow (l : Layout) (t : Token) : Except Error Layout :=
  l.saveKey.map fun l =>
    { l with tokens := t :: l.tokens, keys := none :: l.keys, keyAllowed := true,
             cursor := l.cursor.step }

/-- The end of a flow collection. -/
def closeFlow (l : Layout) (t : Token) : Except Error Layout :=
  l.dropKey.map fun l =>
    { l with tokens := t :: l.tokens, keyAllowed := false, cursor := l.cursor.step,
             keys := if l.isFlow then l.keys.tail else l.keys }

/-- A comma. -/
def flowEntry (l : Layout) : Except Error Layout :=
  l.dropKey.map fun l => ((l.allowKey true).push .flowEntry).moveTo l.cursor.step

/-- A hyphen before an entry. -/
def blockEntry (l : Layout) : Except Error Layout :=
  if !l.isFlow && !l.keyAllowed then l.cursor.fail .blockEntry
  else
    (l.deepen l.cursor.mark.column l.tokens.length .blockSequence).dropKey.map fun l =>
      ((l.allowKey true).push .blockEntry).moveTo l.cursor.step

/-- A question mark before a key. -/
def explicitKey (l : Layout) : Except Error Layout :=
  if !l.isFlow && !l.keyAllowed then l.cursor.fail .mappingKey
  else
    (l.deepen l.cursor.mark.column l.tokens.length .blockMapping).dropKey.map fun l =>
      ((l.allowKey !l.isFlow).push .key).moveTo l.cursor.step

/-- A colon before a value. The key before it becomes one now. -/
def mappingValue (l : Layout) : Except Error Layout :=
  match l.endedKey with
  | .error e => .error e
  | .ok (some k) =>
    let l := { l with tokens := insertAt k.tokens .key l.tokens }
    let l := (l.deepen k.mark.column k.tokens .blockMapping).setKey none
    .ok (((l.allowKey false).push .value).moveTo l.cursor.step)
  | .ok none =>
    if !l.isFlow && !l.keyAllowed then l.cursor.fail .mappingValue
    else
      let l := (l.deepen l.cursor.mark.column l.tokens.length .blockMapping).setKey none
      .ok (((l.allowKey !l.isFlow).push .value).moveTo l.cursor.step)

/-- A token that may begin a key. -/
def label (l : Layout) (read : Cursor → Except Error (Token × Cursor)) : Except Error Layout :=
  match l.saveKey with
  | .error e => .error e
  | .ok l => (read l.cursor).map fun (t, c) => ((l.allowKey false).push t).moveTo c

/-- A block scalar. -/
def blockScalar (l : Layout) (folded : Bool) : Except Error Layout :=
  match l.dropKey with
  | .error e => .error e
  | .ok l =>
    (readBlockScalar folded l.indent l.cursor).map fun (text, c) =>
      ((l.allowKey true).push (.scalar text false)).moveTo c

/-- A plain scalar. Behind one that goes over lines a key may begin. -/
def plain (l : Layout) : Except Error Layout :=
  match l.saveKey with
  | .error e => .error e
  | .ok l =>
    (readPlain l.isFlow l.indent l.cursor).map fun (text, c, isFolded) =>
      ((l.allowKey isFolded).push (.scalar text true)).moveTo c

/-- The signs that no plain scalar begins with. -/
def isIndicator (c : Char) : Bool :=
  ['-', '?', ':', ',', '[', ']', '\x7b', '\x7d', '#', '&', '*', '!', '|', '>', '\'', '"', '%', '@',
    '\x60'].contains c

/-- Whether a plain scalar begins with a character, of which `cs` stand behind. -/
def beginsPlain (flow : Bool) (c : Char) (cs : List Char) : Bool :=
  !isGap c && !isBreak c && !isIndicator c ||
    c == '-' && !(cs.head?.map isGap).getD false ||
    !flow && (c == '?' || c == ':') && !endsWord cs

/-- The next token. -/
def next (l : Layout) (c : Char) (cs : List Char) : Except Error Layout :=
  let atStart := l.cursor.mark.column == 0
  let flow := l.isFlow
  if atStart && c == '%' then l.directive
  else if l.cursor.isAtDocumentSign then
    l.documentSign (if c == '-' then .documentStart else .documentEnd)
  else if c == '[' then l.openFlow .flowSequence
  else if c == '\x7b' then l.openFlow .flowMapping
  else if c == ']' then l.closeFlow .flowSequenceEnd
  else if c == '\x7d' then l.closeFlow .flowMappingEnd
  else if c == ',' then l.flowEntry
  else if c == '-' && endsWord cs then l.blockEntry
  else if c == '?' && (flow || endsWord cs) then l.explicitKey
  else if c == ':' && (flow || endsWord cs) then l.mappingValue
  else if c == '*' then l.label fun c => (readAnchor c).map fun (name, c) => (.repeated name, c)
  else if c == '&' then l.label fun c => (readAnchor c).map fun (name, c) => (.anchor name, c)
  else if c == '!' then l.label (readTag flow)
  else if c == '|' && !flow then l.blockScalar false
  else if c == '>' && !flow then l.blockScalar true
  else if c == '\'' then
    l.label fun c => (readQuoted false c).map fun (text, c) => (.scalar text false, c)
  else if c == '"' then
    l.label fun c => (readQuoted true c).map fun (text, c) => (.scalar text false, c)
  else if beginsPlain flow c cs then l.plain
  else l.cursor.fail .noToken

/-- The end of a text ends all collections that are open by indentation. -/
def finish (l : Layout) : Except Error (List Token) :=
  (l.lessen 0).dropKey.map fun l => l.tokens.reverse

/-- The rest of the tokens. Every round reads a character, so there are no more rounds than
characters. -/
def run : Nat → Layout → Except Error (List Token)
  | 0, l => l.finish
  | fuel + 1, l =>
    let l := l.skipSpace (l.cursor.rest.length + 1)
    match l.cursor.rest with
    | [] => l.finish
    | c :: cs =>
      match (l.lessen (l.cursor.mark.column + 1)).next c cs with
      | .error e => .error e
      | .ok l => run fuel l

end Layout

/-- The tokens of a text. A mark of the byte order may stand first and takes a column. -/
def tokens (cs : List Char) : Except Error (List Token) :=
  if cs.all isAllowed then
    let l := Layout.start cs
    Layout.run (cs.length + 1) (if cs.head? == some '\uFEFF' then l.moveTo l.cursor.step else l)
  else .error ⟨.controlCharacter, .start⟩

end SubsetMatch.Yaml
