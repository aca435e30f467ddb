import SubsetMatch.Directive.SyntaxError

/-!
# Reading directives (§10.3)

A text is shaped like a directive when it starts with the marker, a name and an opening
parenthesis. Its arguments are then read one character at a time: bare text, in which brackets
must nest and commas inside brackets do not separate, or a quoted literal. The closing
parenthesis must be the last character.

The program reads in one loop, `scan_arguments`, over local variables. Here these are the fields of
a `Scan`, `Scan.step` is one turn of the loop, and its ends without a closing parenthesis are
`finish`.

Results:
* `scanFrom_append`: reading a text in two parts is reading its first part and then its second.
* `parse_eq_none_iff`: a text is no directive exactly when it is not shaped like one.
-/

namespace SubsetMatch.Directive

open Text

/-- What the next character is read as. -/
inductive Mode
  /-- text of a bare argument -/
  | bare
  /-- text of a literal whose opening quote stands at an offset -/
  | quoted (quote : Char) (start : Nat)
  /-- the character behind a backslash in a literal -/
  | escape (quote : Char) (start : Nat)
  /-- a separator after a literal -/
  | closedQuote
  /-- nothing may follow the closing parenthesis -/
  | finished
deriving DecidableEq, Repr

/-- An open bracket of a bare argument: what closes it and where it stands (`groups`). -/
structure Group where
  closer : Char
  offset : Nat
deriving DecidableEq, Repr

/-- The arguments read so far and the one being read. -/
structure Scan where
  mode : Mode
  args : List String
  current : List Char
  groups : List Group
  separated : Bool
deriving DecidableEq, Repr

namespace Scan

/-- Right behind the opening parenthesis. -/
def start : Scan :=
  ⟨.bare, [], [], [], false⟩

/-- The current argument completed with a text. -/
def push (s : Scan) (arg : List Char) : Scan :=
  { s with args := s.args ++ [String.ofList arg], current := [] }

/-- A character of the current argument. -/
def add (s : Scan) (c : Char) : Scan :=
  { s with current := s.current ++ [c] }

end Scan

/-- The bracket that closes an opening one (`closer_for`). -/
def closerFor? (c : Char) : Option Char :=
  if c == '(' then some ')' else if c == '[' then some ']' else if c == '{' then some '}' else none

/-- Closing brackets. -/
def isCloser (c : Char) : Bool :=
  c == ')' || c == ']' || c == '}'

/-- The arguments complete, a bare one trimmed. A single blank argument is no argument. -/
def Scan.closeBare (s : Scan) : Scan :=
  let last := trim s.current
  if s.args.isEmpty && last.isEmpty && !s.separated then { s with mode := .finished, current := [] }
  else { s.push last with mode := .finished }

/-- A closing bracket of a bare argument. -/
def Scan.closeGroup (s : Scan) (offset : Nat) (c : Char) : Except Fault Scan :=
  match s.groups with
  | [] => .error ⟨offset, .unbalanced c⟩
  | g :: groups =>
    if g.closer == c then .ok { s.add c with groups := groups }
    else .error ⟨offset, .mismatched c g.closer⟩

/-- One character of a bare argument. -/
def Scan.stepBare (s : Scan) (offset : Nat) (c : Char) : Except Fault Scan :=
  if (c == '"' || c == '\'') && s.groups.isEmpty && allBlank s.current then
    .ok { s with mode := .quoted c offset, current := [] }
  else
    match closerFor? c with
    | some closer => .ok { s.add c with groups := ⟨closer, offset⟩ :: s.groups }
    | none =>
      if c == ')' && s.groups.isEmpty then .ok s.closeBare
      else if isCloser c then s.closeGroup offset c
      else if c == ',' && s.groups.isEmpty then .ok { s.push (trim s.current) with separated := true }
      else .ok (s.add c)

/-- One character at a byte offset. -/
def Scan.step (s : Scan) (offset : Nat) (c : Char) : Except Fault Scan :=
  match s.mode with
  | .bare => s.stepBare offset c
  | .quoted quote start =>
    if c == quote then .ok { s with mode := .closedQuote }
    else if c == '\\' then .ok { s with mode := .escape quote start }
    else .ok (s.add c)
  | .escape quote start =>
    if c == quote || c == '\\' then .ok { s.add c with mode := .quoted quote start }
    else .ok { (s.add '\\').add c with mode := .quoted quote start }
  | .closedQuote =>
    if c == ',' then .ok { s.push s.current with mode := .bare, separated := true }
    else if c == ')' then .ok { s.push s.current with mode := .finished }
    else if isBlank c then .ok s
    else .error ⟨offset, .afterQuoted⟩
  | .finished => .error ⟨offset, .afterClose⟩

/-- The arguments at the end of the text whose opening parenthesis stands at `opening`. -/
def Scan.finish (s : Scan) (opening : Nat) : Except Fault (List String) :=
  match s.mode with
  | .finished => .ok s.args
  | .quoted _ start | .escape _ start => .error ⟨start, .unterminated⟩
  | .bare | .closedQuote =>
    match s.groups with
    | [] => .error ⟨opening, .missingClose⟩
    | g :: _ => .error ⟨g.offset, .unclosed g.closer⟩

/-- The state after a text that starts at a byte offset. -/
def scanFrom (s : Scan) (offset : Nat) : List Char → Except Fault Scan
  | [] => .ok s
  | c :: cs =>
    match s.step offset c with
    | .error f => .error f
    | .ok s => scanFrom s (offset + c.utf8Size) cs

/-- The name and the text behind the opening parenthesis of a text shaped like a directive
(`directive_name_len`). -/
def shape? (cs : List Char) : Option (List Char × List Char) :=
  match cs with
  | m :: rest =>
    if m == marker && rest.head?.any isNameStart then
      match rest.dropWhile isNameRest with
      | '(' :: body => some (rest.takeWhile isNameRest, body)
      | _ => none
    else none
  | [] => none

/-- Whether a text starts like a directive (`is_directive_shaped`). -/
def isShaped (text : String) : Bool :=
  (shape? text.toList).isSome

/-- The byte offset of the opening parenthesis behind a name. -/
def opening (name : List Char) : Nat :=
  marker.utf8Size + Utf8.width name

/-- The arguments between the parentheses (`scan_arguments`). -/
def scanArguments (opening : Nat) (body : List Char) : Except Fault (List String) :=
  match scanFrom .start (opening + '('.utf8Size) body with
  | .error f => .error f
  | .ok s => s.finish opening

/-- A needle text as a directive; `none` if it is not shaped like one. -/
def parse (text : String) : Except SyntaxError (Option Directive) :=
  match shape? text.toList with
  | none => .ok none
  | some (name, body) =>
    match scanArguments (opening name) body with
    | .error f => .error ⟨text, f.offset, f.reason⟩
    | .ok args => .ok (some ⟨String.ofList name, args⟩)

theorem scanFrom_append (s : Scan) (offset : Nat) (a b : List Char) :
    scanFrom s offset (a ++ b) =
      match scanFrom s offset a with
      | .error f => .error f
      | .ok s' => scanFrom s' (offset + Utf8.width a) b := by
  induction a generalizing s offset with
  | nil => simp [scanFrom]
  | cons c cs ih =>
    rw [List.cons_append, scanFrom, scanFrom]
    cases hs : s.step offset c with
    | error f => rfl
    | ok s' =>
      simp only [ih, Utf8.width_cons]
      rw [Nat.add_assoc]

theorem parse_eq_none_iff {text : String} : parse text = .ok none ↔ isShaped text = false := by
  unfold parse isShaped
  cases h : shape? text.toList with
  | none => simp
  | some p =>
    obtain ⟨name, body⟩ := p
    cases hs : scanArguments (opening name) body <;> simp [hs]

end SubsetMatch.Directive
