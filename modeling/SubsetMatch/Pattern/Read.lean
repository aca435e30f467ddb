import SubsetMatch.Pattern.Bracket
import SubsetMatch.Pattern.Regex

/-!
# Reading of patterns

A pattern is read from left to right with a stack of open groups. Options written in a group hold up
to its end.
-/

namespace SubsetMatch.Pattern

open Text Unicode

/-- A part of a pattern and how deep its written form nests. -/
structure Part where
  regex : Regex
  depth : Nat
deriving DecidableEq, Repr

/-- Something in a sequence: a part, or options, which nothing can repeat. -/
inductive Item
  | part (p : Part)
  | options
deriving DecidableEq, Repr

/-- What an item matches. -/
def Item.toPart : Item → Part
  | part p => p
  | options => ⟨.empty, 0⟩

/-- The greater of two depths. -/
def deeper (a b : Nat) : Nat :=
  if a < b then b else a

/-- Several parts nest one level deeper than the deepest of them. -/
def joined (make : List Regex → Regex) : List Part → Part
  | [] => ⟨.empty, 0⟩
  | [p] => p
  | ps => ⟨make (ps.map Part.regex), ps.foldl (fun d p => deeper d p.depth) 0 + 1⟩

/-- The branches of a choice before the current one, and the items of that one, last first. -/
structure Level where
  branches : List Part
  items : List Item
deriving DecidableEq, Repr

namespace Level

/-- A level where nothing has been read. -/
def start : Level :=
  ⟨[], []⟩

/-- One more item. -/
def push (l : Level) (p : Part) : Level :=
  { l with items := .part p :: l.items }

/-- The current branch. -/
def branch (l : Level) : Part :=
  joined Regex.seqs (l.items.reverse.map Item.toPart)

/-- A new branch. -/
def split (l : Level) : Level :=
  ⟨l.branch :: l.branches, []⟩

/-- The whole choice. -/
def whole (l : Level) : Part :=
  joined Regex.alts (l.branch :: l.branches).reverse

/-- The last item repeated. -/
def repeatLast (l : Level) (least : Nat) (most : Option Nat) : Except Reason Level :=
  match l.items with
  | .part p :: items => .ok { l with items := .part ⟨.repeated p.regex least most, p.depth + 1⟩ :: items }
  | _ => .error .repetitionOfNothing

end Level

/-- An open group: what it stands in, the mode around it and whether it is counted. -/
structure OpenGroup where
  around : Level
  mode : Mode
  captures : Bool
deriving DecidableEq, Repr

/-- The state of a reading: the mode, the open groups, the innermost level and the names of groups.
-/
structure State where
  mode : Mode
  groups : List OpenGroup
  level : Level
  groupNames : List (List Char)
deriving DecidableEq, Repr

/-- Letters, and in other places also numbers. -/
def isNameChar (first : Bool) (c : Char) : Bool :=
  if first then c == '_' || alphabetic.has c
  else
    c == '_' || c == '.' || c == '[' || c == ']' || alphabetic.has c || Unicode.numeric.has c

/-- A group's name up to its closing angle bracket. -/
def readName (first : Bool) : List Char → Reading (List Char)
  | [] => .error .groupNameUnclosed
  | c :: cs =>
    if c == '>' then .ok ([], cs)
    else if !isNameChar first c then .error .groupNameInvalid
    else
      match readName false cs with
      | .error e => .error e
      | .ok (name, rest) => .ok (c :: name, rest)

namespace State

/-- A group opened, with the mode inside it. -/
def openGroup (s : State) (inside : Mode) (captures : Bool) : State :=
  { s with mode := inside, groups := ⟨s.level, s.mode, captures⟩ :: s.groups, level := .start }

/-- A group opened that has a name. -/
def openNamed (s : State) (cs : List Char) : Reading State :=
  match readName true cs with
  | .error e => .error e
  | .ok (name, rest) =>
    if name.isEmpty then .error .groupNameEmpty
    else if s.groupNames.contains name then .error .groupNameDuplicate
    else .ok ({ s.openGroup s.mode true with groupNames := name :: s.groupNames }, rest)

/-- A group opened that begins with options, or options without a group. -/
def openWithOptions (s : State) (cs : List Char) : Reading State :=
  if cs.isEmpty then .error .groupUnclosed
  else
    match readFlags [] false false s.mode cs with
    | .error e => .error e
    | .ok (f, rest) =>
      if !f.closed then .ok (s.openGroup f.mode false, rest)
      else if f.isEmpty then .error .repetitionOfNothing
      else
        .ok ({ s with mode := f.mode, level := { s.level with items := .options :: s.level.items } },
          rest)

/-- What an opening parenthesis begins. -/
def openParenthesis (s : State) (cs : List Char) : Reading State :=
  match skip s.mode.extended cs with
  | '?' :: '=' :: _ | '?' :: '!' :: _ | '?' :: '<' :: '=' :: _ | '?' :: '<' :: '!' :: _ =>
    .error .lookAround
  | '?' :: 'P' :: '<' :: rest => s.openNamed rest
  | '?' :: '<' :: rest => s.openNamed rest
  | '?' :: rest => s.openWithOptions rest
  | rest => .ok (s.openGroup s.mode true, rest)

/-- The innermost group closed. -/
def closeGroup (s : State) : Except Reason State :=
  match s.groups with
  | [] => .error .groupUnopened
  | g :: groups =>
    let whole := s.level.whole
    let regex := if g.captures then .group whole.regex else whole.regex
    .ok { s with mode := g.mode, groups := groups, level := g.around.push ⟨regex, whole.depth + 1⟩ }

/-- One more part that does not nest. -/
def pushRegex (s : State) (r : Regex) : State :=
  { s with level := s.level.push ⟨r, 0⟩ }

/-- The last item repeated. -/
def repeatLast (s : State) (least : Nat) (most : Option Nat) : Except Reason State :=
  (s.level.repeatLast least most).map fun level => { s with level := level }

/-- The characters that words consist of, in the mode. -/
def wordChars (s : State) : CharSet :=
  LetterClass.word.chars s.mode.unicode

/-- A primitive in a sequence. -/
def pushPrimitive (s : State) (p : Primitive) : Except Reason State :=
  match p with
  | .literal l => (s.mode.literalSet l).map fun chars => s.pushRegex (.one chars)
  | .textStart => .ok (s.pushRegex (.look .textStart))
  | .textEnd => .ok (s.pushRegex (.look .textEnd))
  | .word edge => .ok (s.pushRegex (.look (.word s.wordChars edge)))
  | p => (s.mode.classOf p).map fun chars => s.pushRegex (.one chars)

/-- The start of the text, or of a line. -/
def lineStart (s : State) : Look :=
  if s.mode.multiLine then .lineStart s.mode.carriageReturns else .textStart

/-- The end of the text, or of a line. -/
def lineEnd (s : State) : Look :=
  if s.mode.multiLine then .lineEnd s.mode.carriageReturns else .textEnd

end State

/-- A question mark behind a repetition says which matches are preferred. -/
def dropLazy : List Char → List Char
  | '?' :: cs => cs
  | cs => cs

/-- A result with the text that is left. -/
def leaving {α : Type} (rest : List Char) (r : Except Reason α) : Reading α :=
  r.map fun a => (a, rest)

/-- The next piece of a text, which starts with a character. -/
def readPiece (s : State) (c : Char) (cs : List Char) : Reading State :=
  let x := s.mode.extended
  match c with
  | '(' => s.openParenthesis cs
  | ')' => leaving cs s.closeGroup
  | '|' => .ok ({ s with level := s.level.split }, cs)
  | '[' =>
    (readBracket s.mode cs).map fun (n, rest) =>
      ({ s with level := s.level.push ⟨.one n.chars, n.depth⟩ }, rest)
  | '?' => leaving (dropLazy cs) (s.repeatLast 0 (some 1))
  | '*' => leaving (dropLazy cs) (s.repeatLast 0 none)
  | '+' => leaving (dropLazy cs) (s.repeatLast 1 none)
  | '\x7b' =>
    match readCounts x cs with
    | .error e => .error e
    | .ok (counts, rest) =>
      leaving (dropLazy (skip x rest)) (s.repeatLast counts.least counts.most)
  | '.' => leaving cs (s.mode.dot.map fun chars => s.pushRegex (.one chars))
  | '^' => .ok (s.pushRegex (.look s.lineStart), cs)
  | '$' => .ok (s.pushRegex (.look s.lineEnd), cs)
  | '\\' =>
    match readEscape x cs with
    | .error e => .error e
    | .ok (p, rest) => leaving rest (s.pushPrimitive p)
  | c => leaving cs (s.pushPrimitive (.char c))

/-- The rest of a pattern. Every round reads a character, so there are no more rounds than
characters. -/
def readPieces : Nat → State → List Char → Except Reason State
  | 0, s, _ => .ok s
  | fuel + 1, s, cs =>
    match skip s.mode.extended cs with
    | [] => .ok s
    | c :: cs =>
      match readPiece s c cs with
      | .error e => .error e
      | .ok (s, rest) => readPieces fuel s rest

/-- A pattern. -/
def read (m : Mode) (cs : List Char) : Except Reason Regex :=
  match readPieces cs.length ⟨m, [], .start, []⟩ cs with
  | .error e => .error e
  | .ok s =>
    let whole := s.level.whole
    if !s.groups.isEmpty then .error .groupUnclosed
    else if nestLimit < whole.depth then .error .nesting
    else .ok whole.regex

end SubsetMatch.Pattern
