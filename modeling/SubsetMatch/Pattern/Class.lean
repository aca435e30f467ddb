import SubsetMatch.Entries
import SubsetMatch.Pattern.Escape
import SubsetMatch.Unicode.Name

/-!
# Classes of characters in patterns

The sets that classes stand for in a mode. Where Unicode is switched off, classes hold ASCII
characters only, and negated ones would match parts of a character, so they are refused.
-/

namespace SubsetMatch.Pattern

open Unicode

/-- The set of the ranges between pairs of characters. -/
def ranges (rs : List (Char × Char)) : CharSet :=
  .unions (rs.map fun (a, b) => .range a.toNat b.toNat)

/-- The ASCII classes, by name. -/
def asciiClasses : List (String × CharSet) := [
  ("alnum", ranges [('0', '9'), ('A', 'Z'), ('a', 'z')]),
  ("alpha", ranges [('A', 'Z'), ('a', 'z')]),
  ("ascii", ranges [('\x00', '\x7f')]),
  ("blank", ranges [('\t', '\t'), (' ', ' ')]),
  ("cntrl", ranges [('\x00', '\x1f'), ('\x7f', '\x7f')]),
  ("digit", ranges [('0', '9')]),
  ("graph", ranges [('!', '~')]),
  ("lower", ranges [('a', 'z')]),
  ("print", ranges [(' ', '~')]),
  ("punct", ranges [('!', '/'), (':', '@'), ('[', '\x60'), ('\x7b', '~')]),
  ("space", ranges [('\t', '\r'), (' ', ' ')]),
  ("upper", ranges [('A', 'Z')]),
  ("word", ranges [('0', '9'), ('A', 'Z'), ('_', '_'), ('a', 'z')]),
  ("xdigit", ranges [('0', '9'), ('A', 'F'), ('a', 'f')])]

/-- An ASCII class. -/
def asciiClass? (name : String) : Option CharSet :=
  Entries.find? name asciiClasses

/-- The name of the ASCII class that a letter stands for. -/
def LetterClass.asciiName : LetterClass → String
  | digit => "digit"
  | space => "space"
  | word => "word"

/-- The members of a class with a letter of its own. -/
def LetterClass.chars (unicode : Bool) (c : LetterClass) : CharSet :=
  if unicode then
    match c with
    | digit => digits
    | space => whiteSpace
    | word => wordChars
  else (asciiClass? c.asciiName).getD .empty

/-- The distance between the cases of an ASCII letter. -/
def caseDistance : Nat := 32

/-- The set with the other case of its ASCII letters. -/
def foldAscii (s : CharSet) : CharSet :=
  let lower := (s.inter (ranges [('a', 'z')])).changes.map (· - caseDistance)
  let upper := (s.inter (ranges [('A', 'Z')])).changes.map (· + caseDistance)
  s.union ((CharSet.mk lower).union ⟨upper⟩)

/-- The class with all its members in other case, if case is ignored. -/
def Mode.fold (m : Mode) (s : CharSet) : CharSet :=
  if !m.ignoreCase then s else if m.unicode then s.foldClosure else foldAscii s

/-- The complement, if asked for. -/
def Mode.negateIf (m : Mode) (negated : Bool) (s : CharSet) : Except Reason CharSet :=
  if !negated then .ok s else if m.unicode then .ok s.compl else .error .notText

/-- The class of a literal, whose other case is not looked at. A byte beyond ASCII is part of a
character. -/
def Mode.literal (m : Mode) (l : Literal) : Except Reason Char :=
  if m.unicode || l.char.toNat < 128 || !l.isByte then .ok l.char else .error .notText

/-- A literal as a member of a class. -/
def Mode.member (m : Mode) (l : Literal) : Except Reason Char :=
  match m.literal l with
  | .error e => .error e
  | .ok c => if m.unicode || c.toNat < 128 then .ok c else .error .beyondAscii

/-- A named class, in all its cases if case is ignored. -/
def Mode.named (m : Mode) (s : Option CharSet) (negated : Bool) : Except Reason CharSet :=
  if !m.unicode then .error .beyondAscii
  else
    match s with
    | none => .error .unknownClass
    | some s => m.negateIf negated (m.fold s)

/-- The set that a primitive stands for in brackets, and the literal if it is one. -/
def Mode.classOf (m : Mode) : Primitive → Except Reason CharSet
  | .literal l => (m.member l).map .single
  | .letterClass c negated => m.negateIf negated (c.chars m.unicode)
  | .namedClass name negated => m.named (classNamed? name) negated
  | .valuedClass property value negated => m.named (classValued? property value) negated
  | .textStart | .textEnd | .word _ => .error .classEscape

/-- The set that a literal matches. -/
def Mode.literalSet (m : Mode) (l : Literal) : Except Reason CharSet :=
  (m.literal l).map fun c =>
    if m.unicode || c.toNat < 128 then m.fold (.single c) else .single c

/-- What the dot matches: any character, or any but those that end a line. -/
def Mode.dot (m : Mode) : Except Reason CharSet :=
  if !m.unicode then .error .notText
  else if m.dotAll then .ok .all
  else if m.carriageReturns then .ok ((CharSet.single '\n').union (.single '\r')).compl
  else .ok (CharSet.single '\n').compl

end SubsetMatch.Pattern
