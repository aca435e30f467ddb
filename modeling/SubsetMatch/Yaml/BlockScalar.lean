import SubsetMatch.Yaml.Cursor

/-!
# Block scalars

A block scalar is a run of indented lines behind `|`, which keeps line breaks, or `>`, which folds
them. Signs behind it say what becomes of the breaks at the end and how far lines are indented.
-/

namespace SubsetMatch.Yaml

/-- What becomes of the line breaks at the end of a block scalar. -/
inductive Chomping
  | strip
  | clip
  | keep
deriving DecidableEq, Repr

/-- The signs behind the first one: the chomping and the explicit indentation. -/
structure BlockHeader where
  chomping : Chomping
  indentation : Option Nat
deriving DecidableEq, Repr

/-- The chomping that a sign stands for. -/
def chomping? : Char → Option Chomping
  | '-' => some .strip
  | '+' => some .keep
  | _ => none

/-- The chomping sign that comes next, if there is one. -/
def readChomping (c : Cursor) : Option Chomping × Cursor :=
  match c.rest.head?.bind chomping? with
  | some k => (some k, c.step)
  | none => (none, c)

/-- The indentation sign that comes next, if there is one; it must not be zero. -/
def readIndentation (c : Cursor) : Except Error (Option Nat × Cursor) :=
  match c.rest with
  | d :: _ =>
    if d == '0' then c.fail .zeroIndentation
    else if d.isDigit then .ok (some (d.toNat - '0'.toNat), c.step)
    else .ok (none, c)
  | [] => .ok (none, c)

/-- The signs behind the first one, in either order. -/
def readHeader (c : Cursor) : Except Error (BlockHeader × Cursor) :=
  let (first, c) := readChomping c
  match readIndentation c with
  | .error e => .error e
  | .ok (indentation, c) =>
    let (second, c) := if first.isNone && indentation.isSome then readChomping c else (none, c)
    .ok (⟨(first.or second).getD .clip, indentation⟩, c)

/-- The rest of the header's line, which may hold a comment. -/
def endHeader (c : Cursor) : Except Error Cursor :=
  let (_, c) := c.span isGap
  let (_, c) := if c.rest.head? == some '#' then c.span (fun d => !isBreak d) else ([], c)
  match c.lineBreak? with
  | some (_, next) => .ok next
  | none => if c.rest.isEmpty then .ok c else c.fail .blockHeader

/-- Empty lines: the breaks, the place of the first line that is not empty, and the longest
indentation. While the indentation is unknown all spaces count. -/
def emptyLines (indent : Option Nat) :
    Nat → List Char → Nat → Cursor → Except Error (List Char × Nat × Cursor)
  | 0, breaks, longest, c => .ok (breaks, longest, c)
  | fuel + 1, breaks, longest, c =>
    let room := match indent with
      | none => c.rest.length
      | some n => n - c.mark.column
    let spaces := (c.rest.takeWhile (· == ' ')).take room
    let c := c.steps spaces.length
    let longest := if longest < c.mark.column then c.mark.column else longest
    let isOpen := (indent.map fun n => decide (c.mark.column < n)).getD true
    if isOpen && c.rest.head? == some '\t' then c.fail .tabAsIndentation
    else
      match c.lineBreak? with
      | some (b, next) => emptyLines indent fuel (breaks ++ [b]) longest next
      | none => .ok (breaks, longest, c)

/-- The lines read so far, and the breaks that have to be joined to the next one. -/
structure BlockText where
  text : List Char
  leading : List Char
  trailing : List Char
  startsBlank : Bool
deriving DecidableEq, Repr

/-- The text with the breaks before the next line. -/
def BlockText.join (t : BlockText) (folded nextBlank : Bool) : List Char :=
  let leading :=
    if folded && t.leading == ['\n'] && !t.startsBlank && !nextBlank then
      if t.trailing.isEmpty then [' '] else []
    else t.leading
  t.text ++ leading ++ t.trailing

/-- The lines that are indented as far. -/
def blockLines (folded : Bool) (indent : Nat) :
    Nat → BlockText → Cursor → Except Error (BlockText × Cursor)
  | 0, t, c => .ok (t, c)
  | fuel + 1, t, c =>
    if c.mark.column != indent || c.rest.isEmpty then .ok (t, c)
    else
      let isBlank := (c.rest.head?.map isGap).getD false
      let joined := t.join folded isBlank
      let (line, c) := c.span (fun d => !isBreak d)
      let (leading, c) := match c.lineBreak? with
        | some (b, next) => ([b], next)
        | none => ([], c)
      match emptyLines (some indent) c.rest.length [] 0 c with
      | .error e => .error e
      | .ok (trailing, _, c) =>
        blockLines folded indent fuel ⟨joined ++ line, leading, trailing, isBlank⟩ c

/-- The text with what is kept of the breaks at the end. -/
def BlockText.chomped (t : BlockText) : Chomping → List Char
  | .strip => t.text
  | .clip => t.text ++ t.leading
  | .keep => t.text ++ t.leading ++ t.trailing

/-- A block scalar, from its first sign on, in a block that is indented less than `inner`. -/
def readBlockScalar (folded : Bool) (inner : Nat) (c : Cursor) :
    Except Error (List Char × Cursor) :=
  match readHeader c.step with
  | .error e => .error e
  | .ok (header, c) =>
    match endHeader c with
    | .error e => .error e
    | .ok c =>
      let given := header.indentation.map fun n => (inner - 1) + n
      match emptyLines given (c.rest.length + 1) [] 0 c with
      | .error e => .error e
      | .ok (breaks, longest, c) =>
        let least := if inner < 1 then 1 else inner
        let indent := given.getD (if longest < least then least else longest)
        match blockLines folded indent (c.rest.length + 1) ⟨[], [], breaks, false⟩ c with
        | .error e => .error e
        | .ok (t, c) => .ok (t.chomped header.chomping, c)

end SubsetMatch.Yaml
