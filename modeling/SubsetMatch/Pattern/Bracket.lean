import SubsetMatch.Pattern.Class

/-!
# Bracketed classes

A class in brackets lists characters, ranges and other classes. Classes nest, and two lists may be
joined by `&&`, `--` and `~~`, which bind less than listing and group to the left.
-/

namespace SubsetMatch.Pattern

open Text Unicode

/-- A set and how deep its written form nests. -/
structure Nested where
  chars : CharSet
  depth : Nat
deriving DecidableEq, Repr

/-- The items listed so far: their union, their number and the deepest. -/
structure Listing where
  chars : CharSet
  count : Nat
  depth : Nat
deriving DecidableEq, Repr

namespace Listing

/-- No item. -/
def none : Listing :=
  ⟨.empty, 0, 0⟩

/-- One more item. -/
def add (l : Listing) (item : Nested) : Listing :=
  ⟨l.chars.union item.chars, l.count + 1, if l.depth < item.depth then item.depth else l.depth⟩

/-- One more set that does not nest. -/
def addSet (l : Listing) (chars : CharSet) : Listing :=
  l.add ⟨chars, 0⟩

/-- The union as one item; several items nest deeper than a single one. -/
def close (l : Listing) : Nested :=
  ⟨l.chars, if l.count ≤ 1 then l.depth else l.depth + 1⟩

end Listing

/-- The operations on sets. -/
inductive SetOp
  | inter
  | diff
  | symmDiff
deriving DecidableEq, Repr

/-- The result of an operation. -/
def SetOp.apply : SetOp → CharSet → CharSet → CharSet
  | inter => CharSet.inter
  | diff => CharSet.diff
  | symmDiff => CharSet.symmDiff

/-- An open bracket: what it is listed in, whether it is negated and its first operand. -/
structure OpenBracket where
  around : Listing
  negated : Bool
  operand : Option (SetOp × Nested)
deriving DecidableEq, Repr

/-- The operand of an open bracket joined with the items behind it. -/
def OpenBracket.join (m : Mode) (b : OpenBracket) (items : Listing) : Nested :=
  match b.operand with
  | none => items.close
  | some (op, left) =>
    let right := items.close
    ⟨op.apply (m.fold left.chars) (m.fold right.chars),
      (if left.depth < right.depth then right.depth else left.depth) + 1⟩

/-- A closed bracket. -/
def OpenBracket.finish (m : Mode) (b : OpenBracket) (items : Listing) : Except Reason Nested :=
  let whole := b.join m items
  (m.negateIf b.negated (m.fold whole.chars)).map fun chars => ⟨chars, whole.depth + 1⟩

/-- The hyphens that stand first are literal. -/
def leadingHyphens (x : Bool) (items : Listing) (cs : List Char) : Listing × List Char :=
  match cs with
  | '-' :: rest => leadingHyphens x (items.addSet (.single '-')) (skip x rest)
  | cs => (items, cs)
termination_by cs.length
decreasing_by
  have hlen := length_skip_le x rest
  simp only [List.length_cons]
  omega

/-- What stands first in a bracket: a negation, hyphens and a bracket that closes nothing. -/
def readOpening (x : Bool) (around : Listing) (cs : List Char) : Reading (OpenBracket × Listing) :=
  let (negated, rest) := match skip x cs with
    | '^' :: rest => (true, skip x rest)
    | rest => (false, rest)
  let (items, rest) := leadingHyphens x .none rest
  let (items, rest) := match items.count, rest with
    | 0, ']' :: rest => (items.addSet (.single ']'), skip x rest)
    | _, rest => (items, rest)
  if rest.isEmpty then .error .classUnclosed else .ok ((⟨around, negated, none⟩, items), rest)

/-- The name of an ASCII class up to its closing signs. -/
def asciiName (cs : List Char) : Option (List Char × List Char) :=
  match cs.span (· != ':') with
  | (name, ':' :: ']' :: rest) => some (name, rest)
  | _ => none

/-- An ASCII class, which stands in brackets and colons of its own; `none` if there is none. -/
def readAscii (cs : List Char) : Option (Bool × CharSet × List Char) :=
  match cs with
  | '[' :: ':' :: rest =>
    let (negated, rest) := match rest with
      | '^' :: rest => (true, rest)
      | rest => (false, rest)
    (asciiName rest).bind fun (name, rest) =>
      (asciiClass? (String.ofList name)).map fun chars => (negated, chars, rest)
  | _ => none

/-- A character or an escape. -/
def readItem (x : Bool) : List Char → Reading Primitive
  | [] => .error .classUnclosed
  | '\\' :: cs => readEscape x cs
  | c :: cs => .ok (.char c, cs)

/-- The end of a range, which must be a literal. -/
def rangeEnd (m : Mode) : Primitive → Except Reason Char
  | .literal l => m.member l
  | _ => .error .classRangeEnd

/-- The range between two primitives. -/
def rangeOf (m : Mode) (first last : Primitive) : Except Reason CharSet :=
  match rangeEnd m first, rangeEnd m last with
  | .error e, _ => .error e
  | _, .error e => .error e
  | .ok a, .ok b => if b < a then .error .classRange else .ok (.range a.toNat b.toNat)

/-- An item or a range. A hyphen before a closing bracket or another hyphen makes no range. -/
def readRange (m : Mode) (cs : List Char) : Reading CharSet :=
  match readItem m.extended cs with
  | .error e => .error e
  | .ok (first, rest) =>
    let rest := skip m.extended rest
    let next := peek m.extended rest
    if rest.isEmpty then .error .classUnclosed
    else if rest.head? != some '-' || next == some ']' || next == some '-' then
      (m.classOf first).map fun chars => (chars, rest)
    else
      match readItem m.extended (skip m.extended (rest.drop 1)) with
      | .error e => .error e
      | .ok (last, rest) => (rangeOf m first last).map fun chars => (chars, rest)

/-- The operation that two equal signs stand for. -/
def setOp? : List Char → Option (SetOp × List Char)
  | '&' :: '&' :: rest => some (.inter, rest)
  | '-' :: '-' :: rest => some (.diff, rest)
  | '~' :: '~' :: rest => some (.symmDiff, rest)
  | _ => none

/-- The rest of the innermost open bracket and of those around it. Every round reads a character, so
there are no more rounds than characters. -/
def readItems (m : Mode) : Nat → OpenBracket → List OpenBracket → Listing → List Char → Reading Nested
  | 0, _, _, _, _ => .error .classUnclosed
  | fuel + 1, b, around, items, cs =>
    let cs := skip m.extended cs
    match setOp? cs with
    | some (op, rest) =>
      readItems m fuel { b with operand := some (op, b.join m items) } around .none rest
    | none =>
      match cs with
      | [] => .error .classUnclosed
      | '[' :: rest =>
        match readAscii cs with
        | some (negated, chars, rest) =>
          match m.negateIf negated (m.fold chars) with
          | .error e => .error e
          | .ok chars => readItems m fuel b around (items.addSet chars) rest
        | none =>
          match readOpening m.extended items rest with
          | .error e => .error e
          | .ok ((inner, first), rest) => readItems m fuel inner (b :: around) first rest
      | ']' :: rest =>
        match b.finish m items with
        | .error e => .error e
        | .ok whole =>
          match around with
          | [] => .ok (whole, rest)
          | outer :: around => readItems m fuel outer around (b.around.add whole) rest
      | cs =>
        match readRange m cs with
        | .error e => .error e
        | .ok (chars, rest) => readItems m fuel b around (items.addSet chars) rest

/-- A bracketed class, behind its opening bracket. -/
def readBracket (m : Mode) (cs : List Char) : Reading Nested :=
  match readOpening m.extended .none cs with
  | .error e => .error e
  | .ok ((b, items), rest) => readItems m (rest.length + 1) b [] items rest

end SubsetMatch.Pattern
