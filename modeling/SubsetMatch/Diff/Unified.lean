import SubsetMatch.Decimal.Shortest
import SubsetMatch.Diff.Compact

/-!
# Unified diffs

Edits are gathered into blocks, in which deletions go before insertions, and blocks into hunks
that show up to three kept lines around their changes. This is the text of `diff` (§10.9).
-/

namespace SubsetMatch.Diff

/-- A run of kept lines, or of lines that are replaced. -/
structure Block where
  isKept : Bool
  old : Span
  new : Span
deriving DecidableEq, Repr

/-- A change under way: the first deletion and insertion with their sizes so far. -/
structure Change where
  deleted : Option Edit
  inserted : Option Edit

namespace Change

/-- Nothing changed. -/
def none : Change :=
  ⟨.none, .none⟩

/-- An edit joined to an earlier one of its kind. -/
def join (e : Edit) : Option Edit → Edit
  | .none => e
  | some first => first.resize (first.size + e.size)

/-- One more edit. -/
def add (c : Change) (e : Edit) : Change :=
  match e.action with
  | .delete => { c with deleted := some (join e c.deleted) }
  | .insert => { c with inserted := some (join e c.inserted) }
  | .keep => c

/-- The block of a change, unless nothing changed. -/
def blocks (c : Change) : List Block :=
  match c.deleted, c.inserted with
  | some d, some i => [⟨false, d.oldSpan, i.newSpan⟩]
  | some d, .none => [⟨false, d.oldSpan, d.newSpan⟩]
  | .none, some i => [⟨false, i.oldSpan, i.newSpan⟩]
  | .none, .none => []

end Change

/-- The blocks of edits behind a change under way and kept lines before it. -/
def gather (kept : Option Edit) (c : Change) : List Edit → List Block
  | [] => keptBlock kept ++ c.blocks
  | e :: es =>
    if e.action = .keep then
      match c.blocks with
      | [] => gather (some (Change.join e kept)) Change.none es
      | bs => keptBlock kept ++ bs ++ gather (some e) Change.none es
    else gather kept (c.add e) es
where
  /-- The block of kept lines, if there are any. -/
  keptBlock : Option Edit → List Block
    | .none => []
    | some e => [⟨true, e.oldSpan, e.newSpan⟩]

/-- The most kept lines shown on one side of a change. -/
def radius : Nat := 3

/-- A block without its first lines. -/
def Block.dropFirst (b : Block) (n : Nat) : Block :=
  { b with old := ⟨b.old.start + n, b.old.stop⟩, new := ⟨b.new.start + n, b.new.stop⟩ }

/-- A block of its first lines. -/
def Block.takeFirst (b : Block) (n : Nat) : Block :=
  { b with old := ⟨b.old.start, b.old.start + n⟩, new := ⟨b.new.start, b.new.start + n⟩ }

/-- Kept lines at the start of a text, all but the last few cut. -/
def trimFirst : List Block → List Block
  | [] => []
  | b :: bs => if b.isKept then b.dropFirst (b.old.size - radius) :: bs else b :: bs

/-- Kept lines at the end of a text, all but the first few cut. -/
def trimLast : List Block → List Block
  | [] => []
  | [b] => if b.isKept && radius < b.old.size then [b.takeFirst radius] else [b]
  | b :: bs => b :: trimLast bs

/-- Blocks cut into hunks at long runs of kept lines, behind a hunk under way. -/
def cutHunks (current : List Block) : List Block → List (List Block)
  | [] => [current]
  | b :: bs =>
    if b.isKept && 2 * radius < b.old.size then
      (current ++ [b.takeFirst radius]) :: cutHunks [b.dropFirst (b.old.size - radius)] bs
    else cutHunks (current ++ [b]) bs

/-- Whether a hunk shows any change. -/
def hasChange (hunk : List Block) : Bool :=
  match hunk with
  | [] => false
  | [b] => !b.isKept
  | _ => true

/-- The hunks of a script; the last one only if something changes in it. -/
def hunks (es : List Edit) : List (List Block) :=
  let all := cutHunks [] (trimLast (trimFirst (gather none Change.none es)))
  match all.getLast? with
  | some last => if hasChange last then all else all.dropLast
  | none => all

/-- Where a hunk starts and how long it is; an empty one starts at the line before. -/
def rangeText (start stop : Nat) : List Char :=
  if stop - start = 1 then Decimal.digitsOf (start + 1)
  else
    Decimal.digitsOf (if stop - start = 0 then start else start + 1) ++
      ',' :: Decimal.digitsOf (stop - start)

/-- A line under its sign, marked when it has no line break. -/
def signedLine (sign : Char) (line : List Char) : List Char :=
  sign :: line ++
    (if line.getLast? = some '\n' then [] else "\n\\ No newline at end of file\n".toList)

/-- The lines of a span, each under a sign. -/
def signedLines (sign : Char) (text : Lines) (s : Span) : List Char :=
  (text.toList.drop s.start |>.take s.size).flatMap (signedLine sign)

/-- The lines of a block. -/
def Block.text (old new : Lines) (b : Block) : List Char :=
  if b.isKept then signedLines ' ' old b.old
  else signedLines '-' old b.old ++ signedLines '+' new b.new

/-- A hunk under its header. -/
def hunkText (old new : Lines) (hunk : List Block) : List Char :=
  match hunk.head?, hunk.getLast? with
  | some first, some last =>
    "@@ -".toList ++ rangeText first.old.start last.old.stop ++ [' ', '+'] ++
      rangeText first.new.start last.new.stop ++ " @@\n".toList ++ hunk.flatMap (Block.text old new)
  | _, _ => []

/-- The lines of a text, each with its line break; `current` is the one under way. -/
def linesFrom (current : List Char) : List Char → List (List Char)
  | [] => if current.isEmpty then [] else [current]
  | c :: cs =>
    if c = '\n' then (current ++ [c]) :: linesFrom [] cs else linesFrom (current ++ [c]) cs

/-- The lines of a text. -/
def lines (text : List Char) : Lines :=
  (linesFrom [] text).toArray

/-- The unified diff of two texts under the names of their sides; empty if they are equal. -/
def unified (oldName newName : String) (old new : List Char) : List Char :=
  let old := lines old
  let new := lines new
  match hunks (compact old new (script old new)) with
  | [] => []
  | hs =>
    "--- ".toList ++ oldName.toList ++ "\n+++ ".toList ++ newName.toList ++ ['\n'] ++
      hs.flatMap (hunkText old new)

end SubsetMatch.Diff
