import SubsetMatch.Json.Render

/-!
# Places in documents (§10.4)

A key path leads from the root of a document to one of its nodes, through members by key and
through elements by index. `KeyPath` and `Segment` are those of the program, `render` is its `fmt`.

Results:
* `segments_snoc`: a longer path ends in its last segment.
-/

namespace SubsetMatch

/-- One step into a document. -/
inductive Segment
  | key (name : String)
  | index (position : Nat)
deriving DecidableEq, Repr

/-- A path from the root, outermost segment first. -/
structure KeyPath where
  segments : List Segment
deriving DecidableEq, Repr

namespace KeyPath

/-- The document itself. -/
def root : KeyPath :=
  ⟨[]⟩

/-- A path one segment longer. -/
def snoc (p : KeyPath) (s : Segment) : KeyPath :=
  ⟨p.segments ++ [s]⟩

/-- The member under a key. -/
def key (p : KeyPath) (name : String) : KeyPath :=
  p.snoc (.key name)

/-- The element at a position. -/
def index (p : KeyPath) (position : Nat) : KeyPath :=
  p.snoc (.index position)

/-- Whether a path leads nowhere. -/
def isRoot (p : KeyPath) : Bool :=
  p.segments.isEmpty

@[simp] theorem segments_snoc (p : KeyPath) (s : Segment) :
    (p.snoc s).segments = p.segments ++ [s] := rfl

end KeyPath

/-- Keys written without brackets: an ASCII letter or underscore, then letters, digits,
underscores and hyphens. -/
def isPlainKey : List Char → Bool
  | [] => false
  | c :: cs =>
    (c.isAlpha || c == '_') && cs.all fun d => d.isAlphanum || d == '_' || d == '-'

/-- A written segment. -/
def Segment.text : Segment → List Char
  | key name =>
    if isPlainKey name.toList then '.' :: name.toList
    else '[' :: (Json.quoted name.toList ++ [']'])
  | index position => '[' :: (Decimal.digitsOf position ++ [']'])

namespace KeyPath

/-- The written path. -/
def text (p : KeyPath) : List Char :=
  '$' :: p.segments.flatMap Segment.text

/-- The written path as a string. -/
def render (p : KeyPath) : String :=
  String.ofList p.text

/-- The paths of all nodes passed, the root first. -/
def stages (p : KeyPath) : List KeyPath :=
  (List.range (p.segments.length + 1)).map fun n => ⟨p.segments.take n⟩

end KeyPath

end SubsetMatch
