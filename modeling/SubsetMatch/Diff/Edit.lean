/-!
# Edits between two texts

A text is an array of lines. An edit keeps, deletes or inserts a run of lines; it names where the
run stands in the old and in the new text.

Results:
* `commonPrefix_le`: two spans never share more lines than the first has.
-/

namespace SubsetMatch.Diff

/-- A text, line by line, each with its line break. -/
abbrev Lines := Array (List Char)

/-- The positions from `start` up to, not including, `stop`. -/
structure Span where
  start : Nat
  stop : Nat
deriving DecidableEq, Repr

/-- The number of positions of a span. -/
def Span.size (s : Span) : Nat :=
  s.stop - s.start

/-- What happens to a run of lines. -/
inductive Action
  | keep
  | delete
  | insert
deriving DecidableEq, Repr

/-- A run of lines that is kept, deleted or inserted. -/
structure Edit where
  action : Action
  old : Nat
  oldSize : Nat
  new : Nat
  newSize : Nat
deriving DecidableEq, Repr

namespace Edit

/-- Lines that stand in both texts. -/
def keep (old new size : Nat) : Edit :=
  ⟨.keep, old, size, new, size⟩

/-- Lines of the old text only. -/
def delete (old size new : Nat) : Edit :=
  ⟨.delete, old, size, new, 0⟩

/-- Lines of the new text only. -/
def insert (old new size : Nat) : Edit :=
  ⟨.insert, old, 0, new, size⟩

/-- The lines in the old text. -/
def oldSpan (e : Edit) : Span :=
  ⟨e.old, e.old + e.oldSize⟩

/-- The lines in the new text. -/
def newSpan (e : Edit) : Span :=
  ⟨e.new, e.new + e.newSize⟩

/-- The number of lines on the side that the edit touches. -/
def size (e : Edit) : Nat :=
  if e.action = .insert then e.newSize else e.oldSize

/-- The edit with its size set. -/
def resize (e : Edit) (size : Nat) : Edit :=
  match e.action with
  | .keep => { e with oldSize := size, newSize := size }
  | .delete => { e with oldSize := size }
  | .insert => { e with newSize := size }

/-- The edit moved towards the start. -/
def moveUp (e : Edit) (n : Nat) : Edit :=
  { e with old := e.old - n, new := e.new - n }

/-- The edit moved towards the end. -/
def moveDown (e : Edit) (n : Nat) : Edit :=
  { e with old := e.old + n, new := e.new + n }

end Edit

/-- How many lines two spans share at their starts, at most `n`. -/
def prefixWithin (old new : Lines) (i j : Nat) : Nat → Nat
  | 0 => 0
  | n + 1 =>
    match old[i]?, new[j]? with
    | some a, some b => if a = b then prefixWithin old new (i + 1) (j + 1) n + 1 else 0
    | _, _ => 0

/-- How many lines two spans share at their starts. -/
def commonPrefix (old new : Lines) (a b : Span) : Nat :=
  prefixWithin old new a.start b.start (if a.size ≤ b.size then a.size else b.size)

/-- How many lines before two positions are the same, at most `n`. -/
def suffixWithin (old new : Lines) (i j : Nat) : Nat → Nat
  | 0 => 0
  | n + 1 =>
    match old[i - 1]?, new[j - 1]? with
    | some a, some b => if a = b then suffixWithin old new (i - 1) (j - 1) n + 1 else 0
    | _, _ => 0

/-- How many lines two spans share at their ends. -/
def commonSuffix (old new : Lines) (a b : Span) : Nat :=
  suffixWithin old new a.stop b.stop (if a.size ≤ b.size then a.size else b.size)

theorem prefixWithin_le (old new : Lines) (i j n : Nat) : prefixWithin old new i j n ≤ n := by
  induction n generalizing i j with
  | zero => simp [prefixWithin]
  | succ n ih =>
    rw [prefixWithin]
    split
    · split
      · have := ih (i + 1) (j + 1)
        omega
      · omega
    · omega

theorem commonPrefix_le (old new : Lines) (a b : Span) :
    commonPrefix old new a b ≤ a.size := by
  unfold commonPrefix
  split
  · exact prefixWithin_le ..
  · have := prefixWithin_le old new a.start b.start b.size
    omega

end SubsetMatch.Diff
