import SubsetMatch.Diff.Edit

/-!
# Shortest edit scripts

A shortest sequence of edits from one text to another, found by divide and conquer: two searches
from opposite corners of the edit graph, along its diagonals, meet in a middle snake that splits
the problem in two.
-/

namespace SubsetMatch.Diff

/-- The furthest old position reached on each diagonal; diagonals run from `-offset`. -/
structure Frontier where
  values : Array Nat
  offset : Nat

namespace Frontier

/-- Nothing reached yet. -/
def start (rounds : Nat) : Frontier :=
  ⟨Array.replicate (2 * rounds + 3) 0, rounds + 1⟩

/-- The position reached on a diagonal. -/
def get (f : Frontier) (k : Int) : Nat :=
  f.values.getD (k + f.offset).toNat 0

/-- A new position on a diagonal. -/
def set (f : Frontier) (k : Int) (x : Nat) : Frontier :=
  { f with values := f.values.setIfInBounds (k + f.offset).toNat x }

/-- Where a path with one more edit enters a diagonal, in round `d`. -/
def enter (f : Frontier) (d k : Int) : Nat :=
  if k == -d || (k != d && f.get (k - 1) < f.get (k + 1)) then f.get (k + 1) else f.get (k - 1) + 1

end Frontier

/-- Two spans to be matched. -/
structure Box where
  old : Span
  new : Span

/-- The two searches. -/
structure Searches where
  forward : Frontier
  backward : Frontier

/-- A point of the edit graph. -/
structure Point where
  old : Nat
  new : Nat

namespace Box

/-- The diagonal of the far corner. -/
def delta (b : Box) : Int :=
  (b.old.size : Int) - b.new.size

/-- Whether the shortest script has an odd number of edits. -/
def isOdd (b : Box) : Bool :=
  b.delta % 2 != 0

/-- More rounds than two searches ever need to meet. -/
def rounds (b : Box) : Nat :=
  (b.old.size + b.new.size + 1) / 2 + 1

variable (old new : Lines) (b : Box)

/-- The diagonals of one round of the forward search, from `k` downwards; a point where it meets
the backward search ends it. -/
def forwardRound (d : Int) : Nat → Int → Searches → Except Point Searches
  | 0, _, s => .ok s
  | count + 1, k, s =>
    let x0 := s.forward.enter d k
    let y0 : Int := x0 - k
    let run :=
      if x0 < b.old.size && 0 ≤ y0 && y0 < b.new.size then
        commonPrefix old new ⟨b.old.start + x0, b.old.stop⟩ ⟨b.new.start + y0.toNat, b.new.stop⟩
      else 0
    let x := x0 + run
    let s := { s with forward := s.forward.set k x }
    if b.isOdd && (k - b.delta).natAbs ≤ d - 1 && b.old.size ≤ x + s.backward.get (-(k - b.delta))
    then .error ⟨b.old.start + x0, b.new.start + y0.toNat⟩
    else forwardRound d count (k - 2) s

/-- The diagonals of one round of the backward search. -/
def backwardRound (d : Int) : Nat → Int → Searches → Except Point Searches
  | 0, _, s => .ok s
  | count + 1, k, s =>
    let x0 := s.backward.enter d k
    let y0 : Int := x0 - k
    let run :=
      if x0 < b.old.size && 0 ≤ y0 && y0 < b.new.size then
        commonSuffix old new ⟨b.old.start, b.old.start + (b.old.size - x0)⟩
          ⟨b.new.start, b.new.start + (b.new.size - y0.toNat)⟩
      else 0
    let x := x0 + run
    let s := { s with backward := s.backward.set k x }
    if !b.isOdd && (k - b.delta).natAbs ≤ d && b.old.size ≤ x + s.forward.get (-(k - b.delta)) then
      .error ⟨b.old.start + (b.old.size - x), b.new.start + (b.new.size - (y0 + run).toNat)⟩
    else backwardRound d count (k - 2) s

/-- The start of the middle snake, searched for from round `d` on. -/
def middle : Nat → Nat → Searches → Option Point
  | 0, _, _ => none
  | left + 1, d, s =>
    match forwardRound old new b d (d + 1) d s with
    | .error p => some p
    | .ok s =>
      match backwardRound old new b d (d + 1) d s with
      | .error p => some p
      | .ok s => middle left (d + 1) s

/-- The start of the middle snake. -/
def middleSnake : Option Point :=
  middle old new b b.rounds 0 ⟨.start b.rounds, .start b.rounds⟩

/-- The box without the lines that both ends share. -/
def shrink (front back : Nat) : Box :=
  ⟨⟨b.old.start + front, b.old.stop - back⟩, ⟨b.new.start + front, b.new.stop - back⟩⟩

end Box

/-- An edit, unless it touches nothing. -/
def nonempty (e : Edit) : List Edit :=
  if e.size = 0 then [] else [e]

/-- The edits of a box whose first and last lines differ. -/
def split (old new : Lines) (conquer : Box → List Edit) (b : Box) : List Edit :=
  if b.old.size = 0 && b.new.size = 0 then []
  else if b.new.size = 0 then [Edit.delete b.old.start b.old.size b.new.start]
  else if b.old.size = 0 then [Edit.insert b.old.start b.new.start b.new.size]
  else
    match b.middleSnake old new with
    | some p =>
      conquer ⟨⟨b.old.start, p.old⟩, ⟨b.new.start, p.new⟩⟩ ++
        conquer ⟨⟨p.old, b.old.stop⟩, ⟨p.new, b.new.stop⟩⟩
    | none =>
      [Edit.delete b.old.start b.old.size b.new.start,
        Edit.insert b.old.start b.new.start b.new.size]

/-- The edits of a box, with at most `depth` nested splits. -/
def conquer (old new : Lines) : Nat → Box → List Edit
  | 0, b => split old new (fun _ => []) b
  | depth + 1, b =>
    let front := commonPrefix old new b.old b.new
    let inner := b.shrink front 0
    let back := commonSuffix old new inner.old inner.new
    let inner := inner.shrink 0 back
    nonempty (Edit.keep b.old.start b.new.start front) ++
      split old new (conquer old new depth) inner ++
      nonempty (Edit.keep inner.old.stop inner.new.stop back)

/-- A shortest script from one text to another. -/
def script (old new : Lines) : List Edit :=
  conquer old new (old.size + new.size + 1) ⟨⟨0, old.size⟩, ⟨0, new.size⟩⟩

end SubsetMatch.Diff
