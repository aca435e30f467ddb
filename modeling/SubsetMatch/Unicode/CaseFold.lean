import SubsetMatch.Unicode.FoldTable
import SubsetMatch.Unicode.Runs

/-!
# Case folding

Two characters are the same up to case if they fold to the same one.
-/

namespace SubsetMatch.Unicode

/-- Points at equal steps that fold to others at the same distance. -/
structure FoldRun where
  first : Nat
  target : Nat
  length : Nat
  step : Nat
deriving DecidableEq, Repr

/-- A run as it is written: four numbers joined by colons. -/
def FoldRun.ofWord (word : List Char) : Option FoldRun :=
  match (words (word.map fun c => if c == ':' then ' ' else c)).map Decimal.valueOf with
  | [first, target, length, step] => some ⟨first, target, length, step⟩
  | _ => none

/-- The points of a run and what they fold to. -/
def FoldRun.pairs (r : FoldRun) : List (Nat × Nat) :=
  (List.range r.length).map fun n => (r.first + n * r.step, r.target + n * r.step)

/-- All points that fold to another one, in order, with what they fold to. -/
def folds : List (Nat × Nat) :=
  foldLines.flatMap fun line => (words line.toList).flatMap fun word =>
    ((FoldRun.ofWord word).map FoldRun.pairs).getD []

/-- The changes of a set with one more point, which is none behind the others. -/
def putPoint (n : Nat) : List Nat → List Nat
  | [] => [n, n + 1]
  | x :: rest => if x == n then x :: rest else if x == n + 1 then n :: rest else n :: (n + 1) :: x :: rest

/-- The set of some points. -/
def CharSet.ofPoints (points : List Nat) : CharSet :=
  ⟨points.mergeSort.foldr putPoint []⟩

/-- The pairs of which a member is in a set. -/
def touched (s : CharSet) (pairs : List (Nat × Nat)) : List (Nat × Nat) :=
  pairs.filter fun (a, b) => s.contains a || s.contains b

/-- The set with all characters that equal one of its members up to case. -/
def CharSet.foldClosure (s : CharSet) : CharSet :=
  let targets := CharSet.ofPoints ((touched s folds).map Prod.snd)
  let sources := (folds.filter fun (_, b) => targets.contains b).map Prod.fst
  s.union (targets.union (.ofPoints sources))

end SubsetMatch.Unicode
