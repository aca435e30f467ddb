import SubsetMatch.Decimal.Numeral
import SubsetMatch.Unicode.CharSet

/-!
# Runs of code points

Tables list the code points in order as runs: a label and a number of points, such as `Lu26`, or
the lengths of the runs outside and inside of a set in turn.
-/

namespace SubsetMatch.Unicode

/-- A number of consecutive code points that share a label. -/
structure Run where
  label : String
  length : Nat
deriving DecidableEq, Repr

/-- The words of a line. -/
def words : List Char → List (List Char)
  | [] => [[]]
  | c :: cs =>
    match words cs with
    | [] => []
    | word :: rest => if c == ' ' then [] :: word :: rest else (c :: word) :: rest

/-- A run as it is written. -/
def Run.ofWord (word : List Char) : Run :=
  ⟨String.ofList (word.takeWhile fun c => !c.isDigit),
    Decimal.valueOf (word.dropWhile fun c => !c.isDigit)⟩

/-- The runs written on some lines. -/
def runs (lines : List String) : List Run :=
  lines.flatMap fun line => (words line.toList).map Run.ofWord

/-- The numbers written on some lines. -/
def lengths (lines : List String) : List Nat :=
  lines.flatMap fun line => (words line.toList).map Decimal.valueOf

/-- The points at which a test of the labels changes its answer. -/
def changesOfRuns (test : String → Bool) (inside : Bool) (position : Nat) : List Run → List Nat
  | [] => if inside then [position] else []
  | run :: rest =>
    CharSet.changeIf inside (test run.label) position
      (changesOfRuns test (test run.label) (position + run.length) rest)

/-- The points whose label passes a test. -/
def CharSet.ofRuns (test : String → Bool) (rs : List Run) : CharSet :=
  ⟨changesOfRuns test false 0 rs⟩

/-- The points reached by steps of some lengths. -/
def partialSums (position : Nat) : List Nat → List Nat
  | [] => []
  | n :: ns => (position + n) :: partialSums (position + n) ns

/-- The set whose runs outside and inside have some lengths in turn. -/
def CharSet.ofLengths (ns : List Nat) : CharSet :=
  ⟨partialSums 0 ns⟩

end SubsetMatch.Unicode
