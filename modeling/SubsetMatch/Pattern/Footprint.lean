import SubsetMatch.Pattern.Regex
import SubsetMatch.Text.Utf8

/-!
# The footprint of a pattern

A pattern is refused if the automaton that it stands for would take too much room. An automaton
reads bytes: a set of characters takes one state for every step that the encodings of its members do
not share.
-/

namespace SubsetMatch.Pattern

open Unicode

/-- The most bytes that the automaton of a pattern may take. -/
def footprintLimit : Nat := 10485760

/-- The bytes of a state. -/
def stateBytes : Nat := 32

/-- The bytes of one more way out of a state. -/
def branchBytes : Nat := 4

/-- The bytes of a range among the ways out of a state. -/
def rangeBytes : Nat := 8

/-- A range of code points. -/
structure Range where
  first : Nat
  last : Nat
deriving DecidableEq, Repr

/-- The ranges of a set. -/
def rangesOf : List Nat → List Range
  | first :: past :: rest => ⟨first, past - 1⟩ :: rangesOf rest
  | _ => []

/-- The ends of the code points of one, two, three and four bytes. -/
def widthEnds : List Nat := [0x7F, 0x7FF, 0xFFFF]

/-- The first end that a range goes beyond. -/
def crossed (r : Range) : Option Nat :=
  widthEnds.find? fun e => r.first ≤ e && e < r.last

/-- Where a range has to be cut for its code points to share all bytes but the last ones. -/
def unaligned (r : Range) : Option Nat :=
  [64, 4096, 262144].findSome? fun block =>
    if r.first / block == r.last / block then none
    else if r.first % block != 0 then some (r.first / block * block + block - 1)
    else if r.last % block != block - 1 then some (r.last / block * block - 1)
    else none

/-- The ranges whose members are encoded with one range of bytes in each place. -/
def encodable : Nat → Range → List Range
  | 0, r => [r]
  | fuel + 1, r =>
    if r.last < r.first then []
    else if r.first < 0xD800 && 0xD800 ≤ r.last then
      encodable fuel ⟨r.first, 0xD7FF⟩ ++ encodable fuel ⟨0xD800, r.last⟩
    else if r.first < 0xE000 && 0xD800 ≤ r.first then encodable fuel ⟨0xE000, r.last⟩
    else
      match crossed r with
      | some e => encodable fuel ⟨r.first, e⟩ ++ encodable fuel ⟨e + 1, r.last⟩
      | none =>
        if r.last ≤ 0x7F then [r]
        else
          match unaligned r with
          | some e => encodable fuel ⟨r.first, e⟩ ++ encodable fuel ⟨e + 1, r.last⟩
          | none => [r]

/-- The most cuts that one range needs. -/
def mostCuts : Nat := 24

/-- The ranges of bytes in the encodings of an encodable range. -/
def byteRanges (r : Range) : List (Nat × Nat) :=
  let encoded (n : Nat) := (Text.Utf8.encode (String.ofList [Char.ofNat n])).map UInt8.toNat
  (encoded r.first).zip (encoded r.last)

/-- The number of steps that a sequence does not share with the one before it. -/
def newSteps : List (Nat × Nat) → List (Nat × Nat) → Nat
  | a :: as, b :: bs => if a == b then newSteps as bs else (b :: bs).length
  | _, bs => bs.length

/-- The number of steps in a list of sequences. -/
def steps (before : List (Nat × Nat)) : List (List (Nat × Nat)) → Nat
  | [] => 0
  | s :: rest => newSteps before s + steps s rest

/-- The room for a set of characters. -/
def charsFootprint (chars : CharSet) : Nat :=
  let ranges := rangesOf chars.changes
  match ranges with
  | [r] =>
    if r.first == r.last then stateBytes * (Char.ofNat r.first).utf8Size
    else charsRoom ranges
  | _ => charsRoom ranges
where
  /-- The room for several characters: those of one byte each need a single state. -/
  charsRoom (ranges : List Range) : Nat :=
    if ranges.all fun r => r.last ≤ 0x7F then 2 * stateBytes + rangeBytes * ranges.length
    else
      let sequences := (ranges.flatMap (encodable mostCuts)).map byteRanges
      2 * stateBytes + branchBytes * sequences.length + stateBytes * steps [] sequences

/-- The room for a repetition of something that takes `room`. -/
def repeatedFootprint (room least : Nat) : Option Nat → Nat
  | none => if least == 0 then room + stateBytes + 2 * branchBytes
    else least * room + stateBytes + 2 * branchBytes
  | some most =>
    if most ≤ least then (if least == 0 then stateBytes else least * room)
    else least * room + (most - least) * (room + stateBytes + 2 * branchBytes) + stateBytes

/-- The room for a pattern. -/
def Regex.footprint : Regex → Nat
  | empty => stateBytes
  | one chars => charsFootprint chars
  | look _ => stateBytes
  | seq a b => a.footprint + b.footprint
  | alt a b => a.footprint + b.footprint + 2 * stateBytes + 2 * branchBytes
  | repeated r least most =>
    if r.isZeroWidth then r.footprint + 2 * stateBytes
    else repeatedFootprint r.footprint least most
  | group r => r.footprint + 2 * stateBytes

end SubsetMatch.Pattern
