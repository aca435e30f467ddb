import SubsetMatch.Pattern.Regex

/-!
# Search for a pattern

A pattern takes the set of places where a match may stand to the set of places where it may end.
Sets of places are bit masks, so a search over all starts at once costs no more than one. Before a
search every set of characters and every condition is laid on the text.
-/

namespace SubsetMatch.Pattern

open Unicode

/-- A pattern laid on a text: masks of the places at which a step or a stay is possible. -/
inductive Laid
  | stay
  | step (places : Nat)
  | check (places : Nat)
  | seq (first second : Laid)
  | alt (first second : Laid)
  | repeated (r : Laid) (least : Nat) (most : Option Nat)
deriving Repr

/-- The mask with a bit for every place that is marked. -/
def mask (marks : List Bool) : Nat :=
  marks.foldr (fun b m => 2 * m + b.toNat) 0

/-- The places of a text, each with the characters before and after it. -/
def places (before : Option Char) : List Char → List (Option Char × Option Char)
  | [] => [(before, none)]
  | c :: cs => (before, some c) :: places (some c) cs

/-- A pattern laid on a text. -/
def Regex.lay (text : List Char) : Regex → Laid
  | empty => .stay
  | one chars => .step (mask (text.map chars.has))
  | look l => .check (mask ((places none text).map fun (before, after) => l.holds before after))
  | seq a b => .seq (a.lay text) (b.lay text)
  | alt a b => .alt (a.lay text) (b.lay text)
  | repeated r least most => .repeated (r.lay text) least most
  | group r => r.lay text

/-- A function applied a number of times, or until nothing is left. -/
def times (f : Nat → Nat) : Nat → Nat → Nat
  | 0, s => s
  | n + 1, s => if s == 0 then 0 else times f n (f s)

/-- What is reached from the places of a frontier in a number of steps at most. -/
def spread (f : Nat → Nat) : Nat → Nat → Nat → Nat
  | 0, reached, _ => reached
  | n + 1, reached, frontier =>
    let fresh := (reached ||| f frontier) ^^^ reached
    if fresh == 0 then reached else spread f n (reached ||| fresh) fresh

/-- A count, but no more than some limit. -/
def upTo (limit n : Nat) : Nat :=
  if n ≤ limit then n else limit

/-- The places to which a pattern leads. No repetition needs more rounds than there are places, for
in one round more some place is passed twice. -/
def Laid.advance (count : Nat) : Laid → Nat → Nat
  | stay, s => s
  | step m, s => (s &&& m) <<< 1
  | check m, s => s &&& m
  | seq a b, s =>
    let t := a.advance count s
    if t == 0 then 0 else b.advance count t
  | alt a b, s => a.advance count s ||| b.advance count s
  | repeated r least most, s =>
    let t := times (fun s => r.advance count s) (upTo count least) s
    let rounds := match most with
      | none => count
      | some n => upTo count (n - least)
    if t == 0 then 0 else spread (fun s => r.advance count s) rounds t t

/-- Whether a pattern occurs in a text. -/
def Regex.occursIn (r : Regex) (text : String) : Bool :=
  let cs := text.toList
  let count := cs.length + 1
  (r.lay cs).advance count (mask (List.replicate count true)) != 0

end SubsetMatch.Pattern
