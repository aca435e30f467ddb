import SubsetMatch.Diff.Script

/-!
# Compact scripts

A script is tidied by sliding: deletions first, then insertions, are moved as far up and then as
far down as the kept lines around them allow, so that edits of one kind meet and merge. A deletion
moves only across insertions.
-/

namespace SubsetMatch.Diff

/-- An edit with those before it, nearest first, and those behind it. -/
structure Cursor where
  before : List Edit
  here : Edit
  after : List Edit

/-- The lines given up above an edit are kept below it. -/
def keepBelow (old new size : Nat) : List Edit → List Edit
  | e :: after =>
    if e.action = .keep then (e.moveUp size).resize (e.size + size) :: after
    else Edit.keep old new size :: e :: after
  | [] => [Edit.keep old new size]

/-- The lines given up below an edit are kept above it. -/
def keepAbove (old new size : Nat) : List Edit → List Edit
  | e :: before =>
    if e.action = .keep then e.resize (e.size + size) :: before
    else Edit.keep old new size :: e :: before
  | [] => [Edit.keep old new size]

/-- An edit, unless it touches nothing, in front of others. -/
def consNonempty (e : Edit) (es : List Edit) : List Edit :=
  if e.size = 0 then es else e :: es

/-- The edit moved up past `prev`, the edit before it, or merged with it; `none` if it cannot. -/
def stepUp (old new : Lines) (prev : Edit) (c : Cursor) : Option Cursor :=
  if prev.action = .keep then
    let n := commonSuffix old new prev.oldSpan c.here.newSpan
    if n = 0 then
      if prev.size = 0 then some c else none
    else
      some
        { before := consNonempty (prev.resize (prev.size - n)) c.before
          here := c.here.moveUp n
          after := keepBelow (prev.oldSpan.stop - n) (c.here.newSpan.stop - n) n c.after }
  else if prev.action = c.here.action then
    some { c with here := prev.resize (prev.size + c.here.size) }
  else some { c with after := prev :: c.after }

/-- The edit moved up as far as it goes. -/
def slideUp (old new : Lines) : Nat → Cursor → Cursor
  | 0, c => c
  | fuel + 1, c =>
    match c.before with
    | [] => c
    | prev :: before =>
      match stepUp old new prev { c with before := before } with
      | none => c
      | some c => slideUp old new fuel c

/-- The edit moved down past `next`, the edit behind it, or merged with it. -/
def stepDown (old new : Lines) (next : Edit) (c : Cursor) : Option Cursor :=
  if next.action = .keep then
    let n := commonPrefix old new next.oldSpan c.here.newSpan
    if n = 0 then
      if next.size = 0 then some c else none
    else
      some
        { before := keepAbove next.old c.here.new n c.before
          here := c.here.moveDown n
          after := consNonempty ((next.moveDown n).resize (next.size - n)) c.after }
  else if next.action = c.here.action then
    some { c with here := c.here.resize (c.here.size + next.size) }
  else some { c with before := next :: c.before }

/-- The edit moved down as far as it goes. -/
def slideDown (old new : Lines) : Nat → Cursor → Cursor
  | 0, c => c
  | fuel + 1, c =>
    match c.after with
    | [] => c
    | next :: after =>
      match stepDown old new next { c with after := after } with
      | none => c
      | some c => slideDown old new fuel c

/-- The lines that some edits touch, and their number. -/
def weight (es : List Edit) : Nat :=
  es.foldl (fun n e => n + e.size + 1) 0

/-- All edits of one action slid, from the first on. -/
def slideAll (old new : Lines) (action : Action) : Nat → List Edit → List Edit → List Edit
  | 0, before, after => before.reverse ++ after
  | _ + 1, before, [] => before.reverse
  | fuel + 1, before, e :: after =>
    if e.action = action then
      let c := slideUp old new (weight before + 1) ⟨before, e, after⟩
      let c := slideDown old new (weight c.after + 1) c
      slideAll old new action fuel (c.here :: c.before) c.after
    else slideAll old new action fuel (e :: before) after

/-- The script with its deletions and then its insertions slid. -/
def compact (old new : Lines) (es : List Edit) : List Edit :=
  let fuel := (weight es + 2) * (weight es + 2)
  slideAll old new .insert fuel [] (slideAll old new .delete fuel [] es)

end SubsetMatch.Diff
