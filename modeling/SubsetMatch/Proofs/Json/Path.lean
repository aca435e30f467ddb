import SubsetMatch.Json.Value
import SubsetMatch.KeyPath

/-!
# Nodes at the end of paths

A path is followed from the root of a document, one segment after the other: a key leads into the
member of that name, a position into the element that stands there. Anything else leads nowhere.

Results:
* `at?_snoc`: a path one segment longer leads on from where the shorter one led.
* `at?_key`, `at?_index`: members and elements stand at the paths made for them.
-/

namespace SubsetMatch.Value

/-- The part of a document that one segment leads to. -/
def step? : Value → Segment → Option Value
  | object members, .key name => get? members name
  | array items, .index position => items[position]?
  | _, _ => none

/-- The node that some segments lead to. -/
def follow? (v : Value) : List Segment → Option Value
  | [] => some v
  | s :: rest => (v.step? s).bind fun w => w.follow? rest

/-- The node at the end of a path. -/
def at? (v : Value) (p : KeyPath) : Option Value :=
  v.follow? p.segments

theorem follow?_append (v : Value) (first rest : List Segment) :
    v.follow? (first ++ rest) = (v.follow? first).bind fun w => w.follow? rest := by
  induction first generalizing v with
  | nil => rfl
  | cons s first ih =>
    rw [List.cons_append, follow?, follow?, Option.bind_assoc]
    exact congrArg _ (funext ih)

/-- A path one segment longer leads on from where it led. -/
theorem at?_snoc (v : Value) (p : KeyPath) (s : Segment) :
    v.at? (p.snoc s) = (v.at? p).bind fun w => w.step? s := by
  rw [at?, KeyPath.segments_snoc, follow?_append, at?]
  refine congrArg _ (funext fun w => ?_)
  rw [follow?]
  cases w.step? s <;> rfl

variable {v : Value} {p : KeyPath}

/-- A member stands at the path of its key. -/
theorem at?_key {members : Members} (h : v.at? p = some (object members)) (name : String) :
    v.at? (p.key name) = get? members name := by
  rw [KeyPath.key, at?_snoc, h]
  rfl

/-- An element stands at the path of its position. -/
theorem at?_index {items : List Value} (h : v.at? p = some (array items)) (position : Nat) :
    v.at? (p.index position) = items[position]? := by
  rw [KeyPath.index, at?_snoc, h]
  rfl

end SubsetMatch.Value
