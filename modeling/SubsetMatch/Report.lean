import SubsetMatch.Comparator
import SubsetMatch.Diff.Unified

/-!
# Reports (§10.9)

A report is a failure put into words, with the documents that were compared, if it carries them.
The program calls it `ComparisonFailure`; `with_context`, `is_mismatch`, `banner` and `diff` are
`withDocuments`, `isMismatch`, `banner` and `diff`, and `render` is its `fmt`.

Results:
* `diff_eq_none_iff`: a report has a diff exactly when it carries both documents.
-/

namespace SubsetMatch

/-- A failure in words, and the documents it was found in. -/
structure Report where
  kind : FailureKind
  message : String
  path : String
  needle : Option Value
  haystack : Option Value

namespace Report

/-- A report without documents. -/
def bare (kind : FailureKind) (message path : String) : Report :=
  ⟨kind, message, path, none, none⟩

/-- A failure in words. -/
def ofFailure (f : Failure) : Report :=
  bare f.kind f.message f.path.render

/-- The report with both documents (`with_context`). -/
def withDocuments (r : Report) (needle haystack : Value) : Report :=
  { r with needle := some needle, haystack := some haystack }

/-- Whether the haystack is to blame. -/
def isMismatch (r : Report) : Bool :=
  r.kind == .mismatch

/-- The width of a banner. -/
def bannerWidth : Nat := 80

/-- A title filled up with signs. -/
def banner (title : String) : List Char :=
  let head := ['=', ' '] ++ title.toList ++ [' ']
  head ++ List.replicate (bannerWidth - head.length) '='

/-- A document under a banner, if there is one. -/
def documentSection (title : String) : Option Value → List Char
  | none => []
  | some v => ['\n', '\n'] ++ banner title ++ '\n' :: Json.indented 0 v

/-- The message and the documents. -/
def render (r : Report) : String :=
  String.ofList (r.message.toList ++ documentSection "Needle" r.needle ++ documentSection "Haystack" r.haystack)

/-- The unified diff of the two documents in their indented form. -/
def diff (r : Report) : Option String :=
  match r.needle, r.haystack with
  | some needle, some haystack =>
    some (String.ofList
      (Diff.unified "needle" "haystack" (Json.indented 0 needle) (Json.indented 0 haystack)))
  | _, _ => none

/-- A member that is left out without a value. -/
def optionalMember (key : String) : Option Value → Members
  | none => []
  | some v => [(key, v)]

/-- The report as a document. -/
def toValue (r : Report) : Value :=
  .object
    ([("kind", .string r.kind.label), ("message", .string r.message), ("path", .string r.path)] ++
      optionalMember "needle" r.needle ++ optionalMember "haystack" r.haystack)

theorem diff_eq_none_iff (r : Report) : r.diff = none ↔ r.needle = none ∨ r.haystack = none := by
  unfold diff
  split
  · simp_all
  · rename_i h
    cases hn : r.needle with
    | none => simp
    | some n =>
      cases hh : r.haystack with
      | none => simp
      | some v => exact absurd hh (by simpa using h n v hn)

end Report

namespace Comparator

variable (E : Primitives) (c : Comparator)

/-- The comparison of two documents, reported with them: `compare` of the comparator itself. -/
def report (needle haystack : Value) : Except Report Unit :=
  match compare E c needle haystack with
  | .error f => .error ((Report.ofFailure f).withDocuments needle haystack)
  | .ok () => .ok ()

/-- One side of a comparison of texts (`decode_side`). -/
def decodeSide (side text : String) : Except Report Value :=
  match Json.read text.toList with
  | .error e =>
    .error (.bare .argument s!"{side} is not valid JSON: {e.message}" KeyPath.root.render)
  | .ok v => .ok v

/-- The comparison of two document texts; the needle is decoded first (`compare_json`). -/
def reportTexts (needle haystack : String) : Except Report Unit :=
  match decodeSide "Needle" needle with
  | .error r => .error r
  | .ok n =>
    match decodeSide "Haystack" haystack with
    | .error r => .error r
    | .ok h => report E c n h

end Comparator

end SubsetMatch
