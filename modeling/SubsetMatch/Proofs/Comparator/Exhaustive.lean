import SubsetMatch.Proofs.Comparator.Agreement
import SubsetMatch.Proofs.Json.Document
import SubsetMatch.Report
import SubsetMatch.Standard

/-!
# All failures of a comparison

The walk ends at its first failure. Here is the walk that never ends early: it goes through the
whole needle and lists every failure it meets, in the order of the needle. A node that cannot be
entered has one failure, and so has a leaf that differs, a directive that is malformed, unknown or
does not hold, and a list of another length; an object has the failures of its members, a list those
of its elements. Where a matcher compares documents of its own, it is told the first failure in the
list of that comparison.

The walk that ends early answers the head of this list: what it leaves out comes later in the
needle.

Results:
* `memberFaults_eq_flatMap`, `itemFaults_eq_flatMap`: no member and no element is left out.
* `node_eq_ofFaults`: the walk answers the first of all failures.
* `first_fault_is_reported`: a report is that of the first failure, with the documents, and what a
  matcher is told is the first failure, without them.
-/

namespace SubsetMatch

/-- The first of some failures; success if there is none. -/
def Outcome.ofFaults : List Failure → Outcome
  | [] => .ok ()
  | f :: _ => .error f

/-- Failures behind others count only if there are no others. -/
theorem Outcome.ofFaults_append (first rest : List Failure) :
    Outcome.ofFaults (first ++ rest) =
      match Outcome.ofFaults first with
      | .error f => .error f
      | .ok () => Outcome.ofFaults rest := by
  cases first with
  | nil => rfl
  | cons f fs => rfl

namespace Comparator

variable (E : Primitives) (c : Comparator)

/-- The failure of a leaf that differs. -/
def leafFaults (needle haystack : Value) (path : KeyPath) : List Failure :=
  if needle.sameScalar haystack then [] else [⟨path, .value needle haystack⟩]

mutual

/-- All failures at a node and below it. -/
def faults (needle haystack : Value) (path : KeyPath) : List Failure :=
  match needle with
  | .string text =>
    match Directive.parse text with
    | .error e => [⟨path, .malformed e⟩]
    | .ok none => leafFaults (.string text) haystack path
    | .ok (some d) =>
      match c.functions.resolve d.name with
      | .error e => [⟨path, .unknown e⟩]
      | .ok m =>
        match m.evaluate E c.tokens ⟨d, path, text.length⟩ haystack
            (fun n h _ => .ofFaults (faults n h .root)) with
        | .error e => [⟨path, .assertion d e⟩]
        | .ok () => []
  | .object expected =>
    match haystack with
    | .object actual => memberFaults expected actual path
    | v => [⟨path, .container .object v.kind⟩]
  | .array expected =>
    match haystack with
    | .array actual =>
      if expected.length = actual.length then itemFaults expected actual 0 path
      else [⟨path, .length expected.length actual.length⟩]
    | v => [⟨path, .container .array v.kind⟩]
  | .null => leafFaults .null haystack path
  | .bool b => leafFaults (.bool b) haystack path
  | .number n => leafFaults (.number n) haystack path
termination_by (haystack.textLength, needle.size)
decreasing_by
  · exact lex_of_smaller (by assumption) (by simp [Value.size])
  · exact lex_of_le_of_lt (by simp [Value.textLength]) (by simp [Value.size])
  · exact lex_of_le_of_lt (by simp [Value.textLength]) (by simp [Value.size])

/-- The failures of all members, one after another. -/
def memberFaults (expected : List (String × Value)) (actual : Members) (path : KeyPath) :
    List Failure :=
  match expected with
  | [] => []
  | (key, needle) :: rest =>
    (match _h : address actual key path with
      | .error f => [f]
      | .ok t => faults needle t.value t.path) ++ memberFaults rest actual path
termination_by (Value.textLengthMembers actual, Value.sizeMembers expected)
decreasing_by
  · exact lex_of_le_of_lt (textLength_le_of_address _h) (by simp only [Value.sizeMembers]; omega)
  · exact lex_of_le_of_lt (Nat.le_refl _) (by simp only [Value.sizeMembers]; omega)

/-- The failures of all elements, the first of which stands at a position. -/
def itemFaults (expected actual : List Value) (position : Nat) (path : KeyPath) : List Failure :=
  match expected, actual with
  | needle :: expected, haystack :: actual =>
    faults needle haystack (path.index position) ++ itemFaults expected actual (position + 1) path
  | _, _ => []
termination_by (Value.textLengthItems actual, Value.sizeItems expected)
decreasing_by
  · exact lex_of_le_of_lt (by simp only [Value.textLengthItems]; omega)
      (by simp only [Value.sizeItems]; omega)
  · exact lex_of_le_of_lt (by simp only [Value.textLengthItems]; omega)
      (by simp only [Value.sizeItems]; omega)

end

/-- The failures of one member: a member that is not found has one. -/
def faultsOfMember (m : String × Value) (actual : Members) (path : KeyPath) : List Failure :=
  match address actual m.1 path with
  | .error f => [f]
  | .ok t => faults E c m.2 t.value t.path

variable {E c}

/-! ## Nothing is left out -/

theorem memberFaults_cons (m : String × Value) (rest actual : Members) (path : KeyPath) :
    memberFaults E c (m :: rest) actual path =
      faultsOfMember E c m actual path ++ memberFaults E c rest actual path := by
  obtain ⟨key, needle⟩ := m
  rw [memberFaults, faultsOfMember]
  split
  · rename_i ha
    simp only [ha]
  · rename_i ha
    simp only [ha]

/-- **The failures of an object are those of all its members**, in order. -/
theorem memberFaults_eq_flatMap (expected actual : Members) (path : KeyPath) :
    memberFaults E c expected actual path =
      expected.flatMap fun m => faultsOfMember E c m actual path := by
  induction expected with
  | nil => rw [memberFaults, List.flatMap_nil]
  | cons m rest ih => rw [memberFaults_cons, List.flatMap_cons, ih]

/-- **The failures of a list are those of all its elements**, in order. -/
theorem itemFaults_eq_flatMap (expected actual : List Value) (position : Nat) (path : KeyPath) :
    itemFaults E c expected actual position path =
      ((expected.zip actual).zipIdx position).flatMap fun e =>
        faults E c e.1.1 e.1.2 (path.index e.2) := by
  induction expected generalizing actual position with
  | nil => simp [itemFaults]
  | cons needle expected ih =>
    cases actual with
    | nil => simp [itemFaults]
    | cons haystack actual =>
      rw [itemFaults, ih, List.zip_cons_cons, List.zipIdx_cons, List.flatMap_cons]

/-! ## The first failure -/

theorem leaf_eq_ofFaults (needle haystack : Value) (path : KeyPath) :
    leaf needle haystack path = .ofFaults (leafFaults needle haystack path) := by
  unfold leaf leafFaults
  split <;> rfl

theorem members_eq_ofFaults {expected actual : Members} {path : KeyPath}
    (h : ∀ m ∈ expected, ∀ t, address actual m.1 path = .ok t →
      node E c m.2 t.value t.path = .ofFaults (faults E c m.2 t.value t.path)) :
    members E c expected actual path = .ofFaults (memberFaults E c expected actual path) := by
  induction expected with
  | nil => rw [members_nil, memberFaults, Outcome.ofFaults]
  | cons m rest ih =>
    obtain ⟨hm, hrest⟩ := List.forall_mem_cons.mp h
    have hmember : member E c m actual path = .ofFaults (faultsOfMember E c m actual path) := by
      unfold member faultsOfMember
      cases ha : address actual m.1 path with
      | error f => rfl
      | ok t => exact hm t ha
    rw [members_cons_member, memberFaults_cons, hmember, ih hrest]
    exact (Outcome.ofFaults_append ..).symm

theorem items_eq_ofFaults {expected actual : List Value} {position : Nat} {path : KeyPath}
    (h : ∀ needle ∈ expected, ∀ v ∈ actual, ∀ p,
      node E c needle v p = .ofFaults (faults E c needle v p)) :
    items E c expected actual position path =
      .ofFaults (itemFaults E c expected actual position path) := by
  induction expected generalizing actual position with
  | nil => simp [items, itemFaults, Outcome.ofFaults]
  | cons needle expected ih =>
    cases actual with
    | nil => simp [items, itemFaults, Outcome.ofFaults]
    | cons haystack actual =>
      have hfirst := h needle List.mem_cons_self haystack List.mem_cons_self
      have hrest : items E c expected actual (position + 1) path =
          .ofFaults (itemFaults E c expected actual (position + 1) path) :=
        ih fun n hn v hv => h n (List.mem_cons_of_mem _ hn) v (List.mem_cons_of_mem _ hv)
      rw [items_cons, itemFaults, hfirst, hrest]
      exact (Outcome.ofFaults_append ..).symm

/-- A matcher that is told the same of the comparisons it asks for gives the same verdict. -/
theorem string_eq_ofFaults {text : String} {haystack : Value}
    (h : ∀ n v, Smaller n v haystack text.length →
      node E c n v .root = .ofFaults (faults E c n v .root)) (path : KeyPath) :
    node E c (.string text) haystack path =
      .ofFaults (faults E c (.string text) haystack path) := by
  have hnested : (fun n v (_ : Smaller n v haystack text.length) => node E c n v .root) =
      fun n v _ => .ofFaults (faults E c n v .root) := by
    funext n v hsmaller
    exact h n v hsmaller
  rw [node_string, faults]
  cases Directive.parse text with
  | error e => rfl
  | ok r =>
    cases r with
    | none => exact leaf_eq_ofFaults ..
    | some d =>
      simp only
      cases hresolve : c.functions.resolve d.name with
      | error e => rfl
      | ok m =>
        simp only [hnested]
        cases m.evaluate E c.tokens ⟨d, path, text.length⟩ haystack
            fun n v _ => .ofFaults (faults E c n v .root) with
        | error e => rfl
        | ok u => rfl

/-- **The walk answers the first of all failures**, by induction along the walk and into the
comparisons that matchers ask for. -/
theorem node_eq_ofFaults (needle haystack : Value) (path : KeyPath) :
    node E c needle haystack path = .ofFaults (faults E c needle haystack path) := by
  cases needle with
  | string text => exact string_eq_ofFaults (fun n v _ => node_eq_ofFaults n v .root) path
  | object expected =>
    rw [node_object]
    cases haystack with
    | object actual =>
      rw [faults]
      exact members_eq_ofFaults fun m hm t ht => node_eq_ofFaults m.2 t.value t.path
    | _ =>
      rw [faults]
      · rfl
      · simp
  | array expected =>
    rw [node_array]
    cases haystack with
    | array actual =>
      rw [faults]
      by_cases hlength : expected.length = actual.length
      · simp only [if_pos hlength]
        exact items_eq_ofFaults fun n hn v hv p => node_eq_ofFaults n v p
      · simp only [if_neg hlength]
        rfl
    | _ =>
      rw [faults]
      · rfl
      · simp
  | _ =>
    rw [node, faults]
    exact leaf_eq_ofFaults ..
termination_by (haystack.textLength, needle.size)
decreasing_by
  · exact lex_of_smaller (by assumption) (by simp [Value.size])
  · exact lex_of_le_of_lt (Value.textLength_le_of_mem_items hv)
      (Nat.lt_succ_of_lt (Value.size_lt_of_mem_items hn))
  · exact lex_of_le_of_lt (textLength_le_of_address ht)
      (Nat.lt_succ_of_lt (Value.size_lt_of_mem_members hm))

/-- A directive answers what its matcher does when told the first failures of its comparisons. -/
theorem directive_eq_ofFaults {text : String} {d : Directive} {m : Matcher}
    (hparse : Directive.parse text = .ok (some d)) (hresolve : c.functions.resolve d.name = .ok m)
    (haystack : Value) (path : KeyPath) :
    node E c (.string text) haystack path =
      match m.evaluate E c.tokens ⟨d, path, text.length⟩ haystack
          (fun n v _ => .ofFaults (faults E c n v .root)) with
      | .error e => .error ⟨path, .assertion d e⟩
      | .ok () => .ok () := by
  rw [node_eq_ofFaults, faults]
  simp only [hparse, hresolve]
  cases m.evaluate E c.tokens ⟨d, path, text.length⟩ haystack
      fun n v _ => .ofFaults (faults E c n v .root) with
  | error e => rfl
  | ok u => rfl

variable (E c) in
/-- A comparison as a matcher is told of it: reported without documents. -/
def nestedReport (needle haystack : Value) : Except Report Unit :=
  match compare E c needle haystack with
  | .error f => .error (Report.ofFailure f)
  | .ok () => .ok ()

end Comparator

/-- **The first of all failures is reported.** A comparison succeeds iff the walk that never ends
early meets no failure. Otherwise its report is that of the first failure, in kind, words and place,
with the two documents that were compared; and a comparison that a matcher asks for is told to it as
its own first failure, without documents. So every directive answers what its matcher, built in or
not, does when it is told the first failures. -/
theorem first_fault_is_reported (E : Primitives) (c : Comparator) (needle haystack : Value) :
    (c.compare E needle haystack = .ok () ↔ c.faults E needle haystack .root = []) ∧
    (c.report E needle haystack =
      match c.faults E needle haystack .root with
      | [] => .ok ()
      | f :: _ => .error ⟨f.kind, f.message, f.path.render, some needle, some haystack⟩) ∧
    (c.nestedReport E needle haystack =
      match c.faults E needle haystack .root with
      | [] => .ok ()
      | f :: _ => .error ⟨f.kind, f.message, f.path.render, none, none⟩) ∧
    ∀ text d m path, Directive.parse text = .ok (some d) →
      c.functions.resolve d.name = .ok m →
      c.node E (.string text) haystack path =
        match m.evaluate E c.tokens ⟨d, path, text.length⟩ haystack
            (fun n v _ => .ofFaults (c.faults E n v .root)) with
        | .error e => .error ⟨path, .assertion d e⟩
        | .ok () => .ok () := by
  have hcompare : c.compare E needle haystack = .ofFaults (c.faults E needle haystack .root) :=
    c.node_eq_ofFaults needle haystack .root
  refine ⟨?_, ?_, ?_, fun text d m path hparse hresolve =>
    Comparator.directive_eq_ofFaults hparse hresolve haystack path⟩
  · rw [hcompare]
    cases c.faults E needle haystack .root with
    | nil => simp [Outcome.ofFaults]
    | cons f rest => simp [Outcome.ofFaults]
  · rw [Comparator.report, hcompare]
    cases c.faults E needle haystack .root with
    | nil => rfl
    | cons f rest => rfl
  · rw [Comparator.nestedReport, hcompare]
    cases c.faults E needle haystack .root with
    | nil => rfl
    | cons f rest => rfl

/-- Two members fail, and the first in the order of the needle is reported. -/
example :
    let needle : Value := .object [("b", .null), ("a", .bool true)]
    let haystack : Value := .object [("a", .bool false)]
    Comparator.empty.faults (.standard 0) needle haystack .root =
        [⟨.root, .missingKey "b"⟩, ⟨⟨[.key "a"]⟩, .value (.bool true) (.bool false)⟩] ∧
      Comparator.empty.compare (.standard 0) needle haystack =
        .error ⟨.root, .missingKey "b"⟩ := by
  exact ⟨by cbv, by cbv⟩

end SubsetMatch
