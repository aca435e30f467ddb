import SubsetMatch.Proofs.Comparator.Calls

/-!
# The place of a comparison

The walk carries the place of its node along and never looks at it. A comparison that starts below
a node therefore answers what it does at the root, with the way to that node put in front of every
path that is reported. Only custom functions can tell where they are.

Results:
* `KeyPath.render_join`: one path after another is written without the second marker of the root.
* `Failure.kind_under`: a failure put below a node is of the same kind.
* `node_join`: the walk commutes with putting a path in front.
-/

namespace SubsetMatch

/-! ## Paths -/

namespace KeyPath

/-- One path after another. -/
def join (p q : KeyPath) : KeyPath :=
  ⟨p.segments ++ q.segments⟩

@[simp] theorem join_root (p : KeyPath) : p.join root = p := by
  simp [join, root]

@[simp] theorem root_join (p : KeyPath) : root.join p = p := rfl

theorem join_assoc (p q r : KeyPath) : (p.join q).join r = p.join (q.join r) := by
  simp [join]

@[simp] theorem join_key (p q : KeyPath) (name : String) :
    p.join (q.key name) = (p.join q).key name := by
  simp [join, key, snoc]

@[simp] theorem join_index (p q : KeyPath) (position : Nat) :
    p.join (q.index position) = (p.join q).index position := by
  simp [join, index, snoc]

/-- **A joined path is written as its parts**, the second without its marker of the root. -/
theorem render_join (p q : KeyPath) :
    ∃ rest, q.render = "$" ++ rest ∧ (p.join q).render = p.render ++ rest := by
  refine ⟨String.ofList (q.segments.flatMap Segment.text), ?_, ?_⟩
  · rw [render, text, ← List.singleton_append, String.ofList_append]
  · simp only [render, text, join, List.flatMap_append, ← List.cons_append, String.ofList_append]

end KeyPath

/-! ## Failures -/

/-- A cause below a path. -/
def Cause.under (p : KeyPath) : Cause → Cause
  | .notList owner base => .notList (p.join owner) base
  | cause => cause

namespace Failure

/-- A failure below a path. -/
def under (p : KeyPath) (f : Failure) : Failure :=
  ⟨p.join f.path, f.cause.under p⟩

/-- **A failure put below a node is of the same kind.** -/
@[simp] theorem kind_under (p : KeyPath) (f : Failure) : (f.under p).kind = f.kind := by
  obtain ⟨path, cause⟩ := f
  cases cause <;> rfl

end Failure

/-- An answer below a path. -/
def Outcome.under (p : KeyPath) : Outcome → Outcome
  | .error f => .error (f.under p)
  | .ok () => .ok ()

@[simp] theorem Outcome.under_ok (p : KeyPath) : Outcome.under p (.ok ()) = .ok () := rfl

@[simp] theorem Outcome.under_error (p : KeyPath) (f : Failure) :
    Outcome.under p (.error f) = .error (f.under p) := rfl

/-- A node of the haystack below a path. -/
def Target.under (p : KeyPath) (t : Target) : Target :=
  ⟨t.value, p.join t.path⟩

/-! ## Looking for members -/

theorem listAt_join (actual : Members) (base : String) (p q : KeyPath) :
    listAt actual base (p.join q) =
      match listAt actual base q with
      | .error f => .error (f.under p)
      | .ok items => .ok items := by
  unfold listAt
  split <;> simp [Failure.under, Cause.under]

theorem addressList_join (actual : Members) (p q : KeyPath) (s : KeySelector) :
    addressList actual (p.join q) s =
      match addressList actual q s with
      | .error f => .error (f.under p)
      | .ok t => .ok (t.under p) := by
  cases s with
  | plain key => rfl
  | wholeList base =>
    simp only [addressList, listAt_join]
    cases listAt actual base q with
    | error f => rfl
    | ok items => simp [Target.under]
  | element base position =>
    simp only [addressList, listAt_join]
    cases listAt actual base q with
    | error f => rfl
    | ok items =>
      simp only
      cases items[position]? with
      | none => simp [Failure.under, Cause.under]
      | some item => simp [Target.under]

/-- A member is found below a path as it is at the root. -/
theorem address_join (actual : Members) (key : String) (p q : KeyPath) :
    address actual key (p.join q) =
      match address actual key q with
      | .error f => .error (f.under p)
      | .ok t => .ok (t.under p) := by
  unfold address
  cases Value.get? actual key with
  | some v => simp [Target.under]
  | none => exact addressList_join actual p q _

/-! ## The walk -/

/-- Built-in matchers do not look at the place. -/
theorem Matcher.evaluate_place {m : Matcher} (hb : m.isBuiltIn = true) (E : Primitives)
    (tokens : TokenTable) (d : Directive) (p q : KeyPath) (reach : Nat) (actual : Value)
    (nested : Nested actual reach) :
    m.evaluate E tokens ⟨d, p, reach⟩ actual nested =
      m.evaluate E tokens ⟨d, q, reach⟩ actual nested := by
  cases m with
  | custom run => simp [isBuiltIn] at hb
  | _ => rfl

namespace Comparator

variable {E : Primitives} {c : Comparator}

theorem leaf_join (needle haystack : Value) (p q : KeyPath) :
    leaf needle haystack (p.join q) = Outcome.under p (leaf needle haystack q) := by
  unfold leaf
  split <;> rfl

/-- A string answers alike everywhere, but for the path. -/
theorem node_join_string (hb : c.IsBuiltIn) (text : String) (haystack : Value) (p q : KeyPath) :
    c.node E (.string text) haystack (p.join q) =
      Outcome.under p (c.node E (.string text) haystack q) := by
  rw [node_string, node_string]
  cases Directive.parse text with
  | error e => rfl
  | ok r =>
    cases r with
    | none => exact leaf_join ..
    | some d =>
      cases hresolve : c.functions.resolve d.name with
      | error e =>
        simp only [hresolve]
        rfl
      | ok m =>
        have hplace := Matcher.evaluate_place (hb.of_resolve hresolve) E c.tokens d (p.join q) q
        simp only [hresolve, hplace]
        cases m.evaluate E c.tokens ⟨d, q, text.length⟩ haystack
            fun n h _ => c.node E n h .root with
        | error e => rfl
        | ok u => rfl

theorem members_join {expected : Members} (p : KeyPath)
    (h : ∀ m ∈ expected, ∀ haystack q,
      c.node E m.2 haystack (p.join q) = Outcome.under p (c.node E m.2 haystack q))
    (actual : Members) (q : KeyPath) :
    c.members E expected actual (p.join q) = Outcome.under p (c.members E expected actual q) := by
  induction expected with
  | nil => rw [members_nil, members_nil, Outcome.under_ok]
  | cons m rest ih =>
    obtain ⟨key, needle⟩ := m
    obtain ⟨hneedle, hrest⟩ := List.forall_mem_cons.mp h
    rw [members_cons, members_cons, address_join]
    cases address actual key q with
    | error f => rfl
    | ok t =>
      simp only [Target.under, hneedle, ih hrest]
      cases c.node E needle t.value t.path with
      | error f => rfl
      | ok u => rfl

theorem items_join {expected : List Value} (p : KeyPath)
    (h : ∀ v ∈ expected, ∀ haystack q,
      c.node E v haystack (p.join q) = Outcome.under p (c.node E v haystack q))
    (actual : List Value) (position : Nat) (q : KeyPath) :
    c.items E expected actual position (p.join q) =
      Outcome.under p (c.items E expected actual position q) := by
  induction expected generalizing actual position with
  | nil => simp [items]
  | cons needle expected ih =>
    obtain ⟨hneedle, hrest⟩ := List.forall_mem_cons.mp h
    cases actual with
    | nil => simp [items]
    | cons haystack actual =>
      rw [items_cons, items_cons, ← KeyPath.join_index, hneedle]
      cases c.node E needle haystack (q.index position) with
      | error f => rfl
      | ok u => exact ih hrest ..

/-- **The walk commutes with putting a path in front**: by induction on the needle, since the
places of its parts are those of the parts at the root, with the same path in front. -/
theorem node_join (hb : c.IsBuiltIn) (needle haystack : Value) (p q : KeyPath) :
    c.node E needle haystack (p.join q) = Outcome.under p (c.node E needle haystack q) := by
  induction needle using Value.inductionOn generalizing haystack q with
  | string text => exact node_join_string hb ..
  | array expected ih =>
    rw [node_array, node_array]
    cases haystack with
    | array actual =>
      by_cases hlength : expected.length = actual.length
      · simp only [if_pos hlength]
        exact items_join p ih ..
      · simp only [if_neg hlength]
        rfl
    | _ => rfl
  | object expected ih =>
    rw [node_object, node_object]
    cases haystack with
    | object actual => exact members_join p ih ..
    | _ => rfl
  | _ =>
    rw [node, node]
    exact leaf_join ..

end Comparator

end SubsetMatch
