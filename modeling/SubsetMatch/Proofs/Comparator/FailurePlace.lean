import SubsetMatch.Proofs.Comparator.Termination
import SubsetMatch.Proofs.Json.Path
import SubsetMatch.Proofs.KeySelector
import SubsetMatch.Report

/-!
# The node that a failure names

The walk carries a path along with its node. They move in lockstep: whatever the walk descends to,
its path leads there from the root of the haystack, also where a key with brackets takes two steps
at once. So the path of a failure leads to a node, and that node is what the failure says of it: the
leaf that differs, the object without the key, the list that is too short, the token whose claims do
not satisfy their payload.

Results:
* `Descends.stands`: a descent keeps the path and the node together.
* `Failure.Describes`: what a failure says of the node that it names.
* `names_of_address`, `names_of_outcome`: a failure names a node that it describes, be it that of a
  key that addresses nothing or that of a whole visit.
* `failure_names_node`: so does the path in the report of a comparison.
-/

namespace SubsetMatch

variable {E : Primitives} {c : Comparator} {document : Value} {v w : Visit}

/-! ## Paths and nodes in lockstep -/

/-- The place of a visit is that of its node in a document. -/
def Visit.Stands (document : Value) (v : Visit) : Prop :=
  document.at? v.path = some v.haystack

theorem get?_of_listAt {actual : Members} {base : String} {path : KeyPath} {items : List Value}
    (h : listAt actual base path = .ok items) : Value.get? actual base = some (.array items) := by
  unfold listAt at h
  split at h
  · cases h
  · rename_i hget
    cases h
    exact hget
  · cases h

/-- What a key addresses stands at its path. -/
theorem at?_of_address {actual : Members} {key : String} {path : KeyPath} {t : Target}
    (hpath : document.at? path = some (.object actual)) (h : address actual key path = .ok t) :
    document.at? t.path = some t.value := by
  have hlist : ∀ {base items}, listAt actual base path = .ok items →
      document.at? (path.key base) = some (.array items) := by
    intro base items hitems
    rw [Value.at?_key hpath]
    exact get?_of_listAt hitems
  unfold address at h
  split at h
  · rename_i hget
    cases h
    rw [Value.at?_key hpath]
    exact hget
  · cases hs : KeySelector.ofKey key with
    | plain name =>
      rw [hs, addressList] at h
      cases h
    | wholeList base =>
      rw [hs, addressList] at h
      split at h
      · cases h
      · rename_i hitems
        cases h
        exact hlist hitems
    | element base position =>
      rw [hs, addressList] at h
      split at h
      · cases h
      · rename_i hitems
        split at h
        · cases h
        · rename_i hitem
          cases h
          rw [Value.at?_index (hlist hitems)]
          exact hitem

/-- **A descent keeps the path and the node together.** -/
theorem Descends.stands (h : Descends v w) (hv : v.Stands document) : w.Stands document := by
  cases h with
  | member hmem haddress => exact at?_of_address hv haddress
  | element hlength hneedle hhaystack =>
    rw [Visit.Stands, Value.at?_index hv]
    exact hhaystack

/-! ## What failures say of their nodes -/

/-- What a failure says of the node that it names. Directives may say anything, but claims that do
not satisfy their payload belong to a string. -/
def Failure.Describes (c : Comparator) (f : Failure) (node : Value) : Prop :=
  match f.cause with
  | .value _ actual => node = actual
  | .container _ kind => node.kind = kind
  | .length _ actual => ∃ items, node = .array items ∧ items.length = actual
  | .missingKey key => ∃ members, node = .object members ∧ Value.get? members key = none
  | .notList owner base => f.path = owner.key base ∧ node.kind ≠ .array
  | .noElement position => ∃ items, node = .array items ∧ items.length ≤ position
  | .malformed _ | .unknown _ => True
  | .assertion d e =>
    c.functions.resolve d.name = .ok .token → ∀ kind message, e = .claims kind message →
      node.kind = .string

/-- A failure names a node of a document that it describes. -/
def Failure.Names (c : Comparator) (document : Value) (f : Failure) : Prop :=
  ∃ node, document.at? f.path = some node ∧ f.Describes c node

/-- A list that is not there is missed in the object, or something else stands in its place. -/
theorem names_of_listAt {actual : Members} {base : String} {path : KeyPath} {f : Failure}
    (hpath : document.at? path = some (.object actual)) (h : listAt actual base path = .error f) :
    f.Names c document := by
  unfold listAt at h
  split at h
  · rename_i hget
    cases h
    exact ⟨_, hpath, actual, rfl, hget⟩
  · cases h
  · rename_i other hother hget
    cases h
    refine ⟨other, (Value.at?_key hpath base).trans hget, rfl, fun hkind => ?_⟩
    cases other with
    | array items => exact hother items rfl
    | number n => cases n <;> cases hkind
    | _ => cases hkind

/-- **A key that addresses nothing** is missed in the object or in a list of it. -/
theorem names_of_address {actual : Members} {key : String} {path : KeyPath} {f : Failure}
    (hpath : document.at? path = some (.object actual)) (h : address actual key path = .error f) :
    f.Names c document := by
  unfold address at h
  split at h
  · cases h
  · rename_i hget
    cases hs : KeySelector.ofKey key with
    | plain name =>
      rw [hs, addressList] at h
      cases h
      rw [KeySelector.eq_of_ofKey_eq_plain hs]
      exact ⟨_, hpath, actual, rfl, hget⟩
    | wholeList base =>
      rw [hs, addressList] at h
      split at h
      · rename_i hlist
        cases h
        exact names_of_listAt hpath hlist
      · cases h
    | element base position =>
      rw [hs, addressList] at h
      split at h
      · rename_i hlist
        cases h
        exact names_of_listAt hpath hlist
      · rename_i items hlist
        split at h
        · rename_i hitem
          cases h
          refine ⟨.array items, ?_, items, rfl, List.getElem?_eq_none_iff.mp hitem⟩
          rw [Value.at?_key hpath]
          exact get?_of_listAt hlist
        · cases h

theorem names_of_leaf {needle haystack : Value} {path : KeyPath} {f : Failure}
    (hpath : document.at? path = some haystack)
    (h : Comparator.leaf needle haystack path = .error f) : f.Names c document := by
  unfold Comparator.leaf at h
  split at h
  · cases h
  · cases h
    exact ⟨haystack, hpath, rfl⟩

/-- Only a string has claims that can be compared with a payload. -/
theorem kind_of_claims {call : Call} {actual : Value} {ask : Value → Value → Outcome}
    {kind : FailureKind} {message : String}
    (h : Token.evaluate E c.tokens call actual (fun n x _ => ask n x) =
      .error (.claims kind message)) : actual.kind = .string := by
  cases actual with
  | string text => rfl
  | _ =>
    unfold Token.evaluate at h
    split at h
    · rename_i e he
      unfold oneArgument at he
      split at he
      · cases he
      · cases he
        cases h
    · split at h
      · cases h
      · simp only [Token.check] at h
        cases h

/-- A directive fails at its own node. -/
theorem names_of_string {text : String} {haystack : Value} {path : KeyPath} {f : Failure}
    (hpath : document.at? path = some haystack)
    (h : c.node E (.string text) haystack path = .error f) : f.Names c document := by
  cases hparse : Directive.parse text with
  | error e =>
    simp only [Comparator.node_string, hparse] at h
    cases h
    exact ⟨haystack, hpath, trivial⟩
  | ok r =>
    cases r with
    | none =>
      simp only [Comparator.node_string, hparse] at h
      exact names_of_leaf hpath h
    | some d =>
      cases hresolve : c.functions.resolve d.name with
      | error e =>
        simp only [Comparator.node_string, hparse, hresolve] at h
        cases h
        exact ⟨haystack, hpath, trivial⟩
      | ok m =>
        have hanswer : Visit.outcome E c ⟨.string text, haystack, path⟩ = _ :=
          outcome_directive hparse hresolve
        rw [Visit.outcome, h] at hanswer
        cases hm : m.evaluate E c.tokens ⟨d, path, text.length⟩ haystack
            (fun n x _ => c.node E n x .root) with
        | ok u => simp [hm] at hanswer
        | error e =>
          simp only [hm, Except.error.injEq] at hanswer
          subst hanswer
          refine ⟨haystack, hpath, fun htoken kind message he => ?_⟩
          rw [hresolve] at htoken
          cases htoken
          rw [he] at hm
          exact kind_of_claims hm

/-- **The failure of a visit names a node that it describes**, if the visit stands in the document.
By induction on the needle: a failure below an object or a list is that of a descent. -/
theorem names_of_outcome {needle haystack : Value} {path : KeyPath} {f : Failure}
    (hpath : document.at? path = some haystack)
    (h : c.node E needle haystack path = .error f) : f.Names c document := by
  induction needle using Value.inductionOn generalizing haystack path with
  | string text => exact names_of_string hpath h
  | array expected ih =>
    rw [Comparator.node_array] at h
    cases haystack with
    | array actual =>
      simp only at h
      split at h
      · rename_i hlength
        obtain ⟨i, needle, item, hneedle, hitem, hi⟩ := Comparator.items_eq_error h
        rw [Nat.zero_add] at hi
        have hdown : Descends ⟨.array expected, .array actual, path⟩
            ⟨needle, item, path.index i⟩ :=
          .element hlength hneedle hitem
        exact ih needle (List.mem_of_getElem? hneedle) (hdown.stands hpath) hi
      · cases h
        exact ⟨_, hpath, actual, rfl, rfl⟩
    | _ =>
      cases h
      exact ⟨_, hpath, rfl⟩
  | object expected ih =>
    rw [Comparator.node_object] at h
    cases haystack with
    | object actual =>
      obtain ⟨m, hm, haddress | ⟨t, ht, hnode⟩⟩ := Comparator.members_eq_error h
      · exact names_of_address hpath haddress
      · exact ih m hm (at?_of_address hpath ht) hnode
    | _ =>
      cases h
      exact ⟨_, hpath, rfl⟩
  | _ =>
    rw [Comparator.node] at h
    exact names_of_leaf hpath h

/-- **A failure names a node of the haystack.** Whatever is registered, the path that a failed
comparison reports is that of a list of segments which, followed from the root of the haystack, lead
to a node; and the node is what the failure says of it. -/
theorem failure_names_node (E : Primitives) (c : Comparator) (needle haystack : Value) (r : Report)
    (h : c.report E needle haystack = .error r) :
    ∃ f node, c.compare E needle haystack = .error f ∧ r.path = f.path.render ∧
      haystack.at? f.path = some node ∧ f.Describes c node := by
  unfold Comparator.report at h
  split at h
  · rename_i f hf
    cases h
    obtain ⟨node, hnode, hdescribes⟩ : f.Names c haystack := names_of_outcome rfl hf
    exact ⟨f, node, hf, rfl, hnode, hdescribes⟩
  · cases h

/-- The claims of a token in a list lack a key, and the path is that of the token. -/
theorem failure_names_node_claims :
    let c := Comparator.withDefaults.addToken "s" [("role", .string "user")] "key"
    let needle : Value := .object [("sessions[1]", .string "@jwt(s)")]
    let haystack : Value := .object [("sessions", .array [.null, .string emptyToken])]
    let f : Failure := ⟨⟨[.key "sessions", .index 1]⟩, .assertion ⟨"jwt", ["s"]⟩
      (.claims .mismatch "Haystack object at $ is missing the \"role\" key.")⟩
    let r := (Report.ofFailure f).withDocuments needle haystack
    c.report (.standard 0) needle haystack = .error r ∧ r.path = "$.sessions[1]" ∧
      ∃ node, haystack.at? ⟨[.key "sessions", .index 1]⟩ = some node ∧ node.kind = .string := by
  intro c needle haystack f r
  have hclaims : Visit.outcome (.standard 0) c
      ⟨.object [("role", .string "user")], .object [], .root⟩ =
        .error ⟨.root, .missingKey "role"⟩ := by
    have haddress : address [] "role" .root = .error ⟨.root, .missingKey "role"⟩ := rfl
    rw [Visit.outcome, Comparator.node_object]
    simp only [Comparator.members_cons, haddress]
  have htoken : Visit.outcome (.standard 0) c
      ⟨.string "@jwt(s)", .string emptyToken, ⟨[.key "sessions", .index 1]⟩⟩ = .error f := by
    have hparse : Directive.parse "@jwt(s)" = .ok (some ⟨"jwt", ["s"]⟩) := rfl
    have hresolve : c.functions.resolve "jwt" = .ok .token := rfl
    have hregistered : c.tokens.get? "s" =
        some ⟨⟨"key", Algorithm.all⟩, [("role", .string "user")]⟩ := rfl
    have hverify : Token.verify (Primitives.standard 0).signs (Primitives.standard 0).now
        ⟨"key", Algorithm.all⟩ emptyToken.toList = .ok [] := verify_emptyToken
    rw [outcome_token hparse hresolve rfl hregistered]
    simp only [hverify, hclaims]
    rfl
  have hcompare : c.compare (.standard 0) needle haystack = .error f := by
    have haddress : address [("sessions", .array [.null, .string emptyToken])] "sessions[1]" .root =
        .ok ⟨.string emptyToken, ⟨[.key "sessions", .index 1]⟩⟩ := rfl
    have hnode : c.node (.standard 0) (.string "@jwt(s)") (.string emptyToken)
        ⟨[.key "sessions", .index 1]⟩ = .error f := htoken
    rw [Comparator.compare, Comparator.node_object]
    simp only [haystack, Comparator.members_cons, haddress, hnode]
  have hreport : c.report (.standard 0) needle haystack = .error r := by
    rw [Comparator.report, hcompare]
  obtain ⟨g, node, hg, -, hnode, hdescribes⟩ :=
    failure_names_node (.standard 0) c needle haystack r hreport
  rw [hcompare] at hg
  cases hg
  exact ⟨hreport, rfl, node, hnode, hdescribes rfl _ _ rfl⟩

end SubsetMatch
