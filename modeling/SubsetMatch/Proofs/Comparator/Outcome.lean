import SubsetMatch.Proofs.Comparator.Calls
import SubsetMatch.Proofs.Matcher.Arguments

/-!
# When visits succeed

One lemma for each shape of needle says when a visit succeeds: an object when every member does, a
list when every element does, a token directive when the payload of its token does. Together they
say that a visit that succeeds has gone everywhere: all visits that it calls succeed.

Results:
* `outcome_object_eq_ok_iff`, `outcome_array_eq_ok_iff`, `outcome_directive_eq_ok_iff`,
  `outcome_token_eq_ok_iff`: success, by the shape of the needle.
* `outcome_directive`, `outcome_token`: a directive answers what its matcher does, a token directive
  what the payload does.
* `Calls.outcome_of_ok`: a visit succeeds only if its calls do.
-/

namespace SubsetMatch

variable {E : Primitives} {c : Comparator} {v w : Visit}

theorem outcome_object_eq_ok_iff {expected : Members} {haystack : Value} {path : KeyPath} :
    Visit.outcome E c ⟨.object expected, haystack, path⟩ = .ok () ↔
      ∃ actual, haystack = .object actual ∧ ∀ m ∈ expected, ∃ t, address actual m.1 path = .ok t ∧
        Visit.outcome E c ⟨m.2, t.value, t.path⟩ = .ok () := by
  rw [Visit.outcome, Comparator.node_object]
  constructor
  · intro h
    cases haystack with
    | object actual => exact ⟨actual, rfl, Comparator.members_eq_ok_iff.mp h⟩
    | _ => cases h
  · rintro ⟨actual, rfl, h⟩
    exact Comparator.members_eq_ok_iff.mpr h

theorem outcome_array_eq_ok_iff {expected : List Value} {haystack : Value} {path : KeyPath} :
    Visit.outcome E c ⟨.array expected, haystack, path⟩ = .ok () ↔
      ∃ actual, haystack = .array actual ∧ expected.length = actual.length ∧
        ∀ i needle x, expected[i]? = some needle → actual[i]? = some x →
          Visit.outcome E c ⟨needle, x, path.index i⟩ = .ok () := by
  rw [Visit.outcome, Comparator.node_array]
  constructor
  · intro h
    cases haystack with
    | array actual =>
      by_cases hlength : expected.length = actual.length
      · simp only [if_pos hlength] at h
        refine ⟨actual, rfl, hlength, fun i needle x hn hx => ?_⟩
        have hi := Comparator.items_eq_ok_iff.mp h i needle x hn hx
        rwa [Nat.zero_add] at hi
      · simp [if_neg hlength] at h
    | _ => cases h
  · rintro ⟨actual, rfl, hlength, h⟩
    simp only [if_pos hlength]
    refine Comparator.items_eq_ok_iff.mpr fun i needle x hn hx => ?_
    rw [Nat.zero_add]
    exact h i needle x hn hx

/-- What a directive answers is what its matcher does. -/
theorem outcome_directive {text : String} {d : Directive} {m : Matcher} {haystack : Value}
    {path : KeyPath} (hparse : Directive.parse text = .ok (some d))
    (hresolve : c.functions.resolve d.name = .ok m) :
    Visit.outcome E c ⟨.string text, haystack, path⟩ =
      match m.evaluate E c.tokens ⟨d, path, text.length⟩ haystack
          (fun n h _ => c.node E n h .root) with
      | .error e => .error ⟨path, .assertion d e⟩
      | .ok () => .ok () := by
  rw [Visit.outcome, Comparator.node_string]
  cases h : m.evaluate E c.tokens ⟨d, path, text.length⟩ haystack
      (fun n h _ => c.node E n h .root) with
  | error e => simp only [hparse, hresolve, h]
  | ok u => simp only [hparse, hresolve, h]

/-- A directive succeeds iff its matcher's assertion holds. -/
theorem outcome_directive_eq_ok_iff {text : String} {d : Directive} {m : Matcher} {haystack : Value}
    {path : KeyPath} (hparse : Directive.parse text = .ok (some d))
    (hresolve : c.functions.resolve d.name = .ok m) :
    Visit.outcome E c ⟨.string text, haystack, path⟩ = .ok () ↔
      m.evaluate E c.tokens ⟨d, path, text.length⟩ haystack
        (fun n h _ => c.node E n h .root) = .ok () := by
  rw [outcome_directive hparse hresolve]
  cases m.evaluate E c.tokens ⟨d, path, text.length⟩ haystack
      (fun n h _ => c.node E n h .root) with
  | error e => simp
  | ok u => simp

/-- What a token directive answers at a string is what the token and its claims do. -/
theorem outcome_token {text name token : String} {d : Directive} {registered : RegisteredToken}
    {path : KeyPath} (hparse : Directive.parse text = .ok (some d))
    (hresolve : c.functions.resolve d.name = .ok .token) (hargs : d.args = [name])
    (hregistered : c.tokens.get? name = some registered) :
    Visit.outcome E c ⟨.string text, .string token, path⟩ =
      match Token.verify E.signs E.now registered.toCheck token.toList with
      | .error e => .error ⟨path, .assertion d (.token e)⟩
      | .ok claims =>
        match Visit.outcome E c ⟨.object registered.payload, .object claims, .root⟩ with
        | .error f => .error ⟨path, .assertion d (.claims f.kind f.message)⟩
        | .ok () => .ok () := by
  have hcheck : Token.check E registered text.length (.string token)
      (fun n h _ => c.node E n h .root) = _ :=
    Token.check_string token fun n h => c.node E n h .root
  rw [outcome_directive hparse hresolve, Matcher.evaluate,
    Token.evaluate_of_registered hargs hregistered, hcheck]
  cases Token.verify E.signs E.now registered.toCheck token.toList with
  | error e => rfl
  | ok claims =>
    simp only [Visit.outcome]
    cases c.node E (.object registered.payload) (.object claims) .root with
    | error f => rfl
    | ok u => rfl

/-- A token directive succeeds iff its value is a token whose claims satisfy the payload. -/
theorem outcome_token_eq_ok_iff {text name : String} {d : Directive}
    {registered : RegisteredToken} {haystack : Value} {path : KeyPath}
    (hparse : Directive.parse text = .ok (some d))
    (hresolve : c.functions.resolve d.name = .ok .token) (hargs : d.args = [name])
    (hregistered : c.tokens.get? name = some registered) :
    Visit.outcome E c ⟨.string text, haystack, path⟩ = .ok () ↔
      ∃ token claims, haystack = .string token ∧
        Token.verify E.signs E.now registered.toCheck token.toList = .ok claims ∧
        Visit.outcome E c ⟨.object registered.payload, .object claims, .root⟩ = .ok () := by
  have heval : Token.evaluate E c.tokens ⟨d, path, text.length⟩ haystack
      (fun n h _ => c.node E n h .root) = Token.check E registered text.length haystack
      (fun n h _ => c.node E n h .root) :=
    Token.evaluate_of_registered hargs hregistered ..
  have hcheck : Token.check E registered text.length haystack
      (fun n h _ => c.node E n h .root) = .ok () ↔ _ := Token.check_eq_ok_iff
  rw [outcome_directive_eq_ok_iff hparse hresolve, Matcher.evaluate, heval]
  exact hcheck

/-- **A visit succeeds only if its calls do.** -/
theorem Calls.outcome_of_ok (h : Calls E c v w) (hv : v.outcome E c = .ok ()) :
    w.outcome E c = .ok () := by
  rcases h with h | h
  · cases h with
    | member hmem haddress =>
      obtain ⟨actual, heq, hall⟩ := outcome_object_eq_ok_iff.mp hv
      cases heq
      obtain ⟨t, ht, hok⟩ := hall _ hmem
      rw [haddress] at ht
      cases ht
      exact hok
    | element hlength hneedle hhaystack =>
      obtain ⟨actual, heq, -, hall⟩ := outcome_array_eq_ok_iff.mp hv
      cases heq
      exact hall _ _ _ hneedle hhaystack
  · cases h with
    | claims hparse hresolve hargs hregistered hverify =>
      obtain ⟨token, claims, heq, hverify', hok⟩ :=
        (outcome_token_eq_ok_iff hparse hresolve hargs hregistered).mp hv
      cases heq
      rw [hverify] at hverify'
      cases hverify'
      exact hok

end SubsetMatch
