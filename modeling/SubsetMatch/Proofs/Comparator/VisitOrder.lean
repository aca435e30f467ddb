import SubsetMatch.Proofs.Comparator.Outcome

/-!
# Visits in the order of the walk

A walk stops at the first failure. `Makes` follows it from visit to visit, and passes a part of the
needle only after everything in front of it has matched. What lies behind is never visited, so two
comparators answer alike wherever they do for the visits that one of them makes, and where the
strings of the needle mean the same to them.

Results:
* `Makes.calls`: every visit that is made is one that is called.
* `members_eq_of_makes`, `items_eq_of_makes`: walks are equal if the visits that they make answer
  alike.
* `token_eq_of_registered`: token assertions answer alike if the same payload is registered and the
  value is verified alike.
* `string_eq_of_token`: strings answer alike if they name the same function, and the token assertion
  gives the same verdict.
* `outcome_eq_of_makes`: so one level of the walk answers alike.
-/

namespace SubsetMatch

/-- A visit that another one makes: everything in front of it has matched. -/
inductive Makes (E : Primitives) (c : Comparator) : Visit → Visit → Prop
  /-- a member behind others that match -/
  | member {before after actual : Members} {path : KeyPath} {m : String × Value} {t : Target}
      (hbefore : c.members E before actual path = .ok ())
      (haddress : address actual m.1 path = .ok t) :
      Makes E c ⟨.object (before ++ m :: after), .object actual, path⟩ ⟨m.2, t.value, t.path⟩
  /-- an element behind others that match -/
  | element {before after before' after' : List Value} {path : KeyPath} {needle haystack : Value}
      (hlength : before.length = before'.length) (hrest : after.length = after'.length)
      (hbefore : c.items E before before' 0 path = .ok ()) :
      Makes E c ⟨.array (before ++ needle :: after), .array (before' ++ haystack :: after'), path⟩
        ⟨needle, haystack, path.index before.length⟩
  /-- the payload of a verified token -/
  | claims {v w : Visit} (h : Enters E c v w) : Makes E c v w

variable {E : Primitives} {c c' : Comparator} {v w : Visit}

/-- Every visit that is made is one that is called. -/
theorem Makes.calls (h : Makes E c v w) : Calls E c v w := by
  cases h with
  | member hbefore haddress => exact .inl (.member (by simp) haddress)
  | @element before after before' after' path needle haystack hlength hrest hbefore =>
    refine .inl (.element (by simp [hlength, hrest]) (by simp) ?_)
    rw [hlength]
    simp
  | claims h => exact .inr h

/-- **Walks over members are equal** if the visits that the first one makes answer alike. -/
theorem members_eq_of_makes (before : Members) {rest actual : Members} {path : KeyPath}
    (hbefore : c.members E before actual path = .ok ())
    (h : ∀ w, Makes E c ⟨.object (before ++ rest), .object actual, path⟩ w →
      w.outcome E c = w.outcome E c') :
    c.members E rest actual path = c'.members E rest actual path := by
  induction rest generalizing before with
  | nil => rw [Comparator.members_nil, Comparator.members_nil]
  | cons m rest ih =>
    obtain ⟨key, needle⟩ := m
    rw [Comparator.members_cons, Comparator.members_cons]
    cases haddress : address actual key path with
    | error f => rfl
    | ok t =>
      have hfirst : c.node E needle t.value t.path = c'.node E needle t.value t.path :=
        h _ (.member (m := (key, needle)) hbefore haddress)
      simp only [← hfirst]
      cases hnode : c.node E needle t.value t.path with
      | error f => rfl
      | ok u =>
        refine ih (before ++ [(key, needle)]) ?_ fun w hw => h w (by simpa using hw)
        rw [Comparator.members_append, hbefore]
        simp only [Comparator.members_cons, haddress, hnode, Comparator.members_nil]

/-- **Walks over elements are equal** if the visits that the first one makes answer alike. -/
theorem items_eq_of_makes (before before' : List Value) {rest rest' : List Value} {path : KeyPath}
    (hlength : before.length = before'.length) (hrest : rest.length = rest'.length)
    (hbefore : c.items E before before' 0 path = .ok ())
    (h : ∀ w, Makes E c ⟨.array (before ++ rest), .array (before' ++ rest'), path⟩ w →
      w.outcome E c = w.outcome E c') :
    c.items E rest rest' before.length path = c'.items E rest rest' before.length path := by
  induction rest generalizing before before' rest' with
  | nil => simp [Comparator.items]
  | cons needle rest ih =>
    cases rest' with
    | nil => simp at hrest
    | cons haystack rest' =>
      have htail : rest.length = rest'.length := by simpa using hrest
      have hfirst : c.node E needle haystack (path.index before.length) =
          c'.node E needle haystack (path.index before.length) :=
        h _ (.element hlength htail hbefore)
      rw [Comparator.items_cons, Comparator.items_cons, ← hfirst]
      cases hnode : c.node E needle haystack (path.index before.length) with
      | error f => rfl
      | ok u =>
        have hnext := ih (before ++ [needle]) (before' ++ [haystack]) (by simpa using hlength) htail
          ?_ fun w hw => h w (by simpa using hw)
        · rwa [List.length_append, List.length_singleton] at hnext
        · rw [Comparator.items_append hlength, hbefore]
          simp [Comparator.items_cons, hnode, Comparator.items]

/-- Checks against two registered tokens answer alike if the payload is the same, the value is
verified alike, and the payload answers alike for its claims. -/
theorem Token.check_eq_of_verify {r r' : RegisteredToken} {reach : Nat} {haystack : Value}
    {ask ask' : Value → Value → Outcome} (hpayload : r.payload = r'.payload)
    (hverify : ∀ token, haystack = .string token →
      Token.verify E.signs E.now r.toCheck token.toList =
        Token.verify E.signs E.now r'.toCheck token.toList)
    (hclaims : ∀ token claims, haystack = .string token →
      Token.verify E.signs E.now r.toCheck token.toList = .ok claims →
      ask (.object r.payload) (.object claims) = ask' (.object r.payload) (.object claims)) :
    Token.check E r reach haystack (fun n x _ => ask n x) =
      Token.check E r' reach haystack (fun n x _ => ask' n x) := by
  cases haystack with
  | string token =>
    rw [Token.check_string token ask, Token.check_string token ask', ← hverify token rfl,
      ← hpayload]
    cases hv : Token.verify E.signs E.now r.toCheck token.toList with
    | error e => rfl
    | ok claims => simp only [hclaims token claims rfl hv]
  | _ => rfl

/-- **Token assertions answer alike** if both comparators have the same payload under the name, or
none, and verify the value alike, and if the visit of the payload answers alike. -/
theorem token_eq_of_registered {text : String} {d : Directive} {haystack : Value} {path : KeyPath}
    (hparse : Directive.parse text = .ok (some d))
    (hresolve : c.functions.resolve d.name = .ok .token)
    (hmakes : ∀ w, Makes E c ⟨.string text, haystack, path⟩ w → w.outcome E c = w.outcome E c')
    (hregistered : ∀ name, d.args = [name] → Option.Rel
      (fun r r' => r.payload = r'.payload ∧ ∀ token, haystack = .string token →
        Token.verify E.signs E.now r.toCheck token.toList =
          Token.verify E.signs E.now r'.toCheck token.toList)
      (c.tokens.get? name) (c'.tokens.get? name)) :
    Token.evaluate E c.tokens ⟨d, path, text.length⟩ haystack (fun n x _ => c.node E n x .root) =
      Token.evaluate E c'.tokens ⟨d, path, text.length⟩ haystack
        (fun n x _ => c'.node E n x .root) := by
  cases ha : oneArgument d.name d.args with
  | error e => simp only [Token.evaluate, Call.name, Call.args, ha]
  | ok name =>
    have hargs := oneArgument_eq_ok_iff.mp ha
    have hrel := hregistered name hargs
    generalize hget : c.tokens.get? name = entry at hrel
    generalize hget' : c'.tokens.get? name = entry' at hrel
    cases hrel with
    | none => simp only [Token.evaluate, Call.name, Call.args, ha, hget, hget']
    | some hsame =>
      rw [Token.evaluate_of_registered hargs hget, Token.evaluate_of_registered hargs hget']
      refine Token.check_eq_of_verify hsame.1 hsame.2 ?_
      rintro token claims rfl hverify
      exact hmakes _ (.claims (.claims hparse hresolve hargs hget hverify))

/-- **Strings answer alike** if their directive names the same built-in function for both
comparators, and the verdict is the same where it is the token assertion. Any other assertion looks
at its value alone. -/
theorem string_eq_of_token {text : String} {haystack : Value} {path : KeyPath}
    (hb : ∀ d m, Directive.parse text = .ok (some d) → c.functions.resolve d.name = .ok m →
      m.isBuiltIn = true)
    (hresolve : ∀ d, Directive.parse text = .ok (some d) →
      c.functions.resolve d.name = c'.functions.resolve d.name)
    (htoken : ∀ d, Directive.parse text = .ok (some d) → c.functions.resolve d.name = .ok .token →
      Token.evaluate E c.tokens ⟨d, path, text.length⟩ haystack
          (fun n x _ => c.node E n x .root) =
        Token.evaluate E c'.tokens ⟨d, path, text.length⟩ haystack
          (fun n x _ => c'.node E n x .root)) :
    Visit.outcome E c ⟨.string text, haystack, path⟩ =
      Visit.outcome E c' ⟨.string text, haystack, path⟩ := by
  cases hparse : Directive.parse text with
  | error e => simp only [Visit.outcome, Comparator.node_string, hparse]
  | ok r =>
    cases r with
    | none => simp only [Visit.outcome, Comparator.node_string, hparse]
    | some d =>
      have hresolve' := hresolve d hparse
      cases hm : c.functions.resolve d.name with
      | error e =>
        rw [hm] at hresolve'
        simp only [Visit.outcome, Comparator.node_string, hparse, hm, ← hresolve']
      | ok m =>
        rw [hm] at hresolve'
        rw [outcome_directive hparse hm, outcome_directive hparse hresolve'.symm]
        by_cases ht : m = .token
        · subst ht
          simp only [Matcher.evaluate, htoken d hparse hm]
        · obtain ⟨assertion, -, heval⟩ := Matcher.argumentsFirst (hb d m hparse hm) ht E.engine d
          rw [heval E c.tokens path text.length haystack _ rfl,
            heval E c'.tokens path text.length haystack _ rfl]

/-- **One level of the walk answers alike** if the visits that it makes do, and the needle if it is
a string. -/
theorem outcome_eq_of_makes (hmakes : ∀ w, Makes E c v w → w.outcome E c = w.outcome E c')
    (hstring : ∀ text, v.needle = .string text → v.outcome E c = v.outcome E c') :
    v.outcome E c = v.outcome E c' := by
  obtain ⟨needle, haystack, path⟩ := v
  cases needle with
  | string text => exact hstring text rfl
  | object expected =>
    rw [Visit.outcome, Visit.outcome, Comparator.node_object, Comparator.node_object]
    cases haystack with
    | object actual => exact members_eq_of_makes [] (Comparator.members_nil ..) hmakes
    | _ => rfl
  | array expected =>
    rw [Visit.outcome, Visit.outcome, Comparator.node_array, Comparator.node_array]
    cases haystack with
    | array actual =>
      by_cases hlength : expected.length = actual.length
      · simp only [if_pos hlength]
        exact items_eq_of_makes [] [] rfl hlength (by simp [Comparator.items]) hmakes
      · simp only [if_neg hlength]
    | _ => rfl
  | _ => rw [Visit.outcome, Visit.outcome, Comparator.node, Comparator.node]

end SubsetMatch
