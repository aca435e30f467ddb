import SubsetMatch.Proofs.Comparator.Outcome
import SubsetMatch.Standard

/-!
# Faults of the needle

A malformed directive, an unknown function and a refused argument are faults of the needle, and a
fault of the needle shows at any haystack or at none. A comparison that succeeds has visited every
part of its needle, and every payload that its tokens refer to. So take a comparison that succeeds
and another one of the same needle that fails. Each visit of the failing one has a counterpart with
the same needle in the other, and the visit that is to blame has one as well: were its fault one of
the needle, the counterpart would have failed on it.

Results:
* `fault_cases`: a fault that is no mismatch rules out every haystack, or it is that of a call.
* `Calls.counterpart`: where one visit of a needle succeeds, it calls all the needles that another
  visit of that needle calls.
* `needle_fault_is_final`: what one haystack satisfies fails elsewhere by mismatches only.
-/

namespace SubsetMatch

variable {E E' : Primitives} {c : Comparator} {v v' w w' : Visit}

/-! ## Visits that fail -/

/-- A needle that no haystack satisfies, at any time. -/
def Hopeless (engine : Pattern.Engine) (c : Comparator) (needle : Value) : Prop :=
  ∀ E : Primitives, E.engine = engine → ∀ haystack path,
    Visit.outcome E c ⟨needle, haystack, path⟩ ≠ .ok ()

/-- A directive whose matcher refuses its arguments is hopeless. -/
theorem hopeless_of_refused {engine : Pattern.Engine} {text : String} {d : Directive} {m : Matcher}
    {e : MatcherError} (hparse : Directive.parse text = .ok (some d))
    (hresolve : c.functions.resolve d.name = .ok m)
    (h : ∀ (E : Primitives) path reach actual nested, E.engine = engine →
      m.evaluate E c.tokens ⟨d, path, reach⟩ actual nested = .error e) :
    Hopeless engine c (.string text) := by
  intro E he haystack path
  rw [outcome_directive hparse hresolve, h E path text.length haystack _ he]
  simp

/-- A matcher that fails for another reason than its value refuses its arguments anywhere, or has
it from the payload of a token. -/
theorem directive_fault_cases (hb : c.IsBuiltIn) {text : String} {d : Directive} {m : Matcher}
    {haystack : Value} {path : KeyPath} {e : MatcherError}
    (hparse : Directive.parse text = .ok (some d))
    (hresolve : c.functions.resolve d.name = .ok m)
    (h : m.evaluate E c.tokens ⟨d, path, text.length⟩ haystack
      (fun n h _ => c.node E n h .root) = .error e)
    (he : e.kind ≠ .mismatch) :
    Hopeless E.engine c (.string text) ∨
      ∃ w g, Calls E c ⟨.string text, haystack, path⟩ w ∧ w.outcome E c = .error g ∧
        g.kind ≠ .mismatch := by
  -- only a token assertion fails for what lies in another document
  by_cases ht : m = .token
  · subst ht
    rcases Token.evaluate_cases c.tokens d with ⟨e', hrefused⟩ | ⟨name, r, hargs, hr⟩
    · exact .inl (hopeless_of_refused hparse hresolve fun E path reach actual nested _ =>
        hrefused E path reach actual nested)
    · rw [Matcher.evaluate, Token.evaluate_of_registered hargs hr] at h
      rcases Token.check_eq_error h with hk | ⟨token, claims, g, rfl, hverify, hg, rfl⟩
      · exact absurd hk he
      · refine .inr ⟨_, g, .inr (.claims hparse hresolve hargs hr hverify), hg, fun hk => he ?_⟩
        rw [hk]
        rfl
  · obtain ⟨assertion, hfirst, heval⟩ :=
      Matcher.argumentsFirst (hb.of_resolve hresolve) ht E.engine d
    rcases hfirst with ⟨e', -, hrefused⟩ | hmismatch
    · refine .inl (hopeless_of_refused (e := e') hparse hresolve
        fun E' path reach actual nested he' => ?_)
      rw [heval E' c.tokens path reach actual nested he', hrefused]
    · rw [heval E c.tokens path text.length haystack _ rfl] at h
      exact absurd (hmismatch haystack e h) he

/-- **A fault that is no mismatch rules out every haystack, or it is that of a call.** -/
theorem fault_cases (hb : c.IsBuiltIn) {f : Failure} (h : v.outcome E c = .error f)
    (hf : f.kind ≠ .mismatch) :
    Hopeless E.engine c v.needle ∨
      ∃ w g, Calls E c v w ∧ w.outcome E c = .error g ∧ g.kind ≠ .mismatch := by
  obtain ⟨needle, haystack, path⟩ := v
  cases needle with
  | string text =>
    cases hparse : Directive.parse text with
    | error e =>
      refine .inl fun E' _ haystack path => ?_
      rw [Visit.outcome, Comparator.node_string]
      simp [hparse]
    | ok r =>
      cases r with
      | none =>
        rw [Visit.outcome, Comparator.node_string] at h
        simp only [hparse] at h
        exact absurd (Comparator.kind_of_leaf h) hf
      | some d =>
        cases hresolve : c.functions.resolve d.name with
        | error e =>
          refine .inl fun E' _ haystack path => ?_
          rw [Visit.outcome, Comparator.node_string]
          simp [hparse, hresolve]
        | ok m =>
          rw [outcome_directive hparse hresolve] at h
          split at h
          · rename_i e heval
            cases h
            exact directive_fault_cases hb hparse hresolve heval hf
          · cases h
  | object expected =>
    rw [Visit.outcome, Comparator.node_object] at h
    cases haystack with
    | object actual =>
      obtain ⟨m, hm, ha | ⟨t, ht, hn⟩⟩ := Comparator.members_eq_error h
      · exact absurd (kind_of_address ha) hf
      · exact .inr ⟨_, f, .inl (.member hm ht), hn, hf⟩
    | _ =>
      cases h
      exact absurd rfl hf
  | array expected =>
    rw [Visit.outcome, Comparator.node_array] at h
    cases haystack with
    | array actual =>
      simp only at h
      split at h
      · rename_i hlength
        obtain ⟨i, n, x, hn, hx, hi⟩ := Comparator.items_eq_error h
        rw [Nat.zero_add] at hi
        exact .inr ⟨_, f, .inl (.element hlength hn hx), hi, hf⟩
      · cases h
        exact absurd rfl hf
    | _ =>
      cases h
      exact absurd rfl hf
  | _ =>
    rw [Visit.outcome, Comparator.node] at h
    exact absurd (Comparator.kind_of_leaf h) hf

/-! ## Two visits of one needle -/

/-- **Calls have counterparts.** Where one visit of a needle succeeds, it calls visits of all the
needles that another visit of that needle calls. -/
theorem Calls.counterpart (hneedle : v.needle = v'.needle) (hv : v.outcome E c = .ok ())
    (h : Calls E' c v' w') : ∃ w, Calls E c v w ∧ w.needle = w'.needle := by
  obtain ⟨needle, haystack, path⟩ := v
  simp only at hneedle
  subst hneedle
  rcases h with h | h
  · cases h with
    | member hmem haddress =>
      obtain ⟨actual, rfl, hall⟩ := outcome_object_eq_ok_iff.mp hv
      obtain ⟨t, ht, -⟩ := hall _ hmem
      exact ⟨_, .inl (.member hmem ht), rfl⟩
    | @element expected _ _ i _ _ _ hn _ =>
      obtain ⟨actual, rfl, hlength, -⟩ := outcome_array_eq_ok_iff.mp hv
      have hi : i < actual.length := by
        rw [← hlength]
        exact (List.getElem?_eq_some_iff.mp hn).1
      exact ⟨_, .inl (.element hlength hn (List.getElem?_eq_getElem hi)), rfl⟩
  · cases h with
    | claims hparse hresolve hargs hregistered hverify =>
      obtain ⟨token, claims, rfl, hverify', -⟩ :=
        (outcome_token_eq_ok_iff hparse hresolve hargs hregistered).mp hv
      exact ⟨_, .inr (.claims hparse hresolve hargs hregistered hverify'), rfl⟩

/-- Where one visit of a needle succeeds, any other fails by mismatches only. The fault of a visit
is followed down its calls, with a successful counterpart beside each of them. -/
theorem kind_of_outcome (hb : c.IsBuiltIn) {f : Failure} (hv : v.outcome E c = .ok ())
    (h : v'.outcome E' c = .error f) (hengine : E.engine = E'.engine)
    (hneedle : v.needle = v'.needle) : f.kind = .mismatch := by
  induction v' using (calls_wellFounded c).induction generalizing v f with
  | _ v' ih =>
    refine Classical.byContradiction fun hf => ?_
    rcases fault_cases hb h hf with hopeless | ⟨w', g, hcall, hg, hk⟩
    · rw [← hneedle] at hopeless
      exact hopeless E hengine v.haystack v.path hv
    · obtain ⟨w, hw, hsame⟩ := hcall.counterpart hneedle hv
      exact hk (ih w' ⟨E', hcall⟩ (hw.outcome_of_ok hv) hg hsame)

/-- **A fault of the needle is final.** If one haystack satisfies a needle, then every other one
satisfies it or fails by a mismatch, at any time. And if a needle fails otherwise, as a malformed
directive or a refused argument does, then no haystack satisfies it. -/
theorem needle_fault_is_final (E : Primitives) (c : Comparator) (hb : c.IsBuiltIn)
    (needle : Value) :
    (∀ haystack, c.compare E needle haystack = .ok () → ∀ (now : Nat) haystack',
      c.compare { E with now } needle haystack' = .ok () ∨
        ∃ f, c.compare { E with now } needle haystack' = .error f ∧ f.kind = .mismatch) ∧
    ∀ haystack f, c.compare E needle haystack = .error f → f.kind ≠ .mismatch →
      ∀ (now : Nat) haystack', c.compare { E with now } needle haystack' ≠ .ok () := by
  have hfinal : ∀ (now now' : Nat) haystack haystack' f,
      c.compare { E with now } needle haystack = .ok () →
      c.compare { E with now := now' } needle haystack' = .error f → f.kind = .mismatch := by
    intro now now' haystack haystack' f hok herr
    have hv : Visit.outcome { E with now } c ⟨needle, haystack, .root⟩ = .ok () := hok
    have hv' : Visit.outcome { E with now := now' } c ⟨needle, haystack', .root⟩ = .error f := herr
    exact kind_of_outcome hb hv hv' rfl rfl
  constructor
  · intro haystack hok now haystack'
    cases h : c.compare { E with now } needle haystack' with
    | ok u => exact .inl rfl
    | error f => exact .inr ⟨f, rfl, hfinal E.now now haystack haystack' f hok h⟩
  · intro haystack f herr hf now haystack' hok
    exact hf (hfinal now E.now haystack' haystack f hok herr)

theorem needle_fault_is_final_gt :
    Comparator.withDefaults.compare (.standard 0) (.string "@gt(1)") (.number (.integer 2)) =
        .ok () ∧
    (Comparator.withDefaults.compare (.standard 5) (.string "@gt(1)") .null = .ok () ∨
      ∃ f, Comparator.withDefaults.compare (.standard 5) (.string "@gt(1)") .null = .error f ∧
        f.kind = .mismatch) ∧
    Comparator.withDefaults.compare (.standard 0) (.string "@gt(one)") .null =
        .error ⟨.root, .assertion ⟨"gt", ["one"]⟩ (.boundArgument "gt" "one")⟩ ∧
    Comparator.withDefaults.compare (.standard 5) (.string "@gt(one)") (.number (.integer 2)) ≠
        .ok () := by
  have hb := Comparator.isBuiltIn_withDefaults
  have hok : Comparator.withDefaults.compare (.standard 0) (.string "@gt(1)")
      (.number (.integer 2)) = .ok () := by
    rw [Comparator.compare, Comparator.node_string]
    rfl
  have hfault : Comparator.withDefaults.compare (.standard 0) (.string "@gt(one)") .null =
      .error ⟨.root, .assertion ⟨"gt", ["one"]⟩ (.boundArgument "gt" "one")⟩ := by
    rw [Comparator.compare, Comparator.node_string]
    rfl
  exact ⟨hok, (needle_fault_is_final (.standard 0) _ hb _).1 _ hok 5 .null, hfault,
    (needle_fault_is_final (.standard 0) _ hb _).2 _ _ hfault (by decide) 5 _⟩

end SubsetMatch
