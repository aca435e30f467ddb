import SubsetMatch.Inspect
import SubsetMatch.Proofs.Comparator.Termination
import SubsetMatch.Proofs.Comparator.VisitOrder
import SubsetMatch.Proofs.NameTable
import SubsetMatch.Report

/-!
# Secrets

The secret of a registered token decides one thing, whether a signature is the right one. Two
comparators that differ in their secrets only may therefore answer differently, but not before some
signature that the first one checks gets another verdict from the second. The words of a failure,
and the texts in which comparators and tokens are shown, hold no secret.

Which signatures are checked is said by the walk itself, with the visits that it makes. What lies
behind the first failure is never visited, and nothing is assumed of it.

Results:
* `Token.verify_eq_of_isSigned`: a secret decides on its signature only.
* `outcome_eq_of_verdicts`: equal verdicts give equal answers.
* `secrets_show_in_verdicts`: so reports and inspections give no other sign of a secret.
-/

namespace SubsetMatch

/-! ## Comparators with other secrets -/

/-- The same token with another secret. -/
structure RegisteredToken.SameButSecret (a b : RegisteredToken) : Prop where
  payload : a.payload = b.payload
  algorithms : a.algorithms = b.algorithms

/-- The same functions and tokens with other secrets. -/
structure Comparator.SameButSecrets (c c' : Comparator) : Prop where
  functions : c.functions = c'.functions
  tokens : ∀ name,
    Option.Rel RegisteredToken.SameButSecret (c.tokens.get? name) (c'.tokens.get? name)

namespace Comparator.SameButSecrets

variable {c c' : Comparator} {name : String} {r : RegisteredToken}

theorem get?_none (h : c.SameButSecrets c') (hget : c.tokens.get? name = none) :
    c'.tokens.get? name = none := by
  have hname := h.tokens name
  rw [hget] at hname
  cases hget' : c'.tokens.get? name with
  | none => rfl
  | some r' =>
    rw [hget'] at hname
    cases hname

theorem get?_some (h : c.SameButSecrets c') (hget : c.tokens.get? name = some r) :
    ∃ r', c'.tokens.get? name = some r' ∧ r.SameButSecret r' := by
  have hname := h.tokens name
  rw [hget] at hname
  cases hget' : c'.tokens.get? name with
  | none =>
    rw [hget'] at hname
    cases hname
  | some r' =>
    rw [hget'] at hname
    cases hname with
    | some hsame => exact ⟨r', rfl, hsame⟩

theorem names_eq (h : c.SameButSecrets c') : c.tokens.names = c'.tokens.names := by
  refine NameTable.names_eq_of_mem_iff fun name => ?_
  rw [NameTable.mem_names_iff, NameTable.mem_names_iff]
  cases hget : c.tokens.get? name with
  | none => simp [h.get?_none hget]
  | some r =>
    obtain ⟨r', hget', -⟩ := h.get?_some hget
    simp [hget']

end Comparator.SameButSecrets

/-- A token shows its payload and its algorithms. -/
theorem RegisteredToken.SameButSecret.inspect_eq {a b : RegisteredToken}
    (h : a.SameButSecret b) : a.inspect = b.inspect := by
  rw [RegisteredToken.inspect, RegisteredToken.inspect, h.payload, h.algorithms]

/-! ## Checks of signatures -/

/-- A signature to be checked: the name that the token is registered under, the algorithm of its
header, and its parts. -/
structure SignatureCheck where
  name : String
  algorithm : Algorithm
  parts : Token.Parts

/-- Whether the signature holds under the secret of the registered token. -/
def SignatureCheck.verdict (E : Primitives) (c : Comparator) (s : SignatureCheck) : Option Bool :=
  (c.tokens.get? s.name).map fun r => Token.isSigned E.signs s.algorithm r.secret s.parts

/-- A visit checks a signature: it applies a token directive to a token whose header names an
allowed algorithm. -/
inductive Checks (c : Comparator) : Visit → SignatureCheck → Prop
  | signature {text token name : String} {path : KeyPath} {d : Directive}
      {registered : RegisteredToken} {p : Token.Parts} {header : HeaderAlgorithm} {a : Algorithm}
      (hparse : Directive.parse text = .ok (some d))
      (hresolve : c.functions.resolve d.name = .ok .token) (hargs : d.args = [name])
      (hregistered : c.tokens.get? name = some registered)
      (hsplit : Token.split? token.toList = some p)
      (hheader : Token.readHeader p.header = .ok header)
      (hallowed : Token.allowed? registered.toCheck header = some a) :
      Checks c ⟨.string text, .string token, path⟩ ⟨name, a, p⟩

/-- A comparison performs a check: the walk gets to a visit that makes it. -/
def Comparator.Performs (E : Primitives) (c : Comparator) (needle haystack : Value)
    (s : SignatureCheck) : Prop :=
  ∃ w, Relation.ReflTransGen (Makes E c) ⟨needle, haystack, .root⟩ w ∧ Checks c w s

/-- **A secret decides on its signature only**: the header is read before, the payload after. -/
theorem Token.verify_eq_of_isSigned {signs : Token.Signs} {now : Nat}
    {check check' : Token.Check} {token : List Char} (halgorithms : check.algorithms = check'.algorithms)
    (h : ∀ p header a, Token.split? token = some p → Token.readHeader p.header = .ok header →
      Token.allowed? check header = some a →
      Token.isSigned signs a check.secret p = Token.isSigned signs a check'.secret p) :
    Token.verify signs now check token = Token.verify signs now check' token := by
  have hallowed : ∀ header, Token.allowed? check' header = Token.allowed? check header := by
    intro header
    cases header with
    | keyed a => rw [Token.allowed?, Token.allowed?, halgorithms]
    | other => rfl
  unfold Token.verify
  cases hsplit : Token.split? token with
  | none => rfl
  | some p =>
    simp only
    cases hheader : Token.readHeader p.header with
    | error e => rfl
    | ok header =>
      simp only [hallowed]
      cases ha : Token.allowed? check header with
      | none => rfl
      | some a => simp only [h p header a hsplit hheader ha]

/-! ## Equal verdicts, equal answers -/

section

variable {E : Primitives} {c c' : Comparator} {v : Visit}

/-- A token directive answers alike if its signature gets the same verdict and its payload the same
answer. -/
theorem token_eq_of_verdicts (hc : c.SameButSecrets c') {text : String} {d : Directive}
    {haystack : Value} {path : KeyPath} (hparse : Directive.parse text = .ok (some d))
    (hresolve : c.functions.resolve d.name = .ok .token)
    (hmakes : ∀ w, Makes E c ⟨.string text, haystack, path⟩ w → w.outcome E c = w.outcome E c')
    (hchecks : ∀ s, Checks c ⟨.string text, haystack, path⟩ s → s.verdict E c = s.verdict E c') :
    Token.evaluate E c.tokens ⟨d, path, text.length⟩ haystack (fun n x _ => c.node E n x .root) =
      Token.evaluate E c'.tokens ⟨d, path, text.length⟩ haystack
        (fun n x _ => c'.node E n x .root) := by
  refine token_eq_of_registered hparse hresolve hmakes fun name hargs => ?_
  cases hget : c.tokens.get? name with
  | none =>
    rw [hc.get?_none hget]
    exact .none
  | some r =>
    obtain ⟨r', hget', hsame⟩ := hc.get?_some hget
    rw [hget']
    refine .some ⟨hsame.payload, ?_⟩
    rintro token rfl
    refine Token.verify_eq_of_isSigned hsame.algorithms fun p header a hp hheader hallowed => ?_
    have hverdict := hchecks _ (.signature hparse hresolve hargs hget hp hheader hallowed)
    simpa [SignatureCheck.verdict, hget, hget'] using hverdict

/-- **Equal verdicts give equal answers**, by induction on the visits that are made. -/
theorem outcome_eq_of_verdicts (hb : c.IsBuiltIn) (hc : c.SameButSecrets c')
    (h : ∀ w s, Relation.ReflTransGen (Makes E c) v w → Checks c w s →
      s.verdict E c = s.verdict E c') : v.outcome E c = v.outcome E c' := by
  induction v using (calls_wellFounded c).induction with
  | _ v ih =>
    have hmakes : ∀ w, Makes E c v w → w.outcome E c = w.outcome E c' := fun w hw =>
      ih w ⟨E, hw.calls⟩ fun x s hx hs => h x s (.head hw hx) hs
    refine outcome_eq_of_makes hmakes fun text htext => ?_
    obtain ⟨needle, haystack, path⟩ := v
    cases htext
    exact string_eq_of_token (fun d m _ hm => hb.of_resolve hm) (fun d _ => by rw [hc.functions])
      fun d hparse hresolve =>
        token_eq_of_verdicts hc hparse hresolve hmakes fun s hs => h _ s .refl hs

end

/-- **Secrets show in the verdicts on signatures only**, whatever the keyed digest is. Take two
comparators with built-in functions that differ in the secrets of their tokens. If every signature
that a comparison with the first one checks gets the same verdict from the secret that the second
one has for that token, then both comparisons have the same outcome and the same report, in kind,
words, place and documents. And the texts that show tokens, tables and comparators are the same in
any case. -/
theorem secrets_show_in_verdicts (E : Primitives) {c c' : Comparator} (hb : c.IsBuiltIn)
    (hc : c.SameButSecrets c') :
    (∀ needle haystack,
      (∀ s, c.Performs E needle haystack s → s.verdict E c = s.verdict E c') →
      c.compare E needle haystack = c'.compare E needle haystack ∧
        c.report E needle haystack = c'.report E needle haystack) ∧
    (∀ name r r', c.tokens.get? name = some r → c'.tokens.get? name = some r' →
      r.inspect = r'.inspect) ∧
    c.tokens.inspect = c'.tokens.inspect ∧ c.inspect = c'.inspect := by
  refine ⟨fun needle haystack h => ?_, fun name r r' hr hr' => ?_, ?_, ?_⟩
  · have hcompare : c.compare E needle haystack = c'.compare E needle haystack :=
      outcome_eq_of_verdicts (v := ⟨needle, haystack, .root⟩) hb hc
        fun w s hw hs => h s ⟨w, hw, hs⟩
    exact ⟨hcompare, by rw [Comparator.report, Comparator.report, hcompare]⟩
  · obtain ⟨r'', hget, hsame⟩ := hc.get?_some hr
    cases hr'.symm.trans hget
    exact hsame.inspect_eq
  · rw [TokenTable.inspect, TokenTable.inspect, TokenTable.inspectText, TokenTable.inspectText,
      hc.names_eq]
  · exact inspect_eq_of_names (by rw [hc.functions]) hc.names_eq

/-- Both secrets are wrong for the token, and nothing tells which of them refused it. -/
theorem secrets_show_in_verdicts_refused :
    let c := Comparator.withDefaults.addToken "s" [("role", .string "user")] "first"
    let c' := Comparator.withDefaults.addToken "s" [("role", .string "user")] "second"
    let needle : Value := .string "@jwt(s)"
    let haystack : Value := .string emptyToken
    c.IsBuiltIn ∧ c.SameButSecrets c' ∧
      (∀ s, c.Performs (.standard 0) needle haystack s →
        s.verdict (.standard 0) c = s.verdict (.standard 0) c') ∧
      c.report (.standard 0) needle haystack = c'.report (.standard 0) needle haystack ∧
      c.inspect = c'.inspect := by
  intro c c' needle haystack
  have hb : c.IsBuiltIn := Comparator.isBuiltIn_withDefaults.addToken _ _ _
  have hc : c.SameButSecrets c' := by
    refine ⟨rfl, fun name => ?_⟩
    simp only [c, c', Comparator.addToken, TokenTable.get?_add]
    by_cases hname : "s" = name
    · simp only [if_pos hname]
      exact .some ⟨rfl, rfl⟩
    · simp only [if_neg hname]
      exact .none
  have hparse : Directive.parse "@jwt(s)" = .ok (some ⟨"jwt", ["s"]⟩) := rfl
  have hregistered : c.tokens.get? "s" =
      some ⟨⟨"first", Algorithm.all⟩, [("role", .string "user")]⟩ := rfl
  have hregistered' : c'.tokens.get? "s" =
      some ⟨⟨"second", Algorithm.all⟩, [("role", .string "user")]⟩ := rfl
  have hsplit : Token.split? emptyToken.toList = some ⟨"eyJhbGciOiJIUzI1NiJ9".toList,
      "e30".toList, "FOOB1UqKAhjxqs3lV7BidJ12zFAsIGq1erQfNyaFf80".toList⟩ := by
    decide +kernel
  have hheader : Token.readHeader "eyJhbGciOiJIUzI1NiJ9".toList = .ok (.keyed .hs256) := by
    decide +kernel
  have hrefused : (Token.verify (Primitives.standard 0).signs (Primitives.standard 0).now
      ⟨"first", Algorithm.all⟩ emptyToken.toList).toOption.isSome = false := by
    decide +kernel
  have hverdicts : ∀ s, c.Performs (.standard 0) (.string "@jwt(s)") (.string emptyToken) s →
      s.verdict (.standard 0) c = s.verdict (.standard 0) c' := by
    rintro s ⟨w, hw, hs⟩
    rcases hw.cases_head with rfl | ⟨x, hx, -⟩
    · cases hs with
      | signature hparse' _ hargs hget hsplit' hheader' hallowed =>
        cases hparse.symm.trans hparse'
        cases hargs
        cases hregistered.symm.trans hget
        cases hsplit.symm.trans hsplit'
        cases hheader.symm.trans hheader'
        cases hallowed
        simp only [SignatureCheck.verdict, hregistered, hregistered', Option.map_some]
        decide +kernel
    · cases hx with
      | claims hx =>
        cases hx with
        | claims hparse' _ hargs hget hverify =>
          cases hparse.symm.trans hparse'
          cases hargs
          cases hregistered.symm.trans hget
          rw [hverify] at hrefused
          cases hrefused
  obtain ⟨hanswers, -, -, hinspect⟩ := secrets_show_in_verdicts (.standard 0) hb hc
  exact ⟨hb, hc, hverdicts, (hanswers needle haystack hverdicts).2, hinspect⟩

end SubsetMatch
