import SubsetMatch.Proofs.Comparator.Outcome
import SubsetMatch.Standard

/-!
# Comparisons end

The walk is laid open here as a recursion without a measure: `visitWith ask` is one level of it,
with every visit that it asks for left to `ask`, and `visitWithin depth` is that level nested to a
depth, beyond which nothing answers. The measure then shows that a depth known in advance is
enough, for any payloads, and that the answer is that of the walk.

Results:
* `visitWith_congr`: one level depends on nothing but the visits it calls.
* `visitWith_outcome`: the walk solves its own recursion.
* `comparison_ends`: what decreases on each call, and the depth that is enough.
-/

namespace SubsetMatch

/-- An answer to visits, where there is one. -/
abbrev Ask := Visit → Option Outcome

/-! ## One level of the recursion -/

namespace Token

/-- A value against a registered token, with the visit of the payload asked for. -/
def checkWith (E : Primitives) (ask : Ask) (registered : RegisteredToken) :
    Value → Option Verdict
  | .string text =>
    match verify E.signs E.now registered.toCheck text.toList with
    | .error e => some (.error (.token e))
    | .ok claims =>
      (ask ⟨.object registered.payload, .object claims, .root⟩).map fun
        | .error f => .error (.claims f.kind f.message)
        | .ok () => .ok ()
  | v => some (.error (.tokenKind v.kind))

/-- The token assertion. -/
def evaluateWith (E : Primitives) (tokens : TokenTable) (ask : Ask) (d : Directive)
    (actual : Value) : Option Verdict :=
  match oneArgument d.name d.args with
  | .error e => some (.error e)
  | .ok name =>
    match tokens.get? name with
    | none => some (.error (.unknownToken name))
    | some registered => checkWith E ask registered actual

end Token

/-- The assertion that a built-in matcher makes, with its visits asked for. Custom functions are
not looked into. -/
def Matcher.evaluateWith (E : Primitives) (tokens : TokenTable) (ask : Ask) (m : Matcher)
    (d : Directive) (actual : Value) : Option Verdict :=
  match m with
  | length bound => some (bound.evaluate d.name d.args actual)
  | numeric direction => some (direction.evaluate d.name d.args actual)
  | typeName => some (TypeName.evaluate d.name d.args actual)
  | pattern | sharedPattern => some (Pattern.evaluate E.engine d.name d.args actual)
  | token => Token.evaluateWith E tokens ask d actual
  | custom _ => none

namespace Comparator

variable (E : Primitives) (c : Comparator)

/-- The visits of the members of an object, in order. -/
def membersWith (ask : Ask) : Members → Members → KeyPath → Option Outcome
  | [], _, _ => some (.ok ())
  | (key, needle) :: rest, actual, path =>
    match address actual key path with
    | .error f => some (.error f)
    | .ok t =>
      match ask ⟨needle, t.value, t.path⟩ with
      | some (.ok ()) => membersWith ask rest actual path
      | answer => answer

/-- The visits of the elements of lists, in order. -/
def itemsWith (ask : Ask) : List Value → List Value → Nat → KeyPath → Option Outcome
  | needle :: expected, haystack :: actual, position, path =>
    match ask ⟨needle, haystack, path.index position⟩ with
    | some (.ok ()) => itemsWith ask expected actual (position + 1) path
    | answer => answer
  | _, _, _, _ => some (.ok ())

/-- A directive at a node. -/
def directiveWith (ask : Ask) (d : Directive) (haystack : Value) (path : KeyPath) :
    Option Outcome :=
  match c.functions.resolve d.name with
  | .error e => some (.error ⟨path, .unknown e⟩)
  | .ok m =>
    (m.evaluateWith E c.tokens ask d haystack).map fun
      | .error e => .error ⟨path, .assertion d e⟩
      | .ok () => .ok ()

/-- One level of the walk, with every visit it asks for left to `ask`. -/
def visitWith (ask : Ask) (v : Visit) : Option Outcome :=
  match v.needle, v.haystack with
  | .string text, haystack =>
    match Directive.parse text with
    | .error e => some (.error ⟨v.path, .malformed e⟩)
    | .ok none => some (leaf (.string text) haystack v.path)
    | .ok (some d) => directiveWith E c ask d haystack v.path
  | .object expected, .object actual => membersWith ask expected actual v.path
  | .object _, haystack => some (.error ⟨v.path, .container .object haystack.kind⟩)
  | .array expected, .array actual =>
    if expected.length = actual.length then itemsWith ask expected actual 0 v.path
    else some (.error ⟨v.path, .length expected.length actual.length⟩)
  | .array _, haystack => some (.error ⟨v.path, .container .array haystack.kind⟩)
  | needle, haystack => some (leaf needle haystack v.path)

/-- The recursion nested to a depth; what lies deeper has no answer. -/
def visitWithin : Nat → Visit → Option Outcome
  | 0, _ => none
  | depth + 1, v => visitWith E c (visitWithin depth) v

/-! ## One level depends on its calls -/

variable {E c} {ask ask' : Ask}

theorem membersWith_congr {expected actual : Members} {path : KeyPath}
    (h : ∀ m ∈ expected, ∀ t, address actual m.1 path = .ok t →
      ask ⟨m.2, t.value, t.path⟩ = ask' ⟨m.2, t.value, t.path⟩) :
    membersWith ask expected actual path = membersWith ask' expected actual path := by
  induction expected with
  | nil => rfl
  | cons m rest ih =>
    obtain ⟨key, needle⟩ := m
    obtain ⟨hfirst, hrest⟩ := List.forall_mem_cons.mp h
    rw [membersWith, membersWith, ih hrest]
    cases ha : address actual key path with
    | error f => rfl
    | ok t =>
      simp only
      rw [hfirst t ha]

theorem itemsWith_congr {expected actual : List Value} {position : Nat} {path : KeyPath}
    (h : ∀ i needle haystack, expected[i]? = some needle → actual[i]? = some haystack →
      ask ⟨needle, haystack, path.index (position + i)⟩ =
        ask' ⟨needle, haystack, path.index (position + i)⟩) :
    itemsWith ask expected actual position path = itemsWith ask' expected actual position path := by
  induction expected generalizing actual position with
  | nil => rfl
  | cons needle expected ih =>
    cases actual with
    | nil => rfl
    | cons haystack actual =>
      have hfirst := h 0 needle haystack rfl rfl
      rw [Nat.add_zero] at hfirst
      rw [itemsWith, itemsWith, hfirst, ih]
      intro i n v hn hv
      rw [show position + 1 + i = position + (i + 1) by omega]
      exact h (i + 1) n v (by simpa using hn) (by simpa using hv)

theorem tokenEvaluateWith_congr {tokens : TokenTable} {d : Directive} {actual : Value}
    (h : ∀ name token registered claims, d.args = [name] → actual = .string token →
      tokens.get? name = some registered →
      Token.verify E.signs E.now registered.toCheck token.toList = .ok claims →
      ask ⟨.object registered.payload, .object claims, .root⟩ =
        ask' ⟨.object registered.payload, .object claims, .root⟩) :
    Token.evaluateWith E tokens ask d actual = Token.evaluateWith E tokens ask' d actual := by
  unfold Token.evaluateWith
  split
  · rfl
  · rename_i name ha
    split
    · rfl
    · rename_i registered hr
      unfold Token.checkWith
      split
      · rename_i token
        split
        · rfl
        · rename_i claims hv
          rw [h name token registered claims (oneArgument_eq_ok_iff.mp ha) rfl hr hv]
      · rfl

theorem directiveWith_congr {text : String} {d : Directive} {haystack : Value} {path : KeyPath}
    (hparse : Directive.parse text = .ok (some d))
    (h : ∀ w, Enters E c ⟨.string text, haystack, path⟩ w → ask w = ask' w) :
    directiveWith E c ask d haystack path = directiveWith E c ask' d haystack path := by
  unfold directiveWith
  split
  · rfl
  · rename_i m hresolve
    cases m with
    | token =>
      refine congrArg _ (tokenEvaluateWith_congr ?_)
      rintro name token registered claims hargs rfl hregistered hverify
      exact h _ (.claims hparse hresolve hargs hregistered hverify)
    | _ => rfl

/-- **One level depends on nothing but the visits it calls.** -/
theorem visitWith_congr {v : Visit} (h : ∀ w, Calls E c v w → ask w = ask' w) :
    visitWith E c ask v = visitWith E c ask' v := by
  obtain ⟨needle, haystack, path⟩ := v
  cases needle with
  | string text =>
    simp only [visitWith]
    split
    · rfl
    · rfl
    · rename_i d hparse
      exact directiveWith_congr hparse fun w hw => h w (.inr hw)
  | object expected =>
    cases haystack with
    | object actual => exact membersWith_congr fun m hm t ht => h _ (.inl (.member hm ht))
    | _ => rfl
  | array expected =>
    cases haystack with
    | array actual =>
      simp only [visitWith]
      by_cases hlength : expected.length = actual.length
      · rw [if_pos hlength, if_pos hlength]
        refine itemsWith_congr fun i n w hn hw => ?_
        rw [Nat.zero_add]
        exact h _ (.inl (.element hlength hn hw))
      · rw [if_neg hlength, if_neg hlength]
    | _ => rfl
  | _ => rfl

/-! ## The walk solves the recursion -/

theorem membersWith_outcome (expected actual : Members) (path : KeyPath) :
    membersWith (fun w => some (w.outcome E c)) expected actual path =
      some (members E c expected actual path) := by
  induction expected with
  | nil => rw [membersWith, members_nil]
  | cons m rest ih =>
    obtain ⟨key, needle⟩ := m
    rw [membersWith, members_cons]
    cases ha : address actual key path with
    | error f => rfl
    | ok t =>
      simp only [Visit.outcome]
      cases hn : node E c needle t.value t.path with
      | error f => rfl
      | ok u => exact ih

theorem itemsWith_outcome (expected actual : List Value) (position : Nat) (path : KeyPath) :
    itemsWith (fun w => some (w.outcome E c)) expected actual position path =
      some (items E c expected actual position path) := by
  induction expected generalizing actual position with
  | nil => simp [itemsWith, items]
  | cons needle expected ih =>
    cases actual with
    | nil => simp [itemsWith, items]
    | cons haystack actual =>
      rw [itemsWith, items_cons]
      simp only [Visit.outcome]
      cases hn : node E c needle haystack (path.index position) with
      | error f => rfl
      | ok u => exact ih actual (position + 1)

theorem tokenEvaluateWith_outcome (d : Directive) (path : KeyPath) (reach : Nat) (actual : Value) :
    Token.evaluateWith E c.tokens (fun w => some (w.outcome E c)) d actual =
      some (Token.evaluate E c.tokens ⟨d, path, reach⟩ actual fun n h _ => node E c n h .root) := by
  unfold Token.evaluateWith Token.evaluate
  simp only [Call.name, Call.args]
  cases oneArgument d.name d.args with
  | error e => rfl
  | ok name =>
    simp only
    cases c.tokens.get? name with
    | none => rfl
    | some registered =>
      cases actual with
      | string text =>
        simp only [Token.checkWith, Token.check_string text fun n h => node E c n h .root]
        cases Token.verify E.signs E.now registered.toCheck text.toList with
        | error e => rfl
        | ok claims => rfl
      | _ => rfl

theorem matcherEvaluateWith_outcome {m : Matcher} (hb : m.isBuiltIn = true) (d : Directive)
    (path : KeyPath) (reach : Nat) (actual : Value) :
    m.evaluateWith E c.tokens (fun w => some (w.outcome E c)) d actual =
      some (m.evaluate E c.tokens ⟨d, path, reach⟩ actual fun n h _ => node E c n h .root) := by
  cases m with
  | token => exact tokenEvaluateWith_outcome d path reach actual
  | custom run => simp [Matcher.isBuiltIn] at hb
  | _ => rfl

theorem directiveWith_outcome (hb : c.IsBuiltIn) {text : String} {d : Directive}
    (hparse : Directive.parse text = .ok (some d)) (haystack : Value) (path : KeyPath) :
    directiveWith E c (fun w => some (w.outcome E c)) d haystack path =
      some (Visit.outcome E c ⟨.string text, haystack, path⟩) := by
  unfold directiveWith
  cases hr : c.functions.resolve d.name with
  | error e =>
    rw [Visit.outcome, node_string]
    simp only [hparse, hr]
  | ok m =>
    have hwith := matcherEvaluateWith_outcome (E := E) (c := c) (hb.of_resolve hr) d path
      text.length haystack
    rw [outcome_directive hparse hr]
    cases h : m.evaluate E c.tokens ⟨d, path, text.length⟩ haystack
        (fun n h _ => node E c n h .root) with
    | error e =>
      rw [h] at hwith
      simp only [hwith, Option.map_some]
    | ok u =>
      rw [h] at hwith
      simp only [hwith, Option.map_some]

/-- **The walk solves its own recursion**, if all functions are built in. -/
theorem visitWith_outcome (hb : c.IsBuiltIn) (v : Visit) :
    visitWith E c (fun w => some (w.outcome E c)) v = some (v.outcome E c) := by
  obtain ⟨needle, haystack, path⟩ := v
  cases needle with
  | string text =>
    cases hp : Directive.parse text with
    | error e => simp only [visitWith, Visit.outcome, node_string, hp]
    | ok r =>
      cases r with
      | none => simp only [visitWith, Visit.outcome, node_string, hp]
      | some d =>
        simp only [visitWith, hp]
        exact directiveWith_outcome hb hp haystack path
  | object expected =>
    simp only [Visit.outcome, node_object]
    cases haystack with
    | object actual => exact membersWith_outcome expected actual path
    | _ => rfl
  | array expected =>
    simp only [Visit.outcome, node_array]
    cases haystack with
    | array actual =>
      simp only [visitWith]
      by_cases hlength : expected.length = actual.length
      · rw [if_pos hlength, if_pos hlength]
        exact itemsWith_outcome expected actual 0 path
      · rw [if_neg hlength, if_neg hlength]
    | _ => rfl
  | _ =>
    rw [Visit.outcome, node]
    rfl

/-- A depth of the bound is enough: the calls lie less deep. -/
theorem visitWithin_eq_outcome (hb : c.IsBuiltIn) {v : Visit} {depth : Nat}
    (h : v.bound c ≤ depth) : visitWithin E c depth v = some (v.outcome E c) := by
  induction depth generalizing v with
  | zero =>
    have hpos := v.needle.size_pos
    unfold Visit.bound at h
    omega
  | succ depth ih =>
    rw [visitWithin, ← visitWith_outcome hb]
    refine visitWith_congr fun w hw => ih ?_
    have hlt := hw.bound_lt
    omega

end Comparator

/-- **Comparisons with built-in functions end**, whatever payloads are registered: an entry into a
payload takes less text of the haystack, and every other call a smaller needle and no more text. So
no visit calls others without end, even if the time and the digests change in between. Since one
level of the recursion depends on its calls alone, the recursion without a measure answers within a
depth known in advance, and it answers what the walk does. -/
theorem comparison_ends (E : Primitives) (c : Comparator) (hb : c.IsBuiltIn) :
    (∀ v w, Enters E c v w → w.haystack.textLength < v.haystack.textLength) ∧
    (∀ v w, Descends v w →
      w.haystack.textLength ≤ v.haystack.textLength ∧ w.needle.size < v.needle.size) ∧
    (WellFounded fun w v => ∃ E', Calls E' c v w) ∧
    (∀ v ask ask', (∀ w, Calls E c v w → ask w = ask' w) →
      c.visitWith E ask v = c.visitWith E ask' v) ∧
    ∀ v depth, v.bound c ≤ depth → c.visitWithin E depth v = some (v.outcome E c) :=
  ⟨fun _ _ h => h.textLength_lt, fun _ _ h => ⟨h.textLength_le, h.size_lt⟩, calls_wellFounded c,
    fun _ _ _ h => Comparator.visitWith_congr h,
    fun _ _ h => Comparator.visitWithin_eq_outcome hb h⟩

/-! ## A payload that asks for its own token -/

/-- A session whose parent is a session again. -/
def selfReferring : Comparator :=
  .addToken .withDefaults "session" [("parent", .string "@jwt(session)")] "key"

/-- A token without claims, signed with the key of the session. -/
def emptyToken : String :=
  "eyJhbGciOiJIUzI1NiJ9.e30.FOOB1UqKAhjxqs3lV7BidJ12zFAsIGq1erQfNyaFf80"

theorem verify_emptyToken :
    Token.verify (Primitives.standard 0).signs 0 ⟨"key", Algorithm.all⟩ emptyToken.toList =
      .ok [] := by
  have hempty : (Token.verify (Primitives.standard 0).signs 0 ⟨"key", Algorithm.all⟩
      emptyToken.toList).toOption.map List.isEmpty = some true := by
    decide +kernel
  cases hv : Token.verify (Primitives.standard 0).signs 0 ⟨"key", Algorithm.all⟩
      emptyToken.toList with
  | error e =>
    rw [hv] at hempty
    cases hempty
  | ok claims =>
    rw [hv] at hempty
    have hnil : claims.isEmpty = true := Option.some.inj hempty
    rw [List.isEmpty_iff.mp hnil]

/-- Here the needle grows on the entry, and the comparison ends all the same. -/
theorem comparison_ends_selfReferring :
    let v : Visit := ⟨.string "@jwt(session)", .string emptyToken, .root⟩
    let w : Visit := ⟨.object [("parent", .string "@jwt(session)")], .object [], .root⟩
    selfReferring.IsBuiltIn ∧ Enters (.standard 0) selfReferring v w ∧
      v.needle.size < w.needle.size ∧ w.haystack.textLength < v.haystack.textLength ∧
      selfReferring.visitWithin (.standard 0) (v.bound selfReferring) v =
        some (v.outcome (.standard 0) selfReferring) := by
  intro v w
  have hb : selfReferring.IsBuiltIn := Comparator.isBuiltIn_withDefaults.addToken _ _ _
  have hparse : Directive.parse "@jwt(session)" = .ok (some ⟨"jwt", ["session"]⟩) := by rfl
  have hresolve : selfReferring.functions.resolve "jwt" = .ok .token := by rfl
  have hregistered : selfReferring.tokens.get? "session" =
      some ⟨⟨"key", Algorithm.all⟩, [("parent", .string "@jwt(session)")]⟩ := by rfl
  have henters : Enters (.standard 0) selfReferring v w :=
    .claims hparse hresolve rfl hregistered verify_emptyToken
  obtain ⟨hentry, -, -, -, hends⟩ := comparison_ends (.standard 0) selfReferring hb
  exact ⟨hb, henters, by decide, hentry v w henters, hends v _ (Nat.le_refl _)⟩

end SubsetMatch
