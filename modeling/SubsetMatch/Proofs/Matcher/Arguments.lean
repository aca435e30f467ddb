import SubsetMatch.Matcher.Basic

/-!
# Arguments come before values

A built-in assertion settles its arguments before it looks at its value: whether they are refused
does not depend on the value, and once they are accepted every failure is the value's. A token
assertion does the same up to the comparison of the claims, which has verdicts of its own.

Results:
* `ArgumentsFirst`: the order of the two checks, as a property of an assertion.
* `argumentsFirst_length`, `argumentsFirst_numeric`, `argumentsFirst_typeName`,
  `argumentsFirst_pattern`: the assertions that look at nothing but a value have it.
* `Token.evaluate_cases`, `Token.evaluate_of_registered`: a token assertion refuses its arguments
  or checks a registered token.
* `Token.check_string`, `Token.check_eq_ok_iff`: a verified token stands or falls with its claims.
* `Matcher.argumentsFirst`: all of this for any built-in matcher.
-/

namespace SubsetMatch

theorem oneArgument_eq_ok_iff {matcher : String} {args : List String} {arg : String} :
    oneArgument matcher args = .ok arg ↔ args = [arg] := by
  constructor
  · intro h
    unfold oneArgument at h
    split at h
    · cases h
      rfl
    · cases h
  · rintro rfl
    rfl

theorem kind_of_oneArgument {matcher : String} {args : List String} {e : MatcherError}
    (h : oneArgument matcher args = .error e) : e.kind = .argument := by
  unfold oneArgument at h
  split at h
  · cases h
  · cases h
    rfl

/-- An assertion on values refuses its arguments whatever the value is, or blames the value for
every failure. -/
def ArgumentsFirst (assertion : Value → Verdict) : Prop :=
  (∃ e : MatcherError, e.kind = .argument ∧ ∀ v, assertion v = .error e) ∨
    ∀ v e, assertion v = .error e → e.kind = .mismatch

theorem ArgumentsFirst.refused {assertion : Value → Verdict} {e : MatcherError}
    (hk : e.kind = .argument) (h : ∀ v, assertion v = .error e) : ArgumentsFirst assertion :=
  .inl ⟨e, hk, h⟩

/-! ## Assertions on a value alone -/

theorem kind_of_lengthCheck {bound : LengthBound} {expected : Nat} {v : Value} {e : MatcherError}
    (h : bound.check expected v = .error e) : e.kind = .mismatch := by
  unfold LengthBound.check at h
  split at h
  · split at h
    · cases h
    · cases h
      rfl
  · cases h
    rfl

theorem kind_of_numericCheck {direction : Direction} {raw : String} {bound : Operand} {v : Value}
    {e : MatcherError} (h : direction.check raw bound v = .error e) : e.kind = .mismatch := by
  unfold Direction.check at h
  split at h
  · cases h
    rfl
  · split at h
    · cases h
    · cases h
      rfl

theorem kind_of_compile {engine : Pattern.Engine} {raw : String} {e : MatcherError}
    (h : Pattern.compile engine raw = .error e) : e.kind = .argument := by
  unfold Pattern.compile at h
  split at h
  split at h
  · cases h
    rfl
  · cases h

theorem kind_of_patternCheck {raw : String} {p : Pattern.Compiled} {v : Value} {e : MatcherError}
    (h : Pattern.check raw p v = .error e) : e.kind = .mismatch := by
  unfold Pattern.check at h
  split at h
  · cases h
    rfl
  · split at h
    · cases h
    · cases h
      rfl

theorem argumentsFirst_length (bound : LengthBound) (matcher : String) (args : List String) :
    ArgumentsFirst (bound.evaluate matcher args) := by
  unfold LengthBound.evaluate
  cases ha : oneArgument matcher args with
  | error e => exact .refused (kind_of_oneArgument ha) fun _ => rfl
  | ok raw =>
    cases hr : Decimal.readSize? raw.toList with
    | none => exact .refused (e := .lengthArgument matcher raw) rfl fun v => by simp only [hr]
    | some expected =>
      refine .inr fun v e h => ?_
      simp only [hr] at h
      exact kind_of_lengthCheck h

theorem argumentsFirst_numeric (direction : Direction) (matcher : String) (args : List String) :
    ArgumentsFirst (direction.evaluate matcher args) := by
  unfold Direction.evaluate
  cases ha : oneArgument matcher args with
  | error e => exact .refused (kind_of_oneArgument ha) fun _ => rfl
  | ok arg =>
    cases hr : Operand.ofText? (Text.trimmed arg).toList with
    | none =>
      exact .refused (e := .boundArgument matcher (Text.trimmed arg)) rfl fun v => by simp only [hr]
    | some bound =>
      refine .inr fun v e h => ?_
      simp only [hr] at h
      exact kind_of_numericCheck h

theorem argumentsFirst_typeName (matcher : String) (args : List String) :
    ArgumentsFirst (TypeName.evaluate matcher args) := by
  unfold TypeName.evaluate
  cases ha : oneArgument matcher args with
  | error e => exact .refused (kind_of_oneArgument ha) fun _ => rfl
  | ok raw =>
    cases hr : TypeName.ofText? raw with
    | none => exact .refused (e := .typeArgument raw) rfl fun v => by simp only [hr]
    | some t =>
      refine .inr fun v e h => ?_
      simp only [hr] at h
      split at h
      · cases h
      · cases h
        rfl

theorem argumentsFirst_pattern (engine : Pattern.Engine) (matcher : String)
    (args : List String) : ArgumentsFirst (Pattern.evaluate engine matcher args) := by
  unfold Pattern.evaluate
  cases ha : oneArgument matcher args with
  | error e => exact .refused (kind_of_oneArgument ha) fun _ => rfl
  | ok raw =>
    cases hp : Pattern.compile engine raw with
    | error e => exact .refused (kind_of_compile hp) fun v => by simp only [hp]
    | ok p =>
      refine .inr fun v e h => ?_
      simp only [hp] at h
      exact kind_of_patternCheck h

/-! ## Assertions on tokens -/

namespace Token

variable {E : Primitives}

/-- With the name of a registered token for its argument, a token assertion is the check of that
token. -/
theorem evaluate_of_registered {tokens : TokenTable} {d : Directive} {name : String}
    {registered : RegisteredToken} (hargs : d.args = [name])
    (hregistered : tokens.get? name = some registered) (path : KeyPath) (reach : Nat)
    (actual : Value) (nested : Nested actual reach) :
    evaluate E tokens ⟨d, path, reach⟩ actual nested = check E registered reach actual nested := by
  have ha : oneArgument d.name d.args = .ok name := oneArgument_eq_ok_iff.mpr hargs
  simp only [evaluate, Call.name, Call.args, ha, hregistered]

/-- A token assertion refuses its arguments whatever the value is, or it names a registered
token. -/
theorem evaluate_cases (tokens : TokenTable) (d : Directive) :
    (∃ e : MatcherError, ∀ (E : Primitives) path reach actual nested,
      evaluate E tokens ⟨d, path, reach⟩ actual nested = .error e) ∨
    ∃ name registered, d.args = [name] ∧ tokens.get? name = some registered := by
  cases ha : oneArgument d.name d.args with
  | error e =>
    refine .inl ⟨e, fun E path reach actual nested => ?_⟩
    simp only [evaluate, Call.name, Call.args, ha]
  | ok name =>
    cases hr : tokens.get? name with
    | none =>
      refine .inl ⟨.unknownToken name, fun E path reach actual nested => ?_⟩
      simp only [evaluate, Call.name, Call.args, ha, hr]
    | some registered => exact .inr ⟨name, registered, oneArgument_eq_ok_iff.mp ha, hr⟩

/-- A verified token stands or falls with the comparison of its claims. -/
theorem check_string {registered : RegisteredToken} {reach : Nat} (text : String)
    (ask : Value → Value → Outcome) :
    check E registered reach (.string text) (fun n h _ => ask n h) =
      match verify E.signs E.now registered.toCheck text.toList with
      | .error e => .error (.token e)
      | .ok claims =>
        match ask (.object registered.payload) (.object claims) with
        | .error f => .error (.claims f.kind f.message)
        | .ok () => .ok () := by
  simp only [check]
  split
  · rename_i h
    rw [h]
  · rename_i claims h
    cases ha : ask (.object registered.payload) (.object claims) with
    | error f => simp only [h, ha]
    | ok u => simp only [h, ha]

/-- A token assertion holds iff its value is a token whose claims satisfy the payload. -/
theorem check_eq_ok_iff {registered : RegisteredToken} {reach : Nat} {actual : Value}
    {ask : Value → Value → Outcome} :
    check E registered reach actual (fun n h _ => ask n h) = .ok () ↔
      ∃ text claims, actual = .string text ∧
        verify E.signs E.now registered.toCheck text.toList = .ok claims ∧
        ask (.object registered.payload) (.object claims) = .ok () := by
  cases actual with
  | string text =>
    rw [check_string]
    cases hv : verify E.signs E.now registered.toCheck text.toList with
    | error e => simp [hv]
    | ok claims =>
      cases hn : ask (.object registered.payload) (.object claims) with
      | error f => simp [hv, hn]
      | ok u => simp [hv, hn]
  | _ => simp [check]

/-- What a token assertion blames, other than its value, is what the comparison of the claims
blames. -/
theorem check_eq_error {registered : RegisteredToken} {reach : Nat} {actual : Value}
    {ask : Value → Value → Outcome} {e : MatcherError}
    (h : check E registered reach actual (fun n h _ => ask n h) = .error e) :
    e.kind = .mismatch ∨ ∃ text claims f, actual = .string text ∧
      verify E.signs E.now registered.toCheck text.toList = .ok claims ∧
      ask (.object registered.payload) (.object claims) = .error f ∧
      e = .claims f.kind f.message := by
  cases actual with
  | string text =>
    rw [check_string] at h
    split at h
    · cases h
      exact .inl rfl
    · rename_i claims hv
      split at h
      · rename_i f hn
        cases h
        exact .inr ⟨text, claims, f, rfl, hv, hn, rfl⟩
      · cases h
  | _ =>
    simp only [check] at h
    cases h
    exact .inl rfl

end Token

/-! ## Any built-in assertion -/

/-- A built-in assertion that is no token assertion looks at its value alone, and settles its
arguments first. -/
theorem Matcher.argumentsFirst {m : Matcher} (hb : m.isBuiltIn = true) (ht : m ≠ .token)
    (engine : Pattern.Engine) (d : Directive) :
    ∃ assertion, ArgumentsFirst assertion ∧
      ∀ (E : Primitives) tokens path reach actual nested, E.engine = engine →
        m.evaluate E tokens ⟨d, path, reach⟩ actual nested = assertion actual := by
  cases m with
  | length bound =>
    exact ⟨_, argumentsFirst_length bound d.name d.args, fun _ _ _ _ _ _ _ => rfl⟩
  | numeric direction =>
    exact ⟨_, argumentsFirst_numeric direction d.name d.args, fun _ _ _ _ _ _ _ => rfl⟩
  | typeName => exact ⟨_, argumentsFirst_typeName d.name d.args, fun _ _ _ _ _ _ _ => rfl⟩
  | pattern =>
    refine ⟨_, argumentsFirst_pattern engine d.name d.args, fun E _ _ _ _ _ he => ?_⟩
    rw [← he]
    rfl
  | sharedPattern =>
    refine ⟨_, argumentsFirst_pattern engine d.name d.args, fun E _ _ _ _ _ he => ?_⟩
    rw [← he]
    rfl
  | token => exact absurd rfl ht
  | custom run => simp [Matcher.isBuiltIn] at hb

end SubsetMatch
