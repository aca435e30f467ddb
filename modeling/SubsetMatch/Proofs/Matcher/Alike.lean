import SubsetMatch.Proofs.Matcher.Arguments

/-!
# What assertions can tell apart

A built-in assertion looks into scalars only. Of a list it sees how long it is, and of an object
nothing but that it is one. So it holds of a list or an object as soon as it holds of another one
like it, whatever their elements and members are. Where it does not hold, the wording of its failure
may show the value, but the kind of the failure is the same for values that are alike.

Results:
* `Alike.sameScalar`: values that are alike equal the same leaves.
* `Matcher.holds_of_alike`: a built-in assertion that holds of a value holds of any value like it.
* `Matcher.blame_alike`: it reports the same kind of failure, or none, of values that are alike.
-/

namespace SubsetMatch

/-- Values that no built-in assertion tells apart. -/
inductive Alike : Value → Value → Prop
  | same (v : Value) : Alike v v
  | array {items others : List Value} (hlength : items.length = others.length) :
      Alike (.array items) (.array others)
  | object (members others : Members) : Alike (.object members) (.object others)

variable {v w : Value}

theorem Alike.kind_eq (h : Alike v w) : v.kind = w.kind := by
  cases h <;> rfl

theorem Alike.symm (h : Alike v w) : Alike w v := by
  cases h with
  | same => exact .same _
  | array hlength => exact .array hlength.symm
  | object => exact .object _ _

/-- Values that are alike equal the same leaves. -/
theorem Alike.sameScalar (h : Alike v w) (leaf : Value) :
    leaf.sameScalar v = leaf.sameScalar w := by
  cases h with
  | same => rfl
  | array => cases leaf <;> rfl
  | object => cases leaf <;> rfl

/-! ## What is seen of a value -/

theorem LengthBound.check_alike (h : Alike v w) (bound : LengthBound) (expected : Nat) :
    bound.check expected v = bound.check expected w := by
  cases h with
  | same => rfl
  | array hlength => rw [check, check, hlength]
  | object => rfl

theorem Operand.ofValue?_alike (h : Alike v w) : ofValue? v = ofValue? w := by
  cases h <;> rfl

theorem TypeName.holds_alike (h : Alike v w) (t : TypeName) : t.holds v = t.holds w := by
  cases t with
  | kind k => rw [holds, holds, h.kind_eq]
  | scalar => cases h <;> rfl

theorem Pattern.check_alike (h : Alike v w) (raw : String) (p : Compiled) :
    check raw p v = check raw p w := by
  cases h <;> rfl

/-- A token assertion sees strings, and of anything else the kind. -/
theorem Token.evaluate_alike (h : Alike v w) (E : Primitives) (tokens : TokenTable) (call : Call)
    (ask : Value → Value → Outcome) :
    evaluate E tokens call v (fun n h _ => ask n h) =
      evaluate E tokens call w (fun n h _ => ask n h) := by
  cases h <;> rfl

/-! ## Assertions that hold -/

/-- A bound is held or not; only what is shown of something without a number depends on its
parts. -/
theorem Direction.check_alike (h : Alike v w) {direction : Direction} {raw : String}
    {bound : Operand} (hv : direction.check raw bound v = .ok ()) :
    direction.check raw bound w = .ok () := by
  unfold check at hv ⊢
  rw [← Operand.ofValue?_alike h]
  split at hv
  · cases hv
  · split at hv
    · rename_i hholds
      simp only [if_pos hholds]
    · cases hv

theorem Direction.evaluate_alike (h : Alike v w) {direction : Direction} {matcher : String}
    {args : List String} (hv : direction.evaluate matcher args v = .ok ()) :
    direction.evaluate matcher args w = .ok () := by
  unfold evaluate at hv ⊢
  cases hargs : oneArgument matcher args with
  | error e =>
    simp only [hargs] at hv
    cases hv
  | ok arg =>
    cases hbound : Operand.ofText? (Text.trimmed arg).toList with
    | none =>
      simp only [hargs, hbound] at hv
      cases hv
    | some bound =>
      simp only [hargs, hbound] at hv ⊢
      exact check_alike h hv

/-- **A built-in assertion that holds of a value holds of any value like it.** -/
theorem Matcher.holds_of_alike {m : Matcher} (hb : m.isBuiltIn = true) (h : Alike v w)
    {E : Primitives} {tokens : TokenTable} {call : Call} {ask : Value → Value → Outcome}
    (hv : m.evaluate E tokens call v (fun n h _ => ask n h) = .ok ()) :
    m.evaluate E tokens call w (fun n h _ => ask n h) = .ok () := by
  cases m with
  | length bound =>
    simp only [evaluate, LengthBound.evaluate, LengthBound.check_alike h] at hv ⊢
    exact hv
  | numeric direction =>
    simp only [evaluate] at hv ⊢
    exact Direction.evaluate_alike h hv
  | typeName =>
    simp only [evaluate, TypeName.evaluate, TypeName.holds_alike h, h.kind_eq] at hv ⊢
    exact hv
  | pattern =>
    simp only [evaluate, Pattern.evaluate, Pattern.check_alike h] at hv ⊢
    exact hv
  | sharedPattern =>
    simp only [evaluate, Pattern.evaluate, Pattern.check_alike h] at hv ⊢
    exact hv
  | token =>
    simp only [evaluate, Token.evaluate_alike h] at hv ⊢
    exact hv
  | custom run => simp [isBuiltIn] at hb

/-! ## Assertions that do not hold -/

/-- The kind of failure that a verdict reports, if any. -/
def Verdict.blame : Verdict → Option FailureKind
  | .ok () => none
  | .error e => some e.kind

/-- An assertion that settles its arguments first reports the same kind of failure of two values, or
none, if it holds of both or of neither. -/
theorem ArgumentsFirst.blame_eq {assertion : Value → Verdict} (h : ArgumentsFirst assertion)
    (hok : assertion v = .ok () ↔ assertion w = .ok ()) :
    Verdict.blame (assertion v) = Verdict.blame (assertion w) := by
  rcases h with ⟨e, -, hrefused⟩ | hmismatch
  · rw [hrefused v, hrefused w]
  · cases hv : assertion v with
    | ok u => rw [hok.mp hv]
    | error e =>
      cases hw : assertion w with
      | ok u =>
        rw [hok.mpr hw] at hv
        cases hv
      | error e' => rw [Verdict.blame, Verdict.blame, hmismatch v e hv, hmismatch w e' hw]

/-- **A built-in assertion reports the same kind of failure** of values that are alike, or none. -/
theorem Matcher.blame_alike {m : Matcher} (hb : m.isBuiltIn = true) (h : Alike v w) (E : Primitives)
    (tokens : TokenTable) (call : Call) (ask : Value → Value → Outcome) :
    Verdict.blame (m.evaluate E tokens call v fun n h _ => ask n h) =
      Verdict.blame (m.evaluate E tokens call w fun n h _ => ask n h) := by
  by_cases ht : m = .token
  · subst ht
    simp only [evaluate, Token.evaluate_alike h]
  · obtain ⟨d, path, reach⟩ := call
    obtain ⟨assertion, hfirst, heval⟩ := argumentsFirst hb ht E.engine d
    have hv := heval E tokens path reach v (fun n h _ => ask n h) rfl
    have hw := heval E tokens path reach w (fun n h _ => ask n h) rfl
    rw [hv, hw]
    refine hfirst.blame_eq ⟨fun hok => ?_, fun hok => ?_⟩
    · exact hw ▸ holds_of_alike hb h (hv.trans hok)
    · exact hv ▸ holds_of_alike hb h.symm (hw.trans hok)

end SubsetMatch
