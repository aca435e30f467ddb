import SubsetMatch.Matcher.Basic

/-!
# Registries of matchers (§10.5)

A registry binds the names that directives use to matchers. The program's `register`, `remove`,
`contains`, `names`, `len` and `is_empty` are the operations of `NameTable`; `resolve` and
`register_defaults`, here `withDefaults`, are below.

Results:
* `get?_addAll_of_not_mem`: adding entries leaves all other names alone.
* `fst_invoke`: what a shared pattern matcher has cached changes no verdict.
-/

namespace SubsetMatch

/-- Matchers by name. -/
abbrev Registry := NameTable Matcher

namespace Registry

/-- The names and matchers that are registered by default. -/
def defaultEntries : List (String × Matcher) :=
  [("arrayLength", .length .exact), ("arrayMinLength", .length .atLeast),
    ("arrayMaxLength", .length .atMost), ("variableType", .typeName), ("regExp", .pattern),
    ("gt", .numeric .greater), ("lt", .numeric .less), ("jwt", .token)]

/-- The default names, in the order in which they are declared (`DEFAULT_FUNCTIONS`). -/
def defaultNames : List String :=
  defaultEntries.map Prod.fst

/-- A registry with some entries added in order. -/
def addAll (r : Registry) (entries : List (String × Matcher)) : Registry :=
  entries.foldl (fun r e => r.insert e.1 e.2) r

/-- A registry with the default matchers added (`register_defaults`). -/
def withDefaults (r : Registry) : Registry :=
  r.addAll defaultEntries

/-- The registry of the default matchers. -/
def defaults : Registry :=
  withDefaults NameTable.empty

/-- The matcher of a directive's name. -/
def resolve (r : Registry) (name : String) : Except MatcherError Matcher :=
  match r.get? name with
  | none => .error (.unknownFunction name)
  | some m => .ok m

/-- A matcher's verdict, with the cache that shared pattern matchers look into, and the cache
afterwards. -/
def evaluateCached (E : Primitives) (tokens : TokenTable) (cache : Pattern.Cache) (m : Matcher)
    (call : Call) (actual : Value) (nested : Nested actual call.reach) : Verdict × Pattern.Cache :=
  match m with
  | .sharedPattern => cache.evaluate E.engine call.name call.args actual
  | m => (m.evaluate E tokens call actual nested, cache)

/-- The verdict of the matcher that a call names, and the cache afterwards. -/
def invoke (E : Primitives) (tokens : TokenTable) (r : Registry) (cache : Pattern.Cache)
    (call : Call) (actual : Value) (nested : Nested actual call.reach) : Verdict × Pattern.Cache :=
  match r.resolve call.name with
  | .error e => (.error e, cache)
  | .ok m => evaluateCached E tokens cache m call actual nested

theorem evaluateCached_faithful {E : Primitives} {tokens : TokenTable} {cache : Pattern.Cache}
    (h : cache.Faithful E.engine) (m : Matcher) (call : Call) (actual : Value)
    (nested : Nested actual call.reach) :
    (evaluateCached E tokens cache m call actual nested).1 = m.evaluate E tokens call actual nested ∧
      (evaluateCached E tokens cache m call actual nested).2.Faithful E.engine := by
  unfold evaluateCached
  split
  · exact h.evaluate ..
  · exact ⟨rfl, h⟩

theorem fst_invoke {E : Primitives} {tokens : TokenTable} {r : Registry} {cache : Pattern.Cache}
    (h : cache.Faithful E.engine) {call : Call} {m : Matcher} (hm : r.resolve call.name = .ok m)
    (actual : Value) (nested : Nested actual call.reach) :
    (r.invoke E tokens cache call actual nested).1 = m.evaluate E tokens call actual nested := by
  rw [invoke, hm]
  exact (evaluateCached_faithful h ..).1

theorem get?_addAll_of_not_mem (r : Registry) (entries : List (String × Matcher)) (name : String)
    (h : ∀ e ∈ entries, e.1 ≠ name) : (r.addAll entries).get? name = r.get? name := by
  induction entries generalizing r with
  | nil => rfl
  | cons e entries ih =>
    have hrest : ∀ x ∈ entries, x.1 ≠ name := fun x hx => h x (List.mem_cons_of_mem _ hx)
    have hne : e.1 ≠ name := h e (List.mem_cons_self ..)
    calc (addAll (r.insert e.1 e.2) entries).get? name
        = (r.insert e.1 e.2).get? name := ih _ hrest
      _ = r.get? name := by rw [NameTable.get?_insert, if_neg hne]

end Registry

end SubsetMatch
