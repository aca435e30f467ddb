import SubsetMatch.Matcher.Error
import SubsetMatch.NameTable

/-!
# Registered tokens (§10.7)

A token is registered under a name with the payload that its claims must satisfy, the secret that
it must be signed with and the algorithms that it may be signed with. The program's `add_token`,
`add_token_with_algorithms`, `remove_token` and `lookup` are `add`, `addWith`, `NameTable.erase` and
`NameTable.get?`.

Results:
* `addWith_isOk_iff`: a registration succeeds exactly when it names algorithms and all are known.
* `get?_add`: without a list of algorithms all of them are allowed.
-/

namespace SubsetMatch

/-- A registered token: what it is verified with and the payload that its claims must satisfy. -/
structure RegisteredToken extends Token.Check where
  payload : Members

/-- The registered tokens of a comparator. -/
abbrev TokenTable := NameTable RegisteredToken

namespace TokenTable

/-- The algorithms of some names, each once, in order of first occurrence: the loop of
`add_token_with_algorithms`. -/
def parseAlgorithms (known : List Algorithm) : List String → Except MatcherError (List Algorithm)
  | [] => .ok known
  | name :: names =>
    match Algorithm.ofName? name with
    | none => .error (.unknownAlgorithm name)
    | some a => parseAlgorithms (if known.contains a then known else known ++ [a]) names

/-- A token registered for any algorithm. -/
def add (t : TokenTable) (name : String) (payload : Members) (secret : String) : TokenTable :=
  t.insert name ⟨⟨secret, Algorithm.all⟩, payload⟩

/-- A token registered for some algorithms, at least one. -/
def addWith (t : TokenTable) (name : String) (payload : Members) (secret : String)
    (algorithms : List String) : Except MatcherError TokenTable :=
  if algorithms.isEmpty then .error (.noAlgorithm name)
  else
    match parseAlgorithms [] algorithms with
    | .error e => .error e
    | .ok parsed => .ok (t.insert name ⟨⟨secret, parsed⟩, payload⟩)

theorem parseAlgorithms_isOk_iff (known : List Algorithm) (names : List String) :
    (∃ parsed, parseAlgorithms known names = .ok parsed) ↔
      ∀ name ∈ names, (Algorithm.ofName? name).isSome := by
  induction names generalizing known with
  | nil => simp [parseAlgorithms]
  | cons name names ih =>
    rw [parseAlgorithms]
    cases h : Algorithm.ofName? name with
    | none => simp [h]
    | some a => simp [ih, h]

theorem get?_add (t : TokenTable) (name key : String) (payload : Members) (secret : String) :
    (t.add name payload secret).get? key =
      if name = key then some ⟨⟨secret, Algorithm.all⟩, payload⟩ else t.get? key :=
  NameTable.get?_insert ..

theorem addWith_isOk_iff (t : TokenTable) (name : String) (payload : Members) (secret : String)
    (algorithms : List String) :
    (∃ t', t.addWith name payload secret algorithms = .ok t') ↔
      algorithms ≠ [] ∧ ∀ a ∈ algorithms, (Algorithm.ofName? a).isSome := by
  rw [← parseAlgorithms_isOk_iff []]
  unfold addWith
  by_cases h : algorithms = []
  · simp [h]
  · have hne : algorithms.isEmpty = false := by simpa using h
    rw [hne]
    cases hp : parseAlgorithms [] algorithms <;> simp [h]

end TokenTable

end SubsetMatch
