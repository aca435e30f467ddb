import SubsetMatch.Comparator
import SubsetMatch.Text.Blank

/-!
# Configurations (§10.10)

A configuration lists tokens to register and default functions to leave out. It is checked before a
comparator is built from it, and the first fault is reported. The loops of the program's `validate`
are `checkTokens` and `checkFunctions`, those of its `build` are `registerAll` and the removal of
names.

Results:
* `build_isOk_iff`: a configuration can be built exactly when it is valid.
-/

namespace SubsetMatch

open Text

/-- A token to register. -/
structure TokenConfig where
  name : String
  secret : String
  payload : Value
  algorithms : Option (List String)

/-- Tokens to register and functions to leave out. -/
structure Config where
  tokens : List TokenConfig
  disabledFunctions : List String

namespace Config

/-- The configuration of a text without content. -/
def empty : Config :=
  ⟨[], []⟩

/-- What is wrong with a configuration. -/
inductive Fault
  | emptyName
  | duplicateName (name : String)
  | payload (name : String) (kind : Kind)
  | notObject (name : String)
  | noAlgorithm (name : String)
  | algorithm (name : String) (e : MatcherError)
  | unknownFunction (name : String)
deriving DecidableEq, Repr

/-- The wording of a fault. -/
def Fault.message : Fault → String
  | emptyName => "Token names must not be empty"
  | duplicateName name => s!"Duplicate token name: '{name}'"
  | payload name kind => s!"Payload of token '{name}' must be an object, got {kind.name}"
  | notObject name => s!"Payload of token '{name}' must be an object"
  | noAlgorithm name => s!"Token '{name}' must allow at least one algorithm"
  | algorithm name e => s!"Token '{name}': {e.message}"
  | unknownFunction name =>
    s!"Unknown function in disabled_functions: '{name}'. Known functions: " ++
      ", ".intercalate Registry.defaultNames

/-- The first name in a list that is no algorithm. -/
def checkAlgorithms (name : String) : List String → Except Fault Unit
  | [] => .ok ()
  | text :: rest =>
    match Algorithm.ofName? text with
    | none => .error (.algorithm name (.unknownAlgorithm text))
    | some _ => checkAlgorithms name rest

/-- A token on its own: its name, its payload and its algorithms. -/
def checkToken (known : List String) (t : TokenConfig) : Except Fault Unit :=
  if allBlank t.name.toList then .error .emptyName
  else if known.contains t.name then .error (.duplicateName t.name)
  else
    match t.payload with
    | .object _ =>
      match t.algorithms with
      | none => .ok ()
      | some [] => .error (.noAlgorithm t.name)
      | some names => checkAlgorithms t.name names
    | v => .error (.payload t.name v.kind)

/-- The tokens in order, behind those with known names. -/
def checkTokens (known : List String) : List TokenConfig → Except Fault Unit
  | [] => .ok ()
  | t :: rest =>
    match checkToken known t with
    | .error e => .error e
    | .ok () => checkTokens (t.name :: known) rest

/-- The functions in order. -/
def checkFunctions : List String → Except Fault Unit
  | [] => .ok ()
  | name :: rest =>
    if Registry.defaultNames.contains name then checkFunctions rest
    else .error (.unknownFunction name)

/-- The first fault of a configuration, if it has any. -/
def validate (c : Config) : Except Fault Unit :=
  match checkTokens [] c.tokens with
  | .error e => .error e
  | .ok () => checkFunctions c.disabledFunctions

/-- A token registered with a comparator. Its payload is looked at once more, which finds nothing
new in a configuration that is valid. -/
def register (c : Comparator) (t : TokenConfig) : Except Fault Comparator :=
  match t.payload with
  | .object payload =>
    match t.algorithms with
    | none => .ok (c.addToken t.name payload t.secret)
    | some names =>
      match c.addTokenWith t.name payload t.secret names with
      | .error e => .error (.algorithm t.name e)
      | .ok c => .ok c
  | _ => .error (.notObject t.name)

/-- Tokens registered in order. -/
def registerAll (c : Comparator) : List TokenConfig → Except Fault Comparator
  | [] => .ok c
  | t :: rest =>
    match register c t with
    | .error e => .error e
    | .ok c => registerAll c rest

/-- The default comparator adjusted by a configuration. -/
def build (c : Config) : Except Fault Comparator :=
  match c.validate with
  | .error e => .error e
  | .ok () =>
    registerAll (c.disabledFunctions.foldl Comparator.removeFunction Comparator.withDefaults) c.tokens

/-- A token as a document. -/
def tokenValue (t : TokenConfig) : Value :=
  .object
    ([("name", .string t.name), ("secret", .string t.secret), ("payload", t.payload)] ++
      match t.algorithms with
      | none => []
      | some names => [("algorithms", .array (names.map .string))])

/-- The configuration as a document. -/
def toValue (c : Config) : Value :=
  .object [("tokens", .array (c.tokens.map tokenValue)),
    ("disabled_functions", .array (c.disabledFunctions.map .string))]

theorem checkAlgorithms_eq_ok {name : String} {names : List String}
    (h : checkAlgorithms name names = .ok ()) :
    ∀ a ∈ names, (Algorithm.ofName? a).isSome := by
  induction names with
  | nil => simp
  | cons a names ih =>
    rw [checkAlgorithms] at h
    cases ha : Algorithm.ofName? a with
    | none => simp [ha] at h
    | some x =>
      simp only [ha] at h
      intro b hb
      rcases List.mem_cons.1 hb with rfl | hb
      · simp [ha]
      · exact ih h b hb

/-- A token that is right on its own can be registered with any comparator. -/
theorem register_isOk {known : List String} {t : TokenConfig} (h : checkToken known t = .ok ())
    (c : Comparator) : ∃ c', register c t = .ok c' := by
  unfold checkToken at h
  split at h
  · simp at h
  · split at h
    · simp at h
    · split at h
      · rename_i payload hp
        unfold register
        rw [hp]
        split at h
        · rename_i ha
          rw [ha]
          exact ⟨_, rfl⟩
        · simp at h
        · rename_i names hne ha
          have hall := checkAlgorithms_eq_ok h
          obtain ⟨t', ht'⟩ :=
            (TokenTable.addWith_isOk_iff c.tokens t.name payload t.secret names).2
              ⟨fun he => hne he, hall⟩
          simp only [ha, Comparator.addTokenWith, ht']
          exact ⟨_, rfl⟩
      · simp at h

theorem registerAll_isOk {known : List String} {ts : List TokenConfig}
    (h : checkTokens known ts = .ok ()) (c : Comparator) : ∃ c', registerAll c ts = .ok c' := by
  induction ts generalizing known c with
  | nil => exact ⟨c, rfl⟩
  | cons t ts ih =>
    rw [checkTokens] at h
    cases ht : checkToken known t with
    | error e => simp [ht] at h
    | ok u =>
      simp only [ht] at h
      obtain ⟨c', hc'⟩ := register_isOk ht c
      rw [registerAll, hc']
      exact ih h c'

/-- A configuration can be built exactly when it is valid. -/
theorem build_isOk_iff (c : Config) : (∃ r, c.build = .ok r) ↔ c.validate = .ok () := by
  constructor
  · rintro ⟨r, h⟩
    unfold build at h
    cases hv : c.validate with
    | error e => simp [hv] at h
    | ok u => rfl
  · intro h
    unfold build
    rw [h]
    unfold validate at h
    cases ht : checkTokens [] c.tokens with
    | error e => simp [ht] at h
    | ok u => exact registerAll_isOk ht _

end Config

end SubsetMatch
