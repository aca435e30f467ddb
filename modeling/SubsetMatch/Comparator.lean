import SubsetMatch.Directive.Scan
import SubsetMatch.KeySelector
import SubsetMatch.Registry

/-!
# Comparison of a needle with a haystack (§10.8)

The walk follows the needle. A leaf must equal the leaf of the haystack; a directive is handed to
its matcher; every member of an object must be found in the haystack's object, which may have
more; a list must have the same length and match element by element. The first failure ends the
walk. A matcher may compare documents of its own on the way, always with less text in the haystack
or a smaller needle, which is why the walk ends.

The program's `node` is `node` with its two loops, `members` and `items`. Its `scalar`, `list_at`
and `member` are `leaf`, `listAt` and a turn of `members`, of which `address` is the part in front
of the call of `node`. Its `apply` is the case of a directive in `node`. A failure keeps what its
message is made from; the texts of `mismatch`, `type_mismatch`, `missing_key` and `not_a_list` are
those of `Failure.message`. Here and in the other modules, § is a section of the specification.

Results:
* `node_string`, `node_object`, `node_array`, `node_leaf`: the walk, one equation for each shape of
  needle.
* `textLength_le_of_address`: a member's target holds no more text than the object it is found in.
-/

namespace SubsetMatch

/-- The functions that directives name and the tokens that they refer to: the program's `registry`
and the table inside its `jwt`. The matcher `token` in the registry means that one `jwt`, so
`Matcher.evaluate` is handed the table beside the matcher. Tokens added through a shared handle of
the matcher are tokens of the comparator. Other token matchers, with tables of their own, are not
modelled. -/
structure Comparator where
  functions : Registry
  tokens : TokenTable

/-- A node of the haystack and its place. -/
structure Target where
  value : Value
  path : KeyPath

/-- The list stored under the base of a bracketed key (`list_at`). -/
def listAt (actual : Members) (base : String) (path : KeyPath) :
    Except Failure (List Value) :=
  match Value.get? actual base with
  | none => .error ⟨path, .missingKey base⟩
  | some (.array items) => .ok items
  | some _ => .error ⟨path.key base, .notList path base⟩

/-- What a bracketed key addresses: the match on `parse_key` in `member`. -/
def addressList (actual : Members) (path : KeyPath) : KeySelector → Except Failure Target
  | .plain key => .error ⟨path, .missingKey key⟩
  | .wholeList base =>
    match listAt actual base path with
    | .error f => .error f
    | .ok items => .ok ⟨.array items, path.key base⟩
  | .element base position =>
    match listAt actual base path with
    | .error f => .error f
    | .ok items =>
      match items[position]? with
      | none => .error ⟨path.key base, .noElement position⟩
      | some item => .ok ⟨item, (path.key base).index position⟩

/-- The node of an object that a needle key addresses, as `member` finds it. A literal key goes
first. -/
def address (actual : Members) (key : String) (path : KeyPath) : Except Failure Target :=
  match Value.get? actual key with
  | some v => .ok ⟨v, path.key key⟩
  | none => addressList actual path (KeySelector.ofKey key)

theorem textLength_le_of_listAt {actual : Members} {base : String} {path : KeyPath}
    {items : List Value} (h : listAt actual base path = .ok items) :
    Value.textLengthItems items ≤ Value.textLengthMembers actual := by
  unfold listAt at h
  split at h
  · simp at h
  · rename_i hget
    simp only [Except.ok.injEq] at h
    subst h
    have := Value.textLength_le_of_get? hget
    simpa [Value.textLength] using this
  · simp at h

theorem textLength_le_of_address {actual : Members} {key : String} {path : KeyPath} {t : Target}
    (h : address actual key path = .ok t) :
    t.value.textLength ≤ Value.textLengthMembers actual := by
  unfold address at h
  split at h
  · rename_i hget
    simp only [Except.ok.injEq] at h
    subst h
    exact Value.textLength_le_of_get? hget
  · unfold addressList at h
    split at h
    · simp at h
    · split at h
      · simp at h
      · rename_i hl
        simp only [Except.ok.injEq] at h
        subst h
        have := textLength_le_of_listAt hl
        simpa [Value.textLength] using this
    · split at h
      · simp at h
      · rename_i hl
        split at h
        · simp at h
        · rename_i hi
          simp only [Except.ok.injEq] at h
          subst h
          have h1 := textLength_le_of_listAt hl
          have h2 := Value.textLength_le_of_mem_items (List.mem_of_getElem? hi)
          simp only
          omega

namespace Comparator

variable (E : Primitives) (c : Comparator)

/-- A leaf of the needle against a node (`scalar`). -/
def leaf (needle haystack : Value) (path : KeyPath) : Outcome :=
  if needle.sameScalar haystack then .ok () else .error ⟨path, .value needle haystack⟩

theorem lex_of_le_of_lt {a a' b b' : Nat} (h1 : a' ≤ a) (h2 : b' < b) :
    Prod.Lex (· < ·) (· < ·) (a', b') (a, b) := by
  rcases Nat.lt_or_eq_of_le h1 with h | h
  · exact Prod.Lex.left _ _ h
  · subst h
    exact Prod.Lex.right _ h2

theorem lex_of_smaller {needle haystack actual : Value} {reach size : Nat}
    (h : Smaller needle haystack actual reach) (hs : reach < size) :
    Prod.Lex (· < ·) (· < ·) (haystack.textLength, needle.size) (actual.textLength, size) := by
  rcases h with h | ⟨h1, h2⟩
  · exact Prod.Lex.left _ _ h
  · exact lex_of_le_of_lt h1 (Nat.lt_of_le_of_lt h2 hs)

mutual

/-- The walk over a node: the first failure, if any. -/
def node (needle haystack : Value) (path : KeyPath) : Outcome :=
  match needle with
  | .string text =>
    match Directive.parse text with
    | .error e => .error ⟨path, .malformed e⟩
    | .ok none => leaf (.string text) haystack path
    | .ok (some d) =>
      match c.functions.resolve d.name with
      | .error e => .error ⟨path, .unknown e⟩
      | .ok m =>
        match m.evaluate E c.tokens ⟨d, path, text.length⟩ haystack
            (fun n h _ => node n h .root) with
        | .error e => .error ⟨path, .assertion d e⟩
        | .ok () => .ok ()
  | .object expected =>
    match haystack with
    | .object actual => members expected actual path
    | v => .error ⟨path, .container .object v.kind⟩
  | .array expected =>
    match haystack with
    | .array actual =>
      if expected.length = actual.length then items expected actual 0 path
      else .error ⟨path, .length expected.length actual.length⟩
    | v => .error ⟨path, .container .array v.kind⟩
  | .null => leaf .null haystack path
  | .bool b => leaf (.bool b) haystack path
  | .number n => leaf (.number n) haystack path
termination_by (haystack.textLength, needle.size)
decreasing_by
  · exact lex_of_smaller (by assumption) (by simp [Value.size])
  · exact lex_of_le_of_lt (by simp [Value.textLength]) (by simp [Value.size])
  · exact lex_of_le_of_lt (by simp [Value.textLength]) (by simp [Value.size])

/-- The walk over the members of an object: `member` for one key after the other. -/
def members (expected : List (String × Value)) (actual : Members) (path : KeyPath) : Outcome :=
  match expected with
  | [] => .ok ()
  | (key, needle) :: rest =>
    match _h : address actual key path with
    | .error f => .error f
    | .ok t =>
      match node needle t.value t.path with
      | .error f => .error f
      | .ok () => members rest actual path
termination_by (Value.textLengthMembers actual, Value.sizeMembers expected)
decreasing_by
  · exact lex_of_le_of_lt (textLength_le_of_address _h) (by simp only [Value.sizeMembers]; omega)
  · exact lex_of_le_of_lt (Nat.le_refl _) (by simp only [Value.sizeMembers]; omega)

/-- The walk over the elements of lists, the first of which stands at a position. -/
def items (expected actual : List Value) (position : Nat) (path : KeyPath) : Outcome :=
  match expected, actual with
  | needle :: expected, haystack :: actual =>
    match node needle haystack (path.index position) with
    | .error f => .error f
    | .ok () => items expected actual (position + 1) path
  | _, _ => .ok ()
termination_by (Value.textLengthItems actual, Value.sizeItems expected)
decreasing_by
  · exact lex_of_le_of_lt (by simp only [Value.textLengthItems]; omega)
      (by simp only [Value.sizeItems]; omega)
  · exact lex_of_le_of_lt (by simp only [Value.textLengthItems]; omega)
      (by simp only [Value.sizeItems]; omega)

end

/-- A string is a directive or a leaf. -/
theorem node_string (text : String) (haystack : Value) (path : KeyPath) :
    node E c (.string text) haystack path =
      match Directive.parse text with
      | .error e => .error ⟨path, .malformed e⟩
      | .ok none => leaf (.string text) haystack path
      | .ok (some d) =>
        match c.functions.resolve d.name with
        | .error e => .error ⟨path, .unknown e⟩
        | .ok m =>
          match m.evaluate E c.tokens ⟨d, path, text.length⟩ haystack
              (fun n h _ => node E c n h .root) with
          | .error e => .error ⟨path, .assertion d e⟩
          | .ok () => .ok () := by
  rw [node]

/-- An object is looked for member by member. -/
theorem node_object (expected : Members) (haystack : Value) (path : KeyPath) :
    node E c (.object expected) haystack path =
      match haystack with
      | .object actual => members E c expected actual path
      | v => .error ⟨path, .container .object v.kind⟩ := by
  cases haystack <;> simp [node]

/-- A list is compared element by element with one of its length. -/
theorem node_array (expected : List Value) (haystack : Value) (path : KeyPath) :
    node E c (.array expected) haystack path =
      match haystack with
      | .array actual =>
        if expected.length = actual.length then items E c expected actual 0 path
        else .error ⟨path, .length expected.length actual.length⟩
      | v => .error ⟨path, .container .array v.kind⟩ := by
  cases haystack <;> simp [node]

/-- Null, booleans and numbers are leaves. -/
theorem node_leaf {needle : Value} (hstring : needle.kind ≠ .string)
    (harray : needle.kind ≠ .array) (hobject : needle.kind ≠ .object) (haystack : Value)
    (path : KeyPath) : node E c needle haystack path = leaf needle haystack path := by
  cases needle with
  | null => rw [node]
  | bool b => rw [node]
  | number n => rw [node]
  | string s => exact absurd rfl hstring
  | array vs => exact absurd rfl harray
  | object ms => exact absurd rfl hobject

theorem members_nil (actual : Members) (path : KeyPath) : members E c [] actual path = .ok () := by
  rw [members]

/-- The member that fails first decides. -/
theorem members_cons (key : String) (needle : Value) (rest actual : Members) (path : KeyPath) :
    members E c ((key, needle) :: rest) actual path =
      match address actual key path with
      | .error f => .error f
      | .ok t =>
        match node E c needle t.value t.path with
        | .error f => .error f
        | .ok () => members E c rest actual path := by
  rw [members]
  split <;> simp_all

/-- The element that fails first decides. -/
theorem items_cons (needle haystack : Value) (expected actual : List Value) (position : Nat)
    (path : KeyPath) :
    items E c (needle :: expected) (haystack :: actual) position path =
      match node E c needle haystack (path.index position) with
      | .error f => .error f
      | .ok () => items E c expected actual (position + 1) path := by
  rw [items]

/-- The comparison of two documents: the first failure, if any. -/
def compare (needle haystack : Value) : Outcome :=
  node E c needle haystack .root

/-- A comparator without functions and tokens (`new`). -/
def empty : Comparator :=
  ⟨NameTable.empty, NameTable.empty⟩

/-- A comparator with the default functions (`with_default_matchers`). -/
def withDefaults : Comparator :=
  ⟨Registry.defaults, NameTable.empty⟩

/-- A function registered under a name, instead of any earlier one. -/
def addFunction (name : String) (m : Matcher) : Comparator :=
  { c with functions := c.functions.insert name m }

/-- A name that no directive can use any more. -/
def removeFunction (name : String) : Comparator :=
  { c with functions := c.functions.erase name }

/-- A token registered for any algorithm. -/
def addToken (name : String) (payload : Members) (secret : String) : Comparator :=
  { c with tokens := c.tokens.add name payload secret }

/-- A token registered for some algorithms, at least one (`add_token_with_algorithms`). -/
def addTokenWith (name : String) (payload : Members) (secret : String) (algorithms : List String) :
    Except MatcherError Comparator :=
  match c.tokens.addWith name payload secret algorithms with
  | .error e => .error e
  | .ok tokens => .ok { c with tokens := tokens }

/-- A token no longer registered. -/
def removeToken (name : String) : Comparator :=
  { c with tokens := c.tokens.erase name }

end Comparator

end SubsetMatch
