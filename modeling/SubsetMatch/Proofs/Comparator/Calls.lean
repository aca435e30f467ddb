import SubsetMatch.Proofs.Comparator.Walk
import SubsetMatch.Proofs.Json.Document

/-!
# What a comparison asks for

A visit is a needle beside a node of the haystack. It asks for other visits in two ways. It
descends to a part of its needle and the part of the haystack addressed by it. Or, where a token
directive stands, it enters the payload registered for the token: a needle of any size, which may
hold the very directive that led there.

What never grows is the text of the haystack, and it shrinks on every entry, since the claims of a
token are decoded from a part of it. So the visits that one visit can lead to are bounded in depth,
whatever the registered payloads say of each other.

Results:
* `Descends.textLength_le`, `Descends.size_lt`: a descent takes a smaller needle and no more text.
* `Enters.textLength_lt`: an entry takes less text.
* `Calls.bound_lt`, `calls_wellFounded`: no visit asks for others without end.
-/

namespace SubsetMatch

/-- The size of the largest payload among some tokens. -/
def largestPayload : List (String × RegisteredToken) → Nat
  | [] => 0
  | e :: rest => max (Value.object e.2.payload).size (largestPayload rest)

theorem size_le_largestPayload {name : String} {registered : RegisteredToken}
    {entries : List (String × RegisteredToken)} (h : (name, registered) ∈ entries) :
    (Value.object registered.payload).size ≤ largestPayload entries := by
  induction entries with
  | nil => simp at h
  | cons e rest ih =>
    rw [largestPayload]
    rcases List.mem_cons.mp h with rfl | h
    · exact Nat.le_max_left ..
    · exact Nat.le_trans (ih h) (Nat.le_max_right ..)

/-! ## Visits -/

/-- A needle beside a node of the haystack, and the place of that node. -/
structure Visit where
  needle : Value
  haystack : Value
  path : KeyPath

/-- What a visit answers. -/
def Visit.outcome (E : Primitives) (c : Comparator) (v : Visit) : Outcome :=
  c.node E v.needle v.haystack v.path

/-- A visit of a part of the needle. -/
inductive Descends : Visit → Visit → Prop
  /-- a member of an object and what its key addresses -/
  | member {expected actual : Members} {path : KeyPath} {m : String × Value} {t : Target}
      (hmem : m ∈ expected) (haddress : address actual m.1 path = .ok t) :
      Descends ⟨.object expected, .object actual, path⟩ ⟨m.2, t.value, t.path⟩
  /-- an element of a list and the element at its position -/
  | element {expected actual : List Value} {path : KeyPath} {i : Nat} {needle haystack : Value}
      (hlength : expected.length = actual.length) (hneedle : expected[i]? = some needle)
      (hhaystack : actual[i]? = some haystack) :
      Descends ⟨.array expected, .array actual, path⟩ ⟨needle, haystack, path.index i⟩

/-- The visit of a registered payload for the claims of a token. -/
inductive Enters (E : Primitives) (c : Comparator) : Visit → Visit → Prop
  | claims {text token name : String} {path : KeyPath} {d : Directive}
      {registered : RegisteredToken} {claims : Members}
      (hparse : Directive.parse text = .ok (some d))
      (hresolve : c.functions.resolve d.name = .ok .token) (hargs : d.args = [name])
      (hregistered : c.tokens.get? name = some registered)
      (hverify : Token.verify E.signs E.now registered.toCheck token.toList = .ok claims) :
      Enters E c ⟨.string text, .string token, path⟩
        ⟨.object registered.payload, .object claims, .root⟩

/-- A visit that another one asks for. -/
def Calls (E : Primitives) (c : Comparator) (v w : Visit) : Prop :=
  Descends v w ∨ Enters E c v w

/-- All functions of a comparator are built in. -/
def Comparator.IsBuiltIn (c : Comparator) : Prop :=
  ∀ name m, c.functions.get? name = some m → m.isBuiltIn = true

theorem Registry.get?_of_resolve {r : Registry} {name : String} {m : Matcher}
    (h : r.resolve name = .ok m) : r.get? name = some m := by
  unfold Registry.resolve at h
  split at h
  · cases h
  · rename_i hget
    cases h
    exact hget

theorem Comparator.IsBuiltIn.of_resolve {c : Comparator} (hb : c.IsBuiltIn) {name : String}
    {m : Matcher} (h : c.functions.resolve name = .ok m) : m.isBuiltIn = true :=
  hb name m (Registry.get?_of_resolve h)

theorem Comparator.isBuiltIn_of_entries {c : Comparator}
    (h : ∀ e ∈ c.functions.entries, e.2.isBuiltIn = true) : c.IsBuiltIn :=
  fun _ _ hget => h _ (Entries.mem_of_find? hget)

/-- The default functions are built in. -/
theorem Comparator.isBuiltIn_withDefaults : withDefaults.IsBuiltIn :=
  isBuiltIn_of_entries (by decide)

/-- Registering a token changes no function. -/
theorem Comparator.IsBuiltIn.addToken {c : Comparator} (hb : c.IsBuiltIn) (name : String)
    (payload : Members) (secret : String) : (c.addToken name payload secret).IsBuiltIn :=
  hb

/-! ## What decreases -/

variable {E : Primitives} {c : Comparator} {v w : Visit}

theorem Descends.textLength_le (h : Descends v w) :
    w.haystack.textLength ≤ v.haystack.textLength := by
  cases h with
  | member hmem haddress =>
    rw [Value.textLength]
    exact textLength_le_of_address haddress
  | element hlength hneedle hhaystack =>
    rw [Value.textLength]
    exact Value.textLength_le_of_mem_items (List.mem_of_getElem? hhaystack)

theorem Descends.size_lt (h : Descends v w) : w.needle.size < v.needle.size := by
  cases h with
  | member hmem haddress =>
    rw [Value.size]
    exact Nat.lt_succ_of_lt (Value.size_lt_of_mem_members hmem)
  | element hlength hneedle hhaystack =>
    rw [Value.size]
    exact Nat.lt_succ_of_lt (Value.size_lt_of_mem_items (List.mem_of_getElem? hneedle))

/-- **An entry takes less text**: the claims are decoded from one part of the token. -/
theorem Enters.textLength_lt (h : Enters E c v w) :
    w.haystack.textLength < v.haystack.textLength := by
  cases h with
  | claims hparse hresolve hargs hregistered hverify =>
    rw [Value.textLength, Value.textLength, ← String.length_toList]
    exact Token.textLength_lt_of_verify hverify

theorem Enters.size_le (h : Enters E c v w) : w.needle.size ≤ largestPayload c.tokens.entries := by
  cases h with
  | claims hparse hresolve hargs hregistered hverify =>
    exact size_le_largestPayload (Entries.mem_of_find? hregistered)

/-- How deep the visits that a visit leads to can be nested: the needle itself, and a payload for
each character that an entry can take away. -/
def Visit.bound (c : Comparator) (v : Visit) : Nat :=
  v.needle.size + v.haystack.textLength * (largestPayload c.tokens.entries + 1)

/-- **Every call lowers the bound**, at whatever time it is made. -/
theorem Calls.bound_lt (h : Calls E c v w) : w.bound c < v.bound c := by
  unfold Visit.bound
  rcases h with h | h
  · have htext := Nat.mul_le_mul_right (largestPayload c.tokens.entries + 1) h.textLength_le
    have hsize := h.size_lt
    omega
  · have hsize := h.size_le
    have hpos := v.needle.size_pos
    have htext := Nat.mul_le_mul_right (largestPayload c.tokens.entries + 1)
      (Nat.succ_le_of_lt h.textLength_lt)
    rw [Nat.succ_mul] at htext
    omega

/-- No visit asks for others without end, even if the time, the digests and the patterns change
from call to call. -/
theorem calls_wellFounded (c : Comparator) :
    WellFounded fun w v : Visit => ∃ E : Primitives, Calls E c v w :=
  Subrelation.wf (fun ⟨_, h⟩ => h.bound_lt) (InvImage.wf (Visit.bound c) Nat.lt_wfRel.wf)

end SubsetMatch
