import SubsetMatch.Proofs.Comparator.Agreement
import SubsetMatch.Proofs.Comparator.IssuedToken
import SubsetMatch.Proofs.Json.Reordering

/-!
# The order of keys

Objects are looked into by their keys, so the order of the haystack's members is never seen: the
comparison goes the same way and has the same result. The order of the needle's members does decide
which of several failures is reported, but not whether there is one, since a comparison succeeds
only if it does everywhere. The payloads of tokens are needles too, met again and again at depths
that no needle bounds, so there the induction is on the visits.

Results:
* `address_sameAnswer`: a key addresses nodes at the same place, or fails in the same way.
* `node_haystack_order`: another order in the haystack gives the same result.
* `sameSuccess`: another order in the needle and in the payloads gives the same success.
* `key_order_irrelevant`: both together.
-/

namespace SubsetMatch

open Value

/-- The same token with the members of its payload in another order. -/
structure RegisteredToken.Reorders (a b : RegisteredToken) : Prop where
  toCheck : a.toCheck = b.toCheck
  payload : (Value.object a.payload).Reorders (.object b.payload)

/-- The same functions and tokens, with the members of the payloads in another order. -/
structure Comparator.Reorders (c c' : Comparator) : Prop where
  functions : c.functions = c'.functions
  tokens : ∀ name, Option.Rel RegisteredToken.Reorders (c.tokens.get? name) (c'.tokens.get? name)

/-- A token registered with its payload in another order. -/
theorem Comparator.Reorders.addToken (c : Comparator) (name secret : String)
    {payload payload' : Members} (h : (Value.object payload).Reorders (.object payload')) :
    (c.addToken name payload secret).Reorders (c.addToken name payload' secret) := by
  refine ⟨rfl, fun key => ?_⟩
  show Option.Rel _ ((c.tokens.add name payload secret).get? key)
    ((c.tokens.add name payload' secret).get? key)
  rw [TokenTable.get?_add, TokenTable.get?_add]
  by_cases hkey : name = key
  · rw [if_pos hkey, if_pos hkey]
    exact .some ⟨rfl, h⟩
  · rw [if_neg hkey, if_neg hkey]
    cases c.tokens.get? key with
    | none => exact .none
    | some r => exact .some ⟨rfl, .refl _⟩

/-- A document with its members in another order is like the one before. -/
theorem Value.Reorders.alike {v w : Value} (h : v.Reorders w) : Alike v w := by
  cases h with
  | array h => exact .array h.length_eq
  | object h hperm => exact .object _ _
  | _ => exact .same _

/-! ## The haystack -/

/-- The same document with its members in another order, no object of which has a key twice. -/
structure SameDocument (v w : Value) : Prop where
  keysOnce : v.KeysOnce
  reorders : v.Reorders w

/-- Nodes at the same place with their members in another order. -/
structure SameTarget (s t : Target) : Prop where
  path : s.path = t.path
  value : SameDocument s.value t.value

/-- Two searches that find related things, or fail in the same way. -/
def SameAnswer {α : Type} (related : α → α → Prop) (a b : Except Failure α) : Prop :=
  (∃ f, a = .error f ∧ b = .error f) ∨ ∃ x y, a = .ok x ∧ b = .ok y ∧ related x y

section Address

variable {actual changed : Members}

theorem SameDocument.items {items others : List Value}
    (h : SameDocument (.array items) (.array others)) : List.Forall₂ SameDocument items others := by
  obtain ⟨hkeys, hreorders⟩ := h
  cases hreorders with
  | array hitems =>
    have hboth := (List.forall₂_and_left _ _).mpr ⟨keysOnce_array.mp hkeys, hitems⟩
    exact hboth.imp fun _ _ hvw => ⟨hvw.1, hvw.2⟩

theorem SameDocument.get?_some (h : SameDocument (.object actual) (.object changed)) {key : String}
    {v : Value} (hget : Value.get? actual key = some v) :
    ∃ w, Value.get? changed key = some w ∧ SameDocument v w := by
  obtain ⟨hnodup, honce⟩ := keysOnce_object.mp h.keysOnce
  obtain ⟨w, hw, hreorders⟩ := h.reorders.get?_some hnodup hget
  exact ⟨w, hw, honce _ (Entries.mem_of_find? hget), hreorders⟩

/-- A list under a base is found in both objects, or it is missing in the same way. -/
theorem listAt_sameAnswer (h : SameDocument (.object actual) (.object changed)) (base : String)
    (path : KeyPath) :
    SameAnswer (fun items others => SameDocument (.array items) (.array others))
      (listAt actual base path) (listAt changed base path) := by
  unfold listAt
  cases hget : Value.get? actual base with
  | none =>
    rw [h.reorders.get?_none hget]
    exact .inl ⟨_, rfl, rfl⟩
  | some v =>
    obtain ⟨w, hw, hvw⟩ := h.get?_some hget
    rw [hw]
    cases hvw.reorders with
    | array => exact .inr ⟨_, _, rfl, rfl, hvw⟩
    | _ => exact .inl ⟨_, rfl, rfl⟩

/-- Brackets address nodes at the same place, or fail in the same way. -/
theorem addressList_sameAnswer (h : SameDocument (.object actual) (.object changed))
    (path : KeyPath) (s : KeySelector) :
    SameAnswer SameTarget (addressList actual path s) (addressList changed path s) := by
  cases s with
  | plain key => exact .inl ⟨_, rfl, rfl⟩
  | wholeList base =>
    rw [addressList, addressList]
    rcases listAt_sameAnswer h base path with
      ⟨f, hf, hf'⟩ | ⟨items, others, hlist, hlist', hitems⟩
    · rw [hf, hf']
      exact .inl ⟨f, rfl, rfl⟩
    · rw [hlist, hlist']
      exact .inr ⟨_, _, rfl, rfl, rfl, hitems⟩
  | element base position =>
    rw [addressList, addressList]
    rcases listAt_sameAnswer h base path with
      ⟨f, hf, hf'⟩ | ⟨items, others, hlist, hlist', hitems⟩
    · rw [hf, hf']
      exact .inl ⟨f, rfl, rfl⟩
    · rw [hlist, hlist']
      cases hitem : items[position]? with
      | none =>
        have hother : others[position]? = none := by
          rwa [List.getElem?_eq_none_iff, ← hitems.items.length_eq, ← List.getElem?_eq_none_iff]
        simp only [hitem, hother]
        exact .inl ⟨_, rfl, rfl⟩
      | some v =>
        obtain ⟨w, hother, hvw⟩ := exists_getElem?_of_forall₂ hitems.items hitem
        simp only [hitem, hother]
        exact .inr ⟨_, _, rfl, rfl, rfl, hvw⟩

/-- **A key addresses nodes at the same place**, or fails in the same way. -/
theorem address_sameAnswer (h : SameDocument (.object actual) (.object changed)) (key : String)
    (path : KeyPath) :
    SameAnswer SameTarget (address actual key path) (address changed key path) := by
  unfold address
  cases hget : Value.get? actual key with
  | some v =>
    obtain ⟨w, hw, hvw⟩ := h.get?_some hget
    rw [hw]
    exact .inr ⟨_, _, rfl, rfl, rfl, hvw⟩
  | none =>
    rw [h.reorders.get?_none hget]
    exact addressList_sameAnswer h path _

end Address

namespace Comparator

variable {E : Primitives} {c : Comparator}

/-- **Another order in the haystack** gives the same result, by induction on the needle. -/
theorem node_haystack_order (hb : c.IsBuiltIn) (needle : Value) {haystack haystack' : Value}
    {path : KeyPath} (h : SameDocument haystack haystack') :
    Outcome.Agrees (c.node E needle haystack path) (c.node E needle haystack' path) := by
  induction needle using Value.inductionOn generalizing haystack haystack' path with
  | string text => exact string_agree hb h.reorders.alike text path
  | array expected ih =>
    rw [node_array, node_array]
    cases h.reorders with
    | @array actual others hitems =>
      simp only [hitems.length_eq]
      by_cases hlength : expected.length = others.length
      · rw [if_pos hlength, if_pos hlength]
        exact items_agree h.items fun needle hmem v w i hvw => ih needle hmem hvw
      · rw [if_neg hlength, if_neg hlength]
        exact .refl _
    | object => exact .error rfl rfl
    | _ => exact .refl _
  | object expected ih =>
    rw [node_object, node_object]
    cases h.reorders with
    | object hchanged hperm =>
      refine members_agree fun m hm => ?_
      unfold member
      rcases address_sameAnswer h m.1 path with ⟨f, hf, hf'⟩ | ⟨s, t, hs, ht, hst⟩
      · rw [hf, hf']
        exact .refl _
      · rw [hs, ht]
        simp only [hst.path]
        exact ih m hm hst.value
    | array => exact .error rfl rfl
    | _ => exact .refl _
  | _ =>
    rw [node, node]
    exact leaf_agree h.reorders.alike _ path

end Comparator

/-! ## The needle and the payloads -/

section Needle

variable {E : Primitives} {c c' : Comparator} {text : String} {haystack : Value} {path : KeyPath}

variable (E c c') in
/-- A visit succeeds iff it does with the members of its needle in another order, and with the
tokens of another comparator. -/
def SameSuccess (v : Visit) : Prop :=
  ∀ needle, v.needle.Reorders needle →
    (v.outcome E c = .ok () ↔ Visit.outcome E c' ⟨needle, v.haystack, v.path⟩ = .ok ())

theorem sameSuccess_array {expected : List Value}
    (h : ∀ w, Descends ⟨.array expected, haystack, path⟩ w → SameSuccess E c c' w) :
    SameSuccess E c c' ⟨.array expected, haystack, path⟩ := by
  intro needle hneedle
  cases hneedle with
  | @array _ others hitems =>
    rw [outcome_array_eq_ok_iff, outcome_array_eq_ok_iff, ← hitems.length_eq]
    refine exists_congr fun actual => and_congr_right ?_
    rintro rfl
    refine and_congr_right fun hlength => ⟨fun hall i n x hn hx => ?_, fun hall i n x hn hx => ?_⟩
    · obtain ⟨m, hm, hreorders⟩ := exists_getElem?_of_forall₂ hitems.flip hn
      exact (h _ (.element hlength hm hx) n hreorders).mp (hall i m x hm hx)
    · obtain ⟨m, hm, hreorders⟩ := exists_getElem?_of_forall₂ hitems hn
      exact (h _ (.element hlength hn hx) m hreorders).mpr (hall i m x hm hx)

theorem sameSuccess_object {expected : Members}
    (h : ∀ w, Descends ⟨.object expected, haystack, path⟩ w → SameSuccess E c c' w) :
    SameSuccess E c c' ⟨.object expected, haystack, path⟩ := by
  intro needle hneedle
  cases hneedle with
  | @object _ _ others hchanged hperm =>
    have hmembers : (Value.object expected).Reorders (.object others) := .object hchanged hperm
    rw [outcome_object_eq_ok_iff, outcome_object_eq_ok_iff]
    refine exists_congr fun actual => and_congr_right ?_
    rintro rfl
    -- success asks for every member, in whatever order
    refine ⟨fun hall m hm => ?_, fun hall m hm => ?_⟩
    · obtain ⟨n, hn, hreorders⟩ := hmembers.exists_mem_of_mem hm
      obtain ⟨t, ht, hok⟩ := hall _ hn
      exact ⟨t, ht, (h _ (.member hn ht) _ hreorders).mp hok⟩
    · obtain ⟨n, hn, hreorders⟩ := hmembers.exists_mem hm
      obtain ⟨t, ht, hok⟩ := hall _ hn
      exact ⟨t, ht, (h _ (.member hm ht) _ hreorders).mpr hok⟩

theorem sameSuccess_token (hc : c.Reorders c') {d : Directive}
    (hparse : Directive.parse text = .ok (some d))
    (hresolve : c.functions.resolve d.name = .ok .token)
    (h : ∀ w, Enters E c ⟨.string text, haystack, path⟩ w → SameSuccess E c c' w) :
    SameSuccess E c c' ⟨.string text, haystack, path⟩ := by
  -- a string is reordered into nothing but itself
  rintro _ ⟨⟩
  have hresolve' : c'.functions.resolve d.name = .ok .token := hc.functions ▸ hresolve
  cases ha : oneArgument d.name d.args with
  | error e =>
    rw [outcome_directive hparse hresolve, outcome_directive hparse hresolve']
    simp only [Matcher.evaluate, Token.evaluate, Call.name, Call.args, ha]
  | ok name =>
    have hargs := oneArgument_eq_ok_iff.mp ha
    have hrel := hc.tokens name
    generalize hr : c.tokens.get? name = found, hr' : c'.tokens.get? name = found' at hrel
    cases hrel with
    | none =>
      rw [outcome_directive hparse hresolve, outcome_directive hparse hresolve']
      simp only [Matcher.evaluate, Token.evaluate, Call.name, Call.args, ha, hr, hr']
    | some hreorders =>
      rw [outcome_token_eq_ok_iff hparse hresolve hargs hr,
        outcome_token_eq_ok_iff hparse hresolve' hargs hr', ← hreorders.toCheck]
      refine exists_congr fun token => exists_congr fun claims => and_congr_right ?_
      rintro rfl
      refine and_congr_right fun hverify => ?_
      exact h _ (.claims hparse hresolve hargs hr hverify) _ hreorders.payload

theorem sameSuccess_string (hb : c.IsBuiltIn) (hc : c.Reorders c')
    (h : ∀ w, Enters E c ⟨.string text, haystack, path⟩ w → SameSuccess E c c' w) :
    SameSuccess E c c' ⟨.string text, haystack, path⟩ := by
  cases hparse : Directive.parse text with
  | error e =>
    rintro _ ⟨⟩
    simp only [Visit.outcome, Comparator.node_string, hparse]
  | ok r =>
    cases r with
    | none =>
      rintro _ ⟨⟩
      simp only [Visit.outcome, Comparator.node_string, hparse]
    | some d =>
      cases hresolve : c.functions.resolve d.name with
      | error e =>
        rintro _ ⟨⟩
        have hresolve' := hc.functions ▸ hresolve
        simp only [Visit.outcome, Comparator.node_string, hparse, hresolve, hresolve']
      | ok m =>
        by_cases ht : m = .token
        · subst ht
          exact sameSuccess_token hc hparse hresolve h
        · -- any other assertion sees neither tokens nor comparisons
          rintro _ ⟨⟩
          obtain ⟨assertion, -, heval⟩ :=
            Matcher.argumentsFirst (hb.of_resolve hresolve) ht E.engine d
          rw [outcome_directive_eq_ok_iff hparse hresolve,
            outcome_directive_eq_ok_iff hparse (hc.functions ▸ hresolve), heval _ _ _ _ _ _ rfl,
            heval _ _ _ _ _ _ rfl]

/-- **Another order in the needle and in the payloads** gives the same success, by induction on the
visits. -/
theorem sameSuccess (hb : c.IsBuiltIn) (hc : c.Reorders c') (v : Visit) : SameSuccess E c c' v := by
  induction v using (calls_wellFounded c).induction with
  | _ v ih =>
    obtain ⟨needle, haystack, path⟩ := v
    cases needle with
    | string text => exact sameSuccess_string hb hc fun w hw => ih w ⟨E, .inr hw⟩
    | array expected => exact sameSuccess_array fun w hw => ih w ⟨E, .inl hw⟩
    | object expected => exact sameSuccess_object fun w hw => ih w ⟨E, .inl hw⟩
    | _ =>
      rintro _ ⟨⟩
      simp only [Visit.outcome, Comparator.node]

end Needle

/-- **The order of keys never decides a comparison** by built-in functions: with the members of the
needle, the haystack and the registered payloads in another order, at whatever depth, it succeeds
iff it did. In the haystack, which like any document that has been read has no key twice in an
object, another order also leaves the kind and the place of the failure that is reported. -/
theorem key_order_irrelevant (E : Primitives) {c c' : Comparator} (hb : c.IsBuiltIn)
    (hc : c.Reorders c') {needle needle' haystack haystack' : Value}
    (hneedle : needle.Reorders needle') (hhaystack : haystack.Reorders haystack')
    (hkeys : haystack.KeysOnce) :
    (c.compare E needle haystack = .ok () ↔ c'.compare E needle' haystack' = .ok ()) ∧
      Outcome.Agrees (c.compare E needle haystack) (c.compare E needle haystack') := by
  have hagree : Outcome.Agrees (c.compare E needle haystack) (c.compare E needle haystack') :=
    c.node_haystack_order hb needle ⟨hkeys, hhaystack⟩
  have hsuccess := sameSuccess (E := E) hb hc ⟨needle, haystack', .root⟩ needle' hneedle
  exact ⟨hagree.ok_iff.trans hsuccess, hagree⟩

/-- A token, the needle that asks for it and the haystack that holds it, all the other way round. -/
theorem key_order_irrelevant_session :
    let payload : Members := [("role", .string "user"), ("team", .string "a")]
    let session := fun members => Comparator.withDefaults.addToken "s" members "key"
    let token := Token.issue Primitives.digest .hs256 (Text.Utf8.encode "key") plainHeader
      "\x7b\"role\":\"user\",\"team\":\"a\"\x7d"
    let needle : Members := [("id", .null), ("token", .string "@jwt(s)")]
    let other : Members := [("id", .bool true), ("token", .string "@jwt(s)")]
    let haystack : Members := [("id", .null), ("token", .string token)]
    (session payload).IsBuiltIn ∧ (session payload).Reorders (session payload.reverse) ∧
      (Value.object needle).Reorders (.object needle.reverse) ∧
      (Value.object haystack).Reorders (.object haystack.reverse) ∧
      (Value.object haystack).KeysOnce ∧
      (session payload).compare (.standard 0) (.object needle) (.object haystack) = .ok () ∧
      (session payload.reverse).compare (.standard 0) (.object needle.reverse)
        (.object haystack.reverse) = .ok () ∧
      (session payload).compare (.standard 0) (.object other) (.object haystack) =
        .error ⟨⟨[.key "id"]⟩, .value (.bool true) .null⟩ ∧
      ∃ g, (session payload).compare (.standard 0) (.object other) (.object haystack.reverse) =
        .error g ∧ g.kind = .mismatch ∧ g.path.render = "$.id" := by
  intro payload session token needle other haystack
  have hb : (session payload).IsBuiltIn := Comparator.isBuiltIn_withDefaults.addToken _ _ _
  have hpayload : (Value.object payload).Reorders (.object payload.reverse) :=
    .of_perm (List.reverse_perm _).symm
  have hc : (session payload).Reorders (session payload.reverse) := .addToken _ _ _ hpayload
  have hneedle : (Value.object needle).Reorders (.object needle.reverse) :=
    .of_perm (List.reverse_perm _).symm
  have hhaystack : (Value.object haystack).Reorders (.object haystack.reverse) :=
    .of_perm (List.reverse_perm _).symm
  have hkeys : (Value.object haystack).KeysOnce := by
    simp [haystack, KeysOnce, parts, partsOfMembers, ownKeys]
  have hread : Json.readTree "\x7b\"role\":\"user\",\"team\":\"a\"\x7d".toList =
      .ok (.object payload) := by cbv
  have hverify : Token.verify (Primitives.standard 0).signs 0 ⟨"key", Algorithm.all⟩ token.toList =
      .ok (Value.collect [] payload) :=
    (Token.verify_issue 0 headerNames_plainHeader hread rfl rfl).1
      ⟨by decide, rfl, by decide, by simp [payload]⟩
  have hclaims : (session payload).compare (.standard 0) (.object payload)
      (.object (Value.collect [] payload)) = .ok () := by
    have hplain : Directive.parse "user" = .ok none ∧ Directive.parse "a" = .ok none := ⟨rfl, rfl⟩
    have haddress : address (Value.collect [] payload) "role" .root =
          .ok ⟨.string "user", KeyPath.root.key "role"⟩ ∧
        address (Value.collect [] payload) "team" .root =
          .ok ⟨.string "a", KeyPath.root.key "team"⟩ := ⟨rfl, rfl⟩
    rw [Comparator.compare, Comparator.node_object]
    simp only [payload, Comparator.members_cons, haddress, Comparator.node_string, hplain,
      Comparator.members_nil]
    rfl
  have hparse : Directive.parse "@jwt(s)" = .ok (some ⟨"jwt", ["s"]⟩) := rfl
  have hresolve : (session payload).functions.resolve "jwt" = .ok .token := rfl
  have hregistered : (session payload).tokens.get? "s" =
      some ⟨⟨"key", Algorithm.all⟩, payload⟩ := rfl
  have htoken : ∀ path, Visit.outcome (.standard 0) (session payload)
      ⟨.string "@jwt(s)", .string token, path⟩ = .ok () := fun path =>
    (outcome_token_eq_ok_iff hparse hresolve rfl hregistered).mpr
      ⟨token, _, rfl, hverify, hclaims⟩
  have hid : ∀ path, Visit.outcome (.standard 0) (session payload) ⟨.null, .null, path⟩ =
      .ok () := by
    intro path
    rw [Visit.outcome, Comparator.node]
    rfl
  have hok : (session payload).compare (.standard 0) (.object needle) (.object haystack) = .ok () :=
    outcome_object_eq_ok_iff.mpr ⟨_, rfl, List.forall_mem_cons.mpr ⟨⟨_, rfl, hid _⟩,
      List.forall_mem_cons.mpr ⟨⟨_, rfl, htoken _⟩, by simp⟩⟩⟩
  have hfail : (session payload).compare (.standard 0) (.object other) (.object haystack) =
      .error ⟨⟨[.key "id"]⟩, .value (.bool true) .null⟩ := by
    have haddress : address haystack "id" .root = .ok ⟨.null, ⟨[.key "id"]⟩⟩ := rfl
    rw [Comparator.compare, Comparator.node_object]
    simp only [other, Comparator.members_cons, haddress, Comparator.node]
    rfl
  have hsame := (key_order_irrelevant (.standard 0) hb hc hneedle hhaystack hkeys).1
  have hother : (Value.object other).Reorders (.object other) := .refl _
  have hagree := (key_order_irrelevant (.standard 0) hb hc hother hhaystack hkeys).2
  obtain ⟨g, hg, hkind, hpath⟩ := hagree.exists_error hfail
  exact ⟨hb, hc, hneedle, hhaystack, hkeys, hok, hsame.mp hok, hfail, g, hg, hkind,
    by rw [hpath]; rfl⟩

end SubsetMatch
