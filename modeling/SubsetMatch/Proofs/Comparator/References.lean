import SubsetMatch.Proofs.Comparator.TokenHistory
import SubsetMatch.Proofs.Comparator.VisitOrder
import SubsetMatch.Standard

/-!
# What a needle refers to

A needle refers to functions by the directives among its strings, to tokens by the arguments of its
token directives, and to everything that the payloads of those tokens refer to. Whatever else is
registered has no say in a comparison with it: not for success, and not for the words of a failure,
which complain of a missing function or token under the name that the needle gave.

The references are the least names that enclose the needle, that is, hold what the needle mentions
and what the payloads of their own tokens mention. A visit of an enclosed needle asks only for
visits of enclosed needles, which is what the induction needs.

Results:
* `encloses_mentions`, `Encloses.mentions`: the names mentioned are the least that enclose a needle.
* `Encloses.calls`: visits of enclosed needles ask for no others.
* `outcome_eq_of_encloses`: comparators that agree on names enclosing a needle answer it alike.
* `references_decide`: so only what a needle refers to has a say.
-/

namespace SubsetMatch

/-! ## References -/

/-- A directive stands among the strings of a document. -/
def Value.Holds (v : Value) (d : Directive) : Prop :=
  ∃ text, .string text ∈ v.parts ∧ Directive.parse text = .ok (some d)

theorem Value.Holds.member {members : Members} {m : String × Value} {d : Directive}
    (h : m.2.Holds d) (hm : m ∈ members) : (Value.object members).Holds d := by
  obtain ⟨text, hmem, hparse⟩ := h
  exact ⟨text, mem_parts_object.mpr (.inr ⟨m, hm, hmem⟩), hparse⟩

theorem Value.Holds.element {items : List Value} {v : Value} {d : Directive} (h : v.Holds d)
    (hv : v ∈ items) : (Value.array items).Holds d := by
  obtain ⟨text, hmem, hparse⟩ := h
  exact ⟨text, mem_parts_array.mpr (.inr ⟨v, hv, hmem⟩), hparse⟩

theorem Value.holds_string {text : String} {d : Directive} :
    (Value.string text).Holds d ↔ Directive.parse text = .ok (some d) := by
  simp [Holds, parts]

namespace Comparator

section References

variable (c c' : Comparator)

/-- A name means the token assertion to one of two comparators. -/
def NamesToken (name : String) : Prop :=
  c.functions.get? name = some .token ∨ c'.functions.get? name = some .token

/-- A token is registered with one of two comparators. -/
def Registers (name : String) (r : RegisteredToken) : Prop :=
  c.tokens.get? name = some r ∨ c'.tokens.get? name = some r

/-- The documents that a needle leads to: itself, and the payloads of the tokens that token
directives in such a document name. -/
inductive Reaches (needle : Value) : Value → Prop
  | needle : Reaches needle needle
  | payload {v : Value} {d : Directive} {name : String} {r : RegisteredToken}
      (hv : Reaches needle v) (hd : v.Holds d) (htoken : c.NamesToken c' d.name)
      (hargs : d.args = [name]) (hr : c.Registers c' name r) : Reaches needle (.object r.payload)

/-- A function that a needle refers to. -/
def MentionsFunction (needle : Value) (name : String) : Prop :=
  ∃ v d, c.Reaches c' needle v ∧ v.Holds d ∧ d.name = name

/-- A token that a needle refers to. -/
def MentionsToken (needle : Value) (name : String) : Prop :=
  ∃ v d, c.Reaches c' needle v ∧ v.Holds d ∧ c.NamesToken c' d.name ∧ d.args = [name]

/-- Names of functions and tokens hold all that the directives in a document mention. -/
structure Covers (functions tokens : String → Prop) (v : Value) : Prop where
  function : ∀ d, v.Holds d → functions d.name
  token : ∀ d name, v.Holds d → c.NamesToken c' d.name → d.args = [name] → tokens name

/-- Names of functions and tokens hold all that a needle mentions, and all that the payloads of
these tokens do. -/
structure Encloses (functions tokens : String → Prop) (needle : Value) : Prop where
  needle : c.Covers c' functions tokens needle
  payload : ∀ name r, tokens name → c.Registers c' name r →
    c.Covers c' functions tokens (.object r.payload)

/-- Two comparators have the same functions and tokens under some names. -/
structure AgreesOn (functions tokens : String → Prop) : Prop where
  function : ∀ name, functions name → c.functions.get? name = c'.functions.get? name
  token : ∀ name, tokens name → c.tokens.get? name = c'.tokens.get? name

end References

variable {E : Primitives} {c c' : Comparator} {needle v : Value} {functions tokens : String → Prop}

/-! ## The least names that enclose a needle -/

/-- The names that a needle refers to enclose it. -/
theorem encloses_mentions (c c' : Comparator) (needle : Value) :
    c.Encloses c' (c.MentionsFunction c' needle) (c.MentionsToken c' needle) needle where
  needle :=
    ⟨fun d hd => ⟨needle, d, .needle, hd, rfl⟩,
      fun d _ hd htoken hargs => ⟨needle, d, .needle, hd, htoken, hargs⟩⟩
  payload := by
    rintro name r ⟨v, d, hv, hd, htoken, hargs⟩ hr
    have hreached : c.Reaches c' needle (.object r.payload) := .payload hv hd htoken hargs hr
    exact ⟨fun d hd => ⟨_, d, hreached, hd, rfl⟩,
      fun d _ hd htoken hargs => ⟨_, d, hreached, hd, htoken, hargs⟩⟩

theorem Encloses.covers_of_reaches (h : c.Encloses c' functions tokens needle)
    (hv : c.Reaches c' needle v) : c.Covers c' functions tokens v := by
  induction hv with
  | needle => exact h.needle
  | payload hv hd htoken hargs hr ih => exact h.payload _ _ (ih.token _ _ hd htoken hargs) hr

/-- **Names that enclose a needle hold all that it refers to.** -/
theorem Encloses.mentions (h : c.Encloses c' functions tokens needle) :
    (∀ name, c.MentionsFunction c' needle name → functions name) ∧
      ∀ name, c.MentionsToken c' needle name → tokens name := by
  constructor
  · rintro name ⟨v, d, hv, hd, rfl⟩
    exact (h.covers_of_reaches hv).function d hd
  · rintro name ⟨v, d, hv, hd, htoken, hargs⟩
    exact (h.covers_of_reaches hv).token d name hd htoken hargs

/-- What encloses a needle for two comparators does so for the first. -/
theorem Encloses.first (h : c.Encloses c' functions tokens needle) :
    c.Encloses c functions tokens needle := by
  have hcovers : ∀ v, c.Covers c' functions tokens v → c.Covers c functions tokens v := fun v hv =>
    ⟨hv.function, fun d name hd htoken => hv.token d name hd (.inl (or_self_iff.mp htoken))⟩
  exact ⟨hcovers _ h.needle,
    fun name r hname hr => hcovers _ (h.payload name r hname (.inl (or_self_iff.mp hr)))⟩

/-! ## Comparators that agree -/

/-- What holds a part of a document is what holds the document. -/
theorem Covers.of_holds {w : Value} (h : c.Covers c' functions tokens v)
    (hw : ∀ d, w.Holds d → v.Holds d) : c.Covers c' functions tokens w :=
  ⟨fun d hd => h.function d (hw d hd), fun d name hd => h.token d name (hw d hd)⟩

/-- **Visits of enclosed needles ask for no others.** -/
theorem Encloses.calls {v w : Visit} (h : c.Encloses c functions tokens v.needle)
    (hcalls : Calls E c v w) : c.Encloses c functions tokens w.needle := by
  rcases hcalls with hdescends | henters
  · refine ⟨?_, h.payload⟩
    cases hdescends with
    | member hmem haddress => exact h.needle.of_holds fun d hd => hd.member hmem
    | element hlength hneedle hhaystack =>
      exact h.needle.of_holds fun d hd => hd.element (List.mem_of_getElem? hneedle)
  · cases henters with
    | claims hparse hresolve hargs hregistered hverify =>
      have htoken : c.NamesToken c _ := .inl (Registry.get?_of_resolve hresolve)
      have hname := h.needle.token _ _ (Value.holds_string.mpr hparse) htoken hargs
      exact ⟨h.payload _ _ hname (.inl hregistered), h.payload⟩

/-- **Comparators that agree on names enclosing a needle answer it alike**, by induction on the
visits that it asks for. Only the functions among these names need to be built in. -/
theorem outcome_eq_of_encloses
    (hb : ∀ name m, functions name → c.functions.get? name = some m → m.isBuiltIn = true)
    (hagrees : c.AgreesOn c' functions tokens) {v : Visit}
    (h : c.Encloses c functions tokens v.needle) : v.outcome E c = v.outcome E c' := by
  induction v using (calls_wellFounded c).induction with
  | _ v ih =>
    have hmakes : ∀ w, Makes E c v w → w.outcome E c = w.outcome E c' := fun w hw =>
      ih w ⟨E, hw.calls⟩ (h.calls hw.calls)
    refine outcome_eq_of_makes hmakes fun text htext => ?_
    obtain ⟨needle, haystack, path⟩ := v
    cases htext
    have hfunction : ∀ d, Directive.parse text = .ok (some d) → functions d.name :=
      fun d hparse => h.needle.function d (Value.holds_string.mpr hparse)
    refine string_eq_of_token
      (fun d m hparse hm => hb d.name m (hfunction d hparse) (Registry.get?_of_resolve hm))
      (fun d hparse => ?_) fun d hparse hresolve => ?_
    · rw [Registry.resolve, Registry.resolve, hagrees.function d.name (hfunction d hparse)]
    · refine token_eq_of_registered hparse hresolve hmakes fun name hargs => ?_
      have hname : tokens name := h.needle.token d name (Value.holds_string.mpr hparse)
        (.inl (Registry.get?_of_resolve hresolve)) hargs
      rw [← hagrees.token name hname]
      cases c.tokens.get? name with
      | none => exact .none
      | some r => exact .some ⟨rfl, fun _ _ => rfl⟩

end Comparator

/-! ## Changes elsewhere -/

/-- A change of what is registered. -/
inductive Change
  | addFunction (name : String) (m : Matcher)
  | removeFunction (name : String)
  | token (call : TokenCall)

/-- The change carried out. -/
def Change.apply (c : Comparator) : Change → Comparator
  | addFunction name m => c.addFunction name m
  | removeFunction name => c.removeFunction name
  | token call => c.perform call

/-- A change leaves some names alone. -/
def Change.Avoids (functions tokens : String → Prop) : Change → Prop
  | addFunction name _ => ¬ functions name
  | removeFunction name => ¬ functions name
  | token call => ∀ name, call.Rebinds name → ¬ tokens name

namespace Comparator

variable {E : Primitives} {c c' : Comparator} {functions tokens : String → Prop}

theorem AgreesOn.refl (c : Comparator) : c.AgreesOn c functions tokens :=
  ⟨fun _ _ => rfl, fun _ _ => rfl⟩

theorem AgreesOn.trans {c'' : Comparator} (h : c.AgreesOn c' functions tokens)
    (h' : c'.AgreesOn c'' functions tokens) : c.AgreesOn c'' functions tokens :=
  ⟨fun name hname => (h.function name hname).trans (h'.function name hname),
    fun name hname => (h.token name hname).trans (h'.token name hname)⟩

/-- One operation on tokens leaves all names alone but those that it rebinds. -/
theorem agreesOn_perform {call : TokenCall} (h : ∀ name, call.Rebinds name → ¬ tokens name) :
    c.AgreesOn (c.perform call) functions tokens := by
  refine ⟨fun name _ => by rw [functions_perform], fun key hkey => ?_⟩
  rcases c.tokens_perform call with ⟨access, name, r, entry, rfl, hr, -, htokens⟩ |
    ⟨access, name, r, rfl, -, htokens⟩ | ⟨access, name, rfl, htokens⟩
  · have hne : name ≠ key := fun heq => h key ⟨heq, hr⟩ hkey
    rw [htokens, NameTable.get?_insert, if_neg hne]
  · rw [htokens]
  · have hne : name ≠ key := fun heq => h key heq hkey
    rw [htokens, NameTable.get?_erase, if_neg hne]

/-- **One change leaves alone the names that it avoids.** -/
theorem agreesOn_apply {change : Change} (h : change.Avoids functions tokens) :
    c.AgreesOn (change.apply c) functions tokens := by
  cases change with
  | addFunction name m =>
    refine ⟨fun key hkey => ?_, fun _ _ => rfl⟩
    have hne : name ≠ key := fun heq => h (heq ▸ hkey)
    rw [Change.apply, addFunction, NameTable.get?_insert, if_neg hne]
  | removeFunction name =>
    refine ⟨fun key hkey => ?_, fun _ _ => rfl⟩
    have hne : name ≠ key := fun heq => h (heq ▸ hkey)
    rw [Change.apply, removeFunction, NameTable.get?_erase, if_neg hne]
  | token call => exact agreesOn_perform h

/-- **Changes in a row leave alone the names that they avoid.** -/
theorem agreesOn_applyAll {changes : List Change}
    (h : ∀ change ∈ changes, change.Avoids functions tokens) :
    c.AgreesOn (changes.foldl Change.apply c) functions tokens := by
  induction changes generalizing c with
  | nil => exact .refl c
  | cons change changes ih =>
    obtain ⟨hfirst, hrest⟩ := List.forall_mem_cons.mp h
    exact (agreesOn_apply hfirst).trans (ih hrest)

end Comparator

/-- **Only what a needle refers to has a say in its comparisons.** For two comparators with
built-in functions, let the names that a needle refers to be the least that hold the functions of
all directives among its strings and the arguments of all its token directives, and the same for the
payloads of the tokens so named, where a token directive is one that is so for either comparator.
If both comparators have the same functions and tokens under these names, or lack them, then every
comparison with the needle has the same outcome, in kind, words and place. In particular, changes
of any other functions and tokens, in any number and order, change no outcome; and a needle that
holds no directive has the same outcomes with any two comparators. -/
theorem references_decide (E : Primitives) {c : Comparator} (hb : c.IsBuiltIn) (needle : Value) :
    (∀ c', c.Encloses c' (c.MentionsFunction c' needle) (c.MentionsToken c' needle) needle ∧
      ∀ functions tokens, c.Encloses c' functions tokens needle →
        (∀ name, c.MentionsFunction c' needle name → functions name) ∧
        ∀ name, c.MentionsToken c' needle name → tokens name) ∧
    (∀ c', c.AgreesOn c' (c.MentionsFunction c' needle) (c.MentionsToken c' needle) →
      ∀ haystack, c.compare E needle haystack = c'.compare E needle haystack) ∧
    (∀ changes : List Change,
      (∀ change ∈ changes,
        change.Avoids (c.MentionsFunction c needle) (c.MentionsToken c needle)) →
      ∀ haystack,
        (changes.foldl Change.apply c).compare E needle haystack = c.compare E needle haystack) ∧
    ((∀ d, ¬ needle.Holds d) → ∀ (a b : Comparator) haystack,
      a.compare E needle haystack = b.compare E needle haystack) := by
  refine ⟨fun c' => ⟨c.encloses_mentions c' needle, fun _ _ h => h.mentions⟩,
    fun c' hagrees haystack => ?_, fun changes havoids haystack => ?_,
    fun hnone a b haystack => ?_⟩
  · have h := (c.encloses_mentions c' needle).first
    exact Comparator.outcome_eq_of_encloses (v := ⟨needle, haystack, .root⟩)
      (fun name m _ => hb name m) hagrees h
  · have hagrees := Comparator.agreesOn_applyAll (c := c) havoids
    exact (Comparator.outcome_eq_of_encloses (v := ⟨needle, haystack, .root⟩)
      (fun name m _ => hb name m) hagrees (c.encloses_mentions c needle)).symm
  · -- nothing is mentioned, so nothing is enclosed but the needle
    have h : a.Encloses a (fun _ => False) (fun _ => False) needle :=
      ⟨⟨fun d hd => hnone d hd, fun d _ hd _ _ => hnone d hd⟩, fun _ _ hname _ => hname.elim⟩
    exact Comparator.outcome_eq_of_encloses (v := ⟨needle, haystack, .root⟩)
      (fun _ _ hname => hname.elim) ⟨fun _ hname => hname.elim, fun _ hname => hname.elim⟩ h

/-! ## A payload with a reference of its own -/

/-- A token whose level is to be above one. -/
def leveled : Comparator :=
  .addToken .withDefaults "a" [("level", .string "@gt(1)")] "key"

/-- Two functions and a token are enough for a comparison with it. -/
theorem encloses_leveled {c : Comparator} (hgt : c.functions.get? "gt" = some (.numeric .greater))
    (ha : c.tokens.get? "a" = leveled.tokens.get? "a") :
    leveled.Encloses c (· ∈ ["jwt", "gt"]) (· = "a") (.string "@jwt(a)") := by
  have hjwt : Directive.parse "@jwt(a)" = .ok (some ⟨"jwt", ["a"]⟩) := rfl
  have hlevel : Directive.parse "@gt(1)" = .ok (some ⟨"gt", ["1"]⟩) := rfl
  refine ⟨⟨fun d hd => ?_, fun d name hd _ hargs => ?_⟩, ?_⟩
  · cases hjwt.symm.trans (Value.holds_string.mp hd)
    decide
  · cases hjwt.symm.trans (Value.holds_string.mp hd)
    cases hargs
    rfl
  · rintro name r rfl hr
    have hget : leveled.tokens.get? "a" = some r := hr.elim id (ha ▸ ·)
    cases hget
    -- the payload holds one directive, which is no token directive
    have honly : ∀ d, (Value.object [("level", .string "@gt(1)")]).Holds d → d = ⟨"gt", ["1"]⟩ := by
      rintro d ⟨text, hmem, hparse⟩
      obtain rfl : text = "@gt(1)" := by
        simpa [Value.parts, Value.partsOfMembers] using hmem
      cases hlevel.symm.trans hparse
      rfl
    refine ⟨fun d hd => ?_, fun d name hd htoken _ => ?_⟩
    · rw [honly d hd]
      decide
    · rw [honly d hd] at htoken
      rcases htoken with h | h
      · cases h
      · cases hgt.symm.trans h

/-- Other functions and tokens come and go, and every comparison has the outcome that it had. -/
theorem references_decide_leveled :
    let c' := (leveled.removeFunction "regExp").addToken "b" [] "other"
    let changes := [.addFunction "lt" .token, .removeFunction "regExp",
      .token (.register .handle "b" ⟨[], "other", none⟩), .token (.remove .comparator "c")]
    let needle : Value := .string "@jwt(a)"
    leveled.IsBuiltIn ∧
      leveled.AgreesOn c' (leveled.MentionsFunction c' needle) (leveled.MentionsToken c' needle) ∧
      (∀ change ∈ changes, Change.Avoids (leveled.MentionsFunction leveled needle)
        (leveled.MentionsToken leveled needle) change) ∧
      (∀ d, ¬ (Value.string "plain").Holds d) ∧
      ∀ haystack,
        leveled.compare (.standard 0) needle haystack = c'.compare (.standard 0) needle haystack ∧
        (changes.foldl Change.apply leveled).compare (.standard 0) needle haystack =
          leveled.compare (.standard 0) needle haystack ∧
        leveled.compare (.standard 0) (.string "plain") haystack =
          Comparator.empty.compare (.standard 0) (.string "plain") haystack := by
  intro c' changes needle
  have hb : leveled.IsBuiltIn := Comparator.isBuiltIn_withDefaults.addToken _ _ _
  have hencloses : leveled.Encloses c' (· ∈ ["jwt", "gt"]) (· = "a") needle :=
    encloses_leveled rfl rfl
  have hplain : ∀ d, ¬ (Value.string "plain").Holds d := by
    intro d hd
    have hparse : Directive.parse "plain" = .ok none := rfl
    cases hparse.symm.trans (Value.holds_string.mp hd)
  obtain ⟨hleast, hanswers, hchanges, -⟩ := references_decide (.standard 0) hb needle
  obtain ⟨hfunctions, htokens⟩ := (hleast c').2 _ _ hencloses
  obtain ⟨hfunctions', htokens'⟩ := (hleast leveled).2 _ _ hencloses.first
  have hagrees : leveled.AgreesOn c' (leveled.MentionsFunction c' needle)
      (leveled.MentionsToken c' needle) := by
    refine ⟨fun name hname => ?_, fun name hname => ?_⟩
    · have hmem := hfunctions name hname
      simp only [List.mem_cons, List.not_mem_nil, or_false] at hmem
      rcases hmem with rfl | rfl
      · rfl
      · rfl
    · rw [htokens name hname]
      rfl
  have havoids : ∀ change ∈ changes, Change.Avoids (leveled.MentionsFunction leveled needle)
      (leveled.MentionsToken leveled needle) change := by
    simp only [changes, List.forall_mem_cons, List.not_mem_nil, false_imp_iff, implies_true,
      and_true]
    refine ⟨fun h => absurd (hfunctions' _ h) (by decide),
      fun h => absurd (hfunctions' _ h) (by decide), fun name hrebinds h => ?_,
      fun name hrebinds h => ?_⟩
    · exact absurd (hrebinds.1.trans (htokens' name h)) (by decide)
    · exact absurd (hrebinds.trans (htokens' name h)) (by decide)
  have hsame := (references_decide (.standard 0) hb (.string "plain")).2.2.2 hplain
  exact ⟨hb, hagrees, havoids, hplain, fun haystack => ⟨hanswers c' hagrees haystack,
    hchanges changes havoids haystack, hsame leveled .empty haystack⟩⟩

end SubsetMatch
