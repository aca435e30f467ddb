import SubsetMatch.Proofs.Comparator.IssuedToken
import SubsetMatch.Proofs.NameTable
import SubsetMatch.Proofs.Token.Registration

/-!
# Tokens over the life of a comparator

Tokens are registered and removed at any time, through the comparator or through the handle on its
table, and registrations may be refused. What the table holds is decided by the last operation on a
name that was not refused: `KeepsHistory` says so of a table and a history, one operation preserves
it (`KeepsHistory.perform`) and so does a whole run (`KeepsHistory.performAll`).

Whoever passes a token directive then passes what was registered last: the algorithm that the header
names and the secret that the signature is checked with are those of one registration.

Results:
* `tokens_perform`: what one operation does to the table.
* `KeepsHistory.performAll`: every entry keeps to the last registration of its name.
* `LastRegistered.unique`: the last registration of a name is determined.
* `outcome_token_signed`: a token directive succeeds only for a signed token of an allowed
  algorithm.
* `registration_decides`: the two together, for every run from an empty table.
-/

namespace SubsetMatch

/-! ## Operations -/

/-- Whom an operation is asked of. -/
inductive Access
  | comparator
  | handle

/-- An operation on the registered tokens. -/
inductive TokenCall
  | register (access : Access) (name : String) (r : Registration)
  | remove (access : Access) (name : String)

/-- An operation that decides what a name is bound to: a removal, or a registration that is not
refused. -/
def TokenCall.Rebinds (name : String) : TokenCall → Prop
  | register _ other r => other = name ∧ r.Valid
  | remove _ other => other = name

namespace Comparator

variable (c : Comparator)

/-- A registration carried out. -/
def register (name : String) (r : Registration) : Except MatcherError Comparator :=
  match r.algorithms with
  | none => .ok (c.addToken name r.payload r.secret)
  | some texts => c.addTokenWith name r.payload r.secret texts

/-- An operation carried out; one that is refused leaves everything as it was. -/
def perform : TokenCall → Comparator
  | .register .comparator name r =>
    match c.register name r with
    | .ok c' => c'
    | .error _ => c
  | .register .handle name r =>
    match c.tokens.register name r with
    | .ok tokens => { c with tokens := tokens }
    | .error _ => c
  | .remove .comparator name => c.removeToken name
  | .remove .handle name => { c with tokens := c.tokens.erase name }

/-- Operations carried out in order. -/
def performAll (history : List TokenCall) : Comparator :=
  history.foldl perform c

/-- It makes no difference whom a registration is asked of. -/
theorem register_eq (name : String) (r : Registration) :
    c.register name r =
      (c.tokens.register name r).map fun tokens => { c with tokens := tokens } := by
  unfold register TokenTable.register
  cases r.algorithms with
  | none => rfl
  | some texts =>
    simp only [addTokenWith]
    cases c.tokens.addWith name r.payload r.secret texts with
    | error e => rfl
    | ok tokens => rfl

theorem perform_register (access : Access) (name : String) (r : Registration) :
    c.perform (.register access name r) =
      match c.tokens.register name r with
      | .ok tokens => { c with tokens := tokens }
      | .error _ => c := by
  cases access with
  | handle => rfl
  | comparator =>
    rw [perform, register_eq]
    cases c.tokens.register name r with
    | error e => rfl
    | ok tokens => rfl

theorem perform_remove (access : Access) (name : String) :
    c.perform (.remove access name) = { c with tokens := c.tokens.erase name } := by
  cases access <;> rfl

/-- **What one operation does to the table**: a valid registration binds its name, an invalid one
changes nothing, and a removal unbinds. -/
theorem tokens_perform (call : TokenCall) :
    (∃ access name r entry, call = .register access name r ∧ r.Valid ∧
      RegisteredToken.KeepsTo entry r ∧ (c.perform call).tokens = c.tokens.insert name entry) ∨
    (∃ access name r, call = .register access name r ∧ ¬ r.Valid ∧
      (c.perform call).tokens = c.tokens) ∨
    ∃ access name, call = .remove access name ∧
      (c.perform call).tokens = c.tokens.erase name := by
  cases call with
  | register access name r =>
    rw [perform_register]
    by_cases hr : r.Valid
    · obtain ⟨entry, hkeeps, hok⟩ := TokenTable.register_eq_ok hr c.tokens name
      exact .inl ⟨access, name, r, entry, rfl, hr, hkeeps, by rw [hok]⟩
    · obtain ⟨e, herr⟩ := TokenTable.register_eq_error hr c.tokens name
      exact .inr (.inl ⟨access, name, r, rfl, hr, by rw [herr]⟩)
  | remove access name => exact .inr (.inr ⟨access, name, rfl, by rw [perform_remove]⟩)

theorem functions_perform (call : TokenCall) : (c.perform call).functions = c.functions := by
  cases call with
  | register access name r =>
    rw [perform_register]
    cases c.tokens.register name r with
    | error e => rfl
    | ok tokens => rfl
  | remove access name => rw [perform_remove]

theorem functions_performAll (history : List TokenCall) :
    (c.performAll history).functions = c.functions := by
  unfold performAll
  induction history generalizing c with
  | nil => rfl
  | cons call history ih => rw [List.foldl_cons, ih, functions_perform]

end Comparator

/-! ## Histories -/

/-- A registration is the last operation of a history that decides what its name is bound to. -/
def LastRegistered (history : List TokenCall) (name : String) (r : Registration) : Prop :=
  ∃ before access after, history = before ++ .register access name r :: after ∧ r.Valid ∧
    ∀ call ∈ after, ¬ TokenCall.Rebinds name call

/-- Every entry of a table keeps to the last registration of its name. -/
def KeepsHistory (history : List TokenCall) (t : TokenTable) : Prop :=
  ∀ name entry, t.get? name = some entry → ∃ r, LastRegistered history name r ∧ entry.KeepsTo r

variable {history : List TokenCall} {name : String} {r : Registration}

theorem lastRegistered_snoc (history : List TokenCall) (access : Access) (name : String)
    (hr : r.Valid) : LastRegistered (history ++ [.register access name r]) name r :=
  ⟨history, access, [], rfl, hr, by simp⟩

theorem LastRegistered.snoc (h : LastRegistered history name r) {call : TokenCall}
    (hcall : ¬ call.Rebinds name) : LastRegistered (history ++ [call]) name r := by
  obtain ⟨before, access, after, rfl, hr, hafter⟩ := h
  refine ⟨before, access, after ++ [call], by simp, hr, fun other hother => ?_⟩
  rcases List.mem_append.mp hother with hmem | hmem
  · exact hafter other hmem
  · rw [List.mem_singleton.mp hmem]
    exact hcall

/-- A name has one last registration at most: of two, neither stands behind the other. -/
theorem LastRegistered.unique {r' : Registration} (h : LastRegistered history name r)
    (h' : LastRegistered history name r') : r = r' := by
  obtain ⟨before, access, after, heq, hr, hafter⟩ := h
  obtain ⟨before', access', after', heq', hr', hafter'⟩ := h'
  rw [heq] at heq'
  rcases List.append_eq_append_iff.mp heq' with ⟨between, -, htail⟩ | ⟨between, -, htail⟩
  · cases between with
    | nil =>
      cases htail
      rfl
    | cons call between =>
      cases htail
      exact absurd ⟨rfl, hr'⟩ (hafter (.register access' name r') (by simp))
  · cases between with
    | nil =>
      cases htail
      rfl
    | cons call between =>
      cases htail
      exact absurd ⟨rfl, hr⟩ (hafter' (.register access name r) (by simp))

theorem keepsHistory_empty : KeepsHistory [] NameTable.empty := by
  intro name entry h
  simp at h

/-- **One operation keeps the history.** The name it decides on gets an entry that keeps to this
very operation, or none; all other names are left alone. -/
theorem KeepsHistory.perform {c : Comparator} (h : KeepsHistory history c.tokens)
    (call : TokenCall) : KeepsHistory (history ++ [call]) (c.perform call).tokens := by
  intro key entry hget
  -- an operation binds its name, is refused, or unbinds its name
  rcases c.tokens_perform call with ⟨access, name, r, bound, rfl, hr, hkeeps, htokens⟩ |
    ⟨access, name, r, rfl, hr, htokens⟩ | ⟨access, name, rfl, htokens⟩
  · rw [htokens, NameTable.get?_insert] at hget
    by_cases hname : name = key
    · rw [if_pos hname] at hget
      cases hget
      exact ⟨r, hname ▸ lastRegistered_snoc history access name hr, hkeeps⟩
    · rw [if_neg hname] at hget
      obtain ⟨r', hlast, hkeeps'⟩ := h key entry hget
      exact ⟨r', hlast.snoc fun hrebinds => hname hrebinds.1, hkeeps'⟩
  · rw [htokens] at hget
    obtain ⟨r', hlast, hkeeps⟩ := h key entry hget
    exact ⟨r', hlast.snoc fun hrebinds => hr hrebinds.2, hkeeps⟩
  · rw [htokens, NameTable.get?_erase] at hget
    by_cases hname : name = key
    · rw [if_pos hname] at hget
      cases hget
    · rw [if_neg hname] at hget
      obtain ⟨r', hlast, hkeeps⟩ := h key entry hget
      exact ⟨r', hlast.snoc hname, hkeeps⟩

/-- **A run keeps the history.** -/
theorem KeepsHistory.performAll {c : Comparator} {before : List TokenCall}
    (h : KeepsHistory before c.tokens) (history : List TokenCall) :
    KeepsHistory (before ++ history) (c.performAll history).tokens := by
  induction history generalizing c before with
  | nil => rwa [List.append_nil]
  | cons call history ih =>
    rw [List.append_cons]
    exact ih (h.perform call)

/-! ## Who passes a token directive -/

variable {E : Primitives} {c : Comparator}

/-- A token is verified only if it is signed with the secret, by an allowed algorithm that its own
header names. -/
theorem Token.signed_of_verify {signs : Token.Signs} {now : Nat} {check : Token.Check}
    {token : List Char} {claims : Members} (h : Token.verify signs now check token = .ok claims) :
    ∃ p a, Token.split? token = some p ∧ Token.readHeader p.header = .ok (.keyed a) ∧
      a ∈ check.algorithms ∧ Token.isSigned signs a check.secret p = true := by
  unfold Token.verify at h
  split at h
  · cases h
  · rename_i p hp
    split at h
    · cases h
    · rename_i header hheader
      split at h
      · cases h
      · rename_i a hallowed
        split at h
        · rename_i hsigned
          cases header with
          | other => cases hallowed
          | keyed b =>
            rw [Token.allowed?_keyed] at hallowed
            split at hallowed
            · rename_i hmem
              cases hallowed
              exact ⟨p, a, hp, hheader, hmem, hsigned⟩
            · cases hallowed
        · cases h

/-- A token directive succeeds only for a token that its entry lets pass. -/
theorem outcome_token_signed {text token : String} {d : Directive} {path : KeyPath}
    (hparse : Directive.parse text = .ok (some d))
    (hresolve : c.functions.resolve d.name = .ok .token) (hargs : d.args = [name])
    (h : Visit.outcome E c ⟨.string text, .string token, path⟩ = .ok ()) :
    ∃ entry p a, c.tokens.get? name = some entry ∧ Token.split? token.toList = some p ∧
      Token.readHeader p.header = .ok (.keyed a) ∧ a ∈ entry.algorithms ∧
      Token.isSigned E.signs a entry.secret p = true := by
  cases hget : c.tokens.get? name with
  | none =>
    have hone : oneArgument d.name d.args = .ok name := oneArgument_eq_ok_iff.mpr hargs
    have hholds := (outcome_directive_eq_ok_iff hparse hresolve).mp h
    simp only [Matcher.evaluate, Token.evaluate, Call.name, Call.args, hone, hget] at hholds
    cases hholds
  | some entry =>
    obtain ⟨token', claims, heq, hverify, -⟩ :=
      (outcome_token_eq_ok_iff hparse hresolve hargs hget).mp h
    cases heq
    obtain ⟨p, a, hp, hheader, hmem, hsignature⟩ := Token.signed_of_verify hverify
    exact ⟨entry, p, a, rfl, hp, hheader, hmem, hsignature⟩

/-- **The last registration decides.** Let a comparator without tokens go through any operations.
Then every entry of its table allows some of the algorithms, each once; and a token directive, if
it succeeds, does so for a token whose header names an algorithm of the last registration of its
name, and which is signed with the secret of that registration: its signature is the digest under
that secret, if signatures are computed again to check them. -/
theorem registration_decides (E : Primitives) (c : Comparator) (hempty : c.tokens = NameTable.empty)
    (history : List TokenCall) :
    (∀ e ∈ (c.performAll history).tokens.entries, e.2.algorithms ≠ [] ∧ e.2.algorithms.Nodup ∧
      ∀ a ∈ e.2.algorithms, a.name ∈ ["HS256", "HS384", "HS512"]) ∧
    ∀ name needle token path, c.functions.get? "jwt" = some .token →
      Directive.parse needle = .ok (some ⟨"jwt", [name]⟩) →
      (c.performAll history).node E (.string needle) (.string token) path = .ok () →
      ∃ r p a, LastRegistered history name r ∧ Token.split? token.toList = some p ∧
        Token.readHeader p.header = .ok (.keyed a) ∧ r.Allows a ∧
        Token.isSigned E.signs a r.secret p = true ∧
        ∀ mac, E.signs = Token.recompute mac →
          p.signature = Token.signatureOf mac a r.secret p.message := by
  have hkeeps : KeepsHistory history (c.performAll history).tokens := by
    have hstart : KeepsHistory [] c.tokens := hempty ▸ keepsHistory_empty
    exact hstart.performAll history
  constructor
  · rintro ⟨name, entry⟩ hmem
    obtain ⟨r, ⟨-, -, -, -, hr, -⟩, hentry⟩ := hkeeps name entry (NameTable.get?_of_mem hmem)
    exact ⟨hentry.ne_nil hr, hentry.nodup, fun a _ => by cases a <;> decide⟩
  · intro name needle token path hjwt hparse hok
    have hresolve : (c.performAll history).functions.resolve "jwt" = .ok .token := by
      rw [c.functions_performAll]
      exact resolve_eq_ok hjwt
    obtain ⟨entry, p, a, hget, hp, hheader, hmem, hsignature⟩ :=
      outcome_token_signed hparse hresolve rfl hok
    obtain ⟨r, hlast, hentry⟩ := hkeeps name entry hget
    have hsigned : Token.isSigned E.signs a r.secret p = true := hentry.secret_eq ▸ hsignature
    refine ⟨r, p, a, hlast, hp, hheader, (hentry.mem_iff a).mp hmem, hsigned, fun mac hmac => ?_⟩
    rw [hmac] at hsigned
    exact beq_iff_eq.mp hsigned

/-- A name bound twice, then to no algorithm and to an unknown one; another name is dropped. -/
def reboundHistory : List TokenCall :=
  [.register .comparator "n" ⟨[], "old", none⟩, .register .handle "n" ⟨[], "key", some ["hs256"]⟩,
    .register .comparator "n" ⟨[], "open", some []⟩,
    .register .handle "n" ⟨[], "open", some ["HS512", "none"]⟩, .remove .handle "other"]

theorem lastRegistered_reboundHistory :
    LastRegistered reboundHistory "n" ⟨[], "key", some ["hs256"]⟩ := by
  refine ⟨[.register .comparator "n" ⟨[], "old", none⟩], .handle, _, rfl, ?_, ?_⟩
  · rintro texts ⟨⟩
    decide +kernel
  · simp only [List.forall_mem_cons, List.not_mem_nil, false_imp_iff, implies_true, and_true]
    exact ⟨fun h => (h.2 _ rfl).1 rfl,
      fun h => absurd ((h.2 _ rfl).2 "none" (by simp)) (by decide +kernel),
      fun h => absurd (show "other" = "n" from h) (by decide)⟩

/-- The directive succeeds for a token of the second registration, and so it does for no other. -/
theorem registration_decides_rebound :
    let c := Comparator.withDefaults.performAll reboundHistory
    let token := Token.issue Primitives.digest .hs256 (Text.Utf8.encode "key") plainHeader
      "\x7b\x7d"
    Comparator.withDefaults.tokens = NameTable.empty ∧
      Comparator.withDefaults.functions.get? "jwt" = some .token ∧
      Directive.parse "@jwt(n)" = .ok (some ⟨"jwt", ["n"]⟩) ∧
      c.node (.standard 0) (.string "@jwt(n)") (.string token) .root = .ok () ∧
      ∃ p a, Token.split? token.toList = some p ∧ Token.readHeader p.header = .ok (.keyed a) ∧
        Registration.Allows ⟨[], "key", some ["hs256"]⟩ a ∧
        p.signature = Token.signatureOf Primitives.digest a "key" p.message := by
  intro c token
  have hparse : Directive.parse "@jwt(n)" = .ok (some ⟨"jwt", ["n"]⟩) := rfl
  have hregistered : c.tokens.get? "n" = some ⟨⟨"key", [.hs256]⟩, []⟩ := rfl
  have hpayload : Json.readTree "\x7b\x7d".toList = .ok (.object []) := by cbv
  have hverify : Token.verify (Primitives.standard 0).signs 0 ⟨"key", [.hs256]⟩ token.toList =
      .ok [] :=
    (Token.verify_issue 0 headerNames_plainHeader hpayload rfl rfl).1
      ⟨by decide, rfl, by decide, by simp⟩
  have hok : c.node (.standard 0) (.string "@jwt(n)") (.string token) .root = .ok () :=
    (outcome_token_eq_ok_iff hparse (resolve_eq_ok rfl) rfl hregistered).mpr
      ⟨token, [], rfl, hverify, outcome_object_eq_ok_iff.mpr ⟨[], rfl, by simp⟩⟩
  obtain ⟨r, p, a, hlast, hp, hheader, hallows, -, hsignature⟩ :=
    (registration_decides (.standard 0) .withDefaults rfl reboundHistory).2 "n" _ token .root rfl
      hparse hok
  cases hlast.unique lastRegistered_reboundHistory
  exact ⟨rfl, rfl, hparse, hok, p, a, hp, hheader, hallows, hsignature _ rfl⟩

end SubsetMatch
