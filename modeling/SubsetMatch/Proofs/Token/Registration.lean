import SubsetMatch.Token.Table

/-!
# Registrations of tokens

A registration asks for a token to be accepted under a name: with a payload, a secret and the texts
that name its algorithms, or no texts if any algorithm will do. It is refused if it names no
algorithm or an unknown one, and a refused one changes nothing.

Results:
* `mem_parseAlgorithms`, `nodup_parseAlgorithms`: the algorithms of some texts are those named, each
  once; `parseAlgorithms_eq`: each stands where it is named first.
* `KeepsTo.ne_nil`: an entry that keeps to a valid registration allows some algorithm.
* `register_eq_ok`, `register_eq_error`: a valid registration binds its name to an entry that keeps
  to it, and an invalid one is refused.
* `addWith_eq_entry`: the entry that a valid list of algorithms gives.
-/

namespace SubsetMatch

namespace TokenTable

/-- The algorithms known so far, with one more if it is new. -/
theorem mem_addAlgorithm {known : List Algorithm} {a b : Algorithm} :
    a ∈ (if known.contains b then known else known ++ [b]) ↔ a ∈ known ∨ a = b := by
  by_cases hb : b ∈ known
  · rw [if_pos (by simpa using hb)]
    exact ⟨.inl, fun h => h.elim id fun heq => heq ▸ hb⟩
  · rw [if_neg (by simpa using hb), List.mem_append, List.mem_singleton]

theorem nodup_addAlgorithm {known : List Algorithm} {b : Algorithm} (h : known.Nodup) :
    (if known.contains b then known else known ++ [b]).Nodup := by
  by_cases hb : b ∈ known
  · rwa [if_pos (by simpa using hb)]
  · rw [if_neg (by simpa using hb)]
    exact List.nodup_append.mpr ⟨h, by simp, fun x hx y hy heq => hb (by simp_all)⟩

/-- The algorithms of some texts are those known before and those named. -/
theorem mem_parseAlgorithms {known parsed : List Algorithm} {texts : List String}
    (h : parseAlgorithms known texts = .ok parsed) (a : Algorithm) :
    a ∈ parsed ↔ a ∈ known ∨ ∃ text ∈ texts, Algorithm.ofName? text = some a := by
  induction texts generalizing known with
  | nil =>
    cases h
    simp
  | cons text texts ih =>
    rw [parseAlgorithms] at h
    cases hname : Algorithm.ofName? text with
    | none =>
      rw [hname] at h
      cases h
    | some b =>
      rw [hname] at h
      rw [ih h, mem_addAlgorithm, or_assoc]
      simp only [List.mem_cons, exists_eq_or_imp, hname, Option.some.injEq, eq_comm (a := a)]

theorem nodup_parseAlgorithms {known parsed : List Algorithm} {texts : List String}
    (h : parseAlgorithms known texts = .ok parsed) (hknown : known.Nodup) : parsed.Nodup := by
  induction texts generalizing known with
  | nil =>
    cases h
    exact hknown
  | cons text texts ih =>
    rw [parseAlgorithms] at h
    cases hname : Algorithm.ofName? text with
    | none =>
      rw [hname] at h
      cases h
    | some b =>
      rw [hname] at h
      exact ih h (nodup_addAlgorithm hknown)

/-- The algorithms of some texts, behind those known before, stand where they are named first. -/
theorem parseAlgorithms_eq {known parsed : List Algorithm} {texts : List String}
    (h : parseAlgorithms known texts = .ok parsed) :
    parsed = known ++
      ((texts.filterMap Algorithm.ofName?).filter fun a => !known.contains a).eraseDups := by
  induction texts generalizing known with
  | nil =>
    cases h
    simp
  | cons text texts ih =>
    rw [parseAlgorithms] at h
    cases hname : Algorithm.ofName? text with
    | none =>
      rw [hname] at h
      cases h
    | some a =>
      rw [hname] at h
      rw [List.filterMap_cons_some hname, List.filter_cons, ih h]
      cases ha : known.contains a with
      | true => simp only [Bool.not_true, if_true, Bool.false_eq_true, if_false]
      | false =>
        -- a new algorithm is not to be named again
        have hlater : ∀ b, (!(known ++ [a]).contains b) = (!b == a && !known.contains b) := by
          intro b
          rw [List.contains_append, Bool.not_or, Bool.and_comm]
          congr 1
          simp [BEq.beq]
        simp only [Bool.not_false, if_true, Bool.false_eq_true, if_false, List.eraseDups_cons,
          List.filter_filter, hlater, List.append_assoc, List.singleton_append]

end TokenTable

/-! ## Registrations -/

/-- What a token is to be accepted for. -/
structure Registration where
  payload : Members
  secret : String
  /-- the texts that name its algorithms; without any, all algorithms are meant -/
  algorithms : Option (List String)

namespace Registration

/-- If algorithms are named, there is one, and all are known. -/
def Valid (r : Registration) : Prop :=
  ∀ texts, r.algorithms = some texts →
    texts ≠ [] ∧ ∀ text ∈ texts, (Algorithm.ofName? text).isSome

/-- If algorithms are named, this one is. -/
def Allows (r : Registration) (a : Algorithm) : Prop :=
  ∀ texts, r.algorithms = some texts → ∃ text ∈ texts, Algorithm.ofName? text = some a

theorem Valid.exists_allowed {r : Registration} (h : r.Valid) : ∃ a, r.Allows a := by
  cases htexts : r.algorithms with
  | none => exact ⟨.hs256, fun texts hsome => by simp [htexts] at hsome⟩
  | some texts =>
    obtain ⟨hne, hknown⟩ := h texts htexts
    obtain ⟨text, rest, rfl⟩ := List.exists_cons_of_ne_nil hne
    obtain ⟨a, ha⟩ := Option.isSome_iff_exists.mp (hknown text List.mem_cons_self)
    refine ⟨a, fun texts' hsome => ?_⟩
    rw [htexts] at hsome
    cases hsome
    exact ⟨text, List.mem_cons_self, ha⟩

/-- The entry of a registration: its payload and secret, and the algorithms that it names, each once
where it is named first, or all of them if it names none. -/
def entry (r : Registration) : RegisteredToken where
  payload := r.payload
  secret := r.secret
  algorithms :=
    match r.algorithms with
    | none => Algorithm.all
    | some texts => (texts.filterMap Algorithm.ofName?).eraseDups

end Registration

/-- An entry of the table has the payload and the secret of a registration, and allows what it
allows, each algorithm once. -/
structure RegisteredToken.KeepsTo (entry : RegisteredToken) (r : Registration) : Prop where
  payload_eq : entry.payload = r.payload
  secret_eq : entry.secret = r.secret
  mem_iff : ∀ a, a ∈ entry.algorithms ↔ r.Allows a
  nodup : entry.algorithms.Nodup

theorem RegisteredToken.KeepsTo.ne_nil {entry : RegisteredToken} {r : Registration}
    (h : entry.KeepsTo r) (hr : r.Valid) : entry.algorithms ≠ [] := by
  obtain ⟨a, ha⟩ := hr.exists_allowed
  exact List.ne_nil_of_mem ((h.mem_iff a).mpr ha)

namespace TokenTable

/-- A registration carried out. -/
def register (t : TokenTable) (name : String) (r : Registration) : Except MatcherError TokenTable :=
  match r.algorithms with
  | none => .ok (t.add name r.payload r.secret)
  | some texts => t.addWith name r.payload r.secret texts

theorem nodup_all : Algorithm.all.Nodup := by
  decide

/-- **A valid registration binds its name** to an entry that keeps to it. -/
theorem register_eq_ok {r : Registration} (h : r.Valid) (t : TokenTable) (name : String) :
    ∃ entry : RegisteredToken, entry.KeepsTo r ∧ t.register name r = .ok (t.insert name entry) := by
  unfold register
  cases htexts : r.algorithms with
  | none =>
    refine ⟨⟨⟨r.secret, Algorithm.all⟩, r.payload⟩, ⟨rfl, rfl, fun a => ?_, nodup_all⟩, rfl⟩
    exact ⟨fun _ texts hsome => by simp [htexts] at hsome, fun _ => Algorithm.mem_all a⟩
  | some texts =>
    obtain ⟨hne, hknown⟩ := h texts htexts
    obtain ⟨parsed, hparsed⟩ := (parseAlgorithms_isOk_iff [] texts).mpr hknown
    refine ⟨⟨⟨r.secret, parsed⟩, r.payload⟩, ⟨rfl, rfl, fun a => ?_,
      nodup_parseAlgorithms hparsed List.nodup_nil⟩, ?_⟩
    · rw [mem_parseAlgorithms hparsed]
      simp [Registration.Allows, htexts]
    · simp only [addWith, hparsed]
      rw [if_neg (by simpa using hne)]

/-- A valid list of algorithms is accepted, and the entry of the registration is bound. -/
theorem addWith_eq_entry {r : Registration} (h : r.Valid) {texts : List String}
    (htexts : r.algorithms = some texts) (t : TokenTable) (name : String) :
    t.addWith name r.payload r.secret texts = .ok (t.insert name r.entry) := by
  obtain ⟨hne, hknown⟩ := h texts htexts
  obtain ⟨parsed, hparsed⟩ := (parseAlgorithms_isOk_iff [] texts).mpr hknown
  have heq : parsed = (texts.filterMap Algorithm.ofName?).eraseDups := by
    rw [parseAlgorithms_eq hparsed, List.nil_append, List.filter_eq_self.mpr (by simp)]
  simp only [addWith, hparsed, Registration.entry, htexts, heq]
  rw [if_neg (by simpa using hne)]

/-- An invalid registration is refused. -/
theorem register_eq_error {r : Registration} (h : ¬ r.Valid) (t : TokenTable) (name : String) :
    ∃ e, t.register name r = .error e := by
  unfold register
  cases htexts : r.algorithms with
  | none => exact absurd (fun texts hsome => by simp [htexts] at hsome) h
  | some texts =>
    cases hadd : t.addWith name r.payload r.secret texts with
    | error e => exact ⟨e, hadd⟩
    | ok t' =>
      refine absurd (fun texts' hsome => ?_) h
      rw [htexts] at hsome
      cases hsome
      exact (addWith_isOk_iff ..).mp ⟨t', hadd⟩

end TokenTable

end SubsetMatch
