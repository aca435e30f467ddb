import SubsetMatch.Proofs.Base64Url
import SubsetMatch.Proofs.Text.Utf8
import SubsetMatch.Token.Verify

/-!
# Issued tokens

Whoever issues a token writes a header and a payload in base64, signs the two with a key and joins
the three parts by dots. Such a token is cut at the same dots again and its parts read back, so
verification comes down to three questions: whether the algorithm of the header is allowed, whether
the digest under the issuer's key is that under the registered secret, and whether the registered
claims are written as they must be.

Results:
* `split?_issue`, `readPart_encodePart`: an issued token comes apart into what it was made of.
* `areReadable_iff`: what the registered claims must be like, without times.
* `verify_issue`: the verdict on an issued token without times.
-/

namespace SubsetMatch

namespace Value

/-! ## Members settled -/

theorem get?_putMember (key name : String) (v : Value) (members : Members) :
    get? (putMember key v members) name = if key = name then some v else get? members name := by
  induction members with
  | nil => rfl
  | cons m members ih =>
    obtain ⟨k, w⟩ := m
    rw [putMember]
    by_cases hk : k = key
    · subst hk
      rw [if_pos (beq_self_eq_true k)]
      by_cases hn : k = name
      · simp [get?, Entries.find?_cons, hn]
      · simp [get?, Entries.find?_cons, hn]
    · rw [if_neg (by simpa using hk)]
      unfold get? at ih ⊢
      rw [Entries.find?_cons, ih, Entries.find?_cons]
      by_cases hn : k = name
      · have hne : key ≠ name := fun h => hk (hn.trans h.symm)
        simp [hn, hne]
      · simp [hn]

/-- Settling neither loses a name nor adds one. -/
theorem get?_collect_eq_none_iff (done : Members) (members : List (String × Value))
    (name : String) :
    get? (collect done members) name = none ↔
      get? done name = none ∧ get? members name = none := by
  induction members generalizing done with
  | nil =>
    rw [collect]
    exact ⟨fun h => ⟨h, rfl⟩, And.left⟩
  | cons m members ih =>
    obtain ⟨k, v⟩ := m
    rw [collect, ih, get?_putMember]
    have hcons : get? ((k, v) :: members) name = if k = name then some v else get? members name :=
      rfl
    rw [hcons]
    by_cases hk : k = name
    · simp [hk]
    · simp [hk]

end Value

namespace Token

open Text

/-! ## Putting tokens together -/

/-- A text as a part of a token. -/
def encodePart (text : String) : List Char :=
  Base64Url.encode (Utf8.encode text)

/-- The part of a token that is signed. -/
def messageOf (header payload : String) : List Char :=
  encodePart header ++ '.' :: encodePart payload

/-- The digest of a header and a payload under a key. -/
def digestOf (mac : Mac) (a : Algorithm) (key : List UInt8) (header payload : String) :
    List UInt8 :=
  mac a key (Utf8.encode (String.ofList (messageOf header payload)))

/-- The token that a key gives to a header and a payload. -/
def issue (mac : Mac) (a : Algorithm) (key : List UInt8) (header payload : String) : String :=
  String.ofList
    (messageOf header payload ++ '.' :: Base64Url.encode (digestOf mac a key header payload))

/-- A header text names an algorithm that tokens may be registered with. -/
def HeaderNames (header : String) (a : Algorithm) : Prop :=
  ∃ v, headerFields? (Utf8.encode header) = some v ∧ headerAlgorithm? v = some (.keyed a)

variable {mac : Mac} {a : Algorithm} {key : List UInt8} {header payload : String}

/-- An issued token is cut into the parts that it was joined from. -/
theorem split?_issue :
    split? (issue mac a key header payload).toList =
      some ⟨encodePart header, encodePart payload,
        Base64Url.encode (digestOf mac a key header payload)⟩ := by
  have hsignature : cutLast '.' (issue mac a key header payload).toList =
      some (messageOf header payload, Base64Url.encode (digestOf mac a key header payload)) := by
    rw [issue, String.toList_ofList]
    exact cutLast_eq_some_iff.mpr ⟨rfl, Base64Url.dot_not_mem_encode _⟩
  have hmessage : cutLast '.' (messageOf header payload) =
      some (encodePart header, encodePart payload) :=
    cutLast_eq_some_iff.mpr ⟨rfl, Base64Url.dot_not_mem_encode _⟩
  simp only [split?, hsignature, hmessage]

/-- A part reads back as its text is read. -/
theorem readPart_encodePart {text : String} {v : Value} (h : Json.readTree text.toList = .ok v) :
    readPart (encodePart text) = .ok v := by
  simp only [readPart, encodePart, Base64Url.decode_encode, Utf8.decode_encode, h]

theorem readHeader_encodePart (h : HeaderNames header a) :
    readHeader (encodePart header) = .ok (.keyed a) := by
  obtain ⟨v, hv, hnames⟩ := h
  simp only [readHeader, encodePart, Base64Url.decode_encode, hv, Option.bind_some, hnames]

/-- The signature holds iff the issuer's key and the secret give the same digest. -/
theorem isSigned_issue {secret : String} :
    isSigned (recompute mac) a secret ⟨encodePart header, encodePart payload,
        Base64Url.encode (digestOf mac a key header payload)⟩ = true ↔
      digestOf mac a key header payload = digestOf mac a (Utf8.encode secret) header payload := by
  have hsigned : isSigned (recompute mac) a secret ⟨encodePart header, encodePart payload,
      Base64Url.encode (digestOf mac a key header payload)⟩ =
        (Base64Url.encode (digestOf mac a key header payload) ==
          Base64Url.encode (digestOf mac a (Utf8.encode secret) header payload)) := rfl
  rw [hsigned, beq_iff_eq]
  exact ⟨Base64Url.encode_injective, congrArg Base64Url.encode⟩

/-! ## Registered claims -/

/-- How often a name is written. -/
def occurrences (name : String) (members : Members) : Nat :=
  (members.filter fun m => m.1 == name).length

theorem optional_iff {name : String} {shape : Value → Bool} {members : Members} :
    optional name shape members = true ↔
      occurrences name members ≤ 1 ∧ ∀ v, (name, v) ∈ members → shape v = true := by
  have hmem : ∀ v, (name, v) ∈ members ↔ (name, v) ∈ members.filter fun m => m.1 == name :=
    fun v => by simp
  unfold optional field? occurrences
  cases hf : members.filter fun m => m.1 == name with
  | nil => simp [hmem, hf]
  | cons m rest =>
    obtain ⟨k, w⟩ := m
    have hk : k = name := by
      have hin : (k, w) ∈ members.filter fun m => m.1 == name := by
        rw [hf]
        exact List.mem_cons_self
      simpa using (List.mem_filter.mp hin).2
    subst hk
    cases rest with
    | nil => simp [hmem, hf]
    | cons m' rest => simp

/-- What the registered claims besides the times must be like: each is written once at most, and the
subject is no list or object. -/
structure OrdinaryClaims (members : Members) : Prop where
  once : ∀ name ∈ ["sub", "iss", "aud"], occurrences name members ≤ 1
  subject : ∀ v, ("sub", v) ∈ members → isContainer v = false

theorem optional_of_absent {name : String} {members : Members} (shape : Value → Bool)
    (h : Value.get? members name = none) : optional name shape members = true := by
  have habsent := Entries.find?_eq_none_iff.mp h
  have hempty : members.filter (fun m => m.1 == name) = [] :=
    List.filter_eq_nil_iff.mpr fun m hm => by simpa using habsent m hm
  refine optional_iff.mpr ⟨?_, fun v hv => absurd rfl (habsent _ hv)⟩
  rw [occurrences, hempty]
  exact Nat.zero_le 1

/-- **Claims without times are readable iff they are ordinary.** -/
theorem areReadable_iff {members : Members} (hexp : Value.get? members "exp" = none)
    (hnbf : Value.get? members "nbf" = none) :
    areReadable members = true ↔ OrdinaryClaims members := by
  simp only [areReadable, optional_of_absent _ hexp, optional_of_absent _ hnbf, Bool.true_and,
    Bool.and_eq_true, optional_iff]
  constructor
  · rintro ⟨⟨⟨hsub, hcontainer⟩, hiss, -⟩, haud, -⟩
    refine ⟨fun name hname => ?_, fun v hv => by simpa using hcontainer v hv⟩
    simp only [List.mem_cons, List.not_mem_nil, or_false] at hname
    rcases hname with rfl | rfl | rfl
    · exact hsub
    · exact hiss
    · exact haud
  · intro h
    exact ⟨⟨⟨h.once "sub" (by simp), fun v hv => by simpa using h.subject v hv⟩,
      h.once "iss" (by simp), fun _ _ => trivial⟩, h.once "aud" (by simp), fun _ _ => trivial⟩

/-! ## Verification -/

theorem isImmature_of_absent {now : Nat} {members : Members}
    (h : Value.get? members "nbf" = none) : isImmature now members = false := by
  simp [isImmature, timeOf?, h]

/-- Claims without times are valid at any time. -/
theorem checkTimes_of_absent {members : Members} (now : Nat)
    (hexp : Value.get? members "exp" = none) (hnbf : Value.get? members "nbf" = none) :
    checkTimes now members = .ok (Value.collect [] members) := by
  simp [checkTimes, isExpired_of_absent hexp, isImmature_of_absent hnbf]

/-- An issued token is accepted for its algorithm, its digest and its claims. -/
structure Accepted (mac : Mac) (check : Check) (a : Algorithm) (key : List UInt8)
    (header payload : String) (members : Members) : Prop where
  allowed : a ∈ check.algorithms
  signed : digestOf mac a key header payload =
    digestOf mac a (Utf8.encode check.secret) header payload
  ordinary : OrdinaryClaims members

theorem allowed?_keyed {check : Check} :
    allowed? check (.keyed a) = if a ∈ check.algorithms then some a else none := by
  simp [allowed?]

/-- **The verdict on an issued token without times**: its claims if it is accepted, and no claims
otherwise. -/
theorem verify_issue (now : Nat) {check : Check} {members : Members}
    (hheader : HeaderNames header a)
    (hpayload : Json.readTree payload.toList = .ok (.object members))
    (hexp : Value.get? members "exp" = none) (hnbf : Value.get? members "nbf" = none) :
    (Accepted mac check a key header payload members →
      verify (recompute mac) now check (issue mac a key header payload).toList =
        .ok (Value.collect [] members)) ∧
    (¬ Accepted mac check a key header payload members →
      ∃ e, verify (recompute mac) now check (issue mac a key header payload).toList = .error e) := by
  have hread := readHeader_encodePart hheader
  have hclaims := areReadable_iff hexp hnbf
  constructor
  · rintro ⟨hallowed, hsigned, hordinary⟩
    simp only [verify, split?_issue, hread, allowed?_keyed, if_pos hallowed,
      isSigned_issue.mpr hsigned, readPayload, readPart_encodePart hpayload,
      hclaims.mpr hordinary, if_true, checkTimes_of_absent now hexp hnbf]
  · intro hrefused
    by_cases hallowed : a ∈ check.algorithms
    · have hkeyed : allowed? check (.keyed a) = some a := by rw [allowed?_keyed, if_pos hallowed]
      by_cases hsigned : digestOf mac a key header payload =
          digestOf mac a (Utf8.encode check.secret) header payload
      · have hunreadable : areReadable members = false := by
          rw [← Bool.not_eq_true, hclaims]
          exact fun hordinary => hrefused ⟨hallowed, hsigned, hordinary⟩
        simp only [verify, split?_issue, hread, hkeyed, isSigned_issue.mpr hsigned, readPayload,
          readPart_encodePart hpayload, hunreadable, if_true]
        exact ⟨_, rfl⟩
      · have hforged := mt isSigned_issue.mp hsigned
        exact ⟨_, verify_of_signature split?_issue hread hkeyed (by simpa using hforged)⟩
    · exact ⟨_, verify_of_algorithm split?_issue hread (by rw [allowed?_keyed, if_neg hallowed])⟩

end Token

end SubsetMatch
