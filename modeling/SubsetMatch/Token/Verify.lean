import SubsetMatch.Base64Url
import SubsetMatch.Json.Read
import SubsetMatch.Text.Cut
import SubsetMatch.Token.Claims

/-!
# Verification of tokens (§10.7)

A token is a header, a payload and a signature, joined by dots. It is checked in a fixed order:
the header is read, its algorithm must be allowed, the first two parts must be signed by the third
one, then the payload is read and its times are compared with the clock. This is what `decode` does
with the settings of `validation`. How a signature is checked is left open; the usual check computes
it again as a keyed digest.

Results:
* `textLength_lt_of_verify`: the strings among verified claims are shorter than the token.
* `verify_of_algorithm`, `verify_of_signature`: a forbidden algorithm or a wrong signature is
  reported before the payload is looked at.
-/

namespace SubsetMatch.Token

open Text

/-- Why a token is refused. -/
inductive Error
  | invalidToken
  | invalidSignature
  | invalidAlgorithm
  | expired
  | immature
  | base64 (e : Base64Url.Error)
  | json (detail : String)
deriving DecidableEq, Repr

/-- The wording of a refusal. -/
def Error.message : Error → String
  | invalidToken => "InvalidToken"
  | invalidSignature => "InvalidSignature"
  | invalidAlgorithm => "InvalidAlgorithm"
  | expired => "ExpiredSignature"
  | immature => "ImmatureSignature"
  | base64 e => s!"Base64 error: {e.message}"
  | json detail => s!"JSON error: {detail}"

/-- The three parts of a token. -/
structure Parts where
  header : List Char
  payload : List Char
  signature : List Char
deriving DecidableEq, Repr

/-- A token cut at its last two dots. -/
def split? (token : List Char) : Option Parts :=
  match cutLast '.' token with
  | none => none
  | some (message, signature) =>
    match cutLast '.' message with
    | none => none
    | some (header, payload) => some ⟨header, payload, signature⟩

/-- The text that is signed. -/
def Parts.message (p : Parts) : List Char :=
  p.header ++ '.' :: p.payload

/-- A part decoded to a document, members as written. -/
def readPart (part : List Char) : Except Error Value :=
  match Base64Url.decode part with
  | .error e => .error (.base64 e)
  | .ok bytes =>
    match Utf8.decode bytes with
    | none => .error (.json "invalid unicode code point")
    | some text =>
      match Json.readTree text with
      | .error e => .error (.json e.message)
      | .ok v => .ok v

/-- The algorithm of an encoded header. -/
def readHeader (part : List Char) : Except Error HeaderAlgorithm :=
  match Base64Url.decode part with
  | .error e => .error (.base64 e)
  | .ok bytes =>
    match (headerFields? bytes).bind headerAlgorithm? with
    | none => .error (.json "not a token header")
    | some a => .ok a

/-- The claims of an encoded payload, members as written. -/
def readPayload (part : List Char) : Except Error Members :=
  match readPart part with
  | .error e => .error e
  | .ok (.object members) =>
    if areReadable members then .ok members else .error (.json "unreadable registered claim")
  | .ok _ => .error (.json "expected an object")

/-- The claims, each once, if the token is valid at a time. -/
def checkTimes (now : Nat) (members : Members) : Except Error Members :=
  if isExpired now members then .error .expired
  else if isImmature now members then .error .immature
  else .ok (Value.collect [] members)

/-- What a token is verified with. -/
structure Check where
  secret : String
  algorithms : List Algorithm
deriving DecidableEq, Repr

/-- A check of signatures: by an algorithm and a key, whether a text signs a message. -/
abbrev Signs := Algorithm → (key message : List UInt8) → (signature : List Char) → Bool

/-- Whether a token is signed with a secret. -/
def isSigned (signs : Signs) (a : Algorithm) (secret : String) (p : Parts) : Bool :=
  signs a (Utf8.encode secret) (Utf8.encode (String.ofList p.message)) p.signature

/-- A keyed digest: of an algorithm, a key and a message. -/
abbrev Mac := Algorithm → (key message : List UInt8) → List UInt8

/-- The check that signs the message again and compares the two signatures. -/
def recompute (mac : Mac) : Signs := fun a key message signature =>
  signature == Base64Url.encode (mac a key message)

/-- The signature that a secret gives to a text. -/
def signatureOf (mac : Mac) (a : Algorithm) (secret : String) (message : List Char) : List Char :=
  Base64Url.encode (mac a (Utf8.encode secret) (Utf8.encode (String.ofList message)))

/-- The algorithm of a token whose header names an allowed one. -/
def allowed? (check : Check) : HeaderAlgorithm → Option Algorithm
  | .keyed a => if check.algorithms.contains a then some a else none
  | .other => none

/-- The claims of a token that is well formed, allowed, signed and valid at a time. -/
def verify (signs : Signs) (now : Nat) (check : Check) (token : List Char) : Except Error Members :=
  match split? token with
  | none => .error .invalidToken
  | some p =>
    match readHeader p.header with
    | .error e => .error e
    | .ok header =>
      match allowed? check header with
      | none => .error .invalidAlgorithm
      | some a =>
        if isSigned signs a check.secret p then
          match readPayload p.payload with
          | .error e => .error e
          | .ok members => checkTimes now members
        else .error .invalidSignature

theorem verify_of_algorithm {signs : Signs} {now : Nat} {check : Check} {token : List Char}
    {p : Parts} {header : HeaderAlgorithm} (hp : split? token = some p)
    (hh : readHeader p.header = .ok header) (ha : allowed? check header = none) :
    verify signs now check token = .error .invalidAlgorithm := by
  simp [verify, hp, hh, ha]

theorem verify_of_signature {signs : Signs} {now : Nat} {check : Check} {token : List Char}
    {p : Parts} {header : HeaderAlgorithm} {a : Algorithm} (hp : split? token = some p)
    (hh : readHeader p.header = .ok header) (ha : allowed? check header = some a)
    (hs : isSigned signs a check.secret p = false) :
    verify signs now check token = .error .invalidSignature := by
  simp [verify, hp, hh, ha, hs]

theorem length_payload_lt {token : List Char} {p : Parts} (h : split? token = some p) :
    p.payload.length < token.length := by
  unfold split? at h
  split at h
  · simp at h
  · rename_i h1
    split at h
    · simp at h
    · rename_i h2
      simp only [Option.some.injEq] at h
      subst h
      have := length_cutLast h1
      have := length_cutLast h2
      simp only
      omega

theorem textLength_le_of_readPart {part : List Char} {v : Value} (h : readPart part = .ok v) :
    v.textLength ≤ part.length := by
  unfold readPart at h
  split at h
  · simp at h
  · rename_i hb
    split at h
    · simp at h
    · rename_i ht
      split at h
      · simp at h
      · rename_i hv
        simp only [Except.ok.injEq] at h
        subst h
        have := Base64Url.length_le_of_decode hb
        have := Utf8.length_le_of_decode ht
        have := Json.textLength_le_of_readTree hv
        omega

theorem textLength_le_of_readPayload {part : List Char} {members : Members}
    (h : readPayload part = .ok members) : Value.textLengthMembers members ≤ part.length := by
  unfold readPayload at h
  split at h
  · simp at h
  · rename_i hv
    split at h
    · simp only [Except.ok.injEq] at h
      subst h
      have := textLength_le_of_readPart hv
      simpa [Value.textLength] using this
    · simp at h
  · simp at h

theorem checkTimes_eq_ok {now : Nat} {members claims : Members}
    (h : checkTimes now members = .ok claims) : claims = Value.collect [] members := by
  unfold checkTimes at h
  repeat' split at h
  all_goals simp only [Except.ok.injEq, reduceCtorEq] at h
  exact h.symm

/-- The strings among verified claims are shorter than the token. -/
theorem textLength_lt_of_verify {signs : Signs} {now : Nat} {check : Check}
    {token : List Char} {claims : Members} (h : verify signs now check token = .ok claims) :
    Value.textLengthMembers claims < token.length := by
  unfold verify at h
  split at h
  · simp at h
  · rename_i hp
    split at h
    · simp at h
    · split at h
      · simp at h
      · split at h
        · split at h
          · simp at h
          · rename_i hm
            have h1 := checkTimes_eq_ok h
            have h2 := textLength_le_of_readPayload hm
            have h3 := length_payload_lt hp
            have h4 := Value.textLength_collect_le [] (by assumption)
            subst h1
            simp only [Value.textLengthMembers] at h4
            omega
        · simp at h

end SubsetMatch.Token
