import SubsetMatch.Json.Skim
import SubsetMatch.Token.Algorithm

/-!
# Headers of tokens (§10.7)

A header is an object that names the signing algorithm and may hold a few registered fields, each
at most once and of its own shape. The registered fields may also be written as a list, in order and
without gaps. Only the registered fields are read. The values of other fields are skimmed, so
whatever is wrong with what they stand for is never found out.
-/

namespace SubsetMatch.Token

open Text

/-! ## Shapes of fields -/

/-- The value of a field: absent, present once, or refused because it is written twice. -/
def field? (name : String) (members : Members) : Option (Option Value) :=
  match members.filter fun m => m.1 == name with
  | [] => some none
  | [(_, v)] => some (some v)
  | _ => none

/-- A string. -/
def isString : Value → Bool
  | .string _ => true
  | _ => false

/-- A list of strings. -/
def isStringList : Value → Bool
  | .array items => items.all isString
  | _ => false

/-- Null or a value of a shape. -/
def nullOr (shape : Value → Bool) : Value → Bool
  | .null => true
  | v => shape v

/-- Whether a field is absent or of a shape. -/
def optional (name : String) (shape : Value → Bool) (members : Members) : Bool :=
  match field? name members with
  | none => false
  | some none => true
  | some (some v) => shape v

/-- Whether a field is present and of a shape. -/
def required (name : String) (shape : Value → Bool) (members : Members) : Bool :=
  match field? name members with
  | some (some v) => shape v
  | _ => false

/-- The name of a choice, written as a string or as the only key of an object that holds null. -/
def choice? : Value → Option String
  | .string name => some name
  | .object [(name, .null)] => some name
  | _ => none

/-- One of some choices. -/
def isOneOf (names : List String) (v : Value) : Bool :=
  (choice? v).any names.contains

/-- The algorithms that a key may be meant for. -/
def keyAlgorithms : List String :=
  Algorithm.all.map Algorithm.name ++ HeaderAlgorithm.otherNames ++
    ["RSA1_5", "RSA-OAEP", "RSA-OAEP-256"]

/-- An algorithm that a key is meant for. Here an empty object does for null. -/
def isKeyAlgorithm : Value → Bool
  | .object [(name, .object [])] => keyAlgorithms.contains name
  | v => isOneOf keyAlgorithms v

/-- The curves of elliptic keys. -/
def curves : List String :=
  ["P-256", "P-384", "P-521", "Ed25519"]

/-- The parameters of one of the four families of keys. -/
def hasKeyParameters (members : Members) : Bool :=
  (required "kty" (isOneOf ["EC"]) members && required "crv" (isOneOf curves) members &&
      required "x" isString members && required "y" isString members) ||
    (required "kty" (isOneOf ["RSA"]) members && required "n" isString members &&
      required "e" isString members) ||
    (required "kty" (isOneOf ["oct"]) members && required "k" isString members) ||
    (required "kty" (isOneOf ["OKP"]) members && required "crv" (isOneOf curves) members &&
      required "x" isString members)

/-- A key: the parameters of its family and well-shaped common fields. -/
def isKey : Value → Bool
  | .object members =>
    optional "use" (nullOr isString) members &&
      optional "key_ops" (nullOr isStringList) members &&
      optional "alg" (nullOr isKeyAlgorithm) members &&
      optional "kid" (nullOr isString) members &&
      optional "x5u" (nullOr isString) members &&
      optional "x5c" (nullOr isStringList) members &&
      optional "x5t" (nullOr isString) members &&
      optional "x5t#S256" (nullOr isString) members &&
      hasKeyParameters members
  | _ => false

/-- The registered fields besides the algorithm, with their shapes, in the order of a list. The
algorithm stands behind the first. -/
def registeredFields : List (String × (Value → Bool)) :=
  [("typ", nullOr isString), ("cty", nullOr isString), ("jku", nullOr isString),
    ("jwk", nullOr isKey), ("kid", nullOr isString), ("x5u", nullOr isString),
    ("x5c", nullOr isStringList), ("x5t", nullOr isString), ("x5t#S256", nullOr isString)]

/-- The algorithm of a header; `none` if it is no header. Members are taken as written. -/
def headerAlgorithm? : Value → Option HeaderAlgorithm
  | .object members =>
    if registeredFields.all fun f => optional f.1 f.2 members then
      match field? "alg" members with
      | some (some v) => (choice? v).bind HeaderAlgorithm.ofName?
      | _ => none
    else none
  | .array (typ :: alg :: rest) =>
    if rest.length + 1 == registeredFields.length &&
        (List.zipWith (fun f v => f.2 v) registeredFields (typ :: rest)).all id then
      (choice? alg).bind HeaderAlgorithm.ofName?
    else none
  | _ => none

/-! ## Reading registered fields only -/

/-- Bytes as letters, one a byte. The signs of a document text are letters of their own, so it is
skimmed without being decoded. -/
def letters (bytes : List UInt8) : List Char :=
  bytes.map fun b => Char.ofNat b.toNat

/-- The text of some letters; `none` if their bytes are no text. -/
def textOf? (letters : List Char) : Option (List Char) :=
  Utf8.decode (letters.map fun c => c.toNat.toUInt8)

/-- A key, from the letters behind its opening quote. -/
def readKey? (letters : List Char) : Option String :=
  match (textOf? letters).map Json.stringBody with
  | some (.ok (key, _)) => some (String.ofList key)
  | _ => none

/-- A value of a header, which takes one level itself. -/
def readField? (letters : List Char) : Option Value :=
  match (textOf? letters).map (Json.value (Json.maxLevels - 1)) with
  | some (.ok (v, _)) => some v
  | _ => none

/-- Whether a field is looked at. -/
def isRegistered (key : String) : Bool :=
  key == "alg" || registeredFields.any fun f => f.1 == key

/-- The registered ones among members as written. -/
def registered? : List (List Char × List Char) → Option Members
  | [] => some []
  | (key, value) :: rest =>
    match readKey? key, registered? rest with
    | some key, some members =>
      if isRegistered key then (readField? value).map fun v => (key, v) :: members
      else some members
    | _, _ => none

/-- What is read of a header: its registered fields, or the list of its values. -/
def headerFields? (bytes : List UInt8) : Option Value :=
  match Json.skip (letters bytes) with
  | '{' :: cs =>
    match Json.skimAll '}' (Json.skimMember Json.skim) cs with
    | some (members, rest) =>
      if (Json.skip rest).isEmpty then (registered? members).map .object else none
    | none => none
  | '[' :: cs =>
    match Json.skimAll ']' (Json.taken Json.skim) cs with
    | some (values, rest) =>
      if (Json.skip rest).isEmpty then (values.mapM readField?).map .array else none
    | none => none
  | _ => none

end SubsetMatch.Token
