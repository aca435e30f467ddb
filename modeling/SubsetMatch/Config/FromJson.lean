import SubsetMatch.Config.Basic
import SubsetMatch.Json.Read

/-!
# Configurations in JSON (§10.10)

A configuration is an object with the fields `tokens` and `disabled_functions`, or the list of
their values. A token is written alike. Every field may be written once and no other field is known.
-/

namespace SubsetMatch.Config

/-- The values written under a name, in order. -/
def valuesOf (name : String) (members : Members) : List Value :=
  (members.filter fun m => m.1 == name).map Prod.snd

/-- A field that is written once at most: `none` if it is written more often. -/
def field? (name : String) (members : Members) : Option (Option Value) :=
  match valuesOf name members with
  | [] => some none
  | [v] => some (some v)
  | _ => none

/-- Whether all members are known fields. -/
def areKnown (names : List String) (members : Members) : Bool :=
  members.all fun m => names.contains m.1

/-- The fields of an object, or the items of a list, by position; `none` in place of what is not
written. -/
def fieldsOf (names : List String) : Value → Option (List (Option Value))
  | .object members =>
    if areKnown names members then names.mapM fun name => field? name members else none
  | .array items =>
    if items.length ≤ names.length then
      some (items.map some ++ List.replicate (names.length - items.length) none)
    else none
  | _ => none

/-- A string. -/
def text? : Value → Option String
  | .string s => some s
  | _ => none

/-- A list of strings. -/
def texts? : Value → Option (List String)
  | .array items => items.mapM text?
  | _ => none

/-- The list of algorithms, which may be missing or null. -/
def algorithms? : Option Value → Option (Option (List String))
  | none => some none
  | some .null => some none
  | some v => (texts? v).map some

/-- The fields of a token. -/
def tokenFields : List String := ["name", "secret", "payload", "algorithms"]

/-- A token. -/
def tokenOfTree (v : Value) : Option TokenConfig :=
  match fieldsOf tokenFields v with
  | some [some name, some secret, some payload, algorithms] =>
    (text? name).bind fun name => (text? secret).bind fun secret =>
      (algorithms? algorithms).map fun algorithms => ⟨name, secret, payload.settle, algorithms⟩
  | _ => none

/-- A list of tokens; without any, the empty list. -/
def tokensOfTree : Option Value → Option (List TokenConfig)
  | none => some []
  | some (.array items) => items.mapM tokenOfTree
  | some _ => none

/-- The fields of a configuration. -/
def configFields : List String := ["tokens", "disabled_functions"]

/-- A configuration, from a document with all its members as written. -/
def ofTree (v : Value) : Option Config :=
  match fieldsOf configFields v with
  | some [tokens, disabled] =>
    (tokensOfTree tokens).bind fun tokens =>
      match disabled with
      | none => some ⟨tokens, []⟩
      | some names => (texts? names).map fun names => ⟨tokens, names⟩
  | _ => none

/-- A configuration in JSON, not checked yet. -/
def ofJson (cs : List Char) : Option Config :=
  match Json.readTree cs with
  | .error _ => none
  | .ok v => ofTree v

end SubsetMatch.Config
