import SubsetMatch.Config.Basic
import SubsetMatch.Yaml.Resolve

/-!
# Configurations in YAML (§10.10)

A configuration is a mapping with the fields `tokens` and `disabled_functions`; a text without
content is the empty one. A missing node in place of a list or a mapping is an empty one, and in
place of text any scalar stands as it is written. The program's `from_yaml` is `load`: `ofYaml` and
then `validate`.
-/

namespace SubsetMatch.Config

open Yaml

/-- The entries of a mapping, of which each level counts. -/
def entriesOf (anchors : Anchors) (n : Node) (budget : Nat) : Budgeted (List (Node × Node)) :=
  match follow anchors n budget with
  | .error e => .error e
  | .ok (n, budget) =>
    match n with
    | .mapping _ entries => .ok (entries, budget)
    | n => if isMissing n then .ok ([], budget) else refuse .wrongShape

/-- The items of a sequence. -/
def itemsOf (anchors : Anchors) (n : Node) (budget : Nat) : Budgeted (List Node) :=
  match follow anchors n budget with
  | .error e => .error e
  | .ok (n, budget) =>
    match n with
    | .sequence _ items => .ok (items, budget)
    | n => if isMissing n then .ok ([], budget) else refuse .wrongShape

/-- Some texts. -/
def readTexts (anchors : Anchors) (n : Node) (budget : Nat) : Budgeted (List String) :=
  match itemsOf anchors n budget with
  | .error e => .error e
  | .ok (items, budget) => readEach (readText anchors) items budget

/-- Whether a node is written as null: a missing one, or null by its spelling. -/
def isNull (label : Label) (isPlain : Bool) (text : String) : Except Reason Bool :=
  if !isPlain then .ok false
  else
    match label.tag with
    | none => .ok (text.isEmpty || nulls.contains text)
    | some tag =>
      if tag != commonTag "null" then .ok false
      else if nulls.contains text then .ok true
      else .error .wrongScalar

/-- Some texts, or none for null. -/
def readOptionalTexts (anchors : Anchors) (n : Node) (budget : Nat) :
    Budgeted (Option (List String)) :=
  match follow anchors n budget with
  | .error e => .error e
  | .ok (n, budget) =>
    let rest : Budgeted (Option (List String)) :=
      (readTexts anchors n budget).map fun (texts, budget) => (some texts, budget)
    match n with
    | .scalar label isPlain text =>
      match isNull label isPlain text with
      | .error r => refuse r
      | .ok true => .ok (none, budget)
      | .ok false => rest
    | _ => rest

/-- The fields of a token read so far. -/
structure TokenFields where
  name : Option String
  secret : Option String
  payload : Option Value
  algorithms : Option (Option (List String))

/-- No field. -/
def TokenFields.none : TokenFields :=
  ⟨.none, .none, .none, .none⟩

/-- The token of all its fields. -/
def TokenFields.finish (f : TokenFields) : Except Error TokenConfig :=
  match f.name, f.secret, f.payload with
  | some name, some secret, some payload => .ok ⟨name, secret, payload, f.algorithms.getD .none⟩
  | _, _, _ => refuse .missingField

/-- A field read, if it was not read before. -/
def once {α β : Type} (known : Option α) (read : Budgeted α) (put : α → β) : Budgeted β :=
  if known.isSome then refuse .duplicateField else read.map fun (a, budget) => (put a, budget)

/-- One more field of a token, on some level. -/
def readTokenField (anchors : Anchors) (depth : Nat) (f : TokenFields) (key : String) (v : Node)
    (budget : Nat) : Budgeted TokenFields :=
  match key with
  | "name" => once f.name (readText anchors v budget) fun name => { f with name := some name }
  | "secret" =>
    once f.secret (readText anchors v budget) fun secret => { f with secret := some secret }
  | "payload" =>
    once f.payload (readValue anchors depth v budget) fun p => { f with payload := some p }
  | "algorithms" =>
    once f.algorithms (readOptionalTexts anchors v budget) fun a => { f with algorithms := some a }
  | _ => refuse .unknownField

/-- Entries read into fields one after the other. -/
def readFields {α : Type} (anchors : Anchors) (one : α → String → Node → Nat → Budgeted α)
    (fields : α) : List (Node × Node) → Nat → Budgeted α
  | [], budget => .ok (fields, budget)
  | (k, v) :: entries, budget =>
    match readText anchors k budget with
    | .error e => .error e
    | .ok (key, budget) =>
      match one fields key v budget with
      | .error e => .error e
      | .ok (fields, budget) => readFields anchors one fields entries budget

/-- The levels above the payload of a token. -/
def payloadLevel : Nat := 3

/-- A token. -/
def readToken (anchors : Anchors) (n : Node) (budget : Nat) : Budgeted TokenConfig :=
  match entriesOf anchors n budget with
  | .error e => .error e
  | .ok (entries, budget) =>
    match readFields anchors (readTokenField anchors (maxDepth - payloadLevel)) .none entries
        budget with
    | .error e => .error e
    | .ok (fields, budget) => fields.finish.map fun t => (t, budget)

/-- Some tokens. -/
def readTokens (anchors : Anchors) (n : Node) (budget : Nat) : Budgeted (List TokenConfig) :=
  match itemsOf anchors n budget with
  | .error e => .error e
  | .ok (items, budget) => readEach (readToken anchors) items budget

/-- The fields of a configuration read so far. -/
structure Fields where
  tokens : Option (List TokenConfig)
  disabledFunctions : Option (List String)

/-- The configuration of some fields. -/
def Fields.finish (f : Fields) : Config :=
  ⟨f.tokens.getD [], f.disabledFunctions.getD []⟩

/-- One more field of a configuration. -/
def readField (anchors : Anchors) (f : Fields) (key : String) (v : Node) (budget : Nat) :
    Budgeted Fields :=
  match key with
  | "tokens" => once f.tokens (readTokens anchors v budget) fun ts => { f with tokens := some ts }
  | "disabled_functions" =>
    once f.disabledFunctions (readTexts anchors v budget) fun ns =>
      { f with disabledFunctions := some ns }
  | _ => refuse .unknownField

/-- The configuration that a document stands for. -/
def ofNode (n : Node) : Except Error Config :=
  let budget := n.events * aliasesPerEvent
  let anchors := n.anchored
  match entriesOf anchors n budget with
  | .error e => .error e
  | .ok (entries, budget) =>
    (readFields anchors (readField anchors) ⟨none, none⟩ entries budget).map fun (f, _) => f.finish

/-- A configuration in YAML, not checked yet. -/
def ofYaml (cs : List Char) : Except Error Config :=
  match Yaml.tokens cs with
  | .error e => .error e
  | .ok ts =>
    match ofTokens ts with
    | .error e => .error e
    | .ok none => .ok .empty
    | .ok (some n) => ofNode n

/-- Why a configuration cannot be loaded. -/
inductive LoadError
  | text (e : Error)
  | fault (f : Fault)

/-- The wording of the reason. -/
def LoadError.message : LoadError → String
  | text e => e.message
  | fault f => f.message

/-- A checked configuration in YAML. -/
def load (cs : List Char) : Except LoadError Config :=
  match ofYaml cs with
  | .error e => .error (.text e)
  | .ok c =>
    match c.validate with
    | .error f => .error (.fault f)
    | .ok () => .ok c

end SubsetMatch.Config
