import SubsetMatch.Matcher.Error
import SubsetMatch.Text.Blank

/-!
# Types of values (§10.6)

`variableType`. The names are those of `type_name` and one more, `scalar`; `normalize` is `ofText?`.

Results:
* `holds_kind`: a value has the type of its own kind.
-/

namespace SubsetMatch

/-- A type that a value can be asked for: a kind, or any scalar. -/
inductive TypeName
  | kind (k : Kind)
  | scalar
deriving DecidableEq, Repr

namespace TypeName

/-- The name of a type. -/
def name : TypeName → String
  | kind k => k.name
  | scalar => "scalar"

/-- All types (`VALID_TYPES`). -/
def all : List TypeName :=
  [kind .integer, kind .boolean, kind .double, kind .string, kind .array, kind .object, kind .null,
    scalar]

/-- Short forms of type names. -/
def unabbreviate (name : String) : String :=
  if name == "bool" then "boolean"
  else if name == "int" then "integer"
  else if name == "float" then "double"
  else name

/-- The type of a name or of its short form, blanks around it and the case of its letters aside. -/
def ofText? (raw : String) : Option TypeName :=
  let wanted := unabbreviate (String.ofList ((Text.trim raw.toList).map Char.toLower))
  all.find? fun t => t.name == wanted

/-- Whether a value has a type. -/
def holds : TypeName → Value → Bool
  | kind k, v => v.kind == k
  | scalar, v => v.isScalar

/-- The assertion that a value has a type. -/
def evaluate (matcher : String) (args : List String) (actual : Value) : Verdict :=
  match oneArgument matcher args with
  | .error e => .error e
  | .ok raw =>
    match ofText? raw with
    | none => .error (.typeArgument raw)
    | some t => if t.holds actual then .ok () else .error (.wrongType t.name actual.kind)

theorem holds_kind (v : Value) : (kind v.kind).holds v = true := by
  simp [holds]

end TypeName

end SubsetMatch
