import SubsetMatch.Decimal.Numeral
import SubsetMatch.Json.Value
import SubsetMatch.Text.Cut
import SubsetMatch.Yaml.Document

/-!
# Values of YAML nodes

What nodes stand for. A plain scalar may be null, a boolean or a number by its spelling; anything
else is text. Aliases stand for the nodes that bear their anchors, but only so often.
-/

namespace SubsetMatch.Yaml

open Decimal

/-- The spellings of null. -/
def nulls : List String := ["null", "Null", "NULL", "~"]

/-- The boolean with a spelling. -/
def bool? (text : String) : Option Bool :=
  if ["true", "True", "TRUE"].contains text then some true
  else if ["false", "False", "FALSE"].contains text then some false
  else none

/-- Digits behind a zero are no number, whatever their sign. -/
def isPadded (cs : List Char) : Bool :=
  let digits := match cs with
    | '-' :: rest | '+' :: rest => rest
    | cs => cs
  match digits with
  | '0' :: c :: rest => (c :: rest).all Char.isDigit
  | _ => false

/-- The value of a digit in a base. -/
def digitIn? (base : Nat) (c : Char) : Option Nat :=
  (hexValue? c).filter (· < base)

/-- The value of digits in a base, behind those already read. -/
def digitsIn? (base value : Nat) : List Char → Option Nat
  | [] => some value
  | c :: cs => (digitIn? base c).bind fun d => digitsIn? base (value * base + d) cs

/-- A number in a base, of at least one digit. -/
def numberIn? (base : Nat) (cs : List Char) : Option Nat :=
  if cs.isEmpty then none else digitsIn? base 0 cs

/-- A number with a sign for its base. -/
def basedNumber? : List Char → Option Nat
  | '0' :: 'x' :: rest => numberIn? 16 rest
  | '0' :: 'o' :: rest => numberIn? 8 rest
  | '0' :: 'b' :: rest => numberIn? 2 rest
  | _ => none

/-- An integer, in base ten or with a sign for its base. -/
def integer? (cs : List Char) : Option Int :=
  let (negative, body) := splitSign cs
  let number := match basedNumber? body with
    | some n => some n
    | none => if isPadded cs then none else numberIn? 10 body
  number.map fun n => if negative then -(n : Int) else n

/-- Whether an integer fits a word of some bits, with a sign only if it is negative. -/
def fits (bits : Nat) (n : Int) : Bool :=
  if n < 0 then decide (-(twoTo (bits - 1) : Int) ≤ n) else decide (n < (twoTo bits : Int))

/-- The texts of the infinities, and of no number at all. -/
def unboundedTexts : List String :=
  [".inf", ".Inf", ".INF", "+.inf", "+.Inf", "+.INF", "-.inf", "-.Inf", "-.INF", ".nan", ".NaN",
    ".NAN"]

/-- A number with a point or an exponent. Documents have no infinities, so these become null. -/
def real? (text : String) : Option Value :=
  if unboundedTexts.contains text then some .null
  else (readBinary64? text.toList).map fun x => .number (.double x)

/-- An integer as a value. One that needs more than a word is none, and one of more than two words
is not looked at. -/
def integerValue? (text : String) : Option (Except Reason Value) :=
  match integer? text.toList with
  | none => none
  | some n =>
    if fits 64 n then some (.ok (.number (.integer n)))
    else if fits 128 n then some (.error .numberTooLarge)
    else none

/-- What a plain scalar stands for. -/
def plainValue (text : String) : Except Reason Value :=
  if text.isEmpty || nulls.contains text then .ok .null
  else
    match bool? text with
    | some b => .ok (.bool b)
    | none =>
      match integerValue? text with
      | some r => r
      | none =>
        if isPadded text.toList then .ok (.string text)
        else .ok ((real? text).getD (.string text))

/-- The name of a common tag. -/
def commonTag (name : String) : String :=
  "tag:yaml.org,2002:" ++ name

/-- A value, if the spelling fits. -/
def fitting (v : Option Value) : Except Reason Value :=
  match v with
  | some v => .ok v
  | none => .error .wrongScalar

/-- What a scalar with a tag stands for. Tags with a single exclamation mark stand for nothing. -/
def taggedValue (tag text : String) : Except Reason Value :=
  if tag.toList.head? == some '!' then .error .unknownTag
  else if tag == commonTag "bool" then fitting ((bool? text).map .bool)
  else if tag == commonTag "int" then (integerValue? text).getD (.error .wrongScalar)
  else if tag == commonTag "float" then fitting (real? text)
  else if tag == commonTag "null" then fitting (if nulls.contains text then some .null else none)
  else .ok (.string text)

/-- What a scalar stands for. Quoted ones are text. -/
def scalarValue (label : Label) (isPlain : Bool) (text : String) : Except Reason Value :=
  match label.tag with
  | some tag => taggedValue tag text
  | none => if isPlain then plainValue text else .ok (.string text)

/-- The nodes that aliases stand for, by their numbers. -/
abbrev Anchors := List (Nat × Node)

/-- What is read from nodes, and the number of aliases that may still be followed. -/
abbrev Budgeted (α : Type) := Except Error (α × Nat)

/-- A reason without a place. -/
def refuse {α : Type} (r : Reason) : Except Error α :=
  .error ⟨r, .start⟩

/-- A result, or a reason without a place. -/
def placed {α : Type} : Except Reason α → Except Error α
  | .ok a => .ok a
  | .error r => refuse r

/-- The node itself, or the one an alias stands for. -/
def follow (anchors : Anchors) (n : Node) (budget : Nat) : Budgeted Node :=
  match n with
  | .repeated a =>
    if budget == 0 then refuse .tooManyAliases
    else
      match anchors.reverse.find? fun e => e.1 == a with
      | none => refuse .undefinedAnchor
      | some (_, target) => .ok (target, budget - 1)
  | n => .ok (n, budget)

/-- The text of a scalar, whatever it stands for. -/
def readText (anchors : Anchors) (n : Node) (budget : Nat) : Budgeted String :=
  match follow anchors n budget with
  | .error e => .error e
  | .ok (.scalar _ _ text, budget) => .ok (text, budget)
  | .ok _ => refuse .wrongShape

/-- Nodes read one after the other. -/
def readEach {α : Type} (one : Node → Nat → Budgeted α) : List Node → Nat → Budgeted (List α)
  | [], budget => .ok ([], budget)
  | n :: items, budget =>
    match one n budget with
    | .error e => .error e
    | .ok (a, budget) => (readEach one items budget).map fun (as, budget) => (a :: as, budget)

/-- The members of a mapping. Of several with one key the last counts. -/
def readMembers (anchors : Anchors) (one : Node → Nat → Budgeted Value) (done : Members) :
    List (Node × Node) → Nat → Budgeted Members
  | [], budget => .ok (done, budget)
  | (k, v) :: entries, budget =>
    match readText anchors k budget with
    | .error e => .error e
    | .ok (key, budget) =>
      match one v budget with
      | .error e => .error e
      | .ok (value, budget) =>
        readMembers anchors one (Value.putMember key value done) entries budget

/-- Whether a tag stands for nothing. -/
def isLocal (label : Label) : Bool :=
  (label.tag.map fun t => t.toList.head? == some '!').getD false

/-- The value of a node, whose collections may nest so many levels. -/
def readValue (anchors : Anchors) : Nat → Node → Nat → Budgeted Value
  | depth, n, budget =>
    match follow anchors n budget with
    | .error e => .error e
    | .ok (.scalar label isPlain text, budget) =>
      (placed (scalarValue label isPlain text)).map fun v => (v, budget)
    | .ok (.sequence label items, budget) =>
      if isLocal label then refuse .unknownTag
      else
        match depth with
        | 0 => refuse .tooDeep
        | depth + 1 =>
          (readEach (readValue anchors depth) items budget).map fun (vs, b) => (.array vs, b)
    | .ok (.mapping label entries, budget) =>
      if isLocal label then refuse .unknownTag
      else
        match depth with
        | 0 => refuse .tooDeep
        | depth + 1 =>
          (readMembers anchors (readValue anchors depth) [] entries budget).map
            fun (ms, b) => (.object ms, b)
    | .ok (.repeated _, _) => refuse .undefinedAnchor

/-- The most levels of collections. -/
def maxDepth : Nat := 128

/-- The number of aliases that may be followed for every event of a document. -/
def aliasesPerEvent : Nat := 100

/-- Whether a node is a missing one: a plain scalar without text. -/
def isMissing : Node → Bool
  | .scalar _ isPlain text => isPlain && text.isEmpty
  | _ => false

end SubsetMatch.Yaml
