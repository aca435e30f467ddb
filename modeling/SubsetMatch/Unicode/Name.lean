import SubsetMatch.Unicode.Age
import SubsetMatch.Unicode.Property
import SubsetMatch.Unicode.Script

/-!
# Classes of characters by name

A class is named by a property, a general category or a script, or by a property and a value.
Names are compared without case, blanks, hyphens and underscores, and a leading `is` is ignored.
-/

namespace SubsetMatch.Unicode

/-- A character of a name in the form in which names are compared; `none` if it is ignored. -/
def looseChar? (c : Char) : Option Char :=
  if c == ' ' || c == '_' || c == '-' then none
  else if c.toNat < 128 then some c.toLower
  else none

/-- A name without its leading `is`, and whether there was one. -/
def splitIs : List Char → Bool × List Char
  | a :: b :: cs => if a.toLower == 'i' && b.toLower == 's' then (true, cs) else (false, a :: b :: cs)
  | cs => (false, cs)

/-- A name in the form in which names are compared. The name `isc` is no `c` with an ignored `is`.
-/
def looseName (cs : List Char) : List Char :=
  let (stripped, rest) := splitIs cs
  let name := rest.filterMap looseChar?
  if stripped && name == ['c'] then ['i', 's', 'c'] else name

/-- Whether a name, in that form, is one of some names. -/
def names (name : List Char) (candidates : List String) : Bool :=
  candidates.any fun c => looseName c.toList == name

/-- The first entry that bears a name. -/
def named? {α : Type} (name : List Char) (table : List (List String × α)) : Option α :=
  (table.find? fun e => names name e.1).map Prod.snd

/-- The class of a general category. -/
def categoryNamed? (name : List Char) : Option CharSet :=
  if name == "any".toList then some .all
  else if name == "assigned".toList then some (categories ["Cn"]).compl
  else if name == "ascii".toList then some (.range 0 127)
  else (named? name categoryNames).map categories

/-- The code of a script. -/
def scriptCode? (name : List Char) : Option String :=
  (scriptNames.find? fun e => names name e.2).map Prod.fst

/-- The class of a property. -/
def propertyNamed? (name : List Char) : Option CharSet :=
  match named? name derivedProperties with
  | some s => some s
  | none =>
    (listedProperties.find? fun e => names name (e.1 :: e.2)).map fun e => basic e.1

/-- The properties that take a value, by all their names. They are no classes by themselves. -/
def valuedProperties : List (List String) := [
  ["General_Category", "gc"], ["Script", "sc"], ["Script_Extensions", "scx"], ["Age"]]

/-- Names that mean a general category although a property bears them, too. -/
def isCategoryFirst (name : List Char) : Bool :=
  name == ['c', 'f'] || name == ['s', 'c'] || name == ['l', 'c']

/-- The class of a single name. -/
def classNamed? (text : List Char) : Option CharSet :=
  let name := looseName text
  let property := if isCategoryFirst name then none else propertyNamed? name
  match property with
  | some s => some s
  | none =>
    if !isCategoryFirst name && valuedProperties.any (names name) then none
    else
      match categoryNamed? name with
      | some s => some s
      | none => (scriptCode? name).map script

/-- The class of a property and a value. -/
def classValued? (property value : List Char) : Option CharSet :=
  let p := looseName property
  let v := looseName value
  if names p ["General_Category", "gc"] then categoryNamed? v
  else if names p ["Script", "sc"] then (scriptCode? v).map script
  else if names p ["Script_Extensions", "scx"] then (scriptCode? v).map scriptExtension
  else if names p ["Age"] then age fun version => names v (versionNames version)
  else none

end SubsetMatch.Unicode
