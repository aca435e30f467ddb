import SubsetMatch.Hash.Hmac
import SubsetMatch.Text.Blank

/-!
# Signing algorithms (§10.7)

Tokens are signed with a keyed digest of the SHA-2 family. A token may name other algorithms; they
are known by name and never allowed.

Results:
* `mem_all`: the list of algorithms is complete.
* `ofName?_name`: an algorithm is read back from its own name.
-/

namespace SubsetMatch

/-- The algorithms a token may be registered with. -/
inductive Algorithm
  | hs256
  | hs384
  | hs512
deriving DecidableEq, Repr

namespace Algorithm

/-- All algorithms, in the order in which they are allowed by default (`HMAC_ALGORITHMS`). -/
def all : List Algorithm :=
  [hs256, hs384, hs512]

theorem mem_all (a : Algorithm) : a ∈ all := by
  cases a <;> decide

/-- The name of an algorithm. -/
def name : Algorithm → String
  | hs256 => "HS256"
  | hs384 => "HS384"
  | hs512 => "HS512"

/-- The digest behind an algorithm. -/
def variant : Algorithm → Hash.Variant
  | hs256 => Hash.sha256
  | hs384 => Hash.sha384
  | hs512 => Hash.sha512

/-- ASCII letters in upper case. -/
def upper (cs : List Char) : List Char :=
  cs.map Char.toUpper

/-- The algorithm of a name, blanks around it and the case of its letters aside
(`parse_algorithm`). -/
def ofName? (text : String) : Option Algorithm :=
  let wanted := upper (Text.trim text.toList)
  all.find? fun a => a.name.toList == wanted

theorem ofName?_name (a : Algorithm) : ofName? a.name = some a := by
  cases a <;> decide +kernel

end Algorithm

/-- The algorithm that a token's header names: one that may be allowed, or a known other one. -/
inductive HeaderAlgorithm
  | keyed (a : Algorithm)
  | other
deriving DecidableEq, Repr

namespace HeaderAlgorithm

/-- The names of the known other algorithms. -/
def otherNames : List String :=
  ["ES256", "ES384", "RS256", "RS384", "RS512", "PS256", "PS384", "PS512", "EdDSA"]

/-- The algorithm of an exact name. -/
def ofName? (text : String) : Option HeaderAlgorithm :=
  match Algorithm.all.find? fun a => a.name == text with
  | some a => some (.keyed a)
  | none => if otherNames.contains text then some .other else none

end HeaderAlgorithm

end SubsetMatch
