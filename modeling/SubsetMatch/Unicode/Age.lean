import SubsetMatch.Unicode.AgeTable
import SubsetMatch.Unicode.Runs

/-!
# Ages

The age of a character is the version of the standard that assigned it.
-/

namespace SubsetMatch.Unicode

/-- The runs of one version. -/
def ageRuns : List Run :=
  runs ageLines

/-- The labels of the versions up to the first that passes a test; `none` if none does. -/
def agesUpTo (test : String → Bool) : List (String × String) → Option (List String)
  | [] => none
  | (label, version) :: rest =>
    if test version then some [label] else (agesUpTo test rest).map (label :: ·)

/-- The points assigned in a version or before it. -/
def age (test : String → Bool) : Option CharSet :=
  (agesUpTo test ageVersions).map fun labels => .ofRuns labels.contains ageRuns

/-- The names of a version: its number, and the number with a letter in front. -/
def versionNames (version : String) : List String :=
  [version, String.ofList ('V' :: version.toList.map fun c => if c == '.' then '_' else c)]

end SubsetMatch.Unicode
