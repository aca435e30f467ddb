import SubsetMatch.Unicode.CategoryTable
import SubsetMatch.Unicode.Runs

/-!
# General categories

Every code point has one of thirty general categories, written with two letters. A group of
categories goes by their common first letter.
-/

namespace SubsetMatch.Unicode

/-- The runs of one general category. -/
def categoryRuns : List Run :=
  runs categoryLines

/-- The points of some categories. -/
def categories (codes : List String) : CharSet :=
  .ofRuns codes.contains categoryRuns

/-- The categories and their groups: the names and the codes of the members. -/
def categoryNames : List (List String × List String) := [
  (["L", "Letter"], ["Lu", "Ll", "Lt", "Lm", "Lo"]),
  (["LC", "Cased_Letter"], ["Lu", "Ll", "Lt"]),
  (["Lu", "Uppercase_Letter"], ["Lu"]),
  (["Ll", "Lowercase_Letter"], ["Ll"]),
  (["Lt", "Titlecase_Letter"], ["Lt"]),
  (["Lm", "Modifier_Letter"], ["Lm"]),
  (["Lo", "Other_Letter"], ["Lo"]),
  (["M", "Mark", "Combining_Mark"], ["Mn", "Mc", "Me"]),
  (["Mn", "Nonspacing_Mark"], ["Mn"]),
  (["Mc", "Spacing_Mark"], ["Mc"]),
  (["Me", "Enclosing_Mark"], ["Me"]),
  (["N", "Number"], ["Nd", "Nl", "No"]),
  (["Nd", "Decimal_Number", "digit"], ["Nd"]),
  (["Nl", "Letter_Number"], ["Nl"]),
  (["No", "Other_Number"], ["No"]),
  (["P", "Punctuation", "punct"], ["Pc", "Pd", "Ps", "Pe", "Pi", "Pf", "Po"]),
  (["Pc", "Connector_Punctuation"], ["Pc"]),
  (["Pd", "Dash_Punctuation"], ["Pd"]),
  (["Ps", "Open_Punctuation"], ["Ps"]),
  (["Pe", "Close_Punctuation"], ["Pe"]),
  (["Pi", "Initial_Punctuation"], ["Pi"]),
  (["Pf", "Final_Punctuation"], ["Pf"]),
  (["Po", "Other_Punctuation"], ["Po"]),
  (["S", "Symbol"], ["Sm", "Sc", "Sk", "So"]),
  (["Sm", "Math_Symbol"], ["Sm"]),
  (["Sc", "Currency_Symbol"], ["Sc"]),
  (["Sk", "Modifier_Symbol"], ["Sk"]),
  (["So", "Other_Symbol"], ["So"]),
  (["Z", "Separator"], ["Zs", "Zl", "Zp"]),
  (["Zs", "Space_Separator"], ["Zs"]),
  (["Zl", "Line_Separator"], ["Zl"]),
  (["Zp", "Paragraph_Separator"], ["Zp"]),
  (["C", "Other"], ["Cc", "Cf", "Cs", "Co", "Cn"]),
  (["Cc", "Control", "cntrl"], ["Cc"]),
  (["Cf", "Format"], ["Cf"]),
  (["Cs", "Surrogate"], ["Cs"]),
  (["Co", "Private_Use"], ["Co"]),
  (["Cn", "Unassigned"], ["Cn"])]

/-- All letters. -/
def letters : CharSet :=
  categories ["Lu", "Ll", "Lt", "Lm", "Lo"]

/-- All decimal digits. -/
def digits : CharSet :=
  categories ["Nd"]

end SubsetMatch.Unicode
