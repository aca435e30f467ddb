import SubsetMatch.Unicode.CaseFold
import SubsetMatch.Unicode.Category
import SubsetMatch.Unicode.PropertyTable

/-!
# Properties of characters

Most properties are derived from general categories and a short list of other characters.
-/

namespace SubsetMatch.Unicode

/-- A set that is listed by its own runs; empty if there is none of that name. -/
def basicIn (table : List (String × List String)) (name : String) : CharSet :=
  ((table.find? fun e => e.1 == name).map fun e => .ofLengths (lengths e.2)).getD .empty

/-- A listed set. -/
def basic (name : String) : CharSet :=
  basicIn propertyLines name

/-- Letters, letter-like numbers and what else words are spelled with. -/
def alphabetic : CharSet :=
  letters.union ((categories ["Nl"]).union (basic "Other_Alphabetic"))

/-- Lowercase letters and what else is lowercase. -/
def lowercase : CharSet :=
  (categories ["Ll"]).union (basic "Other_Lowercase")

/-- Uppercase letters and what else is uppercase. -/
def uppercase : CharSet :=
  (categories ["Lu"]).union (basic "Other_Uppercase")

/-- What has a case. -/
def cased : CharSet :=
  lowercase.union (uppercase.union (categories ["Lt"]))

/-- What is skipped when the case of its neighbours is looked at. -/
def caseIgnorable : CharSet :=
  (categories ["Mn", "Me", "Cf", "Lm", "Sk"]).union (basic "Other_Case_Ignorable")

/-- Mathematical signs. -/
def mathematical : CharSet :=
  (categories ["Sm"]).union (basic "Other_Math")

/-- Marks that extend the character before them. -/
def graphemeExtend : CharSet :=
  (categories ["Me", "Mn"]).union (basic "Other_Grapheme_Extend")

/-- Characters that take a place of their own. -/
def graphemeBase : CharSet :=
  ((categories ["Cc", "Cf", "Cs", "Co", "Cn", "Zl", "Zp"]).union graphemeExtend).compl

/-- What patterns reserve. -/
def patternReserved : CharSet :=
  (basic "Pattern_Syntax").union (basic "Pattern_White_Space")

/-- What identifiers start with. -/
def idStart : CharSet :=
  (letters.union ((categories ["Nl"]).union (basic "Other_ID_Start"))).diff patternReserved

/-- What identifiers continue with. -/
def idContinue : CharSet :=
  (idStart.union ((categories ["Mn", "Mc", "Nd", "Pc"]).union (basic "Other_ID_Continue"))).diff
    patternReserved

/-- What changes when its case is folded. -/
def changesWhenCasefolded : CharSet :=
  (CharSet.ofPoints (folds.map Prod.fst)).symmDiff (basic "Changes_When_Casefolded_Exceptions")

/-- What changes in lower case. -/
def changesWhenLowercased : CharSet :=
  (CharSet.ofPoints (folds.map Prod.fst)).symmDiff (basic "Changes_When_Lowercased_Exceptions")

/-- What changes in upper case. -/
def changesWhenUppercased : CharSet :=
  (CharSet.ofPoints (folds.map Prod.snd)).symmDiff (basic "Changes_When_Uppercased_Exceptions")

/-- What changes in title case. -/
def changesWhenTitlecased : CharSet :=
  changesWhenUppercased.symmDiff (basic "Changes_When_Titlecased_Exceptions")

/-- What changes in any case. -/
def changesWhenCasemapped : CharSet :=
  changesWhenLowercased.union (changesWhenUppercased.union changesWhenTitlecased)

/-- Numbers of any category. -/
def numeric : CharSet :=
  categories ["Nd", "Nl", "No"]

/-- What words consist of: alphabetic characters, marks, decimal digits, connectors and joiners. -/
def wordChars : CharSet :=
  alphabetic.union ((categories ["Mn", "Mc", "Me", "Nd", "Pc"]).union (basic "Join_Control"))

/-- White space. -/
def whiteSpace : CharSet :=
  basic "White_Space"

/-- The properties that are derived: their names and sets. -/
def derivedProperties : List (List String × CharSet) := [
  (["Alphabetic", "Alpha"], alphabetic),
  (["Lowercase", "Lower"], lowercase),
  (["Uppercase", "Upper"], uppercase),
  (["Cased"], cased),
  (["Case_Ignorable", "CI"], caseIgnorable),
  (["Math"], mathematical),
  (["Grapheme_Extend", "Gr_Ext"], graphemeExtend),
  (["Grapheme_Base", "Gr_Base"], graphemeBase),
  (["ID_Start", "IDS"], idStart),
  (["ID_Continue", "IDC"], idContinue),
  (["XID_Start", "XIDS"], idStart.diff (basic "Start_Only_Unnormalized")),
  (["XID_Continue", "XIDC"], idContinue.diff (basic "Continue_Only_Unnormalized")),
  (["Changes_When_Casefolded", "CWCF"], changesWhenCasefolded),
  (["Changes_When_Casemapped", "CWCM"], changesWhenCasemapped),
  (["Changes_When_Lowercased", "CWL"], changesWhenLowercased),
  (["Changes_When_Titlecased", "CWT"], changesWhenTitlecased),
  (["Changes_When_Uppercased", "CWU"], changesWhenUppercased)]

/-- The properties that are listed: the name of the list and the other names. -/
def listedProperties : List (String × List String) := [
  ("ASCII_Hex_Digit", ["AHex"]), ("Bidi_Control", ["Bidi_C"]), ("Bidi_Mirrored", ["Bidi_M"]),
  ("Dash", []), ("Default_Ignorable_Code_Point", ["DI"]), ("Deprecated", ["Dep"]),
  ("Diacritic", ["Dia"]), ("Emoji", []), ("Emoji_Component", ["EComp"]),
  ("Emoji_Modifier", ["EMod"]), ("Emoji_Modifier_Base", ["EBase"]),
  ("Emoji_Presentation", ["EPres"]), ("Extended_Pictographic", ["ExtPict"]),
  ("Extender", ["Ext"]), ("Hex_Digit", ["Hex"]), ("Hyphen", []),
  ("IDS_Binary_Operator", ["IDSB"]), ("IDS_Trinary_Operator", ["IDST"]),
  ("IDS_Unary_Operator", ["IDSU"]), ("Ideographic", ["Ideo"]), ("Join_Control", ["Join_C"]),
  ("Logical_Order_Exception", ["LOE"]), ("Noncharacter_Code_Point", ["NChar"]),
  ("Other_Alphabetic", ["OAlpha"]), ("Other_Default_Ignorable_Code_Point", ["ODI"]),
  ("Other_Grapheme_Extend", ["OGr_Ext"]), ("Other_ID_Continue", ["OIDC"]),
  ("Other_ID_Start", ["OIDS"]), ("Other_Lowercase", ["OLower"]), ("Other_Math", ["OMath"]),
  ("Other_Uppercase", ["OUpper"]), ("Pattern_Syntax", ["Pat_Syn"]),
  ("Pattern_White_Space", ["Pat_WS"]), ("Prepended_Concatenation_Mark", ["PCM"]),
  ("Quotation_Mark", ["QMark"]), ("Radical", []), ("Regional_Indicator", ["RI"]),
  ("Sentence_Terminal", ["STerm"]), ("Soft_Dotted", ["SD"]), ("Terminal_Punctuation", ["Term"]),
  ("Unified_Ideograph", ["UIdeo"]), ("Variation_Selector", ["VS"]),
  ("White_Space", ["WSpace", "space"])]

end SubsetMatch.Unicode
