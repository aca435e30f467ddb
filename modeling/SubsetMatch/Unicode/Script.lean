import SubsetMatch.Unicode.Runs
import SubsetMatch.Unicode.ScriptTable

/-!
# Scripts

Every code point belongs to one script; its extension names all scripts it is used in. A script is
named by its four-letter code or its long name.
-/

namespace SubsetMatch.Unicode

/-- The scripts: the code and all names, the code included. -/
def scriptNames : List (String × List String) := [
  ("Adlm", ["Adlm", "Adlam"]),
  ("Aghb", ["Aghb", "Caucasian_Albanian"]),
  ("Ahom", ["Ahom"]),
  ("Arab", ["Arab", "Arabic"]),
  ("Armi", ["Armi", "Imperial_Aramaic"]),
  ("Armn", ["Armn", "Armenian"]),
  ("Avst", ["Avst", "Avestan"]),
  ("Bali", ["Bali", "Balinese"]),
  ("Bamu", ["Bamu", "Bamum"]),
  ("Bass", ["Bass", "Bassa_Vah"]),
  ("Batk", ["Batk", "Batak"]),
  ("Beng", ["Beng", "Bengali"]),
  ("Bhks", ["Bhks", "Bhaiksuki"]),
  ("Bopo", ["Bopo", "Bopomofo"]),
  ("Brah", ["Brah", "Brahmi"]),
  ("Brai", ["Brai", "Braille"]),
  ("Bugi", ["Bugi", "Buginese"]),
  ("Buhd", ["Buhd", "Buhid"]),
  ("Cakm", ["Cakm", "Chakma"]),
  ("Cans", ["Cans", "Canadian_Aboriginal"]),
  ("Cari", ["Cari", "Carian"]),
  ("Cham", ["Cham"]),
  ("Cher", ["Cher", "Cherokee"]),
  ("Chrs", ["Chrs", "Chorasmian"]),
  ("Copt", ["Copt", "Coptic", "Qaac"]),
  ("Cpmn", ["Cpmn", "Cypro_Minoan"]),
  ("Cprt", ["Cprt", "Cypriot"]),
  ("Cyrl", ["Cyrl", "Cyrillic"]),
  ("Deva", ["Deva", "Devanagari"]),
  ("Diak", ["Diak", "Dives_Akuru"]),
  ("Dogr", ["Dogr", "Dogra"]),
  ("Dsrt", ["Dsrt", "Deseret"]),
  ("Dupl", ["Dupl", "Duployan"]),
  ("Egyp", ["Egyp", "Egyptian_Hieroglyphs"]),
  ("Elba", ["Elba", "Elbasan"]),
  ("Elym", ["Elym", "Elymaic"]),
  ("Ethi", ["Ethi", "Ethiopic"]),
  ("Gara", ["Gara", "Garay"]),
  ("Geor", ["Geor", "Georgian"]),
  ("Glag", ["Glag", "Glagolitic"]),
  ("Gong", ["Gong", "Gunjala_Gondi"]),
  ("Gonm", ["Gonm", "Masaram_Gondi"]),
  ("Goth", ["Goth", "Gothic"]),
  ("Gran", ["Gran", "Grantha"]),
  ("Grek", ["Grek", "Greek"]),
  ("Gujr", ["Gujr", "Gujarati"]),
  ("Gukh", ["Gukh", "Gurung_Khema"]),
  ("Guru", ["Guru", "Gurmukhi"]),
  ("Hang", ["Hang", "Hangul"]),
  ("Hani", ["Hani", "Han"]),
  ("Hano", ["Hano", "Hanunoo"]),
  ("Hatr", ["Hatr", "Hatran"]),
  ("Hebr", ["Hebr", "Hebrew"]),
  ("Hira", ["Hira", "Hiragana"]),
  ("Hluw", ["Hluw", "Anatolian_Hieroglyphs"]),
  ("Hmng", ["Hmng", "Pahawh_Hmong"]),
  ("Hmnp", ["Hmnp", "Nyiakeng_Puachue_Hmong"]),
  ("Hung", ["Hung", "Old_Hungarian"]),
  ("Ital", ["Ital", "Old_Italic"]),
  ("Java", ["Java", "Javanese"]),
  ("Kali", ["Kali", "Kayah_Li"]),
  ("Kana", ["Kana", "Katakana"]),
  ("Kawi", ["Kawi"]),
  ("Khar", ["Khar", "Kharoshthi"]),
  ("Khmr", ["Khmr", "Khmer"]),
  ("Khoj", ["Khoj", "Khojki"]),
  ("Kits", ["Kits", "Khitan_Small_Script"]),
  ("Knda", ["Knda", "Kannada"]),
  ("Krai", ["Krai", "Kirat_Rai"]),
  ("Kthi", ["Kthi", "Kaithi"]),
  ("Lana", ["Lana", "Tai_Tham"]),
  ("Laoo", ["Laoo", "Lao"]),
  ("Latn", ["Latn", "Latin"]),
  ("Lepc", ["Lepc", "Lepcha"]),
  ("Limb", ["Limb", "Limbu"]),
  ("Lina", ["Lina", "Linear_A"]),
  ("Linb", ["Linb", "Linear_B"]),
  ("Lisu", ["Lisu"]),
  ("Lyci", ["Lyci", "Lycian"]),
  ("Lydi", ["Lydi", "Lydian"]),
  ("Mahj", ["Mahj", "Mahajani"]),
  ("Maka", ["Maka", "Makasar"]),
  ("Mand", ["Mand", "Mandaic"]),
  ("Mani", ["Mani", "Manichaean"]),
  ("Marc", ["Marc", "Marchen"]),
  ("Medf", ["Medf", "Medefaidrin"]),
  ("Mend", ["Mend", "Mende_Kikakui"]),
  ("Merc", ["Merc", "Meroitic_Cursive"]),
  ("Mero", ["Mero", "Meroitic_Hieroglyphs"]),
  ("Mlym", ["Mlym", "Malayalam"]),
  ("Modi", ["Modi"]),
  ("Mong", ["Mong", "Mongolian"]),
  ("Mroo", ["Mroo", "Mro"]),
  ("Mtei", ["Mtei", "Meetei_Mayek"]),
  ("Mult", ["Mult", "Multani"]),
  ("Mymr", ["Mymr", "Myanmar"]),
  ("Nagm", ["Nagm", "Nag_Mundari"]),
  ("Nand", ["Nand", "Nandinagari"]),
  ("Narb", ["Narb", "Old_North_Arabian"]),
  ("Nbat", ["Nbat", "Nabataean"]),
  ("Newa", ["Newa"]),
  ("Nkoo", ["Nkoo", "Nko"]),
  ("Nshu", ["Nshu", "Nushu"]),
  ("Ogam", ["Ogam", "Ogham"]),
  ("Olck", ["Olck", "Ol_Chiki"]),
  ("Onao", ["Onao", "Ol_Onal"]),
  ("Orkh", ["Orkh", "Old_Turkic"]),
  ("Orya", ["Orya", "Oriya"]),
  ("Osge", ["Osge", "Osage"]),
  ("Osma", ["Osma", "Osmanya"]),
  ("Ougr", ["Ougr", "Old_Uyghur"]),
  ("Palm", ["Palm", "Palmyrene"]),
  ("Pauc", ["Pauc", "Pau_Cin_Hau"]),
  ("Perm", ["Perm", "Old_Permic"]),
  ("Phag", ["Phag", "Phags_Pa"]),
  ("Phli", ["Phli", "Inscriptional_Pahlavi"]),
  ("Phlp", ["Phlp", "Psalter_Pahlavi"]),
  ("Phnx", ["Phnx", "Phoenician"]),
  ("Plrd", ["Plrd", "Miao"]),
  ("Prti", ["Prti", "Inscriptional_Parthian"]),
  ("Rjng", ["Rjng", "Rejang"]),
  ("Rohg", ["Rohg", "Hanifi_Rohingya"]),
  ("Runr", ["Runr", "Runic"]),
  ("Samr", ["Samr", "Samaritan"]),
  ("Sarb", ["Sarb", "Old_South_Arabian"]),
  ("Saur", ["Saur", "Saurashtra"]),
  ("Sgnw", ["Sgnw", "SignWriting"]),
  ("Shaw", ["Shaw", "Shavian"]),
  ("Shrd", ["Shrd", "Sharada"]),
  ("Sidd", ["Sidd", "Siddham"]),
  ("Sind", ["Sind", "Khudawadi"]),
  ("Sinh", ["Sinh", "Sinhala"]),
  ("Sogd", ["Sogd", "Sogdian"]),
  ("Sogo", ["Sogo", "Old_Sogdian"]),
  ("Sora", ["Sora", "Sora_Sompeng"]),
  ("Soyo", ["Soyo", "Soyombo"]),
  ("Sund", ["Sund", "Sundanese"]),
  ("Sunu", ["Sunu", "Sunuwar"]),
  ("Sylo", ["Sylo", "Syloti_Nagri"]),
  ("Syrc", ["Syrc", "Syriac"]),
  ("Tagb", ["Tagb", "Tagbanwa"]),
  ("Takr", ["Takr", "Takri"]),
  ("Tale", ["Tale", "Tai_Le"]),
  ("Talu", ["Talu", "New_Tai_Lue"]),
  ("Taml", ["Taml", "Tamil"]),
  ("Tang", ["Tang", "Tangut"]),
  ("Tavt", ["Tavt", "Tai_Viet"]),
  ("Telu", ["Telu", "Telugu"]),
  ("Tfng", ["Tfng", "Tifinagh"]),
  ("Tglg", ["Tglg", "Tagalog"]),
  ("Thaa", ["Thaa", "Thaana"]),
  ("Thai", ["Thai"]),
  ("Tibt", ["Tibt", "Tibetan"]),
  ("Tirh", ["Tirh", "Tirhuta"]),
  ("Tnsa", ["Tnsa", "Tangsa"]),
  ("Todr", ["Todr", "Todhri"]),
  ("Toto", ["Toto"]),
  ("Tutg", ["Tutg", "Tulu_Tigalari"]),
  ("Ugar", ["Ugar", "Ugaritic"]),
  ("Vaii", ["Vaii", "Vai"]),
  ("Vith", ["Vith", "Vithkuqi"]),
  ("Wara", ["Wara", "Warang_Citi"]),
  ("Wcho", ["Wcho", "Wancho"]),
  ("Xpeo", ["Xpeo", "Old_Persian"]),
  ("Xsux", ["Xsux", "Cuneiform"]),
  ("Yezi", ["Yezi", "Yezidi"]),
  ("Yiii", ["Yiii", "Yi"]),
  ("Zanb", ["Zanb", "Zanabazar_Square"]),
  ("Zinh", ["Zinh", "Inherited", "Qaai"]),
  ("Zyyy", ["Zyyy", "Common"])]

/-- The runs of one script. -/
def scriptRuns : List Run :=
  runs scriptLines

/-- The runs of points used in the same scripts, where these differ from the script. -/
def scriptExtensionRuns : List Run :=
  runs scriptExtensionLines

/-- The points of a script, by its code. -/
def script (code : String) : CharSet :=
  .ofRuns (· == code) scriptRuns

/-- The codes that a label joins by dots. -/
def codesOf (label : String) : List String :=
  (words (label.toList.map fun c => if c == '.' then ' ' else c)).map String.ofList

/-- The points that are used in a script, by its code. -/
def scriptExtension (code : String) : CharSet :=
  let listed := CharSet.ofRuns (fun label => (codesOf label).contains code) scriptExtensionRuns
  let others := CharSet.ofRuns (·.isEmpty) scriptExtensionRuns
  listed.union ((script code).inter others)

end SubsetMatch.Unicode
