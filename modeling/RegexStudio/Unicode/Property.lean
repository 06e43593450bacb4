import RegexStudio.Unicode.CharSet
import RegexStudio.Unicode.Data.Binary
import RegexStudio.Unicode.Data.Category
import RegexStudio.Unicode.Data.Script
import RegexStudio.Unicode.Data.ScriptExtension
import RegexStudio.Unicode.Data.ScriptName
import RegexStudio.Text.Bytes

/-! Unicode properties by name. Names are compared loosely: case, blanks, underscores, hyphens
and a leading `is` do not count. -/

namespace RegexStudio.Unicode

inductive Query
  | oneLetter (c : Char)
  | named (name : List Char)
  | valued (property value : List Char)
deriving DecidableEq, Repr

inductive QueryError
  | propertyNotFound
  | valueNotFound
deriving DecidableEq, Repr

namespace Name

def significant (cs : List Char) : List Char :=
  (cs.filter fun c => c.toNat ≤ 0x7F && c != ' ' && c != '_' && c != '-').map Text.lowerAscii

def normalize (name : List Char) : String :=
  match name with
  | 'i' :: 's' :: rest | 'I' :: 'S' :: rest | 'i' :: 'S' :: rest | 'I' :: 's' :: rest =>
    let kept := significant rest
    String.ofList (if kept = ['c'] then ['i', 's', 'c'] else kept)
  | _ => String.ofList (significant name)

end Name

def findRow (rows : List (String × String)) (key : String) : Option (String × String) :=
  rows.find? fun row => Name.normalize row.1.toList == key

def categoryNames : List (List String × List String) := [
  (["L", "Letter"], ["Lu", "Ll", "Lt", "Lm", "Lo"]),
  (["LC", "Cased_Letter"], ["Lu", "Ll", "Lt"]),
  (["Lu", "Uppercase_Letter"], ["Lu"]),
  (["Ll", "Lowercase_Letter"], ["Ll"]),
  (["Lt", "Titlecase_Letter"], ["Lt"]),
  (["Lm", "Modifier_Letter"], ["Lm"]),
  (["Lo", "Other_Letter"], ["Lo"]),
  (["M", "Mark", "Combining_Mark"], ["Mn", "Mc", "Me"]),
  (["Mn", "Nonspacing_Mark"], ["Mn"]),
  (["Mc", "Spacing_Mark"], ["Mc"]),
  (["Me", "Enclosing_Mark"], ["Me"]),
  (["N", "Number"], ["Nd", "Nl", "No"]),
  (["Nd", "Decimal_Number", "digit"], ["Nd"]),
  (["Nl", "Letter_Number"], ["Nl"]),
  (["No", "Other_Number"], ["No"]),
  (["P", "Punctuation", "punct"], ["Pc", "Pd", "Ps", "Pe", "Pi", "Pf", "Po"]),
  (["Pc", "Connector_Punctuation"], ["Pc"]),
  (["Pd", "Dash_Punctuation"], ["Pd"]),
  (["Ps", "Open_Punctuation"], ["Ps"]),
  (["Pe", "Close_Punctuation"], ["Pe"]),
  (["Pi", "Initial_Punctuation"], ["Pi"]),
  (["Pf", "Final_Punctuation"], ["Pf"]),
  (["Po", "Other_Punctuation"], ["Po"]),
  (["S", "Symbol"], ["Sm", "Sc", "Sk", "So"]),
  (["Sm", "Math_Symbol"], ["Sm"]),
  (["Sc", "Currency_Symbol"], ["Sc"]),
  (["Sk", "Modifier_Symbol"], ["Sk"]),
  (["So", "Other_Symbol"], ["So"]),
  (["Z", "Separator"], ["Zs", "Zl", "Zp"]),
  (["Zs", "Space_Separator"], ["Zs"]),
  (["Zl", "Line_Separator"], ["Zl"]),
  (["Zp", "Paragraph_Separator"], ["Zp"]),
  (["C", "Other"], ["Cc", "Cf", "Co", "Cn"]),
  (["Cc", "Control", "cntrl"], ["Cc"]),
  (["Cf", "Format"], ["Cf"]),
  (["Co", "Private_Use"], ["Co"]),
  (["Cn", "Unassigned"], ["Cn"]),
  (["Cs", "Surrogate"], [])]

def surrogates : CharSet := ⟨#[(0xD800, 0xDFFF)]⟩

def assigned : CharSet :=
  CharSet.ofRanges (Data.categoryRows.flatMap fun row => (CharSet.ofRow row.2).ranges.toList)

def leafCategory (code : String) : CharSet :=
  if code == "Cn" then (assigned.union surrogates).complement
  else match Data.categoryRows.find? (·.1 == code) with
    | some row => CharSet.ofRow row.2
    | none => .empty

def categoryOf (leaves : List String) : CharSet :=
  CharSet.ofRanges (leaves.flatMap fun code => (leafCategory code).ranges.toList)

/-- A general category by loose name; `some` of an error when it has no code points. -/
def category? (key : String) : Option (Except QueryError CharSet) :=
  if key == "any" then some (.ok .all)
  else if key == "ascii" then some (.ok ⟨#[(0, 0x7F)]⟩)
  else if key == "assigned" then some (.ok assigned)
  else
    (categoryNames.find? fun entry => entry.1.any fun n => Name.normalize n.toList == key).map
      fun entry =>
        if entry.2.isEmpty then .error .valueNotFound else .ok (categoryOf entry.2)

def scriptName? (key : String) : Option String :=
  match findRow Data.scriptCodes key with
  | some row => some row.2
  | none => (Data.scriptCodes.find? fun row => Name.normalize row.2.toList == key).map (·.2)

def script (name : String) : Except QueryError CharSet :=
  match Data.scriptRows.find? (·.1 == name) with
  | some row => .ok (CharSet.ofRow row.2)
  | none => .error .valueNotFound

def scriptExtension (name : String) : Except QueryError CharSet :=
  match Data.scriptExtensionRows.find? (·.1 == name) with
  | some row => .ok (CharSet.ofRow row.2)
  | none => script name

def binaryCodes : List (String × String) := [
  ("AHex", "ASCII_Hex_Digit"), ("Alpha", "Alphabetic"), ("Bidi_C", "Bidi_Control"),
  ("Bidi_M", "Bidi_Mirrored"), ("CI", "Case_Ignorable"), ("CWCF", "Changes_When_Casefolded"),
  ("CWCM", "Changes_When_Casemapped"), ("CWL", "Changes_When_Lowercased"),
  ("CWT", "Changes_When_Titlecased"), ("CWU", "Changes_When_Uppercased"),
  ("CWKCF", "Changes_When_NFKC_Casefolded"), ("DI", "Default_Ignorable_Code_Point"),
  ("Dep", "Deprecated"), ("Dia", "Diacritic"), ("EComp", "Emoji_Component"),
  ("EMod", "Emoji_Modifier"), ("EBase", "Emoji_Modifier_Base"), ("EPres", "Emoji_Presentation"),
  ("ExtPict", "Extended_Pictographic"), ("Ext", "Extender"), ("Gr_Base", "Grapheme_Base"),
  ("Gr_Ext", "Grapheme_Extend"), ("Hex", "Hex_Digit"), ("IDSB", "IDS_Binary_Operator"),
  ("IDST", "IDS_Trinary_Operator"), ("IDC", "ID_Continue"), ("IDS", "ID_Start"),
  ("Ideo", "Ideographic"), ("Join_C", "Join_Control"), ("LOE", "Logical_Order_Exception"),
  ("Lower", "Lowercase"), ("NChar", "Noncharacter_Code_Point"), ("Pat_Syn", "Pattern_Syntax"),
  ("Pat_WS", "Pattern_White_Space"), ("QMark", "Quotation_Mark"), ("RI", "Regional_Indicator"),
  ("STerm", "Sentence_Terminal"), ("SD", "Soft_Dotted"), ("Term", "Terminal_Punctuation"),
  ("UIdeo", "Unified_Ideograph"), ("Upper", "Uppercase"), ("VS", "Variation_Selector"),
  ("WSpace", "White_Space"), ("space", "White_Space"), ("XIDC", "XID_Continue"),
  ("XIDS", "XID_Start")]

def binary? (key : String) : Option CharSet :=
  let row? : Option (String × String) := match findRow binaryCodes key with
    | some code => Data.binaryRows.find? (·.1 == code.2)
    | none => findRow Data.binaryRows key
  row?.map fun row => CharSet.ofRow row.2

def valuedProperties : List String :=
  ["age", "graphemeclusterbreak", "gcb", "sentencebreak", "sb", "wordbreak", "wb", "block", "blk",
    "bidiclass", "bc", "eastasianwidth", "ea", "linebreak", "lb", "numerictype", "nt",
    "canonicalcombiningclass", "ccc", "joininggroup", "jg", "joiningtype", "jt",
    "hangulsyllabletype", "hst", "decompositiontype", "dt", "indicpositionalcategory", "inpc",
    "indicsyllabiccategory", "insc", "verticalorientation", "vo", "numericvalue", "nv", "name",
    "na", "casefolding", "cf", "lowercasemapping", "lc", "uppercasemapping", "uc",
    "titlecasemapping", "tc"]

/-- A class by bare name: a binary property, else a general category, else a script. The short
names `cf`, `sc` and `lc` mean the categories. -/
def lookupName (name : List Char) : Except QueryError CharSet :=
  let key := Name.normalize name
  let asCategory : Except QueryError CharSet :=
    match category? key with
    | some set => set
    | none => match scriptName? key with
      | some long => script long
      | none => .error .propertyNotFound
  if key == "cf" || key == "sc" || key == "lc" then asCategory
  else match binary? key with
    | some set => .ok set
    | none => asCategory

def lookupValue (property value : List Char) : Except QueryError CharSet :=
  let property := Name.normalize property
  let value := Name.normalize value
  if property == "gc" || property == "generalcategory" then
    (category? value).getD (.error .valueNotFound)
  else if property == "sc" || property == "script" then
    match scriptName? value with
    | some long => script long
    | none => .error .valueNotFound
  else if property == "scx" || property == "scriptextensions" then
    match scriptName? value with
    | some long => scriptExtension long
    | none => .error .valueNotFound
  else if valuedProperties.contains property || (binary? property).isSome then
    .error .valueNotFound
  else .error .propertyNotFound

def lookup : Query → Except QueryError CharSet
  | .oneLetter c => lookupName [c]
  | .named name => lookupName name
  | .valued property value => lookupValue property value

def digits : CharSet := categoryOf ["Nd"]

def alphabetic : CharSet := (binary? "alphabetic").getD .empty

def whiteSpace : CharSet := (binary? "whitespace").getD .empty

def wordChars : CharSet :=
  CharSet.ofRanges ((alphabetic.union ((binary? "joincontrol").getD .empty)).ranges.toList ++
    (categoryOf ["Mn", "Mc", "Me", "Nd", "Pc"]).ranges.toList)

def alphanumeric : CharSet := alphabetic.union (categoryOf ["Nd", "Nl", "No"])

def isAlphabetic (c : Char) : Bool :=
  if c.toNat < 0x80 then c.isAlpha else alphabetic.contains c

def isAlphanumeric (c : Char) : Bool :=
  if c.toNat < 0x80 then c.isAlphanum else alphanumeric.contains c

def isWord (c : Char) : Bool := wordChars.contains c

def isAsciiWord (c : Char) : Bool :=
  ('a' ≤ c && c ≤ 'z') || ('A' ≤ c && c ≤ 'Z') || ('0' ≤ c && c ≤ '9') || c == '_'

end RegexStudio.Unicode
