import RichText.Unicode.Property
import RichText.Unicode.Script

namespace RichText.Unicode

def categoryNames : List (List String × List String) :=
  ["C Other/Cc Cf Cn Co", "Cc Control Cntrl/Cc", "Cf Format/Cf", "Cn Unassigned/Cn",
   "Co Private_Use/Co", "L Letter/Lu Ll Lt Lm Lo", "LC Cased_Letter/Lu Ll Lt",
   "Ll Lowercase_Letter/Ll", "Lm Modifier_Letter/Lm", "Lo Other_Letter/Lo",
   "Lt Titlecase_Letter/Lt", "Lu Uppercase_Letter/Lu", "M Mark Combining_Mark/Mn Mc Me",
   "Mc Spacing_Mark/Mc", "Me Enclosing_Mark/Me", "Mn Nonspacing_Mark/Mn", "N Number/Nd Nl No",
   "Nd Decimal_Number Digit/Nd", "Nl Letter_Number/Nl", "No Other_Number/No",
   "P Punctuation Punct/Pc Pd Ps Pe Pi Pf Po", "Pc Connector_Punctuation/Pc",
   "Pd Dash_Punctuation/Pd", "Pe Close_Punctuation/Pe", "Pf Final_Punctuation/Pf",
   "Pi Initial_Punctuation/Pi", "Po Other_Punctuation/Po", "Ps Open_Punctuation/Ps",
   "S Symbol/Sm Sc Sk So", "Sc Currency_Symbol/Sc", "Sk Modifier_Symbol/Sk",
   "Sm Math_Symbol/Sm", "So Other_Symbol/So", "Z Separator/Zs Zl Zp", "Zl Line_Separator/Zl",
   "Zp Paragraph_Separator/Zp", "Zs Space_Separator/Zs"].map fun entry =>
    match entry.splitOn "/" with
    | [names, categories] => (words categories, words names)
    | _ => ([], [])

def dropIs : List Char → List Char
  | 'i' :: 's' :: cs => cs
  | cs => cs

/-- A name as names are compared: without blanks, hyphens and low lines, without an `is` in front,
in lower case. -/
def looseName (name : String) : String :=
  let cs := name.toList.map Char.toLower
  let rest := (dropIs cs).filter fun c => c.toNat < 128 && !([' ', '_', '-'].contains c)
  if cs.take 2 = ['i', 's'] ∧ rest = ['c'] then "isc" else String.ofList rest

def hasName (names : List String) (loose : String) : Bool := names.any (looseName · = loose)

abbrev Predicate := Char → Bool

def categoryNamed? (loose : String) : Option Predicate :=
  if loose = "any" then some fun _ => true
  else if loose = "assigned" then some fun c => category c ≠ "Cn"
  else if loose = "ascii" then some fun c => c.toNat < 128
  else (categoryNames.find? fun e => hasName e.2 loose).map fun e c => e.1.contains (category c)

def scriptCode? (loose : String) : Option String :=
  (scriptNames.find? (hasName · loose)).bind fun names =>
    names.head?.bind fun code => if code = "Zzzz" then none else some code

def scriptNamed? (loose : String) : Option Predicate :=
  (scriptCode? loose).map fun code c => script c = code

def sharedScriptNamed? (loose : String) : Option Predicate :=
  (scriptCode? loose).map fun code c => (scripts c).contains code

def propertyNamed? (loose : String) : Option Predicate :=
  (properties.find? (hasName ·.names loose)).map Property.contains

/-- The set of a lone name: a binary property, a general category or a script. Three names of
categories are also short names of properties and stand for the category. -/
def setNamed? (name : String) : Option Predicate :=
  let loose := looseName name
  let binary := if ["cf", "sc", "lc"].contains loose then none else propertyNamed? loose
  (binary.or (categoryNamed? loose)).or (scriptNamed? loose)

def setOfValue? (property value : String) : Option Predicate :=
  let value := looseName value
  match looseName property with
  | "gc" | "generalcategory" => categoryNamed? value
  | "sc" | "script" => scriptNamed? value
  | "scx" | "scriptextensions" => sharedScriptNamed? value
  | _ => none

def isDigit (c : Char) : Bool := category c = "Nd"

/-- What words are made of: letters, marks, decimal digits, connectors and joiners. -/
def isWord (c : Char) : Bool :=
  c.isAlphanum || c = '_' ||
    (c.toNat ≥ 128 && (["Mn", "Mc", "Me", "Nd", "Pc"].contains (category c) ||
      (property "Alphabetic").contains c || (property "Join_Control").contains c))

def isAlphabetic (c : Char) : Bool := (property "Alphabetic").contains c

def isNumeric (c : Char) : Bool := ["Nd", "Nl", "No"].contains (category c)

end RichText.Unicode
